import PageScript.Proofs.Run.Order

/-! The wait of a paused run. Events of the surface are drained, time passes and the flags are
looked at; nothing else changes (`Idles`), and nothing ends the wait but a resume or a stop. A
context is undisturbed if neither comes at any of the moments that a waiting run has still to come
to; `Held` then tells where a run is, so many steps after it came paused to a checkpoint. -/
namespace PageScript

inductive Drained : Option Surface → Option Surface → Prop
  | refl (surface : Option Surface) : Drained surface surface
  | poll (before : Surface) (after : Option Surface)
      (further : Drained (some before.poll.1) after) : Drained (some before) after

theorem Drained.trans {a b c : Option Surface} (left : Drained a b) (right : Drained b c) :
    Drained a c := by
  induction left with
  | refl => exact right
  | poll before _ _ ih => exact .poll before c (ih right)

theorem Surface.pollCounts (surface : Surface) :
    surface.poll.1.stage.polls = surface.stage.polls + 1 := by
  simp only [Surface.poll, Stage.poll]
  split
  · rfl
  · split <;> rfl

theorem Drained.counts {before after : Option Surface} (drained : Drained before after)
    {last : Surface} (isLast : after = some last) :
    ∃ first, before = some first ∧ first.stage.polls ≤ last.stage.polls := by
  induction drained with
  | refl => exact ⟨last, isLast, Nat.le_refl _⟩
  | poll before _ _ ih =>
    obtain ⟨second, polled, later⟩ := ih isLast
    cases polled
    rw [before.pollCounts] at later
    exact ⟨before, rfl, Nat.le_of_succ_le later⟩

theorem Control.applyPauses {control : Control} (paused : control.paused = true)
    {actions : List ControlAction} (only : ∀ action ∈ actions, action = .pause) :
    control.applyAll actions = control := by
  induction actions with
  | nil => rfl
  | cons action actions ih =>
    have first := only action List.mem_cons_self
    have same : control.apply action = control := by
      rw [first, Control.apply, ← paused]
    rw [Control.applyAll, List.foldl_cons, same]
    exact ih fun other member => only other (List.mem_cons_of_mem _ member)

namespace Context

inductive Idles (before : Context) : Context → Prop
  | only (surface : Option Surface) (clock : Clock) (control : Control) (accesses : Nat)
      (drained : Drained before.surface surface) (later : before.accesses ≤ accesses) :
      Idles before { before with surface, clock, control, accesses }

theorem Idles.refl (ctx : Context) : ctx.Idles ctx :=
  .only ctx.surface ctx.clock ctx.control ctx.accesses (.refl _) (Nat.le_refl _)

theorem Idles.trans {a b c : Context} (left : a.Idles b) (right : b.Idles c) : a.Idles c := by
  cases left with
  | only _ _ _ _ first early =>
    cases right with
    | only _ _ _ _ second late =>
      exact .only _ _ _ _ (first.trans second) (Nat.le_trans early late)

theorem idlesSteer (ctx : Context) (control : Control) : ctx.Idles { ctx with control } :=
  .only ctx.surface ctx.clock control ctx.accesses (.refl _) (Nat.le_refl _)

theorem idlesReach (ctx : Context) : ctx.Idles ctx.reach :=
  .only ctx.surface ctx.clock _ (ctx.accesses + 1) (.refl _) (Nat.le_succ _)

theorem idlesDrain (ctx : Context) : ctx.Idles ctx.drain.1 := by
  unfold drain
  split
  · exact .refl ctx
  · split
    · exact .refl ctx
    · rename_i surface shown
      refine .only _ ctx.clock _ ctx.accesses ?_ (Nat.le_refl _)
      rw [shown]
      exact .poll surface _ (.refl _)

theorem idlesSleep (ctx : Context) (nap : Nanoseconds) : ctx.Idles (ctx.sleep nap) :=
  .only ctx.surface _ ctx.control ctx.accesses (.refl _) (Nat.le_refl _)

def Awaits (ctx : Context) : Moment → Prop
  | .access number => ctx.accesses ≤ number
  | .poll number => ∃ surface, ctx.surface = some surface ∧ surface.stage.polls < number
  | .announced _ => False

def Undisturbed (ctx : Context) : Prop :=
  ∀ moment, ctx.Awaits moment → ∀ action ∈ ctx.outside moment, action = .pause

theorem Idles.awaits {before after : Context} (idles : before.Idles after) {moment : Moment}
    (awaits : after.Awaits moment) : before.Awaits moment := by
  cases idles with
  | only surface _ _ _ drained later =>
    cases moment with
    | access number => exact Nat.le_trans later awaits
    | poll number =>
      obtain ⟨last, isLast, behind⟩ := awaits
      obtain ⟨first, isFirst, counted⟩ := drained.counts isLast
      exact ⟨first, isFirst, Nat.lt_of_le_of_lt counted behind⟩
    | announced => exact awaits

theorem Idles.undisturbed {before after : Context} (idles : before.Idles after)
    (undisturbed : before.Undisturbed) : after.Undisturbed := by
  intro moment awaits
  have earlier := undisturbed moment (idles.awaits awaits)
  cases idles
  exact earlier

theorem reachHeld {ctx : Context} (paused : ctx.control.paused = true)
    (undisturbed : ctx.Undisturbed) : ctx.reach.control = ctx.control :=
  Control.applyPauses paused (undisturbed (.access ctx.accesses) (Nat.le_refl _))

theorem drainHeld {ctx : Context} (paused : ctx.control.paused = true)
    (undisturbed : ctx.Undisturbed) : ctx.drain.1.control = ctx.control := by
  unfold drain
  split
  · rfl
  · split
    · rfl
    · rename_i surface shown
      refine Control.applyPauses paused (undisturbed (.poll surface.poll.1.stage.polls) ?_)
      exact ⟨surface, shown, by rw [surface.pollCounts]; exact Nat.lt_succ_self _⟩

end Context

namespace Run

variable {κ : Type} {run last : Run κ} {steps : Nat}

inductive Place (run : Run κ) (steps : Nat) (last : Run κ) : Prop
  | checking (phase : last.phase = .pauseCheck ∧ steps = 0 ∨ last.phase = .pauseConfirm ∧ steps = 1)
      (idles : run.context.Idles last.context)
  | waiting (phase : last.phase.waiting = true) (running : run.control.running = true)
      (told : Context) (before : run.context.Idles told)
      (idles : (told.info "Script paused").Idles last.context)
  | refused (phase : last.phase = .stopCheck ∨ last.phase = .ended)
      (stopped : run.control.running = false)

structure Held (run : Run κ) (steps : Nat) (last : Run κ) : Prop where
  executed : last.executed = run.executed
  rest : last.rest = run.rest
  control : last.control = run.control
  undisturbed : last.context.Undisturbed
  place : Place run steps last

theorem Held.start (atCheckpoint : run.phase = .pauseCheck)
    (undisturbed : run.context.Undisturbed) : Held run 0 run :=
  ⟨rfl, rfl, rfl, undisturbed, .checking (.inl ⟨atCheckpoint, rfl⟩) (.refl _)⟩

theorem Held.goTo (held : Held run steps last) {ctx : Context} {phase : Phase}
    (control : ctx.control = run.control) (undisturbed : ctx.Undisturbed)
    (place : Place run (steps + 1) (last.goTo phase ctx)) :
    Held run (steps + 1) (last.goTo phase ctx) :=
  ⟨held.executed, held.rest, control, undisturbed, place⟩

theorem steerPaused (paused : run.control.paused = true) : run.steer .pause = run := by
  have same : run.control.apply .pause = run.control := by rw [Control.apply, ← paused]
  rw [steer, same]
  rfl

variable [Command κ]

theorem Held.step (held : Held run steps last) (paused : run.control.paused = true)
    (busy : run.rest ≠ []) : Held run (steps + 1) last.step := by
  obtain ⟨command, rest, queue⟩ := List.exists_cons_of_ne_nil (held.rest ▸ busy)
  have lastPaused : last.context.control.paused = true := by
    rw [← paused, ← held.control]
    rfl
  have control : last.context.reach.control = run.control :=
    (Context.reachHeld lastPaused held.undisturbed).trans held.control
  have reaches := last.context.idlesReach
  have undisturbed := reaches.undisturbed held.undisturbed
  simp only [Run.step, queue]
  cases held.place with
  | checking phase idles =>
    rcases phase with ⟨phase, rfl⟩ | ⟨phase, rfl⟩
    · simp only [advance, phase, Context.readPaused, control, paused, if_true]
      exact held.goTo control undisturbed (.checking (.inr ⟨rfl, rfl⟩) (idles.trans reaches))
    · simp only [advance, phase, Context.readRunning, control]
      cases running : run.control.running with
      | true =>
        rw [if_pos rfl]
        exact held.goTo control undisturbed
          (.waiting rfl running last.context.reach (idles.trans reaches) (.refl _))
      | false =>
        rw [if_neg Bool.false_ne_true]
        exact held.goTo control undisturbed (.refused (.inl rfl) running)
  | waiting phase running told before idles =>
    cases now : last.phase with
    | waitCheck =>
      simp only [advance, now, Context.readPaused, control, paused, if_true]
      exact held.goTo control undisturbed (.waiting rfl running told before (idles.trans reaches))
    | waitConfirm =>
      simp only [advance, now, Context.readRunning, control, running, if_true]
      have drains := last.context.reach.idlesDrain
      have sleeps := last.context.reach.drain.1.idlesSleep
        last.context.reach.drain.1.wait.pausePoll
      have passes := (reaches.trans drains).trans sleeps
      refine held.goTo ?_ (passes.undisturbed held.undisturbed)
        (.waiting rfl running told before (idles.trans passes))
      exact (Context.drainHeld (by rw [control, paused]) undisturbed).trans control
    | _ => simp [Phase.waiting, now] at phase
  | refused phase stopped =>
    rcases phase with phase | phase
    · simp only [advance, phase, Context.readRunning, control, stopped]
      rw [if_neg Bool.false_ne_true]
      exact held.goTo control undisturbed (.refused (.inr rfl) stopped)
    · simp only [advance, phase]
      exact { held with place := .refused (.inr phase) stopped }

theorem followHeld {moves : List Move} (held : Held run steps last)
    (paused : run.control.paused = true) (busy : run.rest ≠ [])
    (only : ∀ action, .act action ∈ moves → action = .pause) :
    Held run (steps + moves.count .step) (last.follow moves) := by
  induction moves generalizing steps last with
  | nil => exact held
  | cons move moves ih =>
    have onlyLater := fun action member => only action (List.mem_cons_of_mem _ member)
    cases move with
    | step =>
      rw [List.count_cons_self, Nat.add_comm _ 1, ← Nat.add_assoc]
      exact ih (held.step paused busy) onlyLater
    | act action =>
      have same : last.steer action = last := by
        rw [only action List.mem_cons_self]
        exact steerPaused (by rw [held.control, paused])
      rw [List.count_cons_of_ne (by simp)]
      change Held run _ ((last.steer action).follow moves)
      rw [same]
      exact ih held onlyLater

end Run

end PageScript
