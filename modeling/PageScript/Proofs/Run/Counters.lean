import PageScript.Proofs.Run.Gate

/-! The index and the total that a run shows. Only the arrival at a command sets the index, to the
place of the command; so it goes up from command to command, and names the command that executes. -/
namespace PageScript

namespace Control

def Bounded (control : Control) : Prop := control.current < control.total ∨ control.current = 0

structure SameCounters (before after : Control) : Prop where
  current : after.current = before.current
  total : after.total = before.total

theorem SameCounters.refl (control : Control) : SameCounters control control := ⟨rfl, rfl⟩

theorem SameCounters.bounded {before after : Control} (same : SameCounters before after)
    (bounded : before.Bounded) : after.Bounded := by
  unfold Bounded
  rwa [same.current, same.total]

theorem sameAfter (control : Control) (actions : List ControlAction) :
    SameCounters control (control.applyAll actions) :=
  ⟨(control.countersAfter actions).1, (control.countersAfter actions).2⟩

end Control

open Control (SameCounters)

theorem Context.Extends.counters {before after : Context} (extends_ : before.Extends after) :
    SameCounters before.control after.control := by
  obtain ⟨moments, acted⟩ := extends_.control
  rw [acted]
  exact before.control.sameAfter _

namespace Run

variable {κ : Type} {exec : Executor κ} {run : Run κ} {command : κ} {rest : List κ}

section
variable [Command κ]

theorem stepArrives (queue : run.rest = command :: rest) (now : run.phase = .arrival) :
    run.step = run.goTo .pauseCheck (run.context.setCurrent run.index) := by
  simp only [step, queue, advance, now]

/-- No step but the one at an arrival changes a counter. -/
theorem stepSame (steers : ∀ command ∈ exec.commands, Command.Steers command)
    (ordered : Ordered exec run) (away : run.phase = .arrival → run.rest = []) :
    SameCounters run.control run.step.control := by
  cases queue : run.rest with
  | nil =>
    rw [stepNil queue]
    exact .refl _
  | cons command rest =>
    have reach : SameCounters run.control run.context.reach.control :=
      run.context.extendsReach.counters
    cases phase : run.phase with
    | arrival => simp [away phase] at queue
    | ended =>
      rw [stepEnded phase]
      exact .refl _
    | execution =>
      obtain ⟨goesOn, tally, stepped, settled⟩ := stepCompletes queue phase
      obtain ⟨actions, acted⟩ := steers command (ordered.loaded queue) run.context
      have settles := settleKeeps run.index (Command.describe command) run.tally
        (Command.execute command run.context)
      rw [← settled] at settles
      rw [stepped]
      change SameCounters run.control tally.context.control
      rw [settles.2, acted]
      exact run.control.sameAfter actions
    | announcement =>
      simp only [step, queue, advance, phase]
      exact run.control.sameAfter _
    | waitConfirm =>
      simp only [step, queue, advance, phase]
      split
      · exact (run.context.extendsReach.trans run.context.reach.extendsDrain).counters
      · exact reach
    | _ =>
      simp only [step, queue, advance, phase]
      try split
      all_goals exact reach

theorem stepAway (notNow : run.phase ≠ .execution) : run.step.phase ≠ .arrival := by
  cases queue : run.rest with
  | nil => simp [stepNil queue]
  | cons command rest =>
    cases phase : run.phase with
    | execution => exact absurd phase notNow
    | ended => simp [stepEnded phase, phase]
    | _ =>
      simp only [step, queue, advance, phase]
      try split
      all_goals simp

end

/-- The counters of a run, and that a command was given flags that name its place. -/
structure Tracked (exec : Executor κ) (run : Run κ) : Prop where
  ordered : Ordered exec run
  total : run.control.total = exec.commands.length
  bounded : run.control.Bounded
  behind : run.phase = .arrival → run.index ≠ 0 → run.control.current + 1 = run.index
  here : run.phase ≠ .arrival → run.phase ≠ .ended → run.control.current = run.index
  given : ∀ execution ∈ run.executed, execution.context.control.current = execution.index

theorem Tracked.stay (tracked : Tracked exec run) {phase : Phase} {ctx : Context}
    (same : SameCounters run.control ctx.control)
    (busy : phase ≠ .arrival → phase ≠ .ended → run.rest ≠ [])
    (behind : phase = .arrival → run.phase = .arrival)
    (here : phase ≠ .arrival → phase ≠ .ended → run.phase ≠ .arrival ∧ run.phase ≠ .ended) :
    Tracked exec (run.goTo phase ctx) where
  ordered := tracked.ordered.stay phase ctx busy
  total := same.total.trans tracked.total
  bounded := same.bounded tracked.bounded
  behind now more := by
    rw [goToIndex, ← tracked.behind (behind now) more]
    exact congrArg (· + 1) same.current
  here away going := same.current.trans (tracked.here (here away going).1 (here away going).2)
  given := tracked.given

theorem Tracked.arrive (tracked : Tracked exec run) (queue : run.rest = command :: rest) :
    Tracked exec (run.goTo .pauseCheck (run.context.setCurrent run.index)) where
  ordered := tracked.ordered.stay _ _ (by simp [queue])
  total := run.context.extendsReach.counters.total.trans tracked.total
  bounded := by
    have total := run.context.extendsReach.counters.total.trans tracked.total
    exact .inl (Nat.lt_of_lt_of_eq (tracked.ordered.isNext queue) total.symm)
  behind := nofun
  here _ _ := rfl
  given := tracked.given

theorem Tracked.complete (tracked : Tracked exec run) (queue : run.rest = command :: rest)
    (here : run.control.current = run.index) (goesOn : Bool) {tally : Executor.Tally}
    (same : SameCounters run.control tally.context.control) :
    Tracked exec (run.complete command rest goesOn tally) where
  ordered := tracked.ordered.complete queue goesOn tally
  total := same.total.trans tracked.total
  bounded := same.bounded tracked.bounded
  behind _ _ := congrArg (· + 1) (same.current.trans here)
  here := by
    simp only [Run.complete]
    cases goesOn <;> simp
  given := by
    intro execution member
    rcases List.mem_append.mp member with earlier | last
    · exact tracked.given execution earlier
    · rw [List.mem_singleton.mp last]
      exact here

theorem Tracked.steered (tracked : Tracked exec run) (action : ControlAction) :
    Tracked exec (run.steer action) :=
  tracked.stay (run.control.sameAfter [action]) tracked.ordered.busy (fun now => now)
    (fun away going => ⟨away, going⟩)

section
variable [Command κ]

theorem stepTracked (steers : ∀ command ∈ exec.commands, Command.Steers command)
    (tracked : Tracked exec run) : Tracked exec run.step := by
  cases queue : run.rest with
  | nil =>
    rw [stepNil queue]
    exact tracked.stay (.refl run.control) (by simp) nofun (by simp)
  | cons command rest =>
    by_cases now : run.phase = .execution
    · have same := stepSame steers tracked.ordered (by simp [now])
      obtain ⟨goesOn, tally, stepped, -⟩ := stepCompletes queue now
      rw [stepped] at same ⊢
      exact tracked.complete queue (tracked.here (by simp [now]) (by simp [now])) goesOn same
    by_cases arrival : run.phase = .arrival
    · rw [stepArrives queue arrival]
      exact tracked.arrive queue
    · have same := stepSame steers tracked.ordered fun phase => absurd phase arrival
      have away : run.step.phase ≠ .arrival := stepAway now
      by_cases ended : run.phase = .ended
      · rwa [stepEnded ended]
      · obtain ⟨phase, ctx, stepped⟩ := stepStays queue now
        rw [stepped] at same away ⊢
        exact tracked.stay same (by simp [queue]) (fun back => absurd back away)
          (fun _ _ => ⟨arrival, ended⟩)

/-- The first checkpoint was reached, or there is none. -/
def Begun (run : Run κ) : Prop := run.phase ≠ .arrival ∨ run.index ≠ 0

theorem stepBegun (run : Run κ) : run.step.Begun := by
  by_cases now : run.phase = .execution
  · cases queue : run.rest with
    | nil =>
      rw [stepNil queue]
      exact .inl (by simp)
    | cons command rest =>
      obtain ⟨goesOn, tally, stepped, -⟩ := stepCompletes queue now
      rw [stepped]
      exact .inr (Nat.succ_ne_zero run.index)
  · exact .inl (stepAway now)

theorem stepClimbs (steers : ∀ command ∈ exec.commands, Command.Steers command)
    (tracked : Tracked exec run) (begun : run.Begun) :
    run.control.current ≤ run.step.control.current := by
  by_cases arrives : run.phase = .arrival → run.rest = []
  · exact Nat.le_of_eq (stepSame steers tracked.ordered arrives).current.symm
  · obtain ⟨now, busy⟩ := Classical.not_imp.mp arrives
    obtain ⟨command, rest, queue⟩ := List.exists_cons_of_ne_nil busy
    have more : run.index ≠ 0 := begun.resolve_left fun away => away now
    have behind := tracked.behind now more
    rw [stepArrives queue now]
    change run.control.current ≤ run.index
    omega

end

end Run

end PageScript
