import PageScript.Proofs.Run.Extends
import PageScript.Proofs.Run.Flags
import PageScript.Proofs.Run.Wait

/-! The gate before each command. A run that was stopped lets no further command through and comes
to its end, a command that is through is completed, and a pause holds back the next one. `Gated` has
these for any point of a run, whatever was done before and is done after it. -/
namespace PageScript

theorem Control.applyHalted {control : Control} (halted : control.running = false)
    (actions : List ControlAction) : (control.applyAll actions).running = false := by
  rw [control.runningAfter, halted, Bool.false_and]

theorem Context.Extends.halted {before after : Context} (extends_ : before.Extends after)
    (halted : before.control.running = false) : after.control.running = false := by
  obtain ⟨moments, acted⟩ := extends_.control
  rw [acted]
  exact Control.applyHalted halted _

def Phase.remaining : Phase → Nat
  | announcement => 6
  | execution => 5
  | arrival | waitCheck => 4
  | pauseCheck | waitConfirm => 3
  | pauseConfirm | releaseCheck => 2
  | stopCheck => 1
  | ended => 0

def Phase.toCome : Phase → Nat
  | announcement => 2
  | _ => 1

namespace Run

variable {κ : Type} {exec : Executor κ} {run : Run κ} {command : κ} {rest : List κ}

/-- How many commands have passed their checkpoint. -/
def cleared (run : Run κ) : Nat := run.executed.length + if run.phase.launched then 1 else 0

structure Halts (run : Run κ) (steps : Nat) (last : Run κ) : Prop where
  halted : last.control.running = false
  cleared : last.cleared = run.cleared
  remaining : last.phase.remaining ≤ run.phase.remaining - steps

theorem Halts.trans {a b c : Run κ} {m n : Nat} (left : Halts a m b) (right : Halts b n c) :
    Halts a (m + n) c where
  halted := right.halted
  cleared := right.cleared.trans left.cleared
  remaining := by
    have first := left.remaining
    have second := right.remaining
    omega

theorem Halts.goTo {phase : Phase} {ctx : Context} (same : phase.launched = run.phase.launched)
    (halted : ctx.control.running = false) (nearer : phase.remaining ≤ run.phase.remaining - 1) :
    Halts run 1 (run.goTo phase ctx) where
  halted := halted
  cleared := by simp only [Run.cleared, goToExecuted, goToPhase, same]
  remaining := nearer

theorem Halts.ends {steps : Nat} {last : Run κ} (halts : Halts run steps last)
    (enough : run.phase.remaining ≤ steps) : last.phase = .ended := by
  have remaining := halts.remaining
  have none : last.phase.remaining = 0 := by omega
  cases phase : last.phase <;> simp [phase, Phase.remaining] at none ⊢

variable [Command κ]

theorem completeHalts (queue : run.rest = command :: rest) (now : run.phase = .execution)
    (steers : Command.Steers command) (halted : run.control.running = false) :
    Halts run 1 run.step := by
  obtain ⟨goesOn, tally, stepped, settled⟩ := stepCompletes queue now
  obtain ⟨actions, acted⟩ := steers run.context
  have control : tally.context.control = run.control.applyAll actions := by
    have settles := settleKeeps run.index (Command.describe command) run.tally
      (Command.execute command run.context)
    rw [← settled] at settles
    exact settles.2.trans acted
  rw [stepped]
  refine ⟨?_, ?_, ?_⟩
  · change tally.context.control.running = false
    rw [control]
    exact Control.applyHalted halted actions
  · cases goesOn <;> simp [cleared, complete, now, Phase.launched]
  · cases goesOn <;> simp [complete, now, Phase.remaining]

theorem stepHalts (steers : ∀ command ∈ exec.commands, Command.Steers command)
    (ordered : Ordered exec run) (halted : run.control.running = false) :
    Halts run 1 run.step := by
  have reach : run.context.reach.control.running = false :=
    run.context.extendsReach.halted halted
  cases queue : run.rest with
  | nil =>
    rw [stepNil queue]
    suffices idle : Phase.ended.launched = run.phase.launched from
      @Halts.goTo _ run .ended run.context idle halted (Nat.zero_le _)
    cases phase : run.phase with
    | announcement => exact absurd queue (ordered.busy (by simp [phase]) (by simp [phase]))
    | execution => exact absurd queue (ordered.busy (by simp [phase]) (by simp [phase]))
    | _ => rfl
  | cons command rest =>
    cases phase : run.phase with
    | execution => exact completeHalts queue phase (steers command (ordered.loaded queue)) halted
    | ended =>
      rw [stepEnded phase]
      exact ⟨halted, rfl, by simp [phase, Phase.remaining]⟩
    | arrival =>
      simp only [step, queue, advance, phase]
      exact .goTo (by rw [phase]; rfl) reach (by rw [phase]; decide)
    | announcement =>
      simp only [step, queue, advance, phase]
      exact .goTo (by rw [phase]; rfl) (Control.applyHalted halted _) (by rw [phase]; decide)
    | pauseCheck | waitCheck =>
      simp only [step, queue, advance, phase]
      split
      all_goals exact .goTo (by rw [phase]; rfl) reach (by rw [phase]; decide)
    | pauseConfirm | waitConfirm | releaseCheck | stopCheck =>
      -- Here the run looks whether it is running, and it is not.
      simp only [step, queue, advance, phase, Context.readRunning, reach, Bool.false_eq_true,
        if_false]
      exact .goTo (by rw [phase]; rfl) reach (by rw [phase]; decide)

theorem followHalts (steers : ∀ command ∈ exec.commands, Command.Steers command)
    (ordered : Ordered exec run) (halted : run.control.running = false) (moves : List Move) :
    Halts run (moves.count .step) (run.follow moves) := by
  induction moves generalizing run with
  | nil => exact ⟨halted, rfl, Nat.le_refl _⟩
  | cons move moves ih =>
    cases move with
    | step =>
      have first := stepHalts steers ordered halted
      rw [List.count_cons_self, Nat.add_comm]
      exact first.trans (ih (stepOrdered ordered) first.halted)
    | act action =>
      have first : Halts run 0 (run.steer action) :=
        ⟨Control.applyHalted halted [action], rfl, Nat.le_refl _⟩
      rw [List.count_cons_of_ne (by simp), ← Nat.zero_add (moves.count .step)]
      exact first.trans (ih (moveOrdered ordered (.act action)) first.halted)

theorem followCompletes (launched : run.phase.launched = true) (queue : run.rest = command :: rest)
    (moves : List Move) (enough : run.phase.toCome ≤ moves.count .step) :
    ∃ ctx, run.executed ++ [⟨run.index, command, ctx⟩] <+: (run.follow moves).executed := by
  induction moves generalizing run with
  | nil => cases phase : run.phase <;> simp [phase, Phase.toCome] at enough
  | cons move moves ih =>
    cases move with
    | act action =>
      rw [List.count_cons_of_ne (by simp)] at enough
      exact @ih (run.steer action) launched queue enough
    | step =>
      rw [List.count_cons_self] at enough
      change ∃ ctx, _ <+: (run.step.follow moves).executed
      cases phase : run.phase with
      | announcement =>
        have stepped : run.step =
            run.goTo .execution (given run.total run.index command run.context) := by
          simp only [step, queue, advance, phase]
        rw [phase, Phase.toCome] at enough
        rw [stepped]
        exact @ih (run.goTo .execution _) rfl queue (Nat.le_of_succ_le_succ enough)
      | execution =>
        obtain ⟨goesOn, tally, stepped, -⟩ := stepCompletes queue phase
        rw [stepped]
        exact ⟨run.context, followExecuted (run.complete command rest goesOn tally) moves⟩
      | _ => simp [phase, Phase.launched] at launched

theorem moveIdles (waits : run.phase.waiting = true) (move : Move) :
    run.context.Idles (run.move move).context := by
  cases move with
  | act action => exact run.context.idlesSteer _
  | step =>
    change run.context.Idles run.step.context
    have reaches := run.context.idlesReach
    cases queue : run.rest with
    | nil =>
      rw [stepNil queue]
      exact .refl _
    | cons command rest =>
      cases phase : run.phase with
      | waitCheck =>
        simp only [step, queue, advance, phase]
        exact reaches
      | waitConfirm =>
        simp only [step, queue, advance, phase]
        split
        · have drains := run.context.reach.idlesDrain
          exact (reaches.trans drains).trans (Context.idlesSleep ..)
        · exact reaches
      | _ => simp [phase, Phase.waiting] at waits

theorem moveWaits (waits : run.phase.waiting = true) (move : Move) :
    (run.move move).executed = run.executed := by
  cases move with
  | act action => rfl
  | step =>
    change run.step.executed = run.executed
    cases queue : run.rest with
    | nil => rw [stepNil queue]
    | cons command rest =>
      obtain ⟨phase, ctx, stepped⟩ := stepStays queue (by
        intro phase
        simp [phase, Phase.waiting] at waits)
      rw [stepped, goToExecuted]

theorem followReleased (steers : ∀ command ∈ exec.commands, Command.Steers command)
    (ordered : Ordered exec run) (waits : run.phase.waiting = true)
    (halted : run.control.running = false) (moves : List Move) :
    (run.follow moves).executed = run.executed ∧
      (4 ≤ moves.count .step → (run.follow moves).phase = .ended) := by
  have halts := followHalts steers ordered halted moves
  have away : run.phase.launched = false ∧ run.phase.remaining ≤ 4 := by
    cases phase : run.phase with
    | waitCheck => exact ⟨rfl, by decide⟩
    | waitConfirm => exact ⟨rfl, by decide⟩
    | _ => simp [phase, Phase.waiting] at waits
  constructor
  · have count := halts.cleared
    simp only [cleared, away.1, Bool.false_eq_true, if_false] at count
    have bound : (run.follow moves).executed.length ≤ run.executed.length := by omega
    exact ((followExecuted run moves).eq_of_length_le bound).symm
  · intro enough
    exact halts.ends (Nat.le_trans away.2 enough)

structure Gated (exec : Executor κ) (run : Run κ) : Prop where
  /-- Paused at a checkpoint, with neither a resume nor a stop to follow. -/
  held : run.phase = .pauseCheck → run.control.paused = true → run.context.Undisturbed →
    ∀ later, (∀ action, .act action ∈ later → action = .pause) →
      Held run (later.count .step) (run.follow later)
  idles : run.phase.waiting = true → ∀ move,
    run.context.Idles (run.move move).context ∧ (run.move move).executed = run.executed
  completes : run.phase.launched = true → ∀ later : List Move, 2 ≤ later.count .step →
    ∃ command ctx, exec.commands[run.index]? = some command ∧
      run.executed ++ [⟨run.index, command, ctx⟩] <+: (run.follow later).executed
  /-- No further command passes its checkpoint, and the run comes to its end. -/
  stopped : run.control.running = false → ∀ later, (run.follow later).cleared = run.cleared ∧
    (6 ≤ later.count .step → (run.follow later).phase = .ended)
  stops : ∀ later, ((run.steer .stop).follow later).cleared = run.cleared
  released : run.phase.waiting = true → ∀ later,
    ((run.steer .stop).follow later).executed = run.executed ∧
      (4 ≤ later.count .step → ((run.steer .stop).follow later).phase = .ended)
  resumes : run.phase.waiting = true → ∀ later, (run.follow later).executed = run.executed ∨
    ∃ command ctx others, exec.commands[run.index]? = some command ∧
      (run.follow later).executed = run.executed ++ ⟨run.index, command, ctx⟩ :: others

theorem runGates (exec : Executor κ)
    (steers : ∀ command ∈ exec.commands, Command.Steers command) (moves : List Move) :
    Gated exec ((start exec).follow moves) := by
  have ordered := followOrdered (startOrdered exec) moves
  generalize (start exec).follow moves = run at ordered
  have orderedStop : Ordered exec (run.steer .stop) := moveOrdered ordered (.act .stop)
  exact {
    held := by
      intro atCheckpoint paused undisturbed later only
      have busy := ordered.busy (by simp [atCheckpoint]) (by simp [atCheckpoint])
      rw [← Nat.zero_add (later.count .step)]
      exact followHeld (.start atCheckpoint undisturbed) paused busy only
    idles := fun waits move => ⟨moveIdles waits move, moveWaits waits move⟩
    completes := by
      intro launched later enough
      have busy : run.rest ≠ [] := by
        apply ordered.busy
        · intro phase
          simp [phase, Phase.launched] at launched
        · intro phase
          simp [phase, Phase.launched] at launched
      obtain ⟨command, rest, queue⟩ := List.exists_cons_of_ne_nil busy
      obtain ⟨ctx, completed⟩ := followCompletes launched queue later (by
        refine Nat.le_trans ?_ enough
        cases run.phase <;> simp [Phase.toCome])
      exact ⟨command, ctx, ordered.here queue, completed⟩
    stopped := by
      intro halted later
      have halts := followHalts steers ordered halted later
      refine ⟨halts.cleared, fun enough => halts.ends (Nat.le_trans ?_ enough)⟩
      cases run.phase <;> simp [Phase.remaining]
    stops := fun later => (followHalts steers orderedStop rfl later).cleared
    released := fun waits later => followReleased steers orderedStop waits rfl later
    resumes := fun _ later => followNext ordered later }

theorem runGatesWaiting :
    let exec : Executor Builtin := {
      registry := ⟨[]⟩
      commands := List.replicate 2 (.saveMarkup default)
      context := {} }
    let run := (start exec).follow [.act .pause, .step, .step, .step]
    run.phase.waiting = true ∧ Gated exec run :=
  ⟨rfl, runGates _ (fun command _ => Command.builtinSteers command) _⟩

end Run

end PageScript
