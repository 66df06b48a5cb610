import PageScript.Cli.Program
import PageScript.Proofs.Run.Gate
import PageScript.Proofs.Run.Refinement

/-! A run from the moment on that others can steer it. Its context is fitted out step by step, then
the run is marked as running and its commands are counted, and only then the machine of a run takes
over; requests may come between any two of these steps. By `runLaunches` this is the run of the
program. A stop after the mark lets no further command through and ends the run. A stop before it is
forgotten, as the mark is set over it. -/
namespace PageScript

/-- What is done for a run that can already be steered. -/
inductive Fitting where
  | sink (label : String)
  | surface (surface : Surface)
  | drainEvents
  /-- From here on an interrupt of the program is a stop, too. -/
  | interrupts

def Fitting.apply (ctx : Context) : Fitting → Context
  | .sink label => { ctx with sink := some label }
  | .surface shown => { ctx with surface := some shown }
  | .drainEvents => { ctx with wait := { ctx.wait with drainEvents := true } }
  | .interrupts => ctx

namespace Executor

variable {κ : Type}

def fit (exec : Executor κ) (fitting : Fitting) : Executor κ :=
  { exec with context := fitting.apply exec.context }

def mark (exec : Executor κ) : Executor κ := { exec with context := exec.context.setRunning true }

def count (exec : Executor κ) : Run κ :=
  let total := exec.commands.length
  let ctx := (exec.context.setTotal total).info s!"Starting script execution ({total} commands)"
  { total, rest := exec.commands, tally := { context := ctx } }

def flagged (exec : Executor κ) (running : Bool) : Executor κ :=
  { exec with context := { exec.context with
    control := { exec.context.control with running } } }

end Executor

inductive Launch (κ : Type) where
  | fitting (ahead : List Fitting) (exec : Executor κ)
  | marked (exec : Executor κ)
  | running (run : Run κ)

namespace Launch

variable {κ : Type} {launch : Launch κ}

def isMarked : Launch κ → Bool
  | fitting _ _ => false
  | marked _ | running _ => true

def isRunning : Launch κ → Bool
  | fitting _ exec | marked exec => exec.context.control.running
  | running run => run.control.running

/-- How many commands have passed their checkpoint. -/
def cleared : Launch κ → Nat
  | fitting _ _ | marked _ => 0
  | running run => run.cleared

def ended : Launch κ → Bool
  | fitting _ _ | marked _ => false
  | running run => run.phase = .ended

def steer (action : ControlAction) : Launch κ → Launch κ
  | fitting ahead exec => fitting ahead (exec.steer action)
  | marked exec => marked (exec.steer action)
  | running run => running (run.steer action)

section
variable [Command κ]

def step : Launch κ → Launch κ
  | fitting (first :: ahead) exec => fitting ahead (exec.fit first)
  | fitting [] exec => marked exec.mark
  | marked exec => running exec.count
  | running run => running run.step

def move (launch : Launch κ) : Run.Move → Launch κ
  | .step => launch.step
  | .act action => launch.steer action

def follow (launch : Launch κ) (moves : List Run.Move) : Launch κ := moves.foldl move launch

def after (launch : Launch κ) (steps : Nat) : Launch κ :=
  launch.follow (List.replicate steps .step)

theorem followRunning (run : Run κ) (moves : List Run.Move) :
    (running run).follow moves = running (run.follow moves) := by
  induction moves generalizing run with
  | nil => rfl
  | cons move moves ih => cases move <;> exact ih _

theorem afterSucc (launch : Launch κ) (steps : Nat) :
    launch.after (steps + 1) = launch.step.after steps := rfl

theorem afterFitted (ahead : List Fitting) (exec : Executor κ) (steps : Nat) :
    (fitting ahead exec).after (ahead.length + 2 + steps) =
      running ((Run.start (ahead.foldl Executor.fit exec)).after steps) := by
  induction ahead generalizing exec with
  | nil =>
    rw [List.length_nil, Nat.zero_add, Nat.add_comm, afterSucc, afterSucc]
    exact followRunning _ _
  | cons first ahead ih =>
    rw [List.length_cons, Nat.add_right_comm _ 1 2, Nat.add_right_comm _ 1 steps, afterSucc]
    exact ih (exec.fit first)

theorem afterFew (ahead : List Fitting) (exec : Executor κ) {steps : Nat}
    (few : steps < ahead.length + 2) (run : Run κ) :
    (fitting ahead exec).after steps ≠ running run := by
  induction ahead generalizing exec steps with
  | nil =>
    match steps with
    | 0 | 1 => nofun
    | n + 2 => exact absurd few (by simp)
  | cons first ahead ih =>
    cases steps with
    | zero => nofun
    | succ steps => exact ih (exec.fit first) (Nat.lt_of_succ_lt_succ few)

end

/-! ### A stop before the mark -/

end Launch

namespace Control

variable (control : Control) (running : Bool)

theorem applyFlagged (action : ControlAction) : ∃ after,
    { control with running }.apply action = { control.apply action with running := after } := by
  cases action with
  | pause => exact ⟨running, rfl⟩
  | resume => exact ⟨running, rfl⟩
  | stop => exact ⟨false, rfl⟩

theorem applyAllFlagged (actions : List ControlAction) : ∃ after,
    { control with running }.applyAll actions =
      { control.applyAll actions with running := after } := by
  induction actions generalizing control running with
  | nil => exact ⟨running, rfl⟩
  | cons action actions ih =>
    obtain ⟨after, applied⟩ := control.applyFlagged running action
    rw [applyAll, List.foldl_cons, applied]
    exact ih (control.apply action) after

end Control

namespace Executor

variable {κ : Type} (exec : Executor κ) (running : Bool)

theorem steerFlagged (action : ControlAction) :
    ∃ after, (exec.flagged running).steer action = (exec.steer action).flagged after := by
  obtain ⟨after, applied⟩ := exec.context.control.applyFlagged running action
  refine ⟨after, ?_⟩
  simp only [steer, flagged]
  rw [applied]

theorem fitFlagged (fitting : Fitting) :
    (exec.flagged running).fit fitting = (exec.fit fitting).flagged running := by
  cases fitting <;> rfl

theorem markFlagged : (exec.flagged running).mark = exec.mark := by
  obtain ⟨after, applied⟩ := exec.context.control.applyAllFlagged running
    (exec.context.outside (.access exec.context.accesses))
  simp only [mark, Context.setRunning, Context.reach, Context.meet, flagged]
  rw [applied]

end Executor

namespace Launch

variable {κ : Type} {launch first second : Launch κ}

/-- The same up to the flag of a run that is not yet marked. -/
inductive Alike : Launch κ → Launch κ → Prop
  | fitting (ahead : List Fitting) (exec : Executor κ) (running : Bool) :
      Alike (fitting ahead (exec.flagged running)) (fitting ahead exec)
  | same {launch : Launch κ} (marked : launch.isMarked = true) : Alike launch launch

theorem Alike.equal (alike : Alike first second) (marked : second.isMarked = true) :
    first = second := by
  cases alike with
  | same => rfl
  | fitting => cases marked

theorem stopAlike (early : launch.isMarked = false) : Alike (launch.steer .stop) launch := by
  cases launch with
  | fitting ahead exec => exact .fitting ahead exec false
  | marked => cases early
  | running => cases early

theorem stopMarked (late : launch.isMarked = true) : (launch.steer .stop).isMarked = true ∧
    (launch.steer .stop).isRunning = false ∧ (launch.steer .stop).cleared = launch.cleared := by
  cases launch with
  | fitting => cases late
  | marked exec => exact ⟨rfl, rfl, rfl⟩
  | running run => exact ⟨rfl, rfl, rfl⟩

theorem steerAlike (alike : Alike first second) (action : ControlAction) :
    Alike (first.steer action) (second.steer action) := by
  cases alike with
  | same marked =>
    refine .same ?_
    cases first <;> exact marked
  | fitting ahead exec running =>
    obtain ⟨after, same⟩ := exec.steerFlagged running action
    rw [steer, steer, same]
    exact .fitting ahead (exec.steer action) after

section
variable [Command κ]

theorem stepAlike (alike : Alike first second) : Alike first.step second.step := by
  cases alike with
  | same marked =>
    refine .same ?_
    cases first with
    | fitting => cases marked
    | marked => rfl
    | running => rfl
  | fitting ahead exec running =>
    cases ahead with
    | nil =>
      -- The mark sets the flag in both, so that nothing is left to tell them apart.
      rw [step, step, exec.markFlagged]
      exact .same rfl
    | cons fitting ahead =>
      rw [step, step, exec.fitFlagged]
      exact .fitting ahead (exec.fit fitting) running

theorem followAlike (alike : Alike first second) (moves : List Run.Move) :
    Alike (first.follow moves) (second.follow moves) := by
  induction moves generalizing first second with
  | nil => exact alike
  | cons move moves ih =>
    cases move with
    | step => exact ih (stepAlike alike)
    | act action => exact ih (steerAlike alike action)

/-! ### A stop after the mark -/

/-- The commands run in their order, and act on the flags only as others could. -/
def Sound : Launch κ → Prop
  | fitting _ exec | marked exec => ∀ command ∈ exec.commands, Command.Steers command
  | running run => ∃ exec : Executor κ, (∀ command ∈ exec.commands, Command.Steers command) ∧
      Run.Ordered exec run

theorem moveSound (sound : launch.Sound) (move : Run.Move) : (launch.move move).Sound := by
  cases launch with
  | fitting ahead exec =>
    cases move with
    | act action => exact sound
    | step => cases ahead <;> exact sound
  | marked exec =>
    cases move with
    | act action => exact sound
    | step => exact ⟨exec, sound, (Run.startOrdered exec).stay .arrival _ (by simp)⟩
  | running run =>
    obtain ⟨exec, steers, ordered⟩ := sound
    have kept := Run.moveOrdered ordered move
    cases move <;> exact ⟨exec, steers, kept⟩

theorem followSound (sound : launch.Sound) (moves : List Run.Move) :
    (launch.follow moves).Sound := by
  induction moves generalizing launch with
  | nil => exact sound
  | cons move moves ih => exact ih (moveSound sound move)

theorem runHalted {run : Run κ} (sound : (running run).Sound)
    (halted : run.control.running = false) (moves : List Run.Move) :
    ((running run).follow moves).cleared = run.cleared ∧
      (run.phase.remaining ≤ moves.count .step → ((running run).follow moves).ended = true) := by
  obtain ⟨exec, steers, ordered⟩ := sound
  have halts := Run.followHalts steers ordered halted moves
  rw [followRunning]
  exact ⟨halts.cleared, fun enough => decide_eq_true (halts.ends enough)⟩

theorem markedHalted {exec : Executor κ} (sound : (marked exec).Sound)
    (halted : exec.context.control.running = false) (moves : List Run.Move) :
    ((marked exec).follow moves).cleared = 0 ∧
      (5 ≤ moves.count .step → ((marked exec).follow moves).ended = true) := by
  induction moves generalizing exec with
  | nil => exact ⟨rfl, fun enough => absurd enough (by decide)⟩
  | cons move moves ih =>
    cases move with
    | act action =>
      rw [List.count_cons_of_ne (by simp)]
      exact @ih (exec.steer action) sound (Control.applyHalted halted [action])
    | step =>
      have counted : (exec.context.setTotal exec.commands.length).control.running = false :=
        exec.context.extendsReach.halted halted
      obtain ⟨cleared, ends⟩ := runHalted (moveSound sound .step) counted moves
      rw [List.count_cons_self]
      exact ⟨cleared, fun enough => ends (Nat.le_of_succ_le_succ enough)⟩

theorem followHalted (sound : launch.Sound) (late : launch.isMarked = true)
    (halted : launch.isRunning = false) (moves : List Run.Move) :
    (launch.follow moves).cleared = launch.cleared ∧
      (6 ≤ moves.count .step → (launch.follow moves).ended = true) := by
  cases launch with
  | fitting => cases late
  | marked exec =>
    obtain ⟨cleared, ends⟩ := markedHalted sound halted moves
    exact ⟨cleared, fun enough => ends (Nat.le_of_succ_le enough)⟩
  | running run =>
    obtain ⟨cleared, ends⟩ := runHalted sound halted moves
    refine ⟨cleared, fun enough => ends (Nat.le_trans ?_ enough)⟩
    cases run.phase <;> simp [Phase.remaining]

end

end Launch

/-! ### The program -/

namespace Cli

def fittings (options : RunOptions) (browser : Surface) : List Fitting :=
  (if options.serve then [.sink dashboardSink] else []) ++
    (if options.dryRun then [.surface {}] else [.drainEvents, .surface browser]) ++ [.interrupts]

def launch (options : RunOptions) (browser : Surface) (exec : Executor Builtin) : Launch Builtin :=
  .fitting (fittings options browser) exec

theorem fitFinish (ahead : List Fitting) (exec : Executor Builtin) (tally : Executor.Tally) :
    (ahead.foldl Executor.fit exec).finish tally = exec.finish tally := by
  induction ahead generalizing exec with
  | nil => rfl
  | cons first ahead ih => exact ih (exec.fit first)

section
variable {host : Host} {options : RunOptions} {exec served : Executor Builtin}

theorem servedFitted (port : serve host options exec = .ok served) (dry : options.dryRun = true)
    (browser : Surface) : { served with context := { served.context with surface := some {} } } =
      (fittings options browser).foldl Executor.fit exec := by
  unfold serve at port
  simp only [fittings, dry, if_true]
  cases serves : options.serve with
  | false =>
    simp only [serves, Bool.not_false, if_true] at port
    cases port
    rfl
  | true =>
    simp only [serves, Bool.not_true, Bool.false_eq_true, if_false] at port
    split at port
    · cases port
    · cases port
      rfl

theorem runFitted (looks : Nat) (prepared : prepare host options = .ok exec)
    (port : serve host options exec = .ok served) (dry : options.dryRun = true)
    (browser : Surface) : run looks host options =
      (((fittings options browser).foldl Executor.fit exec).execute looks).map
        fun (success, exec) => conclude options success exec := by
  have ready : (prepare host options).bind (serve host options) = .ok served := by
    rw [prepared]
    exact port
  rw [run, ready, ← servedFitted port dry browser]
  simp only [dry, if_true]

/-- A rehearsal computes what its launch, left alone, ends with. -/
theorem runLaunches (prepared : prepare host options = .ok exec)
    (port : serve host options exec = .ok served) (dry : options.dryRun = true)
    (browser : Surface) (report : Report) :
    (∃ looks, run looks host options = some report) ↔ ∃ steps last,
      (launch options browser exec).after steps = .running last ∧ last.phase = .ended ∧
        report = conclude options last.tally.errors.isEmpty (exec.finish last.tally) := by
  have exactly := Run.executeExact ((fittings options browser).foldl Executor.fit exec)
  constructor
  · rintro ⟨looks, computed⟩
    rw [runFitted looks prepared port dry browser, Option.map_eq_some_iff] at computed
    obtain ⟨⟨success, final⟩, executed, rfl⟩ := computed
    obtain ⟨last, ⟨steps, reached⟩, ended, rfl, rfl⟩ := (exactly success final).mp ⟨looks, executed⟩
    refine ⟨(fittings options browser).length + 2 + steps, last, ?_, ended, by rw [fitFinish]⟩
    rw [launch, Launch.afterFitted, reached]
  · rintro ⟨steps, last, reached, ended, rfl⟩
    obtain ⟨more, rfl⟩ := Nat.exists_eq_add_of_le (Nat.le_of_not_lt fun few =>
      Launch.afterFew (fittings options browser) exec few last reached)
    rw [launch, Launch.afterFitted] at reached
    obtain ⟨looks, executed⟩ := (exactly _ _).mpr
      ⟨last, ⟨more, Launch.running.inj reached⟩, ended, rfl, rfl⟩
    refine ⟨looks, ?_⟩
    rw [runFitted looks prepared port dry browser, executed, fitFinish]
    rfl

end

/-- A stop is heeded from the mark of the run on: no further command passes its checkpoint, and the
run comes to its end. Before it a stop is forgotten: once the run is marked, it is as if none had
come. -/
theorem stopHeeded (options : RunOptions) (browser : Surface) (exec : Executor Builtin)
    (moves : List Run.Move) :
    let now := (launch options browser exec).follow moves
    (now.isMarked = true → ∀ later, ((now.steer .stop).follow later).cleared = now.cleared ∧
      (6 ≤ later.count .step → ((now.steer .stop).follow later).ended = true)) ∧
    (now.isMarked = false → ∀ later, (now.follow later).isMarked = true →
      (now.steer .stop).follow later = now.follow later) := by
  intro now
  have begins : (launch options browser exec).Sound := fun command _ => Command.builtinSteers command
  have sound : now.Sound := Launch.followSound begins moves
  constructor
  · intro late later
    obtain ⟨marked, halted, cleared⟩ := Launch.stopMarked late
    rw [← cleared]
    exact Launch.followHalted (Launch.moveSound sound (.act .stop)) marked halted later
  · intro early later marked
    exact (Launch.followAlike (Launch.stopAlike early) later).equal marked

theorem stopHeededMarked :
    let options : RunOptions := { script := "in", dryRun := true, serve := true }
    let exec : Executor Builtin := {
      registry := .builtins
      context := {}
      commands := [.saveMarkup default] }
    let now := (launch options {} exec).follow (List.replicate 4 .step)
    now.isMarked = true ∧ ((now.steer .stop).follow (List.replicate 6 .step)).cleared = 0 ∧
      ((now.steer .stop).follow (List.replicate 6 .step)).ended = true := by
  intro options exec now
  have late : now.isMarked = true := rfl
  obtain ⟨cleared, ends⟩ := (stopHeeded options {} exec (List.replicate 4 .step)).1 late
    (List.replicate 6 .step)
  exact ⟨late, cleared, ends (by decide)⟩

theorem stopOverwritten : ¬ ∀ (options : RunOptions) (browser : Surface) (exec : Executor Builtin)
    (moves later : List Run.Move), let now := (launch options browser exec).follow moves
      ((now.steer .stop).follow later).cleared = now.cleared := by
  intro heeded
  have none := heeded { script := "in", dryRun := true, serve := true } {}
    { registry := .builtins, context := {}, commands := [.saveMarkup default] } []
    (List.replicate 9 .step)
  exact absurd none (by decide)

end Cli

end PageScript
