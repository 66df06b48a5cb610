import PageScript.Proofs.Run.Extends
import PageScript.Run.Executor

/-! A run as a machine that accesses its flags at most once a step; by `executeExact` it is the run
of `Executor.execute`. `rest` holds the command of `index` and those after it. A command is launched
from its last check to its completion; a run that waits is paused and has said so in the log. Pause,
resume and stop may come between any two steps, besides what the outside does at its moments. An
`Execution` keeps the context that a command was given. -/
namespace PageScript

open Executor (Tally)

inductive Phase where
  | arrival
  | pauseCheck
  | pauseConfirm
  | waitCheck
  | waitConfirm
  | releaseCheck
  | stopCheck
  | announcement
  | execution
  | ended
  deriving DecidableEq, Repr

namespace Phase

def launched : Phase → Bool
  | announcement | execution => true
  | _ => false

def waiting : Phase → Bool
  | waitCheck | waitConfirm => true
  | _ => false

end Phase

structure Execution (κ : Type) where
  index : Nat
  command : κ
  context : Context

structure Run (κ : Type) where
  total : Nat
  phase : Phase := .arrival
  index : Nat := 0
  rest : List κ
  tally : Tally
  executed : List (Execution κ) := []

namespace Run

variable {κ : Type}

def context (run : Run κ) : Context := run.tally.context

def control (run : Run κ) : Control := run.context.control

def goTo (run : Run κ) (phase : Phase) (context : Context) : Run κ :=
  { run with phase, tally := { run.tally with context } }

def complete (run : Run κ) (command : κ) (rest : List κ) (goesOn : Bool) (tally : Tally) : Run κ :=
  { run with
    phase := if goesOn then .arrival else .ended
    index := run.index + 1
    rest
    tally
    executed := run.executed ++ [⟨run.index, command, run.context⟩] }

@[simp] theorem goToContext (run : Run κ) (phase : Phase) (ctx : Context) :
    (run.goTo phase ctx).context = ctx := rfl

@[simp] theorem goToPhase (run : Run κ) (phase : Phase) (ctx : Context) :
    (run.goTo phase ctx).phase = phase := rfl

@[simp] theorem goToRest (run : Run κ) (phase : Phase) (ctx : Context) :
    (run.goTo phase ctx).rest = run.rest := rfl

@[simp] theorem goToIndex (run : Run κ) (phase : Phase) (ctx : Context) :
    (run.goTo phase ctx).index = run.index := rfl

@[simp] theorem goToExecuted (run : Run κ) (phase : Phase) (ctx : Context) :
    (run.goTo phase ctx).executed = run.executed := rfl

@[simp] theorem goToTo (run : Run κ) (first second : Phase) (a b : Context) :
    (run.goTo first a).goTo second b = run.goTo second b := rfl

theorem goToSame (run : Run κ) : run.goTo run.phase run.context = run := rfl

section
variable [Command κ]

/-- Whether the run goes on after an outcome of a command, and what it counts. -/
def settle (index : Nat) (description : String) (tally : Tally) : Outcome → Bool × Tally
  | (ctx, .ok ()) => (true, { tally with context := ctx, succeeded := tally.succeeded + 1 })
  | (ctx, .error e) =>
    let ctx := ctx.error s!"Command failed: {e.message}"
    let errors := tally.errors ++ [⟨index, description, e.message⟩]
    if ctx.stopOnError then
      (false, { tally with context := ctx.info "Stopping on error", errors })
    else (true, { tally with context := ctx, errors })

def given (total index : Nat) (command : κ) (ctx : Context) : Context :=
  (ctx.announce index total (Command.describe command)).info
    s!"Executing [{index + 1}/{total}]: {Command.describe command}"

def advance (run : Run κ) (command : κ) (rest : List κ) : Run κ :=
  let ctx := run.context
  match run.phase with
  | .arrival => run.goTo .pauseCheck (ctx.setCurrent run.index)
  | .pauseCheck =>
    let (paused, ctx) := ctx.readPaused
    run.goTo (if paused then .pauseConfirm else .stopCheck) ctx
  | .pauseConfirm =>
    let (running, ctx) := ctx.readRunning
    if running then run.goTo .waitCheck (ctx.info "Script paused") else run.goTo .stopCheck ctx
  | .waitCheck =>
    let (paused, ctx) := ctx.readPaused
    run.goTo (if paused then .waitConfirm else .releaseCheck) ctx
  | .waitConfirm =>
    let (running, ctx) := ctx.readRunning
    if running then
      let ctx := ctx.drain.1
      run.goTo .waitCheck (ctx.sleep ctx.wait.pausePoll)
    else run.goTo .releaseCheck ctx
  | .releaseCheck =>
    let (running, ctx) := ctx.readRunning
    run.goTo .stopCheck (if running then ctx.info "Script resumed" else ctx)
  | .stopCheck =>
    let (running, ctx) := ctx.readRunning
    if running then run.goTo .announcement ctx
    else run.goTo .ended (ctx.info "Script execution stopped by user")
  | .announcement => run.goTo .execution (given run.total run.index command ctx)
  | .execution =>
    let (goesOn, tally) := settle run.index (Command.describe command) run.tally
      (Command.execute command ctx)
    run.complete command rest goesOn tally
  | .ended => run

def step (run : Run κ) : Run κ :=
  match run.rest with
  | [] => { run with phase := .ended }
  | command :: rest => run.advance command rest

def steer (run : Run κ) (action : ControlAction) : Run κ :=
  run.goTo run.phase { run.context with control := run.control.apply action }

inductive Move where
  | step
  | act (action : ControlAction)
  deriving DecidableEq, Repr

def move (run : Run κ) : Move → Run κ
  | .step => run.step
  | .act action => run.steer action

def follow (run : Run κ) (moves : List Move) : Run κ := moves.foldl move run

def after (run : Run κ) (steps : Nat) : Run κ := run.follow (List.replicate steps .step)

def start (exec : Executor κ) : Run κ where
  total := exec.commands.length
  rest := exec.commands
  tally := { context := exec.begin }

theorem settleKeeps (index : Nat) (description : String) (tally : Tally) (outcome : Outcome) :
    (settle index description tally outcome).2.context.outside = outcome.1.outside ∧
      (settle index description tally outcome).2.context.control = outcome.1.control := by
  obtain ⟨ctx, e | _⟩ := outcome
  · simp only [settle]
    split <;> exact ⟨rfl, rfl⟩
  · exact ⟨rfl, rfl⟩

@[simp] theorem afterZero (run : Run κ) : run.after 0 = run := rfl

theorem afterSucc (run : Run κ) (n : Nat) : run.after (n + 1) = run.step.after n := rfl

theorem afterAdd (run : Run κ) (m n : Nat) : run.after (m + n) = (run.after m).after n := by
  induction m generalizing run with
  | zero => rw [Nat.zero_add, afterZero]
  | succ m ih => rw [Nat.succ_add, afterSucc, ih, afterSucc]

theorem stepNil {run : Run κ} (queue : run.rest = []) :
    run.step = { run with phase := .ended } := by
  unfold step
  split
  · rfl
  · rename_i other
    rw [queue] at other
    contradiction

theorem stepGoTo {run : Run κ} {command : κ} {rest : List κ} (queue : run.rest = command :: rest)
    (phase : Phase) (ctx : Context) :
    (run.goTo phase ctx).step = (run.goTo phase ctx).advance command rest := by
  simp [step, queue]

theorem stepEnded {run : Run κ} (ended : run.phase = .ended) : run.step = run := by
  unfold step
  split
  · rw [← ended]
  · simp [advance, ended]

theorem afterEnded {run : Run κ} (ended : run.phase = .ended) (n : Nat) : run.after n = run := by
  induction n with
  | zero => rfl
  | succ n ih => rw [afterSucc, stepEnded ended, ih]

end

end Run

end PageScript
