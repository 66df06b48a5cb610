import PageScript.Registry
import PageScript.Script.Load

/-! Running a script command by command.

The run looks at its flags before each command and only there, so a command that has begun is always
completed. While it is paused it drains events and looks again after every nap; how often it may
look is an argument, and a run that has looked so often and is still paused has no result. -/
namespace PageScript

structure RunError where
  index : Nat
  command : String
  message : String
  deriving DecidableEq, Repr

structure Executor (κ : Type) where
  registry : Registry κ
  context : Context
  commands : List κ := []
  loadErrors : List String := []
  errors : List RunError := []

namespace Executor

variable {κ : Type}

def ofRegistry (registry : Registry κ) (context : Context) : Executor κ :=
  { registry, context := { context with control := {} } }

/-! ### Loading -/

/-- The commands that can be built from records, and a report on each of the others; the first
record has the place `index`. -/
def buildAll (registry : Registry κ) (index : Nat) : List Record → List κ × List String
  | [] => ([], [])
  | record :: rest =>
    let (commands, reports) := buildAll registry (index + 1) rest
    match registry.build record with
    | .ok command => (command :: commands, reports)
    | .error e => (commands, loadErrorText index e.message :: reports)

def reportErrors (ctx : Context) (reports : List String) : Context :=
  reports.foldl Context.error ctx

def loadRecords (exec : Executor κ) (records : List Record) : Executor κ :=
  let (commands, reports) := buildAll exec.registry 0 records
  let ctx := reportErrors exec.context reports
  { exec with
    commands
    loadErrors := reports
    errors := []
    context := { ctx with control := { ctx.control with current := 0, total := commands.length } } }

def loadScript (exec : Executor κ) (parsed : ParsedScript) : Executor κ :=
  let exec := exec.loadRecords parsed.script.commands
  let reports := parsed.rejected.map Rejection.message
  { exec with
    context := reportErrors exec.context reports
    loadErrors := exec.loadErrors ++ reports }

def loadJson (exec : Executor κ) (value : Json) : Except ScriptError (Executor κ) :=
  (ParsedScript.ofJson value).map exec.loadScript

def info (exec : Executor κ) (message : String) : Executor κ :=
  { exec with context := exec.context.info message }

def loadFile (exec : Executor κ) (path : String) : Except ScriptError (Executor κ) :=
  (ParsedScript.load exec.context.files path).map fun parsed =>
    (exec.loadScript parsed).info s!"Loaded script from: {path}"

section
variable [Command κ]

def toScript (exec : Executor κ) : Script := .ofRecords (exec.commands.map Command.toRecord)

def saveFile (exec : Executor κ) (path : String) : Except ScriptError (Executor κ) :=
  match exec.context.files.writeText path exec.toScript.pretty with
  | .error cause => .error (.inaccessible path cause)
  | .ok files =>
    .ok ({ exec with context := { exec.context with files } }.info s!"Saved script to: {path}")

/-! ### Running -/

def waitPaused : Nat → Context → Option Context
  | 0, _ => none
  | looks + 1, ctx =>
    let (paused, ctx) := ctx.readPaused
    if !paused then some ctx
    else
      let (running, ctx) := ctx.readRunning
      if !running then some ctx
      else
        let ctx := ctx.drain.1
        waitPaused looks (ctx.sleep ctx.wait.pausePoll)

def pausePoint (looks : Nat) (ctx : Context) : Option Context :=
  let (paused, ctx) := ctx.readPaused
  if !paused then some ctx
  else
    let (running, ctx) := ctx.readRunning
    if !running then some ctx
    else (waitPaused looks (ctx.info "Script paused")).map fun ctx =>
      let (running, ctx) := ctx.readRunning
      if running then ctx.info "Script resumed" else ctx

def checkpoint (looks : Nat) (ctx : Context) : Option (Bool × Context) :=
  (pausePoint looks ctx).map fun ctx =>
    let (running, ctx) := ctx.readRunning
    (running, if running then ctx else ctx.info "Script execution stopped by user")

structure Tally where
  context : Context
  succeeded : Nat := 0
  errors : List RunError := []

def runCommand (total index : Nat) (command : κ) (tally : Tally) : Bool × Tally :=
  let description := Command.describe command
  let ctx := (tally.context.announce index total description).info
    s!"Executing [{index + 1}/{total}]: {description}"
  match Command.execute command ctx with
  | (ctx, .ok ()) => (true, { tally with context := ctx, succeeded := tally.succeeded + 1 })
  | (ctx, .error e) =>
    let ctx := ctx.error s!"Command failed: {e.message}"
    let errors := tally.errors ++ [⟨index, description, e.message⟩]
    if ctx.stopOnError then
      (false, { tally with context := ctx.info "Stopping on error", errors })
    else (true, { tally with context := ctx, errors })

def runFrom (looks total : Nat) : Nat → List κ → Tally → Option Tally
  | _, [], tally => some tally
  | index, command :: rest, tally =>
    match checkpoint looks (tally.context.setCurrent index) with
    | none => none
    | some (false, ctx) => some { tally with context := ctx }
    | some (true, ctx) =>
      match runCommand total index command { tally with context := ctx } with
      | (true, tally) => runFrom looks total (index + 1) rest tally
      | (false, tally) => some tally

def begin (exec : Executor κ) : Context :=
  let total := exec.commands.length
  ((exec.context.setRunning true).setTotal total).info
    s!"Starting script execution ({total} commands)"

def finish (exec : Executor κ) (tally : Tally) : Executor κ :=
  { exec with
    errors := tally.errors
    context := (tally.context.setRunning false).info
      s!"Script execution complete: {tally.succeeded} succeeded, {tally.errors.length} failed" }

/-- Runs the loaded commands. The result tells whether none of them failed. -/
def execute (looks : Nat) (exec : Executor κ) : Option (Bool × Executor κ) :=
  (runFrom looks exec.commands.length 0 exec.commands { context := exec.begin }).map fun tally =>
    (tally.errors.isEmpty, exec.finish tally)

end

/-! ### Steering -/

def steer (exec : Executor κ) (action : ControlAction) : Executor κ :=
  { exec with context := { exec.context with control := exec.context.control.apply action } }

def progress (exec : Executor κ) : Progress := exec.context.control.progress

end Executor

end PageScript
