import PageScript.Proofs.Basic
import PageScript.Proofs.Load.Report

/-! Loads and saves as programs that change one executor in place, a part at a time. What was
changed before a fault stays changed, so that a program shows when the fault came. By
`loadJsonRuns`, `loadFileRuns` and `saveFileRuns` every fault comes before the first change, and a
program that ends without one leaves what `Executor.loadJson`, `loadFile` and `saveFile` give. -/
namespace PageScript

abbrev Session (κ : Type) := ExceptT ScriptError (StateM (Executor κ))

namespace Session

variable {κ : Type}

def runOn {α : Type} (session : Session κ α) (exec : Executor κ) :
    Except ScriptError α × Executor κ := session.run.run exec

def require {α : Type} (result : Except ScriptError α) : Session κ α := ExceptT.mk (pure result)

def clear : Session κ Unit := modify fun exec =>
  { exec with commands := [], loadErrors := [], errors := [] }

def setCurrent (current : Nat) : Session κ Unit := modify fun exec =>
  { exec with context := { exec.context with control := { exec.context.control with current } } }

def setTotal (total : Nat) : Session κ Unit := modify fun exec =>
  { exec with context := { exec.context with control := { exec.context.control with total } } }

def push (command : κ) : Session κ Unit := modify fun exec =>
  { exec with commands := exec.commands ++ [command] }

def report (message : String) : Session κ Unit := modify fun exec =>
  { exec with context := exec.context.error message, loadErrors := exec.loadErrors ++ [message] }

def info (message : String) : Session κ Unit := modify fun exec => exec.info message

def build (index : Nat) (record : Record) : Session κ Unit := do
  match (← get).registry.build record with
  | .ok command => push command
  | .error e => report (loadErrorText index e.message)

def buildFrom (index : Nat) : List Record → Session κ Unit
  | [] => pure ()
  | record :: rest => do
    build index record
    buildFrom (index + 1) rest

def loadRecords (records : List Record) : Session κ Unit := do
  clear
  setCurrent 0
  buildFrom 0 records
  setTotal (← get).commands.length

def loadScript (parsed : ParsedScript) : Session κ Unit := do
  loadRecords parsed.script.commands
  forM parsed.rejected fun rejection => report rejection.message

def loadJson (value : Json) : Session κ Unit := do
  loadScript (← require (ParsedScript.ofJson value))

def loadFile (path : String) : Session κ Unit := do
  loadScript (← require (ParsedScript.load (← get).context.files path))
  info s!"Loaded script from: {path}"

def saveFile [Command κ] (path : String) : Session κ Unit := do
  let exec ← get
  let written := exec.context.files.writeText path exec.toScript.pretty
  let files ← require (written.mapError (.inaccessible path))
  modify fun exec => { exec with context := { exec.context with files } }
  info s!"Saved script to: {path}"

/-! ### One part after the other -/

section
variable {α β : Type} (exec : Executor κ)

theorem runBind (session : Session κ α) (next : α → Session κ β) :
    (session >>= next).runOn exec = match session.runOn exec with
      | (.ok a, after) => (next a).runOn after
      | (.error e, after) => (.error e, after) := by
  simp only [runOn, ExceptT.run_bind, StateT.run_bind]
  rcases session.run.run exec with ⟨result | result, after⟩ <;> rfl

@[simp] theorem runPure (a : α) : (pure a : Session κ α).runOn exec = (.ok a, exec) := rfl

@[simp] theorem runGet : (get : Session κ (Executor κ)).runOn exec = (.ok exec, exec) := rfl

@[simp] theorem runModify (f : Executor κ → Executor κ) :
    (modify f : Session κ Unit).runOn exec = (.ok (), f exec) := rfl

@[simp] theorem runRequire (result : Except ScriptError α) :
    (require result : Session κ α).runOn exec = (result, exec) := rfl

end

/-! ### Records and rejections -/

/-- An executor after more commands were built and more entries reported. -/
def gain (exec : Executor κ) (commands : List κ) (reports : List String) : Executor κ :=
  { exec with
    commands := exec.commands ++ commands
    loadErrors := exec.loadErrors ++ reports
    context := Executor.reportErrors exec.context reports }

theorem gainNone (exec : Executor κ) : gain exec [] [] = exec := by
  simp [gain, Executor.reportErrors]

theorem gainMore (exec : Executor κ) (commands more : List κ) (reports others : List String) :
    gain (gain exec commands reports) more others =
      gain exec (commands ++ more) (reports ++ others) := by
  simp [gain, Executor.reportErrorsAppend]

theorem pushRuns (command : κ) (exec : Executor κ) :
    (push command).runOn exec = (.ok (), gain exec [command] []) := by
  simp [push, gain, Executor.reportErrors]

theorem reportRuns (message : String) (exec : Executor κ) :
    (report message).runOn exec = (.ok (), gain exec [] [message]) := by
  simp [report, gain, Executor.reportErrors]

theorem buildFromRuns (index : Nat) (records : List Record) (exec : Executor κ) :
    (buildFrom index records).runOn exec =
      (.ok (), gain exec (Executor.buildAll exec.registry index records).1
        (Executor.buildAll exec.registry index records).2) := by
  induction records generalizing index exec with
  | nil => rw [buildFrom, runPure, Executor.buildAll, gainNone]
  | cons record rest ih =>
    rw [buildFrom, runBind, build, runBind, runGet]
    simp only [Executor.buildAll]
    cases exec.registry.build record with
    | ok command =>
      simp only [pushRuns, ih, gainMore]
      rfl
    | error e =>
      simp only [reportRuns, ih, gainMore]
      rfl

theorem loadRecordsRuns (records : List Record) (exec : Executor κ) :
    (loadRecords records).runOn exec = (.ok (), exec.loadRecords records) := by
  simp only [loadRecords, clear, setCurrent, setTotal, runBind, runModify, buildFromRuns, runGet,
    gain, Executor.loadRecords, List.nil_append, Executor.reportErrorsControl]
  rw [(Executor.reportErrorsSame _ _).1]

theorem rejectionsRun (rejected : List Rejection) (exec : Executor κ) :
    (forM rejected fun rejection => report (κ := κ) rejection.message).runOn exec =
      (.ok (), gain exec [] (rejected.map Rejection.message)) := by
  induction rejected generalizing exec with
  | nil => rw [List.forM_nil, runPure, List.map_nil, gainNone]
  | cons rejection rest ih =>
    rw [List.forM_cons, runBind, reportRuns]
    simp only [ih, gainMore]
    rfl

theorem loadScriptRuns (parsed : ParsedScript) (exec : Executor κ) :
    (loadScript parsed).runOn exec = (.ok (), exec.loadScript parsed) := by
  rw [loadScript, runBind, loadRecordsRuns]
  simp [rejectionsRun, gain, Executor.loadScript]

/-! ### Loads and saves -/

/-- The end of a program with an executor that takes a change as a whole or not at all. -/
def settled (exec : Executor κ) : Except ScriptError (Executor κ) →
    Except ScriptError Unit × Executor κ
  | .ok changed => (.ok (), changed)
  | .error e => (.error e, exec)

theorem loadJsonRuns (value : Json) (exec : Executor κ) :
    (loadJson value).runOn exec = settled exec (exec.loadJson value) := by
  rw [loadJson, runBind, runRequire, Executor.loadJson]
  cases ParsedScript.ofJson value with
  | error e => rfl
  | ok parsed => exact loadScriptRuns parsed exec

theorem loadFileRuns (path : String) (exec : Executor κ) :
    (loadFile path).runOn exec = settled exec (exec.loadFile path) := by
  simp only [loadFile, runBind, runGet, runRequire]
  rw [Executor.loadFile]
  cases ParsedScript.load exec.context.files path with
  | error e => rfl
  | ok parsed =>
    simp only [loadScriptRuns]
    rfl

theorem saveFileRuns [Command κ] (path : String) (exec : Executor κ) :
    (saveFile path).runOn exec = settled exec (exec.saveFile path) := by
  simp only [saveFile, runBind, runGet, runRequire]
  rw [Executor.saveFile]
  cases exec.context.files.writeText path exec.toScript.pretty with
  | error cause => rfl
  | ok files => rfl

end Session

end PageScript
