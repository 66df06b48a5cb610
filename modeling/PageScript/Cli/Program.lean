import PageScript.Browser.Endpoint
import PageScript.Cli.Arguments
import PageScript.Dashboard.Server
import PageScript.Run.Executor
import PageScript.Settings.Environment

/-! The program: what a command line does to the files around it, what it prints, and the code that
it ends with. -/
namespace PageScript.Cli

open Dashboard (RunEvent)

structure Host where
  vars : Variables := []
  files : FileTree := ⟨[], []⟩
  clock : Clock := { now := 0 }
  outside : Outside := .quiet
  settingsPath : Option String := none
  canBind : Nat → Bool := fun _ => true
  endpoint : Nat → Option Browser.Endpoint := fun _ => none

structure Report where
  code : Nat := 0
  output : String := ""
  errors : String := ""
  files : FileTree
  events : List RunEvent := []
  asks : List Browser.Ask := []

def lines (texts : List String) : String := String.join (texts.map (· ++ "\n"))

inductive Failure where
  | config (e : ConfigError)
  | settings (e : SettingsError)
  | script (e : ScriptError)
  | nothingToRun (path : String)
  | noPort (first : Nat)
  | noBrowser
  deriving DecidableEq, Repr

namespace Failure

def message : Failure → String
  | config e => e.message
  | settings e => e.message
  | script e => e.message
  | nothingToRun path => s!"no runnable commands in {path}"
  | noPort first => Dashboard.noPortMessage first
  | noBrowser => "browser launch failed"

def cause? : Failure → Option String
  | settings e => some e.cause
  | script e => e.cause?
  | noBrowser => some FileFault.absent.message
  | _ => none

def text (failure : Failure) : String :=
  lines (s!"Error: {failure.message}" :: match failure.cause? with
    | some cause => ["", "Caused by:", "    " ++ cause]
    | none => [])

end Failure

def failed (files : FileTree) (before : List String) (failure : Failure) : Report :=
  { code := 1, errors := lines before ++ failure.text, files }

/-! ### Looking at a script -/

def printed (exec : Executor Builtin) : String := lines [exec.toScript.pretty]

def loadOnly (host : Host) (script : String) : Except Failure (Executor Builtin) :=
  let context : Context := { files := host.files, clock := host.clock }
  ((Executor.ofRegistry .builtins context).loadFile script).mapError .script

def check (host : Host) (script : String) : Report :=
  match loadOnly host script with
  | .error failure => failed host.files [] failure
  | .ok exec =>
    let count := s!"{exec.commands.length} commands, {exec.loadErrors.length} load errors"
    { code := if exec.loadErrors.isEmpty then 0 else 1
      output := printed exec
      errors := lines (exec.loadErrors ++ [s!"{script}: {count}"])
      files := host.files }

def convert (host : Host) (script : String) (output : Option String) : Report :=
  match loadOnly host script with
  | .error failure => failed host.files [] failure
  | .ok exec =>
    match output with
    | none => { output := printed exec, errors := lines exec.loadErrors, files := host.files }
    | some path =>
      match exec.saveFile path with
      | .error e => failed host.files exec.loadErrors (.script e)
      | .ok saved => { errors := lines exec.loadErrors, files := saved.context.files }

/-! ### Running a script -/

def loadSettings (files : FileTree) : Option String → Except Failure (Option Settings)
  | none => .ok none
  | some path => ((Settings.load files path).mapError .settings).map some

/-- The loaded script. Nothing is started before all of it was read. -/
def prepare (host : Host) (options : RunOptions) : Except Failure (Executor Builtin) := do
  let config ← (EngineConfig.ofLookup (host.vars.lookup ·) host.settingsPath).mapError .config
  let settings ← loadSettings host.files config.settingsPath
  let exec ← ((Executor.ofRegistry .builtins {
    settings
    wait := config.wait
    stopOnError := config.stopOnError || options.stopOnError
    files := host.files
    clock := host.clock
    outside := host.outside }).loadFile options.script).mapError .script
  if exec.commands.isEmpty then .error (.nothingToRun options.script)
  .ok exec

def dashboardSink : String := "dashboard"

def serve (host : Host) (options : RunOptions) (exec : Executor Builtin) :
    Except Failure (Executor Builtin) :=
  if !options.serve then .ok exec
  else match Dashboard.choosePort host.canBind options.port with
    | none => .error (.noPort options.port)
    | some _ => .ok { exec with context := { exec.context with sink := some dashboardSink } }

def asks (host : Host) (options : RunOptions) : List Browser.Ask :=
  match options.debugPort with
  | some port => Browser.asks port (host.endpoint port)
  | none => []

def errorLine (e : RunError) : String := s!"[{e.index + 1}] {e.command}: {e.message}"

def summary (ctx : Context) : String := (ctx.log.back?.map LogEntry.line).getD ""

/-- A run is clean if no command failed and no entry of the script was left out. -/
def conclude (options : RunOptions) (success : Bool) (exec : Executor Builtin) : Report :=
  let clean := success && exec.loadErrors.isEmpty
  { code := if clean then 0 else 1
    errors := lines (exec.errors.map errorLine)
    files := exec.context.files
    events := if options.serve
      then Dashboard.published exec.context.notices.toList clean (summary exec.context)
      else [] }

/-- A rehearsal on an in-memory surface; without one a browser would be needed. No report stands for
a run that looked at its flags so often and was still paused. -/
def run (looks : Nat) (host : Host) (options : RunOptions) : Option Report :=
  match (prepare host options).bind (serve host options) with
  | .error failure => some (failed host.files [] failure)
  | .ok exec =>
    if options.dryRun then
      let ctx := { exec.context with surface := some {} }
      (Executor.execute looks { exec with context := ctx }).map fun (success, exec) =>
        conclude options success exec
    else some { failed host.files [] .noBrowser with asks := asks host options }

/-! ### Command lines -/

def helpText : List String := [
  "Run browser automation scripts",
  "",
  "Usage: qws <COMMAND>",
  "",
  "Commands:",
  "  run       Execute a script against Chrome (or an in-memory page with --dry-run)",
  "  check     Parse a script and print its canonical JSON form",
  "  convert   Convert a script to canonical JSON",
  "  commands  List the registered command kinds",
  "  help      Print this message or the help of the given subcommand(s)",
  "",
  "Options:",
  "  -h, --help     Print help",
  "  -V, --version  Print version"]

def versionText : String := "qws 0.1.0"

def commandNames : List String := (Registry.builtins : Registry Builtin).names

def detoured (files : FileTree) : Detour → Report
  | .help => { output := lines helpText, files }
  | .version => { output := lines [versionText], files }
  | .usage => { code := 2, errors := lines helpText, files }

def perform (looks : Nat) (host : Host) : Invocation → Option Report
  | .run options => run looks host options
  | .check script => some (check host script)
  | .convert script output => some (convert host script output)
  | .commands => some { output := lines commandNames, files := host.files }

/-- Nothing is done, not even the words are looked at, where a variable cannot be set. -/
def crashed (files : FileTree) (e : DotEnv.Unsettable) : Report :=
  { code := 101, errors := lines [e.message], files }

/-- The program with these words after its name; variables of a `.env` file come behind those that
are set. -/
def program (looks : Nat) (host : Host) (words : List String) : Option Report :=
  match DotEnv.load host.files host.vars with
  | .error e => some (crashed host.files e)
  | .ok vars =>
    match read vars words with
    | .error detour => some (detoured host.files detour)
    | .ok invocation => perform looks { host with vars } invocation

end PageScript.Cli
