import PageScript.Files.Tree
import PageScript.Run.Clock
import PageScript.Run.Control
import PageScript.Settings.Store
import PageScript.Surface.Basic

/-! The context of a run: what commands work with, the log they write, and the flags that steer the
run. -/
namespace PageScript

inductive LogLevel where
  | debug
  | info
  | warning
  | error
  deriving DecidableEq, Repr

def LogLevel.name : LogLevel → String
  | .debug => "DEBUG"
  | .info => "INFO"
  | .warning => "WARNING"
  | .error => "ERROR"

structure LogEntry where
  timestamp : String
  level : LogLevel
  message : String
  deriving DecidableEq, Repr

namespace LogEntry

def line (entry : LogEntry) : String :=
  s!"[{entry.timestamp}] [{entry.level.name}] {entry.message}"

def toJson (entry : LogEntry) : Json :=
  .object [("timestamp", .string entry.timestamp), ("level", .string entry.level.name),
    ("message", .string entry.message)]

end LogEntry

inductive Notice where
  | entry (sink : String) (entry : LogEntry)
  /-- A command is about to run; the flags are those of that moment. -/
  | progress (index total : Nat) (description : String) (control : Control)
  deriving DecidableEq, Repr

structure Context where
  surface : Option Surface := none
  settings : Option Settings := none
  wait : WaitPolicy := .interactive
  stopOnError : Bool := false
  /-- Kept for those who set it; nothing in a run depends on it. -/
  pauseOnError : Bool := false
  sink : Option String := none
  log : Array LogEntry := #[]
  notices : Array Notice := #[]
  files : FileTree := ⟨[], []⟩
  clock : Clock := { now := 0 }
  control : Control := {}
  outside : Outside := .quiet
  accesses : Nat := 0

namespace Context

instance : Inhabited Context := ⟨{}⟩

/-! ### Log -/

def logAt (ctx : Context) (level : LogLevel) (message : String) : Context :=
  let entry : LogEntry := ⟨(CivilTime.ofNanoseconds ctx.clock.now).timeOfDay, level, message⟩
  { ctx with
    log := ctx.log.push entry
    notices := match ctx.sink with
      | some label => ctx.notices.push (.entry label entry)
      | none => ctx.notices }

def info (ctx : Context) (message : String) : Context := ctx.logAt .info message

def warn (ctx : Context) (message : String) : Context := ctx.logAt .warning message

def error (ctx : Context) (message : String) : Context := ctx.logAt .error message

def clearLog (ctx : Context) : Context := { ctx with log := #[] }

/-! ### Flags -/

def meet (ctx : Context) (moment : Moment) : Context :=
  { ctx with control := ctx.control.applyAll (ctx.outside moment) }

def reach (ctx : Context) : Context :=
  { ctx.meet (.access ctx.accesses) with accesses := ctx.accesses + 1 }

def setRunning (ctx : Context) (running : Bool) : Context :=
  let ctx := ctx.reach
  { ctx with control := { ctx.control with running } }

def setCurrent (ctx : Context) (current : Nat) : Context :=
  let ctx := ctx.reach
  { ctx with control := { ctx.control with current } }

def setTotal (ctx : Context) (total : Nat) : Context :=
  let ctx := ctx.reach
  { ctx with control := { ctx.control with total } }

def readPaused (ctx : Context) : Bool × Context :=
  let ctx := ctx.reach
  (ctx.control.paused, ctx)

def readRunning (ctx : Context) : Bool × Context :=
  let ctx := ctx.reach
  (ctx.control.running, ctx)

def announce (ctx : Context) (index total : Nat) (description : String) : Context :=
  meet { ctx with notices := ctx.notices.push (.progress index total description ctx.control) }
    (.announced index)

/-! ### Waiting -/

def drain (ctx : Context) : Context × List Signal :=
  if !ctx.wait.drainEvents then (ctx, [])
  else match ctx.surface with
    | none => (ctx, [])
    | some surface =>
      let (surface, signals) := surface.poll
      (meet { ctx with surface := some surface } (.poll surface.stage.polls), signals)

def sleep (ctx : Context) (nap : Nanoseconds) : Context := { ctx with clock := ctx.clock.sleep nap }

def idleStep (ctx : Context) : Nanoseconds := max ctx.wait.pollInterval (.ofMillis 1)

def idleIn (step remaining : Nat) (ctx : Context) : Context :=
  if _h : remaining = 0 ∨ step = 0 then ctx
  else
    let nap := min remaining step
    idleIn step (remaining - nap) (ctx.drain.1.sleep nap)
termination_by remaining

def idleFor (ctx : Context) (total : Nanoseconds) : Context := idleIn ctx.idleStep total ctx

/-! ### Description -/

def boolText (b : Bool) : String := if b then "true" else "false"

def describe (ctx : Context) : String :=
  let w := ctx.wait
  let fields (name : String) (pairs : List (String × String)) : String :=
    let parts := pairs.map fun (key, value) => key ++ ": " ++ value
    name ++ " \x7b " ++ ", ".intercalate parts ++ " \x7d"
  fields "ExecutionContext" [
    ("surface", boolText ctx.surface.isSome),
    ("settings", boolText ctx.settings.isSome),
    ("wait", fields "WaitPolicy" [
      ("poll_interval", w.pollInterval.display),
      ("load_timeout", w.loadTimeout.display),
      ("settle_delay", w.settleDelay.display),
      ("pause_poll_interval", w.pausePoll.display),
      ("drain_events", boolText w.drainEvents)]),
    ("stop_on_error", boolText ctx.stopOnError),
    ("pause_on_error", boolText ctx.pauseOnError),
    ("entries", toString ctx.log.size)]

end Context

end PageScript
