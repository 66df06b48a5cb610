import PageScript.Run.Wait
import PageScript.Text.Classes
import PageScript.Text.Lowercase
import PageScript.Text.Printable
import PageScript.Number.Numeral

/-! What the environment says about a run. A variable that holds only blanks is not set. -/
namespace PageScript

inductive NumeralFault where
  | empty
  | invalidDigit
  | tooLarge
  deriving DecidableEq, Repr

def NumeralFault.message : NumeralFault → String
  | .empty => "cannot parse integer from empty string"
  | .invalidDigit => "invalid digit found in string"
  | .tooLarge => "number too large to fit in target type"

/-- Digits of a number below a bound; a wrong digit counts before a number that is too large. -/
def boundedDigits (bound : Nat) : Nat → List Char → Except NumeralFault Nat
  | n, [] => .ok n
  | n, c :: rest =>
    if !isDigit c then .error .invalidDigit
    else if bound ≤ 10 * n + digitValue c then .error .tooLarge
    else boundedDigits bound (10 * n + digitValue c) rest

def readBounded (bound : Nat) : List Char → Except NumeralFault Nat
  | [] => .error .empty
  | ['+'] | ['-'] => .error .invalidDigit
  | '+' :: digits => boundedDigits bound 0 digits
  | digits => boundedDigits bound 0 digits

inductive ConfigFault where
  | numeral (fault : NumeralFault)
  | zero
  | notFlag
  | other (reason : String)
  deriving DecidableEq, Repr

def ConfigFault.reason : ConfigFault → String
  | .numeral fault => fault.message
  | .zero => "must be at least 1"
  | .notFlag => "expected true or false"
  | .other reason => reason

structure ConfigError where
  key : String
  value : String
  fault : ConfigFault
  deriving DecidableEq, Repr

def ConfigError.message (e : ConfigError) : String :=
  s!"invalid value for {e.key}: {Text.quoted e.value} ({e.fault.reason})"

structure EngineConfig where
  wait : WaitPolicy
  stopOnError : Bool
  /-- Absent where no place for settings is known. -/
  settingsPath : Option String
  deriving DecidableEq, Repr

namespace EngineConfig

abbrev Lookup := String → Option String

def loadTimeoutKey : String := "QWS_LOAD_TIMEOUT_MS"

def pollIntervalKey : String := "QWS_POLL_INTERVAL_MS"

def settleKey : String := "QWS_SETTLE_MS"

def pausePollKey : String := "QWS_PAUSE_POLL_MS"

def drainEventsKey : String := "QWS_DRAIN_EVENTS"

def stopOnErrorKey : String := "QWS_STOP_ON_ERROR"

def settingsKey : String := "QWS_SETTINGS"

def isBlankText (s : String) : Bool := s.toList.all Text.isBlank

def set? (lookup : Lookup) (key : String) : Option String :=
  (lookup key).filter (!isBlankText ·)

def millis (lookup : Lookup) (key : String) (otherwise : Nanoseconds) :
    Except ConfigError Nanoseconds :=
  match set? lookup key with
  | none => .ok otherwise
  | some value => match readBounded (Nat.pow 2 64) (Text.trim value.toList) with
    | .ok n => .ok (.ofMillis n)
    | .error fault => .error ⟨key, value, .numeral fault⟩

def flagOf? (word : String) : Option Bool :=
  if ["1", "true", "yes", "on"].contains word then some true
  else if ["0", "false", "no", "off"].contains word then some false
  else none

def flag (lookup : Lookup) (key : String) (otherwise : Bool) : Except ConfigError Bool :=
  match set? lookup key with
  | none => .ok otherwise
  | some value => match flagOf? (Text.lowerAscii (Text.trimmed value)) with
    | some b => .ok b
    | none => .error ⟨key, value, .notFlag⟩

/-- The first variable at fault is named, the timings before the flags; that the poll interval is
not zero is looked at after its form and before the last flag. -/
def ofLookup (lookup : Lookup) (defaultSettings : Option String) :
    Except ConfigError EngineConfig := do
  let loadTimeout ← millis lookup loadTimeoutKey WaitPolicy.interactive.loadTimeout
  let pollInterval ← millis lookup pollIntervalKey WaitPolicy.interactive.pollInterval
  let settleDelay ← millis lookup settleKey WaitPolicy.interactive.settleDelay
  let pausePoll ← millis lookup pausePollKey WaitPolicy.interactive.pausePoll
  let drainEvents ← flag lookup drainEventsKey WaitPolicy.interactive.drainEvents
  if pollInterval = 0 then .error ⟨pollIntervalKey, "0", .zero⟩
  let stopOnError ← flag lookup stopOnErrorKey false
  .ok {
    wait := { pollInterval, loadTimeout, settleDelay, pausePoll, drainEvents }
    stopOnError
    settingsPath := (set? lookup settingsKey).or defaultSettings }

end EngineConfig

end PageScript
