import PageScript.Command.Basic
import PageScript.Number.Shortest

/-! Waiting for a number of seconds. -/
namespace PageScript

structure Pause where
  seconds : Double
  deriving DecidableEq, Repr

namespace Pause

/-- Seconds in a log entry have no exponent, and no point where they are whole. -/
def secondsStyle : NumberStyle := ⟨.upward, fun _ => true, []⟩

def secondsText (x : Double) : String := String.ofList (secondsStyle.write x)

def quantityText : Quantity → String
  | .finite x => secondsText x
  | .infinite negative => if negative then "-inf" else "inf"
  | .undefined => "NaN"

def limit : Nanoseconds := Nat.pow 2 64 * Nanoseconds.perSecond

def make (seconds : Double) : Except ValidationError Pause :=
  if seconds.isBelowZero then .error (.outOfRange "seconds" "must be non-negative")
  else if limit ≤ seconds.nanoseconds then .error (.outOfRange "seconds" "is too large")
  else .ok ⟨seconds⟩

def ofQuantity : Quantity → Except ValidationError Pause
  | .finite x => make x
  | other => .error (.wrongType "seconds" "a number" (quantityText other))

def ofRecord (record : Record) : Except ValidationError Pause := do
  match ← record.number? "seconds" with
  | none => .error (.missing "seconds")
  | some seconds => make seconds

def toRecord (command : Pause) : Record :=
  (Record.ofKind pauseKind).set "seconds" (.number (.double command.seconds))

def execute (command : Pause) (ctx : Context) : Outcome :=
  if command.seconds.isAboveZero then
    let ctx := ctx.info s!"Pausing for {secondsText command.seconds} seconds..."
    ((ctx.idleFor command.seconds.nanoseconds).info "Pause complete", .ok ())
  else (ctx.info "Pause duration is 0 seconds", .ok ())

end Pause

instance : Command Pause where
  kind _ := pauseKind
  toRecord := Pause.toRecord
  execute := Pause.execute

end PageScript
