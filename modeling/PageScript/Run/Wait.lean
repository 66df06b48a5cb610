/-! How long a run waits, in nanoseconds. -/
namespace PageScript

abbrev Nanoseconds := Nat

namespace Nanoseconds

def ofMicros (n : Nat) : Nanoseconds := n * 1000

def ofMillis (n : Nat) : Nanoseconds := n * 1000000

def micros (t : Nanoseconds) : Nat := t / 1000

def millis (t : Nanoseconds) : Nat := t / 1000000

def perSecond : Nat := 1000000000

def fraction (digits n : Nat) : List Char :=
  let written := Nat.toDigits 10 n
  let padded := List.replicate (digits - written.length) '0' ++ written
  let kept := (padded.reverse.dropWhile (· = '0')).reverse
  if kept.isEmpty then [] else '.' :: kept

def inUnit (t unit digits : Nat) (name : String) : String :=
  String.ofList (Nat.toDigits 10 (t / unit) ++ fraction digits (t % unit)) ++ name

def display (t : Nanoseconds) : String :=
  if perSecond ≤ t then inUnit t perSecond 9 "s"
  else if 1000000 ≤ t then inUnit t 1000000 6 "ms"
  else if 1000 ≤ t then inUnit t 1000 3 "µs"
  else inUnit t 1 0 "ns"

end Nanoseconds

structure WaitPolicy where
  /-- Between looks at the load signal, and between draining events in other waits. -/
  pollInterval : Nanoseconds
  loadTimeout : Nanoseconds
  /-- After the load signal, which comes before painting is done. -/
  settleDelay : Nanoseconds
  pausePoll : Nanoseconds
  drainEvents : Bool
  deriving DecidableEq, Repr

namespace WaitPolicy

def interactive : WaitPolicy where
  pollInterval := .ofMillis 50
  loadTimeout := .ofMillis 30000
  settleDelay := .ofMillis 1000
  pausePoll := .ofMillis 100
  drainEvents := true

instance : Inhabited WaitPolicy := ⟨interactive⟩

def immediate : WaitPolicy where
  pollInterval := .ofMillis 1
  loadTimeout := .ofMillis 200
  settleDelay := 0
  pausePoll := .ofMillis 1
  drainEvents := true

end WaitPolicy

end PageScript
