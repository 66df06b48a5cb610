import PageScript.Run.Wait

/-! The clock of a run, in nanoseconds of local time since the beginning of 1970, and the day and
time of day that it shows. -/
namespace PageScript

structure Clock where
  now : Nanoseconds
  /-- The time that passes before each reading of the clock, besides the sleeps. -/
  lag : Nat → Nanoseconds := fun _ => 0
  readings : Nat := 0

namespace Clock

instance : Inhabited Clock := ⟨{ now := 0 }⟩

def read (clock : Clock) : Nanoseconds × Clock :=
  let now := clock.now + clock.lag clock.readings
  (now, { clock with now, readings := clock.readings + 1 })

def sleep (clock : Clock) (nap : Nanoseconds) : Clock :=
  { clock with now := clock.now + max nap 1 }

end Clock

structure CivilTime where
  year : Nat
  month : Nat
  day : Nat
  hour : Nat
  minute : Nat
  second : Nat
  millisecond : Nat
  deriving DecidableEq, Repr

namespace CivilTime

/-- Years are counted from March, so that a leap day is the last of its year; the days before
1970 in these eras of 400 years come first. -/
def dateOfDay (day : Nat) : Nat × Nat × Nat :=
  let z := day + 719468
  let era := z / 146097
  let dayOfEra := z % 146097
  let yearOfEra := (dayOfEra - dayOfEra / 1460 + dayOfEra / 36524 - dayOfEra / 146096) / 365
  let dayOfYear := dayOfEra - (365 * yearOfEra + yearOfEra / 4 - yearOfEra / 100)
  let shifted := (5 * dayOfYear + 2) / 153
  let month := if shifted < 10 then shifted + 3 else shifted - 9
  let year := yearOfEra + 400 * era + (if month ≤ 2 then 1 else 0)
  (year, month, dayOfYear - (153 * shifted + 2) / 5 + 1)

def ofNanoseconds (t : Nanoseconds) : CivilTime :=
  let seconds := t / Nanoseconds.perSecond
  let (year, month, day) := dateOfDay (seconds / 86400)
  { year, month, day
    hour := seconds % 86400 / 3600
    minute := seconds % 3600 / 60
    second := seconds % 60
    millisecond := t % Nanoseconds.perSecond / 1000000 }

def padded (width n : Nat) : List Char :=
  let digits := Nat.toDigits 10 n
  List.replicate (width - digits.length) '0' ++ digits

def timeOfDay (t : CivilTime) : String :=
  String.ofList (padded 2 t.hour ++ ':' :: padded 2 t.minute ++ ':' :: padded 2 t.second)

def stamp (t : CivilTime) : List Char :=
  padded 4 t.year ++ padded 2 t.month ++ padded 2 t.day ++ padded 2 t.hour ++ padded 2 t.minute ++
    padded 2 t.second ++ '.' :: padded 3 t.millisecond

end CivilTime

end PageScript
