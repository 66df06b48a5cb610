import Mathlib.Algebra.Ring.Nat
import PageScript.Run.Clock

/-! What a clock shows. A day has a date of its own, and a reading tells its instant to the
millisecond. The part of a stamp that says a number has a fixed width, so a stamp says what reading
it is of. -/
namespace PageScript.CivilTime

/-! ### Days of an era -/

def yearOfEra (day : Nat) : Nat := (day - day / 1460 + day / 36524 - day / 146096) / 365

/-- The days of an era that come before a year of it. -/
def daysBefore (year : Nat) : Nat := 365 * year + year / 4 - year / 100

def dayOfYear (day : Nat) : Nat := day - daysBefore (yearOfEra day)

variable {day : Nat}

theorem yearWithin (inEra : day < 146097) : yearOfEra day < 400 := by
  unfold yearOfEra
  omega

/-- The leap days that the two ways of counting them, by days and by years, find before a day differ
by one at most. -/
theorem leapDays (inEra : day < 146097) :
    (yearOfEra day / 100 = day / 36524 ∨ yearOfEra day / 100 + 1 = day / 36524) ∧
    (yearOfEra day / 4 = day / 1460 ∨ yearOfEra day / 4 + 1 = day / 1460) := by
  unfold yearOfEra
  omega

theorem yearBegun (inEra : day < 146097) : daysBefore (yearOfEra day) ≤ day := by
  have leaps := leapDays inEra
  unfold yearOfEra at leaps
  unfold daysBefore yearOfEra
  omega

theorem yearGoesOn (inEra : day < 146097) : dayOfYear day ≤ 365 := by
  have leaps := leapDays inEra
  unfold yearOfEra at leaps
  unfold dayOfYear daysBefore yearOfEra
  omega

/-! ### Dates -/

/-- The month of a year from March, the first one being zero. -/
def monthOfYear (day : Nat) : Nat := (5 * day + 2) / 153

def dayOfMonth (day : Nat) : Nat := day - (153 * monthOfYear day + 2) / 5 + 1

theorem monthBegun (day : Nat) : (153 * monthOfYear day + 2) / 5 ≤ day := by
  unfold monthOfYear
  omega

theorem monthGoesOn (day : Nat) : dayOfMonth day ≤ 31 := by
  unfold dayOfMonth monthOfYear
  omega

theorem monthWithin (within : day ≤ 365) : monthOfYear day ≤ 11 := by
  unfold monthOfYear
  omega

theorem dateParts (day : Nat) :
    let era := (day + 719468) / 146097
    let dayOfEra := (day + 719468) % 146097
    let month := monthOfYear (dayOfYear dayOfEra)
    dateOfDay day =
      (yearOfEra dayOfEra + 400 * era + if month < 10 then 0 else 1,
        if month < 10 then month + 3 else month - 9, dayOfMonth (dayOfYear dayOfEra)) := by
  intro era dayOfEra month
  change (_ + if (if month < 10 then month + 3 else month - 9) ≤ 2 then 1 else 0, _, _) = _
  have within : month ≤ 11 := monthWithin (yearGoesOn (Nat.mod_lt _ (by decide)))
  congr 2
  split <;> split <;> omega

theorem dateWithin (day : Nat) : (dateOfDay day).2.1 ≤ 12 ∧ (dateOfDay day).2.2 ≤ 31 := by
  have within := monthWithin (yearGoesOn (Nat.mod_lt (day + 719468) (by decide)))
  rw [dateParts]
  refine ⟨?_, monthGoesOn _⟩
  dsimp only
  split <;> omega

theorem dateInjective {first second : Nat} (same : dateOfDay first = dateOfDay second) :
    first = second := by
  have within (day : Nat) : (day + 719468) % 146097 < 146097 := Nat.mod_lt _ (by decide)
  have months := monthWithin (yearGoesOn (within first))
  have otherMonths := monthWithin (yearGoesOn (within second))
  have begun := monthBegun (dayOfYear ((first + 719468) % 146097))
  have otherBegun := monthBegun (dayOfYear ((second + 719468) % 146097))
  have years := yearWithin (within first)
  have otherYears := yearWithin (within second)
  have left := yearBegun (within first)
  have right := yearBegun (within second)
  rw [dateParts, dateParts] at same
  simp only [Prod.mk.injEq, dayOfMonth] at same
  obtain ⟨year, month, day⟩ := same
  have sameMonth : monthOfYear (dayOfYear ((first + 719468) % 146097)) =
      monthOfYear (dayOfYear ((second + 719468) % 146097)) := by
    split at month <;> split at month <;> omega
  have sameYear : yearOfEra ((first + 719468) % 146097) =
      yearOfEra ((second + 719468) % 146097) := by
    rw [sameMonth] at year
    omega
  have sameDay : dayOfYear ((first + 719468) % 146097) =
      dayOfYear ((second + 719468) % 146097) := by
    rw [sameMonth] at begun day
    omega
  rw [sameMonth] at year
  simp only [dayOfYear, sameYear] at sameDay
  rw [sameYear] at left year
  omega

/-! ### Readings -/

/-- What a clock can show in a year of four digits. -/
structure Reading (time : CivilTime) : Prop where
  year : time.year < 10000
  month : time.month ≤ 12
  day : time.day ≤ 31
  hour : time.hour < 24
  minute : time.minute < 60
  second : time.second < 60
  millisecond : time.millisecond < 1000

theorem ofNanosecondsReading {t : Nanoseconds} (year : (ofNanoseconds t).year < 10000) :
    (ofNanoseconds t).Reading := by
  have date := dateWithin (t / Nanoseconds.perSecond / 86400)
  refine ⟨year, date.1, date.2, ?_, ?_, ?_, ?_⟩
  all_goals
    simp only [ofNanoseconds, Nanoseconds.perSecond]
    omega

/-- Readings are the same to the millisecond. -/
theorem ofNanosecondsSame {first second : Nanoseconds} :
    ofNanoseconds first = ofNanoseconds second ↔ first.millis = second.millis := by
  simp only [ofNanoseconds, mk.injEq, Nanoseconds.millis, Nanoseconds.perSecond]
  constructor
  · rintro ⟨year, month, day, hour, minute, seconds, millisecond⟩
    have sameDay := dateInjective (Prod.ext year (Prod.ext month day))
    omega
  · intro same
    have seconds (t : Nat) : t / 1000000000 = t / 1000000 / 1000 := by omega
    have millis (t : Nat) : t % 1000000000 / 1000000 = t / 1000000 % 1000 := by omega
    simp only [seconds, millis, same, true_and]

/-! ### Stamps -/

theorem paddedLength {width n : Nat} (positive : 0 < width) (fits : n < 10 ^ width) :
    (padded width n).length = width := by
  have short := (Nat.length_toDigits_le_iff (by decide) positive).mpr fits
  rw [padded, List.length_append, List.length_replicate, Nat.sub_add_cancel short]

theorem paddedDigits (width n : Nat) : ∀ c ∈ padded width n, c.isDigit = true := by
  intro c member
  rcases List.mem_append.mp member with zero | digit
  · rw [List.eq_of_mem_replicate zero]
    rfl
  · exact Nat.isDigit_of_mem_toDigits (by decide) (by decide) digit

theorem paddedValue (width n : Nat) : Nat.ofDigitChars 10 (padded width n) 0 = n := by
  rw [padded, Nat.ofDigitChars_append, Nat.ofDigitChars_replicate_zero, Nat.mul_zero,
    Nat.ofDigitChars_ten_toDigits]

theorem paddedNext {width first second : Nat} {rest others : List Char} (positive : 0 < width)
    (fits : first < 10 ^ width) (otherFits : second < 10 ^ width)
    (same : padded width first ++ rest = padded width second ++ others) :
    first = second ∧ rest = others := by
  have length := (paddedLength positive fits).trans (paddedLength positive otherFits).symm
  obtain ⟨number, rest⟩ := List.append_inj same length
  refine ⟨?_, rest⟩
  rw [← paddedValue width first, number, paddedValue]

variable {time other : CivilTime}

def dateTime (time : CivilTime) : List Char :=
  padded 4 time.year ++ padded 2 time.month ++ padded 2 time.day ++ padded 2 time.hour ++
    padded 2 time.minute ++ padded 2 time.second

theorem stampParts (time : CivilTime) :
    time.stamp = time.dateTime ++ '.' :: padded 3 time.millisecond := by
  simp [stamp, dateTime]

theorem Reading.dateTimeLength (reading : time.Reading) : time.dateTime.length = 14 := by
  obtain ⟨year, month, day, hour, minute, second, -⟩ := reading
  simp only [dateTime, List.length_append]
  rw [paddedLength, paddedLength, paddedLength, paddedLength, paddedLength, paddedLength]
  all_goals omega

theorem Reading.millisLength (reading : time.Reading) :
    (padded 3 time.millisecond).length = 3 :=
  paddedLength (by decide) reading.millisecond

theorem Reading.stampLength (reading : time.Reading) : time.stamp.length = 18 := by
  rw [stampParts, List.length_append, reading.dateTimeLength, List.length_cons,
    reading.millisLength]

theorem dateTimeDigits (time : CivilTime) : ∀ c ∈ time.dateTime, c.isDigit = true := by
  intro c member
  simp only [dateTime, List.mem_append] at member
  rcases member with ((((member | member) | member) | member) | member) | member
  all_goals exact paddedDigits _ _ c member

theorem Reading.stampInjective (reading : time.Reading) (otherReading : other.Reading)
    (same : time.stamp = other.stamp) : time = other := by
  obtain ⟨year, month, day, hour, minute, second, millisecond⟩ := reading
  obtain ⟨year', month', day', hour', minute', second', millisecond'⟩ := otherReading
  simp only [stamp, List.append_assoc] at same
  obtain ⟨years, same⟩ := paddedNext (by decide) year year' same
  obtain ⟨months, same⟩ := paddedNext (by decide) (by omega) (by omega) same
  obtain ⟨days, same⟩ := paddedNext (by decide) (by omega) (by omega) same
  obtain ⟨hours, same⟩ := paddedNext (by decide) (by omega) (by omega) same
  obtain ⟨minutes, same⟩ := paddedNext (by decide) (by omega) (by omega) same
  obtain ⟨seconds, same⟩ := paddedNext (by decide) (by omega) (by omega) same
  have fraction := congrArg (· ++ []) (List.cons.inj same).2
  obtain ⟨millis, -⟩ := paddedNext (by decide) millisecond millisecond' fraction
  cases time
  cases other
  congr

end PageScript.CivilTime
