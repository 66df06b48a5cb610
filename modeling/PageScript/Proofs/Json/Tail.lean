import PageScript.Json.Reader
import PageScript.Proofs.Basic

/-! Reading a number does not depend on the text behind it, as long as that text does not go on as a
number might. -/
namespace PageScript.Json

/-- Nothing here could be a further part of a number. -/
def Stops (rest : List Char) : Prop :=
  ∀ c ∈ rest.head?, isDigit c = false ∧ c ≠ '.' ∧ c ≠ 'e' ∧ c ≠ 'E'

theorem stopsNil : Stops [] := nofun

theorem stopsCons {c : Char} (rest : List Char)
    (stop : isDigit c = false ∧ c ≠ '.' ∧ c ≠ 'e' ∧ c ≠ 'E' := by decide) : Stops (c :: rest) := by
  intro first here
  cases here
  exact stop

namespace Number

/-- A written power after its sign. -/
def readPowerDigits (negative : Bool) (significand : Nat) (power : Int) (down : Bool)
    (digits : List Char) : Except Fault (Number × List Char) :=
  let written := digits.takeWhile isDigit
  let rest := digits.dropWhile isDigit
  if written.isEmpty then .error (missing rest)
  else if Nat.pow 2 31 ≤ digitsValue written then
    if significand ≠ 0 && !down then .error .malformed else .ok (.double (.zero negative), rest)
  else do
    let n := digitsValue written
    .ok (← ofParts negative significand (clampPower (if down then power - n else power + n)), rest)

def powerSign (cs : List Char) : Bool × List Char :=
  match cs with
  | '+' :: rest => (false, rest)
  | '-' :: rest => (true, rest)
  | _ => (false, cs)

theorem readPowerSigned (negative : Bool) (significand : Nat) (power : Int) (cs : List Char) :
    readPower negative significand power cs =
      readPowerDigits negative significand power (powerSign cs).1 (powerSign cs).2 := rfl

theorem powerSignTail (c : Char) (cs rest : List Char) :
    powerSign (c :: cs ++ rest) = ((powerSign (c :: cs)).1, (powerSign (c :: cs)).2 ++ rest) := by
  by_cases plus : c = '+'
  · subst plus
    rfl
  by_cases minus : c = '-'
  · subst minus
    rfl
  have plain (cs : List Char) : powerSign (c :: cs) = (false, c :: cs) := by
    simp [powerSign, plus, minus]
  rw [List.cons_append, plain, plain]
  rfl

theorem readRestPlain (negative : Bool) (n dropped : Nat) {c : Char} (point : c ≠ '.')
    (cs : List Char) : readRest negative n dropped (c :: cs) =
      if c = 'e' || c = 'E' || dropped ≠ 0 then readTail negative n dropped (c :: cs)
      else .ok (ofDigits negative n, c :: cs) := by
  simp [readRest]

theorem readUnsignedPlain (negative : Bool) {c : Char} (zero : c ≠ '0') (cs : List Char) :
    readUnsigned negative (c :: cs) =
      if isDigit c then
        readRest negative (gather 0 (c :: cs)).1 (gather 0 (c :: cs)).2.1 (gather 0 (c :: cs)).2.2
      else .error .malformed := by
  simp [readUnsigned]

section
variable {rest : List Char} (stops : Stops rest)
include stops

theorem takeDigits (cs : List Char) :
    (cs ++ rest).takeWhile isDigit = cs.takeWhile isDigit := by
  induction cs with
  | nil =>
    cases rest with
    | nil => rfl
    | cons c rest => simp [(stops c rfl).1]
  | cons c cs ih => simp [List.takeWhile_cons, ih]

theorem dropDigits (cs : List Char) :
    (cs ++ rest).dropWhile isDigit = cs.dropWhile isDigit ++ rest := by
  induction cs with
  | nil =>
    cases rest with
    | nil => rfl
    | cons c rest => simp [(stops c rfl).1]
  | cons c cs ih =>
    rw [List.cons_append, List.dropWhile_cons, List.dropWhile_cons, ih]
    split <;> rfl

theorem gatherTail (n : Nat) (cs : List Char) :
    gather n (cs ++ rest) = ((gather n cs).1, (gather n cs).2.1, (gather n cs).2.2 ++ rest) := by
  induction cs generalizing n with
  | nil =>
    cases rest with
    | nil => rfl
    | cons c rest => simp [gather, (stops c rfl).1]
  | cons c cs ih =>
    rw [List.cons_append, gather, gather]
    split
    · rfl
    · split
      · exact ih _
      · rw [takeDigits stops, dropDigits stops]

variable {negative : Bool} {significand dropped : Nat} {power : Int} {x : Number}
  {cs after : List Char}

theorem readPowerDigitsTail {down : Bool}
    (read : readPowerDigits negative significand power down cs = .ok (x, after)) :
    readPowerDigits negative significand power down (cs ++ rest) = .ok (x, after ++ rest) := by
  simp only [readPowerDigits, takeDigits stops, dropDigits stops] at read ⊢
  split at read
  · cases read
  · rename_i some
    rw [if_neg some]
    split at read
    · rename_i far
      rw [if_pos far]
      split at read
      · cases read
      · rename_i vanishing
        cases read
        rw [if_neg vanishing]
    · rename_i near
      rw [if_neg near]
      obtain ⟨y, parts, same⟩ := Result.bindOk.mp read
      cases same
      rw [parts, Result.okBind]

theorem readPowerTail (read : readPower negative significand power cs = .ok (x, after)) :
    readPower negative significand power (cs ++ rest) = .ok (x, after ++ rest) := by
  cases cs with
  | nil => cases read
  | cons c cs =>
    rw [readPowerSigned] at read ⊢
    rw [powerSignTail]
    exact readPowerDigitsTail stops read

theorem readTailTail (read : readTail negative significand power cs = .ok (x, after)) :
    readTail negative significand power (cs ++ rest) = .ok (x, after ++ rest) := by
  cases cs with
  | nil =>
    obtain ⟨y, parts, same⟩ := Result.mapOk.mp read
    cases same
    cases rest with
    | nil => exact read
    | cons c rest =>
      obtain ⟨-, -, lower, upper⟩ := stops c rfl
      simp [readTail, lower, upper, parts, Except.map]
  | cons c cs =>
    rw [readTail] at read
    rw [List.cons_append, readTail]
    split at read
    · rename_i mark
      rw [if_pos mark]
      exact readPowerTail stops read
    · rename_i mark
      rw [if_neg mark]
      obtain ⟨y, parts, same⟩ := Result.mapOk.mp read
      cases same
      rw [parts]
      rfl

theorem readFractionTail (read : readFraction negative significand power cs = .ok (x, after)) :
    readFraction negative significand power (cs ++ rest) = .ok (x, after ++ rest) := by
  simp only [readFraction, takeDigits stops, gatherTail stops] at read ⊢
  split at read
  · cases read
  · rename_i some
    rw [if_neg some]
    exact readTailTail stops read

theorem readRestTail (read : readRest negative significand dropped cs = .ok (x, after)) :
    readRest negative significand dropped (cs ++ rest) = .ok (x, after ++ rest) := by
  cases cs with
  | nil =>
    cases rest with
    | nil =>
      rw [List.append_nil, List.append_nil]
      exact read
    | cons c rest =>
      -- The number ended with the text before; what follows must not be taken for a part of it.
      obtain ⟨-, point, lower, upper⟩ := stops c rfl
      have plain := readRestPlain negative significand dropped point rest
      rw [decide_eq_false lower, decide_eq_false upper, Bool.false_or, Bool.false_or] at plain
      rw [readRest] at read
      rw [List.nil_append, plain]
      by_cases cut : dropped ≠ 0
      · rw [if_pos cut] at read
        rw [if_pos (decide_eq_true cut)]
        exact readTailTail stops read
      · rw [if_neg cut] at read
        cases read
        simp [cut]
  | cons c cs =>
    by_cases point : c = '.'
    · subst point
      exact readFractionTail stops read
    rw [readRestPlain negative significand dropped point] at read
    rw [List.cons_append, readRestPlain negative significand dropped point]
    split at read
    · rename_i tail
      rw [if_pos tail]
      exact readTailTail stops read
    · rename_i whole
      rw [if_neg whole]
      cases read
      rfl

theorem headDigit (cs : List Char) : (cs ++ rest).head?.any isDigit = cs.head?.any isDigit := by
  cases cs with
  | nil =>
    cases rest with
    | nil => rfl
    | cons c rest => exact (stops c rfl).1
  | cons c cs => rfl

theorem readUnsignedTail (read : readUnsigned negative cs = .ok (x, after)) :
    readUnsigned negative (cs ++ rest) = .ok (x, after ++ rest) := by
  cases cs with
  | nil => cases read
  | cons c cs =>
    by_cases zero : c = '0'
    · subst zero
      rw [readUnsigned] at read
      rw [List.cons_append, readUnsigned, headDigit stops]
      split at read
      · cases read
      · rename_i alone
        rw [if_neg alone]
        exact readRestTail stops read
    rw [readUnsignedPlain negative zero] at read
    rw [List.cons_append, readUnsignedPlain negative zero]
    split at read
    · rename_i digit
      rw [if_pos digit, ← List.cons_append, gatherTail stops]
      exact readRestTail stops read
    · cases read

/-- A number is read in the same way where a text follows it that does not go on with it. -/
theorem readNumberTail (found : Number.read cs = .ok (x, after)) :
    Number.read (cs ++ rest) = .ok (x, after ++ rest) := by
  cases cs with
  | nil => cases found
  | cons c cs =>
    by_cases minus : c = '-'
    · subst minus
      exact readUnsignedTail stops found
    have plain (cs : List Char) : Number.read (c :: cs) = readUnsigned false (c :: cs) := by
      simp [Number.read, minus]
    rw [plain] at found
    rw [List.cons_append, plain]
    exact readUnsignedTail stops found

end

end Number

end PageScript.Json
