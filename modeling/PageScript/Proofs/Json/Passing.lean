import PageScript.Proofs.Json.Grammar
import PageScript.Proofs.Json.Tail

/-! Values passed over. Of a string only the closing quote is looked for, and of a number only its
last digit. A reader that keeps the value finds them at the same place, so a value ends there either
way (`Spells.passed`). -/
namespace PageScript.Json

/-! ### Strings -/

theorem wordRead {word cs rest : List Char} (read : readWord word cs = .ok rest) :
    cs = word ++ rest := by
  induction word generalizing cs with
  | nil =>
    cases read
    rfl
  | cons w word ih =>
    cases cs with
    | nil => cases read
    | cons c cs =>
      rw [readWord] at read
      split at read
      · rename_i same
        rw [same, ih read, List.cons_append]
      · cases read

/-- An escape for half of a character is passed over by itself, and the other half after it. -/
theorem escapePassed {cs rest : List Char} {plain : Char}
    (read : readEscape cs = .ok (plain, rest)) :
    passEscape cs = .ok rest ∨
      ∃ half, passEscape cs = .ok ('\\' :: half) ∧ passEscape half = .ok rest := by
  cases cs with
  | nil => cases read
  | cons c text =>
    rw [readEscape] at read
    split at read
    · rename_i unicode
      rw [readUnicode] at read
      obtain ⟨⟨n, behind⟩, hex, read⟩ := Result.bindOk.mp read
      have passed : passEscape (c :: text) = .ok behind := by
        rw [passEscape, if_pos unicode, hex]
        rfl
      simp only at read
      split at read
      · cases read
      · split at read
        · rw [readLow] at read
          obtain ⟨low, mark, read⟩ := Result.bindOk.mp read
          obtain ⟨⟨m, last⟩, lowHex, read⟩ := Result.bindOk.mp read
          simp only at read
          split at read
          · obtain ⟨-, rfl⟩ := Prod.mk.inj (Except.ok.inj read)
            refine .inr ⟨'u' :: low, ?_, ?_⟩
            · rw [passed, wordRead mark]
              rfl
            · rw [passEscape, if_pos rfl, lowHex]
              rfl
          · cases read
        · cases read
          exact .inl passed
    · rename_i simple
      refine .inl ?_
      rw [passEscape, if_neg simple]
      split at read
      · rename_i found
        cases read
        rw [found]
        rfl
      · cases read

theorem stringFromPassed {n : Nat} {done cs rest : List Char} {s : String}
    (read : readStringFrom n done cs = .ok (s, rest)) {m : Nat} {after : List Char}
    (passed : passStringFrom m cs = .ok after) : after = rest := by
  induction n generalizing done cs m with
  | zero => cases read
  | succ n ih =>
    cases m with
    | zero => cases passed
    | succ m =>
      cases cs with
      | nil => cases read
      | cons c text =>
        simp only [readStringFrom] at read
        simp only [passStringFrom] at passed
        by_cases quote : c = '"'
        · rw [if_pos quote] at read passed
          cases read
          cases passed
          rfl
        rw [if_neg quote] at read passed
        by_cases escape : c = '\\'
        · rw [if_pos escape] at read passed
          split at read
          · rename_i plain behind found
            rcases escapePassed found with whole | ⟨half, first, second⟩
            · rw [whole] at passed
              exact ih read passed
            · rw [first] at passed
              cases m with
              | zero => cases passed
              | succ m =>
                simp only [passStringFrom, Char.reduceEq, if_false, if_true, second] at passed
                exact ih read passed
          · cases read
        rw [if_neg escape] at read passed
        split at read
        · cases read
        · rename_i plain
          rw [if_neg plain] at passed
          exact ih read passed

/-! ### Numbers -/

namespace Number

theorem gatherRest (n : Nat) (cs : List Char) : (gather n cs).2.2 = cs.dropWhile isDigit := by
  induction cs generalizing n with
  | nil => rfl
  | cons c cs ih =>
    rw [gather, List.dropWhile_cons]
    by_cases digit : isDigit c = true
    · simp only [digit, Bool.not_true, Bool.false_eq_true, if_false, if_true]
      split
      · exact ih _
      · rfl
    · simp [digit]

theorem digitsPassed {cs after : List Char} (passed : passDigits cs = .ok after) :
    after = cs.dropWhile isDigit := by
  rw [passDigits] at passed
  split at passed
  · cases passed
    rfl
  · cases passed

section
variable {negative : Bool} {significand dropped : Nat} {power : Int} {x : Number}
  {cs rest after : List Char}

theorem powerRest (read : readPower negative significand power cs = .ok (x, rest)) :
    rest = (powerSign cs).2.dropWhile isDigit := by
  rw [readPowerSigned, readPowerDigits] at read
  simp only at read
  split at read
  · cases read
  · split at read
    · split at read
      · cases read
      · cases read
        rfl
    · obtain ⟨y, -, same⟩ := Result.bindOk.mp read
      cases same
      rfl

theorem signPassed (cs : List Char) : (match cs with
    | d :: after => if d = '+' || d = '-' then after else cs
    | [] => []) = (powerSign cs).2 := by
  cases cs with
  | nil => rfl
  | cons d text =>
    by_cases plus : d = '+'
    · subst plus
      rfl
    by_cases minus : d = '-'
    · subst minus
      rfl
    simp [powerSign, plus, minus]

theorem tailPassed (read : readTail negative significand power cs = .ok (x, rest))
    (passed : passPower cs = .ok after) : after = rest := by
  cases cs with
  | nil =>
    obtain ⟨y, -, same⟩ := Result.mapOk.mp read
    cases same
    cases passed
    rfl
  | cons c text =>
    rw [readTail] at read
    simp only [passPower] at passed
    split at read
    · rename_i mark
      rw [if_pos mark] at passed
      have digits := digitsPassed passed
      rw [digits, powerRest read]
      exact congrArg (·.dropWhile isDigit) (signPassed text)
    · rename_i mark
      rw [if_neg mark] at passed
      obtain ⟨y, -, same⟩ := Result.mapOk.mp read
      cases same
      cases passed
      rfl

/-- What follows the digits before the point. -/
def passRest (cs : List Char) : Except Fault (List Char) := do
  match cs with
  | '.' :: after => passPower (← passDigits after)
  | _ => passPower cs

theorem restPassed (read : readRest negative significand dropped cs = .ok (x, rest))
    (passed : passRest cs = .ok after) : after = rest := by
  cases cs with
  | nil =>
    cases passed
    simp only [readRest] at read
    split at read
    · exact tailPassed read rfl
    · cases read
      rfl
  | cons c text =>
    by_cases point : c = '.'
    · subst point
      simp only [readRest, readFraction] at read
      obtain ⟨behind, digits, passed⟩ := Result.bindOk.mp passed
      rw [digitsPassed digits] at passed
      split at read
      · cases read
      · rw [gatherRest] at read
        exact tailPassed read passed
    · have plain : passRest (c :: text) = passPower (c :: text) := by simp [passRest, point]
      rw [plain] at passed
      rw [readRestPlain _ _ _ point] at read
      split at read
      · exact tailPassed read passed
      · rename_i whole
        cases read
        simp only [Bool.or_eq_true, decide_eq_true_eq, not_or] at whole
        simp only [passPower, whole.1.1, whole.1.2, decide_false, Bool.or_false,
          Bool.false_eq_true, if_false] at passed
        cases passed
        rfl

def passUnsigned (cs : List Char) : Except Fault (List Char) := do
  let rest ← match cs with
    | '0' :: rest => if rest.head?.any isDigit then .error .malformed else .ok rest
    | _ => passDigits cs
  passRest rest

theorem passUnsignedPlain {c : Char} (zero : c ≠ '0') (text : List Char) :
    passUnsigned (c :: text) = passDigits (c :: text) >>= passRest := by
  simp [passUnsigned, zero]

theorem unsignedPassed (read : readUnsigned negative cs = .ok (x, rest))
    (passed : passUnsigned cs = .ok after) : after = rest := by
  cases cs with
  | nil => cases read
  | cons c text =>
    by_cases zero : c = '0'
    · subst zero
      simp only [readUnsigned] at read
      simp only [passUnsigned] at passed
      split at read
      · cases read
      · rename_i alone
        rw [if_neg alone] at passed
        exact restPassed read passed
    · rw [passUnsignedPlain zero] at passed
      rw [readUnsignedPlain _ zero] at read
      obtain ⟨behind, digits, passed⟩ := Result.bindOk.mp passed
      split at read
      · rw [gatherRest] at read
        rw [digitsPassed digits] at passed
        exact restPassed read passed
      · cases read

def afterSign (cs : List Char) : List Char :=
  match cs with
  | '-' :: rest => rest
  | _ => cs

theorem readSigned (cs : List Char) :
    ∃ negative, Number.read cs = readUnsigned negative (afterSign cs) := by
  cases cs with
  | nil => exact ⟨false, rfl⟩
  | cons c text =>
    by_cases minus : c = '-'
    · subst minus
      exact ⟨true, rfl⟩
    · exact ⟨false, by simp [Number.read, afterSign, minus]⟩

theorem passSigned (cs : List Char) : Number.pass cs = passUnsigned (afterSign cs) := rfl

theorem numberPassed (read : Number.read cs = .ok (x, rest))
    (passed : Number.pass cs = .ok after) : after = rest := by
  obtain ⟨negative, signed⟩ := readSigned cs
  rw [signed] at read
  rw [passSigned] at passed
  exact unsignedPassed read passed

end

end Number

/-! ### Keys -/

def passKey (cs : List Char) : Except Fault (List Char) :=
  match skipSpace cs with
  | [] => .error .truncated
  | c :: rest => if c = '"' then passString rest else .error .malformed

theorem keyPassed {cs rest after : List Char} {key : String} (read : readKey cs = .ok (key, rest))
    (passed : passKey cs = .ok after) : after = rest := by
  simp only [readKey] at read
  simp only [passKey] at passed
  split at read
  · cases read
  · rename_i c text begins
    simp only [begins] at passed
    split at read
    · rename_i quote
      rw [if_pos quote] at passed
      exact stringFromPassed read passed
    · cases read

/-! ### Values -/

def passScalar (c : Char) (rest : List Char) : Except Fault (List Char) :=
  if c = 'n' then readWord ['u', 'l', 'l'] rest
  else if c = 't' then readWord ['r', 'u', 'e'] rest
  else if c = 'f' then readWord ['a', 'l', 's', 'e'] rest
  else if c = '"' then passString rest
  else if startsNumber c then Number.pass (c :: rest)
  else .error .malformed

theorem wordPassed {word text rest after : List Char} {value value' : Json}
    (read : (readWord word text).map (value, ·) = .ok (value', rest))
    (passed : readWord word text = .ok after) : after = rest := by
  rw [passed] at read
  cases read
  rfl

theorem scalarPassed {c : Char} {text rest after : List Char} {value : Json}
    (read : readScalar c text = .ok (value, rest)) (passed : passScalar c text = .ok after) :
    after = rest := by
  unfold readScalar at read
  unfold passScalar at passed
  split at read
  · rw [if_pos ‹_›] at passed
    exact wordPassed read passed
  rw [if_neg ‹_›] at passed
  split at read
  · rw [if_pos ‹_›] at passed
    exact wordPassed read passed
  rw [if_neg ‹_›] at passed
  split at read
  · rw [if_pos ‹_›] at passed
    exact wordPassed read passed
  rw [if_neg ‹_›] at passed
  split at read
  · rw [if_pos ‹_›] at passed
    obtain ⟨⟨s, behind⟩, found, same⟩ := Result.mapOk.mp read
    cases same
    exact stringFromPassed found passed
  rw [if_neg ‹_›] at passed
  split at read
  · rw [if_pos ‹_›] at passed
    obtain ⟨⟨x, behind⟩, found, same⟩ := Result.mapOk.mp read
    cases same
    exact Number.numberPassed found passed
  · cases read

def Part.pass : Part → Nat → List Char → Except Fault (List Char)
  | .value _ => passValue
  | .items _ => passItems
  | .members _ => passMembers

theorem Part.passSteps {part : Part} {n : Nat} {cs after : List Char}
    (passed : part.pass n cs = .ok after) : ∃ before, n = before + 1 := by
  cases n with
  | zero => cases part <;> cases passed
  | succ n => exact ⟨n, rfl⟩

section
variable {cs text : List Char} (n : Nat)

theorem passValueScalar {c : Char} (begins : skipSpace cs = c :: text) (plain : c ≠ '[' ∧ c ≠ '{') :
    passValue (n + 1) cs = passScalar c text := by
  simp only [passValue, begins, passScalar, plain.1, plain.2, if_false]

theorem passValueArray (begins : skipSpace cs = '[' :: text) :
    passValue (n + 1) cs = match closedAtOnce? ']' text with
      | some after => .ok after
      | none => passItems n text := by
  cases inside : closedAtOnce? ']' text <;>
    simp only [passValue, begins, inside, Char.reduceEq, if_false, if_true,
      show startsNumber '[' = false by decide, Bool.false_eq_true]

theorem passValueObject (begins : skipSpace cs = '{' :: text) :
    passValue (n + 1) cs = match closedAtOnce? '}' text with
      | some after => .ok after
      | none => passMembers n text := by
  cases inside : closedAtOnce? '}' text <;>
    simp only [passValue, begins, inside, Char.reduceEq, if_false, if_true,
      show startsNumber '{' = false by decide, Bool.false_eq_true]

end

section
variable {n : Nat} {cs after : List Char}

theorem passItemsTaken (passed : passItems (n + 1) cs = .ok after) :
    ∃ behind, passValue n cs = .ok behind ∧ (readSeparator ']' behind = .ok (.closed after) ∨
      ∃ next, readSeparator ']' behind = .ok (.more next) ∧ passItems n next = .ok after) := by
  rw [passItems] at passed
  obtain ⟨behind, first, passed⟩ := Result.bindOk.mp passed
  obtain ⟨separator, found, passed⟩ := Result.bindOk.mp passed
  cases separator with
  | closed next =>
    cases passed
    exact ⟨behind, first, .inl found⟩
  | more next => exact ⟨behind, first, .inr ⟨next, found, passed⟩⟩

theorem passMembersTaken (passed : passMembers (n + 1) cs = .ok after) :
    ∃ named text behind, passKey cs = .ok named ∧ readColon named = .ok text ∧
      passValue n text = .ok behind ∧ (readSeparator '}' behind = .ok (.closed after) ∨
        ∃ next, readSeparator '}' behind = .ok (.more next) ∧ passMembers n next = .ok after) := by
  rw [passMembers] at passed
  split at passed
  · cases passed
  · rename_i c rest begins
    split at passed
    · rename_i quote
      obtain ⟨named, name, passed⟩ := Result.bindOk.mp passed
      obtain ⟨text, colon, passed⟩ := Result.bindOk.mp passed
      obtain ⟨behind, first, passed⟩ := Result.bindOk.mp passed
      obtain ⟨separator, found, passed⟩ := Result.bindOk.mp passed
      have key : passKey cs = .ok named := by simp only [passKey, begins, if_pos quote, name]
      cases separator with
      | closed next =>
        cases passed
        exact ⟨named, text, behind, key, colon, first, .inl found⟩
      | more next =>
        exact ⟨named, text, behind, key, colon, first, .inr ⟨next, found, passed⟩⟩
    · cases passed

end

theorem Spells.passed {cs rest : List Char} {part : Part} (spelled : Spells cs part rest) {n : Nat}
    {after : List Char} (passed : part.pass n cs = .ok after) : after = rest := by
  induction spelled generalizing n after with
  | scalar begins plain read =>
    obtain ⟨n, rfl⟩ := Part.passSteps passed
    rw [Part.pass, passValueScalar n begins plain] at passed
    exact scalarPassed read passed
  | emptyArray begins closed =>
    obtain ⟨n, rfl⟩ := Part.passSteps passed
    rw [Part.pass, passValueArray n begins, closed] at passed
    cases passed
    rfl
  | array begins filled inside ih =>
    obtain ⟨n, rfl⟩ := Part.passSteps passed
    rw [Part.pass, passValueArray n begins, filled] at passed
    exact ih passed
  | emptyObject begins closed =>
    obtain ⟨n, rfl⟩ := Part.passSteps passed
    rw [Part.pass, passValueObject n begins, closed] at passed
    cases passed
    rfl
  | object begins filled inside ih =>
    obtain ⟨n, rfl⟩ := Part.passSteps passed
    rw [Part.pass, passValueObject n begins, filled] at passed
    exact ih passed
  | lastItem item closed ih =>
    obtain ⟨n, rfl⟩ := Part.passSteps passed
    obtain ⟨behind, first, found | ⟨next, found, -⟩⟩ := passItemsTaken passed
    all_goals
      cases ih first
      cases closed.symm.trans found
    rfl
  | item item more further ih others =>
    obtain ⟨n, rfl⟩ := Part.passSteps passed
    obtain ⟨behind, first, found | ⟨next, found, passed⟩⟩ := passItemsTaken passed
    all_goals
      cases ih first
      cases more.symm.trans found
    exact others passed
  | lastMember read colon value closed ih =>
    obtain ⟨n, rfl⟩ := Part.passSteps passed
    obtain ⟨named, text, behind, key, colon', first, found | ⟨next, found, -⟩⟩ :=
      passMembersTaken passed
    all_goals
      cases keyPassed read key
      cases colon.symm.trans colon'
      cases ih first
      cases closed.symm.trans found
    rfl
  | member read colon value more further ih others =>
    obtain ⟨n, rfl⟩ := Part.passSteps passed
    obtain ⟨named, text, behind, key, colon', first, found | ⟨next, found, passed⟩⟩ :=
      passMembersTaken passed
    all_goals
      cases keyPassed read key
      cases colon.symm.trans colon'
      cases ih first
      cases more.symm.trans found
    exact others passed

end PageScript.Json
