import PageScript.Json.Shape
import PageScript.Proofs.Json.Passing

/-! What readers leave of a text. It is never longer than the text was, and shorter where a
character was asked for, so that the steps of a reader last as long as there are parts to be read.
-/
namespace PageScript.Json

variable {cs text rest : List Char}

theorem skipSpaceShorter {c : Char} (begins : skipSpace cs = c :: text) :
    text.length < cs.length := by
  have skipped : (skipSpace cs).length ≤ cs.length := (List.dropWhile_suffix isSpace).length_le
  rw [begins] at skipped
  exact skipped

theorem wordLength {word : List Char} (read : readWord word cs = .ok rest) :
    rest.length ≤ cs.length := by
  induction word generalizing cs with
  | nil =>
    cases read
    exact Nat.le_refl _
  | cons w word ih =>
    cases cs with
    | nil => cases read
    | cons c cs =>
      rw [readWord] at read
      split at read
      · exact Nat.le_succ_of_le (ih read)
      · cases read

theorem colonShorter (read : readColon cs = .ok rest) : rest.length < cs.length := by
  unfold readColon at read
  split at read
  · cases read
  · rename_i c text begins
    split at read
    · cases read
      exact skipSpaceShorter begins
    · cases read

theorem separatorShorter {bracket : Char} {separator : Separator}
    (read : readSeparator bracket cs = .ok separator) : match separator with
      | .more rest | .closed rest => rest.length < cs.length := by
  unfold readSeparator at read
  split at read
  · cases read
  · rename_i c text begins
    have shorter := skipSpaceShorter begins
    split at read
    · cases read
      exact shorter
    · split at read
      · cases read
        exact shorter
      · cases read

/-! ### Strings -/

theorem hexLength {n : Nat} (read : readHex cs = .ok (n, rest)) : rest.length ≤ cs.length := by
  unfold readHex at read
  split at read
  · rename_i found digits
    cases read
    unfold fourHex? at digits
    split at digits
    · obtain ⟨_, -, digits⟩ := Option.bind_eq_some_iff.mp digits
      obtain ⟨_, -, digits⟩ := Option.bind_eq_some_iff.mp digits
      obtain ⟨_, -, digits⟩ := Option.bind_eq_some_iff.mp digits
      obtain ⟨_, -, digits⟩ := Option.bind_eq_some_iff.mp digits
      cases digits
      simp only [List.length_cons]
      omega
    · cases digits
  · cases read

theorem unicodeLength {c : Char} (read : readUnicode cs = .ok (c, rest)) :
    rest.length ≤ cs.length := by
  unfold readUnicode at read
  obtain ⟨⟨n, behind⟩, hex, read⟩ := Result.bindOk.mp read
  have first := hexLength hex
  dsimp only at read
  split at read
  · cases read
  · split at read
    · unfold readLow at read
      obtain ⟨marked, mark, read⟩ := Result.bindOk.mp read
      obtain ⟨⟨low, after⟩, second, read⟩ := Result.bindOk.mp read
      have marks := wordLength mark
      have digits := hexLength second
      dsimp only at read
      split at read
      · obtain ⟨-, rfl⟩ := Prod.mk.inj (Except.ok.inj read)
        exact Nat.le_trans digits (Nat.le_trans marks first)
      · cases read
    · cases read
      exact first

theorem escapeLength {c : Char} (read : readEscape cs = .ok (c, rest)) :
    rest.length ≤ cs.length := by
  cases cs with
  | nil => cases read
  | cons d cs =>
    rw [readEscape] at read
    split at read
    · exact Nat.le_succ_of_le (unicodeLength read)
    · split at read
      · cases read
        exact Nat.le_succ _
      · cases read

theorem passEscapeLength (passed : passEscape cs = .ok rest) : rest.length ≤ cs.length := by
  cases cs with
  | nil => cases passed
  | cons d cs =>
    rw [passEscape] at passed
    split at passed
    · obtain ⟨⟨n, behind⟩, hex, same⟩ := Result.mapOk.mp passed
      cases same
      exact Nat.le_succ_of_le (hexLength hex)
    · split at passed
      · cases passed
        exact Nat.le_succ _
      · cases passed

theorem stringFromLength {n : Nat} {done : List Char} {s : String}
    (read : readStringFrom n done cs = .ok (s, rest)) : rest.length ≤ cs.length := by
  induction n generalizing cs done with
  | zero => cases read
  | succ n ih =>
    cases cs with
    | nil => cases read
    | cons c cs =>
      rw [readStringFrom] at read
      split at read
      · cases read
        exact Nat.le_succ _
      · split at read
        · split at read
          · rename_i escape
            exact Nat.le_succ_of_le (Nat.le_trans (ih read) (escapeLength escape))
          · cases read
        · split at read
          · cases read
          · exact Nat.le_succ_of_le (ih read)

theorem passStringLength {n : Nat} (passed : passStringFrom n cs = .ok rest) :
    rest.length ≤ cs.length := by
  induction n generalizing cs with
  | zero => cases passed
  | succ n ih =>
    cases cs with
    | nil => cases passed
    | cons c cs =>
      rw [passStringFrom] at passed
      split at passed
      · cases passed
        exact Nat.le_succ _
      · split at passed
        · split at passed
          · rename_i escape
            exact Nat.le_succ_of_le (Nat.le_trans (ih passed) (passEscapeLength escape))
          · cases passed
        · split at passed
          · cases passed
          · exact Nat.le_succ_of_le (ih passed)

theorem keyLength {key : String} (read : readKey cs = .ok (key, rest)) :
    rest.length ≤ cs.length := by
  unfold readKey at read
  split at read
  · cases read
  · rename_i c text begins
    split at read
    · exact Nat.le_trans (stringFromLength read) (Nat.le_of_lt (skipSpaceShorter begins))
    · cases read

theorem wantStringLength {s : String} (read : wantString cs = .ok (s, rest)) :
    rest.length ≤ cs.length := by
  unfold wantString at read
  split at read
  · rename_i c text begins
    split at read
    · exact Nat.le_trans (stringFromLength read) (Nat.le_of_lt (skipSpaceShorter begins))
    · cases read
  · cases read

theorem wantNullLength (read : wantNull cs = .ok rest) : rest.length ≤ cs.length := by
  unfold wantNull at read
  split at read
  · rename_i c text begins
    split at read
    · exact Nat.le_trans (wordLength read) (Nat.le_of_lt (skipSpaceShorter begins))
    · cases read
  · cases read

/-! ### Numbers -/

namespace Number

theorem passDigitsLength (passed : passDigits cs = .ok rest) : rest.length ≤ cs.length := by
  unfold passDigits at passed
  split at passed
  · cases passed
    exact (List.dropWhile_suffix isDigit).length_le
  · cases passed

theorem passPowerLength (passed : passPower cs = .ok rest) : rest.length ≤ cs.length := by
  cases cs with
  | nil =>
    cases passed
    exact Nat.le_refl _
  | cons c cs =>
    simp only [passPower] at passed
    split at passed
    · have digits := passDigitsLength passed
      refine Nat.le_succ_of_le (Nat.le_trans digits ?_)
      cases cs with
      | nil => exact Nat.le_refl _
      | cons d cs =>
        dsimp only
        split
        · exact Nat.le_succ _
        · exact Nat.le_refl _
    · cases passed
      exact Nat.le_refl _

theorem passRestLength (passed : passRest cs = .ok rest) : rest.length ≤ cs.length := by
  unfold passRest at passed
  split at passed
  · obtain ⟨behind, digits, passed⟩ := Result.bindOk.mp passed
    exact Nat.le_succ_of_le (Nat.le_trans (passPowerLength passed) (passDigitsLength digits))
  · exact passPowerLength passed

theorem passUnsignedLength (passed : passUnsigned cs = .ok rest) : rest.length ≤ cs.length := by
  cases cs with
  | nil => cases passed
  | cons c text =>
    by_cases zero : c = '0'
    · subst zero
      simp only [passUnsigned] at passed
      split at passed
      · cases passed
      · exact Nat.le_succ_of_le (passRestLength passed)
    · rw [passUnsignedPlain zero] at passed
      obtain ⟨behind, digits, passed⟩ := Result.bindOk.mp passed
      exact Nat.le_trans (passRestLength passed) (passDigitsLength digits)

theorem passLength (passed : Number.pass cs = .ok rest) : rest.length ≤ cs.length := by
  have sign : (afterSign cs).length ≤ cs.length := by
    unfold afterSign
    split
    · exact Nat.le_succ _
    · exact Nat.le_refl _
  exact Nat.le_trans (passUnsignedLength passed) sign

end Number

/-! ### Values -/

theorem passScalarLength {c : Char} (passed : passScalar c cs = .ok rest) :
    rest.length ≤ (c :: cs).length := by
  unfold passScalar at passed
  iterate 3
    split at passed
    · exact Nat.le_succ_of_le (wordLength passed)
  split at passed
  · exact Nat.le_succ_of_le (passStringLength passed)
  · split at passed
    · exact Number.passLength passed
    · cases passed

theorem passKeyLength (passed : passKey cs = .ok rest) : rest.length ≤ cs.length := by
  unfold passKey at passed
  split at passed
  · cases passed
  · rename_i c text begins
    split at passed
    · exact Nat.le_trans (passStringLength passed) (Nat.le_of_lt (skipSpaceShorter begins))
    · cases passed

theorem closedShorter {bracket : Char} (closed : closedAtOnce? bracket cs = some rest) :
    rest.length < cs.length := by
  unfold closedAtOnce? at closed
  split at closed
  · rename_i c text begins
    split at closed
    · cases closed
      exact skipSpaceShorter begins
    · cases closed
  · cases closed

theorem insideLength {c bracket : Char} {passed : Except Fault (List Char)}
    (begins : skipSpace cs = c :: text) (others : passed = .ok rest → rest.length ≤ text.length)
    (taken : (match closedAtOnce? bracket text with
      | some after => Except.ok after
      | none => passed) = .ok rest) : rest.length ≤ cs.length := by
  have shorter := skipSpaceShorter begins
  split at taken
  · rename_i closed
    cases taken
    exact Nat.le_of_lt (Nat.lt_trans (closedShorter closed) shorter)
  · exact Nat.le_trans (others taken) (Nat.le_of_lt shorter)

theorem readersLength (n : Nat) :
    (∀ cs rest, passValue n cs = .ok rest → rest.length ≤ cs.length) ∧
    (∀ cs rest, passItems n cs = .ok rest → rest.length ≤ cs.length) ∧
    (∀ cs rest, passMembers n cs = .ok rest → rest.length ≤ cs.length) := by
  induction n with
  | zero => exact ⟨nofun, nofun, nofun⟩
  | succ n ih =>
    obtain ⟨values, inItems, inMembers⟩ := ih
    refine ⟨fun cs rest passed => ?_, fun cs rest passed => ?_, fun cs rest passed => ?_⟩
    · cases begins : skipSpace cs with
      | nil =>
        simp only [passValue, begins] at passed
        cases passed
      | cons c text =>
        by_cases array : c = '['
        · subst array
          rw [passValueArray n begins] at passed
          exact insideLength begins (inItems _ _) passed
        by_cases object : c = '{'
        · subst object
          rw [passValueObject n begins] at passed
          exact insideLength begins (inMembers _ _) passed
        rw [passValueScalar n begins ⟨array, object⟩] at passed
        exact Nat.le_trans (passScalarLength passed) (skipSpaceShorter begins)
    · obtain ⟨behind, first, closed | ⟨next, more, further⟩⟩ := passItemsTaken passed
      · exact Nat.le_trans (Nat.le_of_lt (separatorShorter closed)) (values _ _ first)
      · have after := separatorShorter more
        have here := values _ _ first
        have others := inItems _ _ further
        omega
    · obtain ⟨named, text, behind, key, colon, first, closed | ⟨next, more, further⟩⟩ :=
        passMembersTaken passed
      all_goals
        have name := passKeyLength key
        have mark := colonShorter colon
        have here := values _ _ first
      · have after := separatorShorter closed
        dsimp only at after
        omega
      · have after := separatorShorter more
        have others := inMembers _ _ further
        dsimp only at after
        omega

theorem passedLength (passed : pass cs = .ok rest) : rest.length ≤ cs.length :=
  (readersLength _).1 _ _ passed

end PageScript.Json
