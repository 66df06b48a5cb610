import PageScript.Json.Reader
import PageScript.Json.Writer

/-! Strings in JSON text: what is written in quotes reads back as it was, whatever characters it
holds. A character is written as itself or as an escape of it. -/
namespace PageScript.Json

theorem hexRead : ∀ n < 16, hexValue? (hexDigit n) = some n := by decide

theorem controlRead {n : Nat} (control : n < 0x20) (rest : List Char) :
    readEscape ('u' :: '0' :: '0' :: hexDigit (n / 16) :: hexDigit (n % 16) :: rest) =
      .ok (Char.ofNat n, rest) := by
  have digits : fourHex? ('0' :: '0' :: hexDigit (n / 16) :: hexDigit (n % 16) :: rest) =
      some (n, rest) := by
    have zero : hexValue? '0' = some 0 := by decide
    have value : 256 * (16 * 0 + 0) + (16 * (n / 16) + n % 16) = n := by omega
    simp only [fourHex?, zero, hexRead (n / 16) (by omega), hexRead (n % 16) (by omega)]
    exact congrArg (fun n => some (n, rest)) value
  have low : isLowSurrogate n = false := by
    rw [isLowSurrogate, Bool.and_eq_false_iff]
    exact .inl (decide_eq_false (by omega))
  have high : isHighSurrogate n = false := by
    rw [isHighSurrogate, Bool.and_eq_false_iff]
    exact .inl (decide_eq_false (by omega))
  simp only [readEscape, if_true, readUnicode, readHex, digits, bind, Except.bind, low, high,
    Bool.false_eq_true, if_false]

inductive Escaped (c : Char) : List Char → Prop
  | itself (notQuote : c ≠ '"') (notEscape : c ≠ '\\') (notControl : ¬ c.toNat < 0x20) :
      Escaped c [c]
  | escape (mark : List Char) (reads : ∀ rest, readEscape (mark ++ rest) = .ok (c, rest)) :
      Escaped c ('\\' :: mark)

theorem charEscaped (c : Char) : Escaped c (escaped c) := by
  by_cases quote : c = '"'
  · subst quote
    exact .escape ['"'] fun _ => rfl
  by_cases backslash : c = '\\'
  · subst backslash
    exact .escape ['\\'] fun _ => rfl
  by_cases newline : c = '\n'
  · subst newline
    exact .escape ['n'] fun _ => rfl
  by_cases carriage : c = '\r'
  · subst carriage
    exact .escape ['r'] fun _ => rfl
  by_cases tab : c = '\t'
  · subst tab
    exact .escape ['t'] fun _ => rfl
  by_cases backspace : c = '\x08'
  · subst backspace
    exact .escape ['b'] fun _ => rfl
  by_cases feed : c = '\x0c'
  · subst feed
    exact .escape ['f'] fun _ => rfl
  rw [escaped, if_neg quote, if_neg backslash, if_neg newline, if_neg carriage, if_neg tab,
    if_neg backspace, if_neg feed]
  split
  · rename_i control
    refine .escape _ fun rest => (controlRead control rest).trans ?_
    rw [Char.ofNat_toNat]
  · rename_i notControl
    exact .itself quote backslash notControl

theorem readCharEscaped (c : Char) (n : Nat) (done rest : List Char) :
    readStringFrom (n + 1) done (escaped c ++ rest) = readStringFrom n (c :: done) rest := by
  have form := charEscaped c
  generalize escaped c = text at form
  cases form with
  | itself notQuote notEscape notControl =>
    rw [List.cons_append, List.nil_append, readStringFrom]
    simp only [notQuote, notEscape, notControl, if_false]
  | escape mark reads =>
    rw [List.cons_append, readStringFrom]
    simp only [reads, Char.reduceEq, if_false, if_true]

theorem readStringEscaped (cs done rest : List Char) (n : Nat) (enough : cs.length < n) :
    readStringFrom n done (cs.flatMap escaped ++ '"' :: rest) =
      .ok (String.ofList (done.reverse ++ cs), rest) := by
  induction cs generalizing done n with
  | nil =>
    obtain ⟨n, rfl⟩ := Nat.exists_eq_succ_of_ne_zero (Nat.ne_of_gt enough)
    simp [readStringFrom]
  | cons c cs ih =>
    obtain ⟨n, rfl⟩ := Nat.exists_eq_succ_of_ne_zero (Nat.ne_of_gt (Nat.zero_lt_of_lt enough))
    rw [List.flatMap_cons, List.append_assoc, readCharEscaped, ih]
    · simp
    · exact Nat.lt_of_succ_lt_succ enough

theorem escapedLength (c : Char) : 1 ≤ (escaped c).length := by
  have form := charEscaped c
  generalize escaped c = text at form
  cases form <;> simp

theorem escapedLengths (cs : List Char) : cs.length ≤ (cs.flatMap escaped).length := by
  induction cs with
  | nil => exact Nat.le_refl 0
  | cons c cs ih =>
    have one := escapedLength c
    rw [List.flatMap_cons, List.length_append, List.length_cons]
    omega

/-- After the opening quote, with any text behind the closing one. -/
theorem readStringWritten (s : String) (rest : List Char) :
    readString (s.toList.flatMap escaped ++ '"' :: rest) = .ok (s, rest) := by
  have long := escapedLengths s.toList
  rw [readString, readStringEscaped]
  · rw [List.reverse_nil, List.nil_append, String.ofList_toList]
  · rw [steps, List.length_append]
    omega

theorem quotedBegins (s : String) (rest : List Char) :
    quoted s ++ rest = '"' :: (s.toList.flatMap escaped ++ '"' :: rest) := by
  simp [quoted]

end PageScript.Json
