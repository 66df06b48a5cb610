import Std.Data.String.ToNat
import PageScript.Json.Writer
import PageScript.Proofs.Json.RoundTrip
import PageScript.Proofs.Number.Numeral

/-! Compact text. It stands in one line, whatever the strings of the value are: no character of it
is a control character. Whole numbers that fit 64 bits read back. -/
namespace PageScript

/-! ### Characters of numbers -/

theorem digitsNumeric (n : Nat) : ∀ c ∈ Nat.toDigits 10 n, isDigit c = true := by
  intro c member
  have digit := Nat.isDigit_of_mem_toDigits (by decide) (by decide) member
  simpa only [isDigit, Char.isDigit, Char.le_def, Bool.and_eq_true, decide_eq_true_eq] using digit

namespace NumberStyle

theorem dropZerosFrom {n : Nat} {cs : List Char} {k : Int} {c : Char}
    (member : c ∈ (dropZeros n cs k).1) : c ∈ cs := by
  induction n generalizing cs k with
  | zero => exact member
  | succ n ih =>
    rw [dropZeros] at member
    split at member
    · exact List.dropLast_subset cs (ih member)
    · exact member

theorem plainNumeric {suffix digits : List Char} (tail : ∀ c ∈ suffix, isNumeric c = true)
    (numeric : ∀ c ∈ digits, isNumeric c = true) (point : Int) :
    ∀ c ∈ plain suffix digits point, isNumeric c = true := by
  have zero : isNumeric '0' = true := by decide
  have dot : isNumeric '.' = true := by decide
  have padding (n : Nat) : ∀ c ∈ zeros n, isNumeric c = true := by
    intro c member
    rw [List.eq_of_mem_replicate member]
    exact zero
  intro c member
  unfold plain at member
  split at member
  · split at member
    · simp only [List.mem_cons] at member
      rcases member with rfl | rfl | member
      · exact zero
      · exact dot
      · exact numeric c member
    · split at member
      · simp only [List.mem_append] at member
        rcases member with (member | member) | member
        · exact numeric c member
        · exact padding _ c member
        · exact tail c member
      · simp only [List.mem_append, List.mem_cons] at member
        rcases member with member | rfl | member
        · exact numeric c (List.mem_of_mem_take member)
        · exact dot
        · exact numeric c (List.mem_of_mem_drop member)
  · simp only [List.mem_append, List.mem_cons] at member
    rcases member with (rfl | rfl | member) | member
    · exact zero
    · exact dot
    · exact padding _ c member
    · exact numeric c member

theorem markedNumeric {digits : List Char} (numeric : ∀ c ∈ digits, isNumeric c = true)
    (power : Int) : ∀ c ∈ marked digits power, isNumeric c = true := by
  intro c member
  simp only [marked, List.mem_append, List.mem_cons, List.not_mem_nil, or_false] at member
  rcases member with ((member | member) | rfl | rfl) | member
  · exact numeric c (List.mem_of_mem_take member)
  · split at member
    · cases member
    · rcases List.mem_cons.mp member with rfl | member
      · decide
      · exact numeric c (List.mem_of_mem_drop member)
  · decide
  · split <;> decide
  · exact Numeral.digitNumeric (digitsNumeric _ c member)

theorem writeNumeric {style : NumberStyle} (tail : ∀ c ∈ style.wholeSuffix, isNumeric c = true)
    (x : Double) : ∀ c ∈ style.write x, isNumeric c = true := by
  have sign : ∀ c ∈ (if x.negative then ['-'] else []), isNumeric c = true := by
    split
    · exact List.forall_mem_singleton.mpr (by decide)
    · exact List.forall_mem_nil _
  have digits : ∀ c ∈ (dropZeros (Nat.toDigits 10 (x.shortest style.tie).digits).length
      (Nat.toDigits 10 (x.shortest style.tie).digits) (x.shortest style.tie).exponent).1,
      isNumeric c = true :=
    fun c member => Numeral.digitNumeric (digitsNumeric _ c (dropZerosFrom member))
  intro c member
  unfold write at member
  dsimp only at member
  split at member
  · rcases List.mem_append.mp member with member | member
    · exact sign c member
    · rcases List.mem_cons.mp member with rfl | member
      · decide
      · exact tail c member
  · rcases List.mem_append.mp member with member | member
    · exact sign c member
    · split at member
      · exact plainNumeric tail digits _ c member
      · exact markedNumeric digits _ c member

end NumberStyle

namespace Json

theorem Number.writeNumeric (n : Number) : ∀ c ∈ n.write, isNumeric c = true := by
  cases n with
  | double x => exact NumberStyle.writeNumeric (List.all_eq_true.mp (by decide)) x
  | whole n =>
    intro c member
    rcases List.mem_append.mp member with sign | digit
    · split at sign
      · rw [List.mem_singleton.mp sign]
        decide
      · cases sign
    · exact Numeral.digitNumeric (digitsNumeric _ c digit)

/-! ### Characters of compact text -/

/-- No control character, and so no end of a line. -/
def OneLine (cs : List Char) : Prop := ∀ c ∈ cs, 0x20 ≤ c.toNat

instance : DecidablePred OneLine := List.decidableBAll _

namespace OneLine

theorem append {a b : List Char} (left : OneLine a) (right : OneLine b) : OneLine (a ++ b) :=
  List.forall_mem_append.mpr ⟨left, right⟩

theorem cons {c : Char} {cs : List Char} (rest : OneLine cs)
    (here : 0x20 ≤ c.toNat := by decide) : OneLine (c :: cs) :=
  List.forall_mem_cons.mpr ⟨here, rest⟩

end OneLine

theorem numericOneLine {cs : List Char} (numeric : ∀ c ∈ cs, isNumeric c = true) : OneLine cs := by
  intro c member
  have known := numeric c member
  simp only [isNumeric, isDigit, Bool.or_eq_true, Bool.and_eq_true, decide_eq_true_eq] at known
  rcases known with ⟨above, -⟩ | listed
  · have : '0'.toNat ≤ c.toNat := above
    exact Nat.le_trans (by decide) this
  · simp only [List.contains_iff_mem, List.mem_cons, List.not_mem_nil, or_false] at listed
    rcases listed with rfl | rfl | rfl | rfl | rfl <;> decide

theorem hexDigitVisible : ∀ n < 16, 0x20 ≤ (hexDigit n).toNat := by decide

theorem escapedOneLine (c : Char) : OneLine (escaped c) := by
  have none : OneLine [] := List.forall_mem_nil _
  unfold escaped
  iterate 7
    split
    · exact (none.cons).cons
  split
  · have first := hexDigitVisible (c.toNat / 16) (by omega)
    have second := hexDigitVisible (c.toNat % 16) (by omega)
    exact ((((none.cons second).cons first).cons).cons).cons.cons
  · rename_i visible
    exact none.cons (Nat.le_of_not_lt visible)

theorem quotedOneLine (s : String) : OneLine (quoted s) := by
  have escapes : OneLine (s.toList.flatMap escaped) := by
    intro d member
    obtain ⟨c, -, inside⟩ := List.mem_flatMap.mp member
    exact escapedOneLine c d inside
  exact escapes.cons.append (by decide)

mutual

theorem writeOneLine : ∀ value : Json, OneLine (write none value)
  | .null => by decide
  | .bool true => by decide
  | .bool false => by decide
  | .number n => numericOneLine n.writeNumeric
  | .string s => quotedOneLine s
  | .array [] => by decide
  | .array (item :: items) => by
    have inside := (writeOneLine item).append (writeItemsOneLine items)
    have bracket : OneLine [']'] := by decide
    simpa [write, Indent.deeper, Indent.gap] using (inside.append bracket).cons
  | .object [] => by decide
  | .object ((key, value) :: members) => by
    have inside := (writeOneLine value).append (writeMembersOneLine members)
    have colon : OneLine [':'] := by decide
    have bracket : OneLine ['}'] := by decide
    have named := (quotedOneLine key).append (colon.append (inside.append bracket))
    simpa [write, Indent.deeper, Indent.gap, Indent.colon] using named.cons

theorem writeItemsOneLine : ∀ items : List Json, OneLine (writeItems none items)
  | [] => by decide
  | item :: items => by
    simpa [writeItems, Indent.gap] using
      ((writeOneLine item).append (writeItemsOneLine items)).cons

theorem writeMembersOneLine : ∀ members : List (String × Json), OneLine (writeMembers none members)
  | [] => by decide
  | (key, value) :: members => by
    have inside := (writeOneLine value).append (writeMembersOneLine members)
    have colon : OneLine [':'] := by decide
    simpa [writeMembers, Indent.gap, Indent.colon] using
      ((quotedOneLine key).append (colon.append inside)).cons

end

theorem compactOneLine (value : Json) : OneLine value.compact.toList := by
  rw [compact, String.toList_ofList]
  exact writeOneLine value

/-! ### Whole numbers -/

namespace Number

theorem growsDigits (n : Nat) (cs : List Char) : n ≤ Nat.ofDigitChars 10 cs n := by
  induction cs generalizing n with
  | nil => exact Nat.le_refl n
  | cons c cs ih =>
    rw [Nat.ofDigitChars_cons]
    exact Nat.le_trans (by omega) (ih _)

theorem gatherDigits {n : Nat} {cs : List Char} (digits : ∀ c ∈ cs, isDigit c = true)
    (fits : Nat.ofDigitChars 10 cs n < Nat.pow 2 64) :
    gather n cs = (Nat.ofDigitChars 10 cs n, 0, []) := by
  induction cs generalizing n with
  | nil => rfl
  | cons c cs ih =>
    obtain ⟨digit, others⟩ := List.forall_mem_cons.mp digits
    rw [Nat.ofDigitChars_cons] at fits ⊢
    have below : 10 * n + digitValue c < Nat.pow 2 64 :=
      Nat.lt_of_le_of_lt (growsDigits _ cs) fits
    rw [gather, digit, Bool.not_true, if_neg Bool.false_ne_true, if_pos below]
    exact ih others fits

theorem leadingDigit {n : Nat} (positive : 0 < n) :
    ∃ c cs, Nat.toDigits 10 n = c :: cs ∧ c ≠ '0' := by
  have nonzero : ∀ n < 10, 0 < n → n.digitChar ≠ '0' := by decide
  induction n using Nat.strongRecOn with
  | ind n ih =>
    rw [Nat.toDigits_eq_if (by decide)]
    split
    · rename_i single
      exact ⟨_, [], rfl, nonzero n single positive⟩
    · obtain ⟨c, cs, digits, other⟩ := ih (n / 10) (by omega) (by omega)
      exact ⟨c, cs ++ [(n % 10).digitChar], by rw [digits]; rfl, other⟩

theorem wholeReadsBack {n : Nat} (fits : n < Nat.pow 2 64) : (whole n).ReadsBack := by
  have written : (whole n).write = Nat.toDigits 10 n := by simp [write]
  have value : Nat.ofDigitChars 10 (Nat.toDigits 10 n) 0 = n :=
    Nat.ofDigitChars_toDigits (by decide) (by decide)
  have gathered := gatherDigits (digitsNumeric n) (value.symm ▸ fits)
  rw [value] at gathered
  rw [ReadsBack, written]
  rcases Nat.eq_zero_or_pos n with rfl | positive
  · rfl
  · obtain ⟨c, cs, digits, other⟩ := leadingDigit positive
    have digit : isDigit c = true := digitsNumeric n c (by rw [digits]; exact List.mem_cons_self)
    rw [digits] at gathered ⊢
    have unsigned : read (c :: cs) = readUnsigned false (c :: cs) := by
      rw [read]
      rintro rest ⟨rfl, -⟩
      exact absurd digit (by decide)
    rw [unsigned, readUnsignedPlain false other, if_pos digit, gathered]
    rfl

end Number

end Json

end PageScript
