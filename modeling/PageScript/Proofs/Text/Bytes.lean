import Mathlib.Tactic.SplitIfs

/-! Texts and their bytes. The order of texts is that of their bytes: what is less by code points is
also less byte by byte. Bytes say one text, in which those that belong to no character are marked.
-/
namespace PageScript.Text

def bytes (text : String) : List UInt8 := text.toUTF8.data.toList

theorem bytesEncoded (text : String) : bytes text = text.toList.flatMap String.utf8EncodeChar := by
  rw [bytes, String.toUTF8_eq_toByteArray, ← String.utf8Encode_toList, List.utf8Encode]
  exact List.toList_data_toByteArray

section
variable {m n : Nat}

theorem byteLess (first : m < 256) (second : n < 256) : UInt8.ofNat m < UInt8.ofNat n ↔ m < n := by
  rw [UInt8.lt_iff_toNat_lt, UInt8.toNat_ofNat', UInt8.toNat_ofNat']
  omega

theorem byteSame (first : m < 256) (second : n < 256) : UInt8.ofNat m = UInt8.ofNat n ↔ m = n := by
  rw [← UInt8.toNat_inj, UInt8.toNat_ofNat', UInt8.toNat_ofNat']
  omega

end

/-- The codes differ within the shorter of the two, so what follows them does not matter. -/
theorem encodedLess {c d : Char} (less : c < d) (rest other : List UInt8) :
    String.utf8EncodeChar c ++ rest < String.utf8EncodeChar d ++ other := by
  have less : c.val.toNat < d.val.toNat := less
  have bound : d.val.toNat < 1114112 := by
    rcases d.valid with low | high
    · exact Nat.lt_trans low (by decide)
    · exact high.2
  have second (v : Nat) : v / 4096 = v / 64 / 64 := by omega
  have third (v : Nat) : v / 262144 = v / 64 / 64 / 64 := by omega
  simp only [String.utf8EncodeChar, second, third]
  generalize c.val.toNat = m at *
  generalize d.val.toNat = n at *
  split_ifs
  all_goals
    simp only [List.cons_append, List.nil_append, List.cons_lt_cons_iff]
    simp (disch := omega) only [byteLess, byteSame]
    omega

theorem flatLess {cs ds : List Char} (less : cs < ds) :
    cs.flatMap String.utf8EncodeChar < ds.flatMap String.utf8EncodeChar := by
  induction less with
  | nil =>
    rename_i d ds
    obtain ⟨byte, others, code⟩ := List.exists_cons_of_ne_nil (String.utf8EncodeChar_ne_nil (c := d))
    rw [List.flatMap_cons, code]
    exact List.nil_lt_cons _ _
  | rel before => exact encodedLess before _ _
  | cons _ ih =>
    rw [List.flatMap_cons, List.flatMap_cons]
    exact List.append_left_lt ih

theorem bytesLess {first second : String} (less : first < second) : bytes first < bytes second := by
  rw [bytesEncoded, bytesEncoded]
  exact flatLess less

/-! ### The text that bytes say -/

theorem encodedSame {c d : Char} {rest other : List UInt8}
    (same : String.utf8EncodeChar c ++ rest = String.utf8EncodeChar d ++ other) :
    c = d ∧ rest = other := by
  have first : c = d := by
    rcases Std.lt_trichotomy c d with less | equal | greater
    · have before := encodedLess less rest other
      rw [same] at before
      exact absurd before (List.lt_irrefl _)
    · exact equal
    · have before := encodedLess greater other rest
      rw [same] at before
      exact absurd before (List.lt_irrefl _)
  subst first
  exact ⟨rfl, List.append_cancel_left same⟩

inductive Decodes : List UInt8 → List Char → Prop
  | nil : Decodes [] []
  | char {c : Char} {rest : List UInt8} {cs : List Char} (further : Decodes rest cs) :
      Decodes (String.utf8EncodeChar c ++ rest) (c :: cs)
  | stray {byte : UInt8} {rest : List UInt8} {cs : List Char}
      (alone : ∀ c other, byte :: rest ≠ String.utf8EncodeChar c ++ other)
      (further : Decodes rest cs) : Decodes (byte :: rest) ('\ufffd' :: cs)

theorem encodedFilled (c : Char) (rest : List UInt8) : String.utf8EncodeChar c ++ rest ≠ [] :=
  List.append_ne_nil_of_left_ne_nil String.utf8EncodeChar_ne_nil rest

theorem Decodes.unique {bytes : List UInt8} {cs ds : List Char} (first : Decodes bytes cs)
    (second : Decodes bytes ds) : cs = ds := by
  induction first generalizing ds with
  | nil =>
    generalize none : [] = bytes at second
    cases second with
    | nil => rfl
    | char => exact absurd none.symm (encodedFilled _ _)
    | stray => cases none
  | @char c rest cs further ih =>
    generalize same : String.utf8EncodeChar c ++ rest = bytes at second
    cases second with
    | nil => exact absurd same (encodedFilled _ _)
    | char others =>
      obtain ⟨rfl, rfl⟩ := encodedSame same
      exact congrArg (c :: ·) (ih others)
    | stray alone => exact absurd same.symm (alone c rest)
  | @stray byte rest cs alone further ih =>
    generalize same : byte :: rest = bytes at second
    cases second with
    | nil => cases same
    | char => exact absurd same (alone _ _)
    | stray _ others =>
      cases same
      exact congrArg ('\ufffd' :: ·) (ih others)

end PageScript.Text
