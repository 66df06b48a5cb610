import Mathlib.Data.List.TakeWhile
import PageScript.Number.Numeral

/-! What a numeral is made of: digits, signs, a point and a mark of the power. -/
namespace PageScript

def isNumeric (c : Char) : Bool := isDigit c || ['+', '-', '.', 'e', 'E'].contains c

namespace Numeral

variable {cs rest : List Char}

theorem digitNumeric {c : Char} (digit : isDigit c = true) : isNumeric c = true := by
  rw [isNumeric, digit, Bool.true_or]

theorem signedNumeric (unsigned : ∀ c ∈ (signed cs).2, isNumeric c = true) :
    ∀ c ∈ cs, isNumeric c = true := by
  unfold signed at unsigned
  split at unsigned
  · exact List.forall_mem_cons.mpr ⟨by decide, unsigned⟩
  · exact List.forall_mem_cons.mpr ⟨by decide, unsigned⟩
  · exact unsigned

theorem powerChars {power : Int} (read : power? cs = some power) :
    ∀ c ∈ cs, isNumeric c = true := by
  unfold power? at read
  dsimp only at read
  split at read
  · cases read
  · rename_i digits
    rw [Bool.or_eq_true, not_or, Bool.not_eq_true', Bool.not_eq_false, List.all_eq_true] at digits
    exact signedNumeric fun c member => digitNumeric (digits.2 c member)

theorem exponentChars {power : Int} (read : exponent? cs = some power) :
    ∀ c ∈ cs, isNumeric c = true := by
  cases cs with
  | nil => exact List.forall_mem_nil _
  | cons c rest =>
    rw [exponent?] at read
    split at read
    · rename_i mark
      refine List.forall_mem_cons.mpr ⟨?_, powerChars read⟩
      simp only [Bool.or_eq_true, decide_eq_true_eq] at mark
      rcases mark with rfl | rfl <;> decide
    · cases read

theorem digitsSplit {c : Char} (member : c ∈ cs) :
    isNumeric c = true ∨ c ∈ cs.dropWhile isDigit := by
  rw [← List.takeWhile_append_dropWhile (p := isDigit) (l := cs), List.mem_append] at member
  exact member.imp_left fun digit => digitNumeric (List.mem_takeWhile_imp digit)

theorem mantissaChars {digits : Nat} {shift : Int}
    (read : mantissa cs = some (digits, shift, rest)) :
    cs ≠ [] ∧ ∀ c ∈ cs, isNumeric c = true ∨ c ∈ rest := by
  constructor
  · rintro rfl
    cases read
  · intro c member
    rcases digitsSplit member with digit | later
    · exact .inl digit
    unfold mantissa at read
    dsimp only at read
    split at read
    · rename_i after left
      split at read
      · cases read
      cases read
      rw [left] at later
      rcases List.mem_cons.mp later with rfl | later
      · exact .inl (by decide)
      · exact digitsSplit later
    · split at read
      · cases read
      cases read
      exact .inr later

theorem namedInfinite (negative : Bool) (cs : List Char) (x : Double) :
    named? negative cs ≠ some (.finite x) := by
  unfold named?
  dsimp only
  split
  · nofun
  · split <;> nofun

/-- The words for an infinity have other letters, but they give no finite number. -/
theorem finiteChars {x : Double} (read : Double.read? cs = some x) :
    cs ≠ [] ∧ ∀ c ∈ cs, isNumeric c = true := by
  have decimal : ∃ d, decimal? (signed cs).1 (signed cs).2 = some d := by
    unfold Double.read? Numeral.read? at read
    cases found : decimal? (signed cs).1 (signed cs).2 with
    | some d => exact ⟨d, rfl⟩
    | none =>
      simp only [found] at read
      split at read
      · rename_i finite
        exact absurd finite (namedInfinite _ _ _)
      · cases read
  obtain ⟨d, decimal⟩ := decimal
  unfold decimal? at decimal
  obtain ⟨⟨digits, shift, rest⟩, front, decimal⟩ := Option.bind_eq_some_iff.mp decimal
  obtain ⟨power, back, -⟩ := Option.bind_eq_some_iff.mp decimal
  obtain ⟨filled, chars⟩ := mantissaChars front
  refine ⟨?_, signedNumeric fun c member => (chars c member).elim id (exponentChars back c)⟩
  rintro rfl
  exact filled rfl

end Numeral

end PageScript
