import Mathlib.Algebra.Order.Field.Power
import Mathlib.Algebra.Order.Field.Rat
import Mathlib.Tactic.Positivity
import PageScript.Command.Pause

/-! The rational number that a double stands for, and what is said of a double by comparing it: on
which side of zero it lies, and whether a pause can be that long. -/
namespace PageScript

namespace Double

def magnitude (x : Double) : ℚ := x.significand * 2 ^ x.exponent

def value (x : Double) : ℚ := if x.negative then -x.magnitude else x.magnitude

variable {x : Double}

theorem magnitudeNonneg (x : Double) : 0 ≤ x.magnitude := by
  unfold magnitude
  positivity

theorem magnitudeZero (x : Double) : x.magnitude = 0 ↔ x.isZero = true := by
  have unit : (2 : ℚ) ^ x.exponent ≠ 0 := by positivity
  rw [magnitude, mul_eq_zero, or_iff_left unit, Nat.cast_eq_zero, isZero, decide_eq_true_eq]

theorem belowZero : x.isBelowZero = true ↔ x.value < 0 := by
  have here := x.magnitudeNonneg
  have zero := x.magnitudeZero
  rw [isBelowZero, value]
  cases x.negative with
  | false => simpa using here
  | true =>
    rw [if_pos rfl, neg_lt_zero, Bool.true_and, Bool.not_eq_true', ← Bool.not_eq_true, ← zero]
    exact ⟨fun filled => lt_of_le_of_ne here (Ne.symm filled), ne_of_gt⟩

theorem notBelowZero : x.isBelowZero = false ↔ 0 ≤ x.value := by
  rw [← not_lt, ← belowZero, Bool.not_eq_true]

theorem valueMagnitude (notBelow : 0 ≤ x.value) : x.value = x.magnitude := by
  have here := x.magnitudeNonneg
  rw [value] at notBelow ⊢
  cases negative : x.negative with
  | false => rfl
  | true =>
    rw [negative, if_pos rfl] at notBelow
    have nothing : x.magnitude = 0 := le_antisymm (neg_nonneg.mp notBelow) here
    rw [if_pos rfl, nothing, neg_zero]

theorem ratioPositive (x : Double) : 0 < x.ratio.2 := by
  unfold ratio
  split
  · exact Nat.one_pos
  · exact Nat.pow_pos (by decide)

theorem magnitudeRatio (x : Double) : x.magnitude = x.ratio.1 / x.ratio.2 := by
  unfold magnitude ratio
  split
  · rename_i k exponent
    simp [exponent]
  · rename_i k exponent
    simp [exponent, zpow_negSucc, div_eq_mul_inv]

theorem halfEvenExact (n : Nat) : halfEven n 1 = n := by
  simp [halfEven, Nat.mod_one]

theorem halfEvenAbove (num den : Nat) : halfEven num den ≤ num / den + 1 := by
  have parity := Nat.mod_lt (num / den) Nat.two_pos
  unfold halfEven
  dsimp only
  split
  · omega
  · split <;> omega

end Double

namespace Pause

variable {seconds : Double}

theorem limitSize : limit = 2 ^ 64 * 10 ^ 9 := rfl

theorem nanosecondsRatio (x : Double) :
    x.nanoseconds = Double.halfEven (x.ratio.1 * 10 ^ 9) x.ratio.2 := rfl

theorem limitReached (notBelow : 0 ≤ seconds.value) :
    limit ≤ seconds.nanoseconds ↔ 2 ^ 64 ≤ seconds.value := by
  have size : seconds.significand < 2 ^ 53 := seconds.canonical.1
  rw [Double.valueMagnitude notBelow, Double.magnitudeRatio,
    le_div_iff₀ (by exact_mod_cast seconds.ratioPositive), nanosecondsRatio, limitSize]
  cases exponent : seconds.exponent with
  | ofNat k =>
    have whole : seconds.ratio = (seconds.significand * 2 ^ k, 1) := by
      rw [Double.ratio, exponent]
      rfl
    rw [whole, Double.halfEvenExact]
    generalize seconds.significand * 2 ^ k = n
    norm_cast
    exact (Nat.mul_le_mul_right_iff (by decide)).trans (by rw [Nat.mul_one])
  | negSucc k =>
    have parts : seconds.ratio = (seconds.significand, 2 ^ (k + 1)) := by
      rw [Double.ratio, exponent]
      rfl
    have unit : 1 ≤ 2 ^ (k + 1) := Nat.one_le_two_pow
    -- Fewer than 53 bits stand before the point, so rounding takes none across the limit.
    rw [parts]
    refine iff_of_false (Nat.not_le.mpr ?_) (not_le.mpr ?_)
    · have above := Double.halfEvenAbove (seconds.significand * 10 ^ 9) (2 ^ (k + 1))
      have fewer := Nat.div_le_self (seconds.significand * 10 ^ 9) (2 ^ (k + 1))
      dsimp only
      omega
    · generalize 2 ^ (k + 1) = den at unit
      norm_cast
      omega

end Pause

end PageScript
