import Mathlib.Tactic.Linarith
import PageScript.Proofs.Number.Value

/-! Halves go to the even number: what is rounded lies no further than a half from the result
(`Rounds`). -/
namespace PageScript.Double

/-- The nearest natural number; the even one of two that are as near. -/
structure Rounds (q : ℚ) (n : ℕ) : Prop where
  near : |q - n| ≤ 1 / 2
  tie : |q - n| = 1 / 2 → Even n

theorem roundsDown {q : ℚ} {n : ℕ} (above : (n : ℚ) ≤ q) (close : q - n < 1 / 2) : Rounds q n := by
  have distance : |q - n| = q - n := abs_of_nonneg (sub_nonneg.mpr above)
  exact ⟨by rw [distance]; exact close.le, fun tie => absurd (distance.symm.trans tie) close.ne⟩

theorem roundsUp {q : ℚ} {n : ℕ} (below : q ≤ n) (close : n - q < 1 / 2) : Rounds q n := by
  have distance : |q - n| = n - q := by rw [abs_sub_comm, abs_of_nonneg (sub_nonneg.mpr below)]
  exact ⟨by rw [distance]; exact close.le, fun tie => absurd (distance.symm.trans tie) close.ne⟩

theorem roundsMiddle {q : ℚ} {n : ℕ} (middle : q - n = 1 / 2) : Rounds q (n + n % 2) := by
  rcases Nat.even_or_odd n with even | odd
  · rw [Nat.even_iff.mp even, Nat.add_zero]
    exact ⟨by rw [middle, abs_of_nonneg (by norm_num)], fun _ => even⟩
  · rw [Nat.odd_iff.mp odd]
    have above : q - (n + 1 : ℕ) = -(1 / 2) := by
      push_cast
      linarith
    exact ⟨by rw [above, abs_neg, abs_of_nonneg (by norm_num)], fun _ => odd.add_one⟩

theorem halfEvenRounds (num : ℕ) {den : ℕ} (positive : 0 < den) :
    Rounds ((num : ℚ) / den) (halfEven num den) := by
  have unit : (0 : ℚ) < den := by exact_mod_cast positive
  have excess : (num : ℚ) / den - (num / den : ℕ) = (num % den : ℕ) / den := by
    rw [eq_div_iff unit.ne', sub_mul, div_mul_cancel₀ _ unit.ne', sub_eq_iff_eq_add']
    exact_mod_cast (Nat.div_add_mod' num den).symm
  have nonneg : (0 : ℚ) ≤ (num % den : ℕ) / den := by positivity
  have below : ((num % den : ℕ) : ℚ) / den < 1 := by
    rw [div_lt_one unit]
    exact_mod_cast Nat.mod_lt num positive
  unfold halfEven
  dsimp only
  split
  · rename_i less
    refine roundsDown (sub_nonneg.mp (excess ▸ nonneg)) ?_
    rw [excess, div_lt_iff₀ unit]
    have less : (2 : ℚ) * (num % den : ℕ) < den := by exact_mod_cast less
    linarith
  split
  · rename_i more
    have more : (den : ℚ) < 2 * (num % den : ℕ) := by exact_mod_cast more
    have half : 1 / 2 < ((num % den : ℕ) : ℚ) / den := by
      rw [lt_div_iff₀ unit]
      linarith
    refine roundsUp ?_ ?_ <;> push_cast <;> linarith
  · rename_i less more
    have same : 2 * (num % den) = den := Nat.le_antisymm (Nat.not_lt.mp more) (Nat.not_lt.mp less)
    refine roundsMiddle ?_
    rw [excess, div_eq_iff unit.ne']
    have same : (2 : ℚ) * (num % den : ℕ) = den := by exact_mod_cast same
    linarith

end PageScript.Double
