import PageScript.Proofs.Text.Trim
import PageScript.Text.Lowercase

/-! Lower case of ASCII words, and the words that are spellings of one in letters. -/
namespace PageScript.Text

variable {word keyword : String} {cs : List Char}

theorem lowerFromAscii (ascii : ∀ c ∈ cs, c.toNat < 128) (before : List Char) :
    lowerFrom before cs = cs.map Char.toLower := by
  induction cs generalizing before with
  | nil => rfl
  | cons c rest ih =>
    obtain ⟨here, others⟩ := List.forall_mem_cons.mp ascii
    have plain : c ≠ capitalSigma := by
      rintro rfl
      exact absurd here (by decide)
    rw [lowerFrom, if_neg plain, lowerAlone, if_pos here, ih others]
    rfl

theorem lowercaseAscii (ascii : ∀ c ∈ word.toList, c.toNat < 128) :
    lowercase word = lowerAscii word := by
  rw [lowercase, lowerFromAscii ascii, lowerAscii]

theorem letterLower {c : Char} (letter : c.toLower.isAlpha = true) : c.isAlpha = true := by
  unfold Char.toLower at letter
  split at letter
  · rename_i capital
    have upper : c.isUpper = true := decide_eq_true capital
    change (c.isUpper || c.isLower) = true
    rw [upper, Bool.true_or]
  · exact letter

theorem lowerLetters (same : lowerAscii word = keyword)
    (letters : ∀ c ∈ keyword.toList, c.isAlpha = true) : ∀ c ∈ word.toList, c.isAlpha = true := by
  intro c member
  refine letterLower (letters c.toLower ?_)
  rw [← same, lowerAscii, String.toList_ofList]
  exact List.mem_map_of_mem member

theorem letterBounds {c : Char} (letter : c.isAlpha = true) : 48 ≤ c.toNat ∧ c.toNat < 128 :=
  alphanumBounds (by rw [Char.isAlphanum, letter, Bool.true_or])

theorem lowercaseLetters (same : lowerAscii word = keyword)
    (letters : ∀ c ∈ keyword.toList, c.isAlpha = true) : lowercase word = keyword := by
  have ascii : ∀ c ∈ word.toList, c.toNat < 128 := fun c member =>
    (letterBounds (lowerLetters same letters c member)).2
  rw [lowercaseAscii ascii, same]

end PageScript.Text
