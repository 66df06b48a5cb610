import Mathlib.Data.List.DropRight
import PageScript.Text.Classes

/-! Trimming by a class of characters: what is left is bare of the class at both ends, and a text
that is bare is left as it is. -/
namespace PageScript.Text

def trimBy (p : Char → Bool) (cs : List Char) : List Char := (cs.dropWhile p).rdropWhile p

structure Bare (p : Char → Bool) (cs : List Char) : Prop where
  first : ∀ filled : cs ≠ [], p (cs.head filled) = false
  last : ∀ filled : cs ≠ [], p (cs.getLast filled) = false

variable {p : Char → Bool} {cs : List Char}

theorem trimBare (p : Char → Bool) (cs : List Char) : Bare p (trimBy p cs) where
  first := by
    intro left
    have begins := List.rdropWhile_prefix p (cs.dropWhile p)
    have before : cs.dropWhile p ≠ [] := by
      intro none
      rw [trimBy, none] at left
      exact left rfl
    have same : (trimBy p cs).head left = (cs.dropWhile p).head before := begins.head left
    rw [same]
    exact List.head_dropWhile_not p before
  last := by
    intro left
    have ends := List.rdropWhile_last_not p (cs.dropWhile p) left
    exact Bool.eq_false_iff.mpr ends

theorem Bare.trim (bare : Bare p cs) : trimBy p cs = cs := by
  have kept : cs.dropWhile p = cs := by
    rw [List.dropWhile_eq_self_iff]
    intro filled here
    have first := bare.first (List.ne_nil_of_length_pos filled)
    rw [List.head_eq_getElem, here] at first
    cases first
  rw [trimBy, kept, List.rdropWhile_eq_self_iff]
  intro filled here
  rw [bare.last filled] at here
  cases here

theorem trimParts (p : Char → Bool) (cs : List Char) : ∃ front back,
    front ++ trimBy p cs ++ back = cs ∧ (∀ c ∈ front, p c = true) ∧ ∀ c ∈ back, p c = true := by
  refine ⟨cs.takeWhile p, (cs.dropWhile p).rtakeWhile p, ?_, fun _ => List.mem_takeWhile_imp,
    fun _ => List.mem_rtakeWhile_imp⟩
  rw [trimBy, List.append_assoc, List.rdropWhile_append_rtakeWhile, List.takeWhile_append_dropWhile]

theorem trimMember {c : Char} (member : c ∈ trimBy p cs) : c ∈ cs := by
  obtain ⟨front, back, parts, -⟩ := trimParts p cs
  rw [← parts]
  exact List.mem_append_left _ (List.mem_append_right _ member)

theorem Bare.imp {q : Char → Bool} (bare : Bare p cs) (narrower : ∀ c ∈ cs, q c → p c) :
    Bare q cs where
  first := by
    intro filled
    rw [Bool.eq_false_iff]
    intro here
    have there := narrower _ (List.head_mem filled) here
    rw [bare.first filled] at there
    cases there
  last := by
    intro filled
    rw [Bool.eq_false_iff]
    intro here
    have there := narrower _ (List.getLast_mem filled) here
    rw [bare.last filled] at there
    cases there

theorem Bare.around {front back : List Char} (before : Bare p front) (after : Bare p back)
    (begun : front ≠ []) (ended : back ≠ []) (between : List Char) :
    Bare p (front ++ between ++ back) where
  first := by
    intro filled
    rw [List.append_assoc] at filled
    simp only [List.append_assoc, List.head_append_of_ne_nil begun]
    exact before.first begun
  last := by
    intro filled
    rw [List.getLast_append_of_ne_nil filled ended]
    exact after.last ended

/-! ### Blanks are not alphanumeric -/

def Ranges.apart (first second : Ranges) : Bool :=
  first.all fun a => second.all fun b => a.2 < b.1 || b.2 < a.1

theorem Ranges.apartContains {first second : Ranges} (apart : first.apart second = true) {c : Char}
    (inFirst : first.contains c = true) : second.contains c = false := by
  rw [Bool.eq_false_iff]
  intro inSecond
  obtain ⟨a, here, within⟩ := List.any_eq_true.mp inFirst
  obtain ⟨b, there, inside⟩ := List.any_eq_true.mp inSecond
  have disjoint := List.all_eq_true.mp (List.all_eq_true.mp apart a here) b there
  simp only [Bool.and_eq_true, Bool.or_eq_true, decide_eq_true_eq] at within inside disjoint
  omega

theorem alphanumBounds {c : Char} (alphanum : c.isAlphanum = true) :
    48 ≤ c.toNat ∧ c.toNat < 128 := by
  change (decide (c.val ≥ 65 ∧ c.val ≤ 90) || decide (c.val ≥ 97) && decide (c.val ≤ 122) ||
    decide (c.val ≥ 48) && decide (c.val ≤ 57)) = true at alphanum
  simp only [Bool.or_eq_true, Bool.and_eq_true, decide_eq_true_eq, UInt32.le_iff_toNat_le,
    ge_iff_le] at alphanum
  change (65 ≤ c.toNat ∧ c.toNat ≤ 90 ∨ 97 ≤ c.toNat ∧ c.toNat ≤ 122) ∨
    48 ≤ c.toNat ∧ c.toNat ≤ 57 at alphanum
  omega

theorem blankBounds {c : Char} (blank : isBlank c = true) :
    c.toNat < 48 ∨ beyondAscii blankRanges c = true := by
  simp only [isBlank, Bool.or_eq_true, Bool.and_eq_true, decide_eq_true_eq] at blank
  rcases blank with (rfl | control) | beyond
  · exact .inl (by decide)
  · exact .inl (by omega)
  · exact .inr beyond

theorem blankNotAlphanumeric {c : Char} (blank : isBlank c = true) : isAlphanumeric c = false := by
  have apart : blankRanges.apart alphanumericRanges = true := by decide +kernel
  rw [isAlphanumeric, Bool.or_eq_false_iff]
  rcases blankBounds blank with low | beyond
  · refine ⟨Bool.eq_false_iff.mpr fun alphanum => ?_, asciiNotBeyond (by omega)⟩
    have bounds := alphanumBounds alphanum
    omega
  · obtain ⟨high, among⟩ := Bool.and_eq_true_iff.mp beyond
    refine ⟨Bool.eq_false_iff.mpr fun alphanum => ?_, ?_⟩
    · have bounds := alphanumBounds alphanum
      have far := of_decide_eq_true high
      omega
    · rw [beyondAscii, Ranges.apartContains apart among, Bool.and_false]

end PageScript.Text
