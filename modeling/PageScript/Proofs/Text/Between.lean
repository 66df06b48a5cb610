import PageScript.Proofs.Text.Trim

/-! Texts by their alphanumeric characters and by what stands between these. A text that begins and
ends with one is made of nothing else, and what is trimmed from a text is neither. -/
namespace PageScript.Text

/-- What stands between each alphanumeric character of a text and the next one. -/
def between (cs : List Char) : List (List Char) := (cs.splitOnP isAlphanumeric).tail.dropLast

variable {p : Char → Bool} {cs ds part : List Char}

theorem betweenFront (none : ∀ c ∈ part, isAlphanumeric c = false) (cs : List Char) :
    between (part ++ cs) = between cs := by
  have same : ((part ++ cs).splitOnP isAlphanumeric).tail = (cs.splitOnP isAlphanumeric).tail := by
    induction part with
    | nil => rfl
    | cons c part ih =>
      obtain ⟨here, others⟩ := List.forall_mem_cons.mp none
      rw [List.cons_append, List.splitOnP_cons_eq_if_modifyHead, here, if_neg Bool.false_ne_true,
        List.tail_modifyHead, ih others]
  rw [between, same, between]

theorem betweenBack (none : ∀ c ∈ part, isAlphanumeric c = false) (cs : List Char) :
    between (cs ++ part) = between cs := by
  have same : ((cs ++ part).splitOnP isAlphanumeric).dropLast =
      (cs.splitOnP isAlphanumeric).dropLast := by
    induction cs with
    | nil =>
      rw [List.nil_append, List.splitOnP_eq_singleton none]
      rfl
    | cons c cs ih =>
      rw [List.cons_append, List.splitOnP_cons_eq_if_modifyHead,
        List.splitOnP_cons_eq_if_modifyHead]
      split
      · rw [List.dropLast_cons_of_ne_nil (List.splitOnP_ne_nil _ _),
          List.dropLast_cons_of_ne_nil (List.splitOnP_ne_nil _ _), ih]
      · rw [← List.modifyHead_dropLast, ih, List.modifyHead_dropLast]
  rw [between, ← List.tail_dropLast, same, List.tail_dropLast, between]

theorem betweenTrim (dropped : ∀ c, p c = true → isAlphanumeric c = false) (cs : List Char) :
    between (trimBy p cs) = between cs := by
  obtain ⟨front, back, parts, before, behind⟩ := trimParts p cs
  conv => rhs; rw [← parts]
  rw [betweenBack fun c member => dropped c (behind c member),
    betweenFront fun c member => dropped c (before c member)]

theorem alphanumericsTrim (dropped : ∀ c, p c = true → isAlphanumeric c = false)
    (cs : List Char) : (trimBy p cs).filter isAlphanumeric = cs.filter isAlphanumeric := by
  have none {part : List Char} (all : ∀ c ∈ part, p c = true) : part.filter isAlphanumeric = [] :=
    List.filter_eq_nil_iff.mpr fun c member => Bool.eq_false_iff.mp (dropped c (all c member))
  obtain ⟨front, back, parts, before, behind⟩ := trimParts p cs
  conv => rhs; rw [← parts]
  rw [List.filter_append, List.filter_append, none before, none behind, List.nil_append,
    List.append_nil]

theorem splitBetween (first : cs.head?.any isAlphanumeric = true)
    (last : cs.getLast?.any isAlphanumeric = true) :
    cs.splitOnP isAlphanumeric = [] :: (between cs ++ [[]]) := by
  cases cs with
  | nil => cases first
  | cons c rest =>
    have begins : (c :: rest).splitOnP isAlphanumeric = [] :: rest.splitOnP isAlphanumeric := by
      rw [List.splitOnP_cons_eq_if_modifyHead]
      exact if_pos first
    rw [between, begins, List.tail_cons]
    rcases List.eq_nil_or_concat' rest with rfl | ⟨init, d, rfl⟩
    · rfl
    · rw [← List.cons_append, List.getLast?_concat] at last
      have ends : (init ++ [d]).splitOnP isAlphanumeric = init.splitOnP isAlphanumeric ++ [[]] :=
        List.splitOnP_append_cons init [] last
      rw [ends, List.dropLast_concat]

theorem betweenUnique (first : cs.head?.any isAlphanumeric = true)
    (last : cs.getLast?.any isAlphanumeric = true) (begins : ds.head?.any isAlphanumeric = true)
    (ends : ds.getLast?.any isAlphanumeric = true)
    (alphanumerics : cs.filter isAlphanumeric = ds.filter isAlphanumeric)
    (gaps : between cs = between ds) : cs = ds := by
  have parts : cs.splitOnP isAlphanumeric = ds.splitOnP isAlphanumeric := by
    rw [splitBetween first last, splitBetween begins ends, gaps]
  rw [← List.splitOnP_spec (p := isAlphanumeric) cs, parts, alphanumerics, List.splitOnP_spec]

end PageScript.Text
