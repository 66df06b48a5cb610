import PageScript.Command.SaveText
import PageScript.Proofs.Text.Between

/-! Tags fit for the name of a file. The fit form of a tag has every alphanumeric character of it,
and between two of them as many underscores as there were spaces and underscores; taken for a tag
again, it is left as it is. -/
namespace PageScript.SaveText

open Text (Bare between isAlphanumeric)

variable {c : Char} {cs : List Char} {tag clean : String}

/-! ### Characters left out or replaced -/

def cleaned (cs : List Char) : List Char :=
  (cs.map fun c => if c = ' ' then '_' else c).filter isTagChar

def separates (c : Char) : Bool := c = ' ' || c = '_'

/-- As many underscores as a text has spaces and underscores. -/
def underscores (cs : List Char) : List Char := List.replicate (cs.countP separates) '_'

theorem underscoreDropped : ∀ c, decide (c = '_') = true → isAlphanumeric c = false := by
  intro c same
  rw [of_decide_eq_true same]
  decide

theorem cleanedAlphanumeric (here : isAlphanumeric c = true) :
    cleaned (c :: cs) = c :: cleaned cs := by
  have plain : c ≠ ' ' := by
    rintro rfl
    rw [Text.blankNotAlphanumeric rfl] at here
    cases here
  rw [cleaned, List.map_cons, if_neg plain, List.filter_cons_of_pos (by simp [isTagChar, here]),
    cleaned]

theorem cleanedSeparator (here : separates c = true) : cleaned (c :: cs) = '_' :: cleaned cs := by
  have turned : (if c = ' ' then '_' else c) = '_' := by
    have either : c = ' ' ∨ c = '_' := by simpa [separates] using here
    rcases either with rfl | rfl <;> rfl
  rw [cleaned, List.map_cons, turned, List.filter_cons_of_pos (by simp [isTagChar]), cleaned]

theorem cleanedOther (other : isAlphanumeric c = false) (plain : separates c = false) :
    cleaned (c :: cs) = cleaned cs := by
  have apart : c ≠ ' ' ∧ c ≠ '_' := by simpa [separates] using plain
  rw [cleaned, List.map_cons, if_neg apart.1,
    List.filter_cons_of_neg (by simp [isTagChar, other, apart.2]), cleaned]

theorem splitCleaned (cs : List Char) :
    (cleaned cs).splitOnP isAlphanumeric = (cs.splitOnP isAlphanumeric).map underscores := by
  induction cs with
  | nil => rfl
  | cons c cs ih =>
    by_cases here : isAlphanumeric c = true
    · rw [cleanedAlphanumeric here, List.splitOnP_cons_eq_if_modifyHead,
        List.splitOnP_cons_eq_if_modifyHead, if_pos here, if_pos here, ih]
      rfl
    -- Any other character belongs to the first of the parts behind it.
    obtain ⟨part, parts, split⟩ :=
      List.exists_cons_of_ne_nil (List.splitOnP_ne_nil isAlphanumeric cs)
    rw [split, List.map_cons] at ih
    rw [List.splitOnP_cons_eq_if_modifyHead, if_neg here, split, List.modifyHead_cons,
      List.map_cons]
    by_cases gap : separates c = true
    · rw [cleanedSeparator gap, List.splitOnP_cons_eq_if_modifyHead, ih, underscoreDropped '_' rfl,
        if_neg Bool.false_ne_true, List.modifyHead_cons, underscores, underscores,
        List.countP_cons_of_pos gap, List.replicate_succ]
    · rw [cleanedOther (Bool.eq_false_iff.mpr here) (Bool.eq_false_iff.mpr gap), ih, underscores,
        underscores, List.countP_cons_of_neg gap]

theorem alphanumericsCleaned (cs : List Char) :
    (cleaned cs).filter isAlphanumeric = cs.filter isAlphanumeric := by
  induction cs with
  | nil => rfl
  | cons c cs ih =>
    by_cases here : isAlphanumeric c = true
    · rw [cleanedAlphanumeric here, List.filter_cons_of_pos here, List.filter_cons_of_pos here, ih]
    rw [List.filter_cons_of_neg here, ← ih]
    by_cases gap : separates c = true
    · rw [cleanedSeparator gap, List.filter_cons_of_neg (by simp [underscoreDropped])]
    · rw [cleanedOther (Bool.eq_false_iff.mpr here) (Bool.eq_false_iff.mpr gap)]

/-! ### The fit form of a tag -/

def fit (tag : String) : List Char := trimUnderscores (cleaned (Text.trim tag.toList))

theorem sanitizeFit (tag : String) :
    sanitizeTag tag = if (fit tag).isEmpty then none else some (String.ofList (fit tag)) := rfl

theorem fitNone (none : sanitizeTag tag = none) : fit tag = [] := by
  rw [sanitizeFit] at none
  split at none
  · rename_i empty
    exact List.isEmpty_iff.mp empty
  · cases none

theorem fitSome (kept : sanitizeTag tag = some clean) : fit tag ≠ [] ∧ clean.toList = fit tag := by
  rw [sanitizeFit] at kept
  split at kept
  · cases kept
  · rename_i filled
    rw [← Option.some.inj kept, String.toList_ofList]
    exact ⟨by simpa using filled, rfl⟩

theorem fitAlphanumerics (tag : String) :
    (fit tag).filter isAlphanumeric = tag.toList.filter isAlphanumeric :=
  calc (fit tag).filter isAlphanumeric
    _ = (cleaned (Text.trim tag.toList)).filter isAlphanumeric :=
      Text.alphanumericsTrim underscoreDropped _
    _ = (Text.trim tag.toList).filter isAlphanumeric := alphanumericsCleaned _
    _ = tag.toList.filter isAlphanumeric :=
      Text.alphanumericsTrim (fun _ => Text.blankNotAlphanumeric) _

theorem fitBetween (tag : String) : between (fit tag) = (between tag.toList).map underscores :=
  calc between (fit tag)
    _ = between (cleaned (Text.trim tag.toList)) := Text.betweenTrim underscoreDropped _
    _ = (between (Text.trim tag.toList)).map underscores := by
      rw [between, splitCleaned, ← List.map_tail, ← List.map_dropLast, between]
    _ = (between tag.toList).map underscores :=
      congrArg (List.map underscores) (Text.betweenTrim (fun _ => Text.blankNotAlphanumeric) _)

/-! ### Tags that are fit -/

structure Clean (cs : List Char) : Prop where
  filled : cs ≠ []
  chars : ∀ c ∈ cs, isTagChar c = true
  ends : Bare (· = '_') cs

theorem sanitizeClean (kept : sanitizeTag tag = some clean) : Clean clean.toList := by
  obtain ⟨filled, same⟩ := fitSome kept
  rw [same]
  refine ⟨filled, fun c member => ?_, Text.trimBare _ _⟩
  exact (List.mem_filter.mp (Text.trimMember member)).2

theorem Clean.notBlank (clean : Clean cs) : Bare Text.isBlank cs := by
  refine clean.ends.imp fun c member blank => ?_
  have allowed := clean.chars c member
  rw [isTagChar, Text.blankNotAlphanumeric blank, Bool.false_or] at allowed
  exact allowed

theorem Clean.notSpace (clean : Clean cs) : ∀ c ∈ cs, c ≠ ' ' := by
  rintro c member rfl
  have allowed := clean.chars ' ' member
  rw [isTagChar, Text.blankNotAlphanumeric rfl, Bool.false_or] at allowed
  exact absurd (of_decide_eq_true allowed) (by decide)

theorem Clean.sanitize (kept : Clean clean.toList) : sanitizeTag clean = some clean := by
  have trimmed : Text.trim clean.toList = clean.toList := kept.notBlank.trim
  have spaced : (clean.toList.map fun c => if c = ' ' then '_' else c) = clean.toList := by
    calc clean.toList.map (fun c => if c = ' ' then '_' else c)
      _ = clean.toList.map id :=
        List.map_congr_left fun c member => if_neg (kept.notSpace c member)
      _ = clean.toList := List.map_id _
  have filtered : clean.toList.filter isTagChar = clean.toList :=
    List.filter_eq_self.mpr kept.chars
  have bare : trimUnderscores clean.toList = clean.toList := kept.ends.trim
  have filled : clean.toList.isEmpty = false := by simpa using kept.filled
  simp only [sanitizeTag, trimmed, spaced, filtered, bare, filled, Bool.false_eq_true, if_false,
    String.ofList_toList]

theorem sanitizeAgain (kept : sanitizeTag tag = some clean) : sanitizeTag clean = some clean :=
  (sanitizeClean kept).sanitize

theorem Clean.alphanumericEnds (clean : Clean cs) :
    cs.head?.any isAlphanumeric = true ∧ cs.getLast?.any isAlphanumeric = true := by
  have other {c : Char} (member : c ∈ cs) (plain : decide (c = '_') = false) :
      isAlphanumeric c = true := by
    have allowed := clean.chars c member
    rw [isTagChar, plain, Bool.or_false] at allowed
    exact allowed
  rw [List.head?_eq_some_head clean.filled, List.getLast?_eq_some_getLast clean.filled]
  exact ⟨other (List.head_mem _) (clean.ends.first clean.filled),
    other (List.getLast_mem _) (clean.ends.last clean.filled)⟩

/-! ### Tags and their fit forms -/

structure Sanitized (tag clean : String) : Prop where
  chars : ∀ c ∈ clean.toList, isAlphanumeric c = true ∨ c = '_'
  first : clean.toList.head?.any isAlphanumeric = true
  last : clean.toList.getLast?.any isAlphanumeric = true
  alphanumerics : clean.toList.filter isAlphanumeric = tag.toList.filter isAlphanumeric
  gaps : between clean.toList = (between tag.toList).map underscores
  again : sanitizeTag clean = some clean

theorem Sanitized.alphanumeric (sanitized : Sanitized tag clean) :
    ∃ c ∈ tag.toList, isAlphanumeric c = true := by
  obtain ⟨c, begins, here⟩ := (Option.any_eq_true ..).mp sanitized.first
  have member : c ∈ clean.toList.filter isAlphanumeric :=
    List.mem_filter.mpr ⟨List.mem_of_head? begins, here⟩
  rw [sanitized.alphanumerics] at member
  exact ⟨c, List.mem_filter.mp member⟩

theorem Sanitized.unique {other : String} (sanitized : Sanitized tag clean)
    (again : Sanitized tag other) : clean = other := by
  have alphanumerics := sanitized.alphanumerics.trans again.alphanumerics.symm
  have gaps := sanitized.gaps.trans again.gaps.symm
  exact String.toList_inj.mp
    (Text.betweenUnique sanitized.first sanitized.last again.first again.last alphanumerics gaps)

theorem sanitizeSome (kept : sanitizeTag tag = some clean) : Sanitized tag clean := by
  have fits := sanitizeClean kept
  obtain ⟨-, same⟩ := fitSome kept
  obtain ⟨first, last⟩ := fits.alphanumericEnds
  refine ⟨fun c member => ?_, first, last, ?_, ?_, sanitizeAgain kept⟩
  · simpa [isTagChar] using fits.chars c member
  · rw [same, fitAlphanumerics]
  · rw [same, fitBetween]

theorem sanitizeNone : sanitizeTag tag = none ↔ ∀ c ∈ tag.toList, isAlphanumeric c = false := by
  constructor
  · intro none c member
    have alphanumerics := fitAlphanumerics tag
    rw [fitNone none, List.filter_nil] at alphanumerics
    exact Bool.eq_false_iff.mpr (List.filter_eq_nil_iff.mp alphanumerics.symm c member)
  · intro without
    cases kept : sanitizeTag tag with
    | none => rfl
    | some clean =>
      obtain ⟨c, member, here⟩ := (sanitizeSome kept).alphanumeric
      rw [without c member] at here
      cases here

/-- A tag has a fit form unless it has no alphanumeric character, and only one. -/
theorem sanitizeExact (tag : String) :
    (sanitizeTag tag = none ↔ ∀ c ∈ tag.toList, isAlphanumeric c = false) ∧
      ∀ clean, sanitizeTag tag = some clean ↔ Sanitized tag clean := by
  refine ⟨sanitizeNone, fun clean => ⟨sanitizeSome, fun sanitized => ?_⟩⟩
  cases kept : sanitizeTag tag with
  | none =>
    obtain ⟨c, member, here⟩ := sanitized.alphanumeric
    rw [sanitizeNone.mp kept c member] at here
    cases here
  | some found => rw [(sanitizeSome kept).unique sanitized]

example : sanitizeTag "_a-b\t c_ é!" = some "ab_c__é" := by decide +kernel

end PageScript.SaveText
