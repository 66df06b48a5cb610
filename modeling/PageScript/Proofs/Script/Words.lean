import PageScript.Proofs.Text.Trim
import PageScript.Script.Lines

/-! Words of a line. Outside quotes a word ends at a blank, inside them it goes on; no word is
empty, and the quotes belong to none. -/
namespace PageScript.LineScript

open Text (isBlank)

variable {quoted : Bool} {current : List Char} {c : Char} {rest : List Char}

theorem blankPlain (blank : isBlank c = true) : c ≠ '"' := by
  rintro rfl
  exact absurd blank (by decide)

theorem wordsQuote (quoted : Bool) (current rest : List Char) :
    wordsFrom quoted current ('"' :: rest) = wordsFrom (!quoted) current rest := by
  rw [wordsFrom, if_pos rfl]

/-- A character of a word: no quote, and no blank unless it stands in quotes. -/
def Kept (quoted : Bool) (c : Char) : Prop := c ≠ '"' ∧ (isBlank c = true → quoted = true)

instance (quoted : Bool) (c : Char) : Decidable (Kept quoted c) :=
  inferInstanceAs (Decidable (_ ∧ _))

theorem charKinds (quoted : Bool) (c : Char) :
    c = '"' ∨ (isBlank c = true ∧ quoted = false) ∨ Kept quoted c := by
  by_cases quote : c = '"'
  · exact .inl quote
  by_cases stops : isBlank c = true ∧ quoted = false
  · exact .inr (.inl stops)
  · exact .inr (.inr ⟨quote, fun blank => by simpa [blank] using stops⟩)

theorem wordsKept (kept : Kept quoted c) (current rest : List Char) :
    wordsFrom quoted current (c :: rest) = wordsFrom quoted (c :: current) rest := by
  obtain ⟨plain, inside⟩ := kept
  have goesOn : (isBlank c && !quoted) = false := by
    cases blank : isBlank c with
    | false => rfl
    | true => rw [inside blank]; rfl
  rw [wordsFrom, if_neg plain, goesOn]
  rfl

theorem wordsBlank (blank : isBlank c = true) (rest : List Char) :
    wordsFrom false [] (c :: rest) = wordsFrom false [] rest := by
  rw [wordsFrom, if_neg (blankPlain blank), blank]
  rfl

theorem wordsBreak (begun : current ≠ []) (blank : isBlank c = true) (rest : List Char) :
    wordsFrom false current (c :: rest) = current.reverse :: wordsFrom false [] rest := by
  have filled : current.isEmpty = false := by simpa using begun
  rw [wordsFrom, if_neg (blankPlain blank), blank, filled]
  rfl

theorem wordsEnd (begun : current ≠ []) (quoted : Bool) :
    wordsFrom quoted current [] = [current.reverse] := by
  have filled : current.isEmpty = false := by simpa using begun
  rw [wordsFrom, filled]
  rfl

/-- Every line is read by one of these four steps. -/
theorem wordsStep (quoted : Bool) (current : List Char) (c : Char) (rest : List Char) :
    (c = '"' ∧ wordsFrom quoted current (c :: rest) = wordsFrom (!quoted) current rest) ∨
    (isBlank c = true ∧ quoted = false ∧ current = [] ∧
      wordsFrom quoted current (c :: rest) = wordsFrom false [] rest) ∨
    (isBlank c = true ∧ quoted = false ∧ current ≠ [] ∧
      wordsFrom quoted current (c :: rest) = current.reverse :: wordsFrom false [] rest) ∨
    (Kept quoted c ∧
      wordsFrom quoted current (c :: rest) = wordsFrom quoted (c :: current) rest) := by
  rcases charKinds quoted c with rfl | ⟨blank, rfl⟩ | kept
  · exact .inl ⟨rfl, wordsQuote ..⟩
  · by_cases begun : current = []
    · subst begun
      exact .inr (.inl ⟨blank, rfl, rfl, wordsBlank blank rest⟩)
    · exact .inr (.inr (.inl ⟨blank, rfl, begun, wordsBreak begun blank rest⟩))
  · exact .inr (.inr (.inr ⟨kept, wordsKept kept current rest⟩))

theorem wordsRun {part : List Char} (kept : ∀ c ∈ part, Kept quoted c)
    (current rest : List Char) :
    wordsFrom quoted current (part ++ rest) = wordsFrom quoted (part.reverse ++ current) rest := by
  induction part generalizing current with
  | nil => rfl
  | cons c part ih =>
    obtain ⟨here, others⟩ := List.forall_mem_cons.mp kept
    rw [List.cons_append, wordsKept here, ih others, List.reverse_cons, List.append_assoc]
    rfl

/-! ### Lines without a word -/

/-- Blanks and quotes with nothing in them; the last quote may be left open. -/
inductive Wordless : List Char → Prop
  | nil : Wordless []
  | blank {c : Char} {rest : List Char} (blank : isBlank c = true) (others : Wordless rest) :
      Wordless (c :: rest)
  | quotes {rest : List Char} (others : Wordless rest) : Wordless ('"' :: '"' :: rest)
  | opened : Wordless ['"']

theorem Wordless.words {cs : List Char} (wordless : Wordless cs) : wordsFrom false [] cs = [] := by
  induction wordless with
  | nil => rfl
  | blank blank others ih => rw [wordsBlank blank, ih]
  | quotes others ih => rw [wordsQuote, wordsQuote, Bool.not_not, ih]
  | opened => rfl

theorem blankWordless {cs : List Char} (blank : ∀ c ∈ cs, isBlank c = true) : Wordless cs := by
  induction cs with
  | nil => exact .nil
  | cons c rest ih =>
    obtain ⟨here, others⟩ := List.forall_mem_cons.mp blank
    exact .blank here (ih others)

/-! ### What words are made of -/

theorem wordsBegun (begun : current ≠ []) (quoted : Bool) (cs : List Char) :
    wordsFrom quoted current cs ≠ [] := by
  induction cs generalizing quoted current with
  | nil => simp [wordsEnd begun]
  | cons c rest ih =>
    rcases wordsStep quoted current c rest with ⟨-, step⟩ | ⟨-, -, none, -⟩ | ⟨-, -, -, step⟩ |
      ⟨-, step⟩
    · rw [step]
      exact ih begun _
    · exact absurd none begun
    · simp [step]
    · rw [step]
      exact ih (List.cons_ne_nil c current) _

theorem wordsNone {cs : List Char} : wordsFrom false [] cs = [] ↔ Wordless cs := by
  refine ⟨fun none => ?_, Wordless.words⟩
  -- A quote that opens is followed by one that closes, so two characters may go at once.
  induction length : cs.length using Nat.strong_induction_on generalizing cs with
  | _ n ih =>
    match cs with
    | [] => exact .nil
    | c :: rest =>
      rcases wordsStep false [] c rest with ⟨rfl, step⟩ | ⟨blank, -, -, step⟩ | ⟨-, -, begun, -⟩ |
        ⟨-, step⟩
      · rw [step] at none
        match rest with
        | [] => exact .opened
        | d :: others =>
          rcases wordsStep true [] d others with ⟨rfl, next⟩ | ⟨-, inside, -⟩ | ⟨-, inside, -⟩ |
            ⟨-, next⟩
          · rw [Bool.not_false, next] at none
            exact .quotes (ih others.length (by simp at length; omega) none rfl)
          · cases inside
          · cases inside
          · rw [Bool.not_false, next] at none
            exact absurd none (wordsBegun (List.cons_ne_nil d []) _ _)
      · rw [step] at none
        exact .blank blank (ih rest.length (by simp at length; omega) none rfl)
      · exact absurd rfl begun
      · rw [step] at none
        exact absurd none (wordsBegun (List.cons_ne_nil c []) _ _)

theorem wordsChars {cs word : List Char} (plain : ∀ c ∈ current, c ≠ '"')
    (member : word ∈ wordsFrom quoted current cs) :
    word ≠ [] ∧ ∀ c ∈ word, c ≠ '"' ∧ (c ∈ current ∨ c ∈ cs) := by
  -- A word is given out where it ends, by one of two steps.
  have ended {current word : List Char} (plain : ∀ c ∈ current, c ≠ '"') (begun : current ≠ [])
      (same : word = current.reverse) (cs : List Char) :
      word ≠ [] ∧ ∀ c ∈ word, c ≠ '"' ∧ (c ∈ current ∨ c ∈ cs) := by
    subst same
    refine ⟨by simpa using begun, fun c inside => ?_⟩
    have inside := List.mem_reverse.mp inside
    exact ⟨plain c inside, .inl inside⟩
  induction cs generalizing quoted current with
  | nil =>
    by_cases begun : current = []
    · subst begun
      cases member
    · rw [wordsEnd begun] at member
      exact ended plain begun (List.mem_singleton.mp member) []
  | cons c rest ih =>
    have further {quoted : Bool} {current : List Char} (plain : ∀ c ∈ current, c ≠ '"')
        (later : word ∈ wordsFrom quoted current rest) :
        word ≠ [] ∧ ∀ d ∈ word, d ≠ '"' ∧ (d ∈ current ∨ d ∈ c :: rest) := by
      obtain ⟨filled, chars⟩ := ih plain later
      exact ⟨filled, fun d inside =>
        ⟨(chars d inside).1, (chars d inside).2.imp_right (List.mem_cons_of_mem c)⟩⟩
    rcases wordsStep quoted current c rest with ⟨-, step⟩ | ⟨-, -, rfl, step⟩ | ⟨-, -, begun, step⟩ |
      ⟨kept, step⟩
    · rw [step] at member
      exact further plain member
    · rw [step] at member
      exact further plain member
    · rw [step] at member
      rcases List.mem_cons.mp member with here | later
      · exact ended plain begun here _
      · obtain ⟨filled, chars⟩ := further (List.forall_mem_nil _) later
        exact ⟨filled, fun d inside =>
          ⟨(chars d inside).1, .inr ((chars d inside).2.resolve_left List.not_mem_nil)⟩⟩
    · rw [step] at member
      obtain ⟨filled, chars⟩ := further (List.forall_mem_cons.mpr ⟨kept.1, plain⟩) member
      refine ⟨filled, fun d inside => ⟨(chars d inside).1, ?_⟩⟩
      rcases (chars d inside).2 with here | later
      · rcases List.mem_cons.mp here with rfl | earlier
        · exact .inr List.mem_cons_self
        · exact .inl earlier
      · exact .inr later

end PageScript.LineScript
