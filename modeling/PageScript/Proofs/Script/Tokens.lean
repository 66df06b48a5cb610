import PageScript.Proofs.Script.Instruction

/-! Words written into a line, with quotes around them or without, and one space between two. The
line is read back into these words: what stands in quotes neither ends a word nor begins a
comment. -/
namespace PageScript

inductive Token where
  | plain (word : String)
  | quoted (text : String)
  deriving DecidableEq, Repr

namespace Token

open Text (isBlank)

def word : Token → String
  | plain word => word
  | quoted text => text

def text : Token → String
  | plain word => word
  | quoted text => "\"" ++ text ++ "\""

/-- A character that stands for itself in a word without quotes. -/
def Solid (c : Char) : Prop := isBlank c = false ∧ c ≠ '"' ∧ c ≠ '#'

def Fit : Token → Prop
  | plain word => word ≠ "" ∧ ∀ c ∈ word.toList, Solid c
  | quoted text => Quotable text

def line (tokens : List Token) : String := " ".intercalate (tokens.map text)

variable {token : Token} {tokens : List Token}

theorem solidHigh {c : Char} (bounds : 48 ≤ c.toNat ∧ c.toNat < 128) : Solid c := by
  obtain ⟨high, ascii⟩ := bounds
  refine ⟨?_, ?_, ?_⟩
  · rw [Bool.eq_false_iff]
    intro blank
    rcases Text.blankBounds blank with low | beyond
    · omega
    · rw [Text.asciiNotBeyond ascii] at beyond
      cases beyond
  · rintro rfl
    exact absurd high (by decide)
  · rintro rfl
    exact absurd high (by decide)

theorem wordFilled (fit : token.Fit) : token.word.toList ≠ [] := by
  cases token with
  | plain written => simpa [word] using fit.1
  | quoted written => simpa [word] using fit.filled

/-! ### The words of a line -/

theorem lineToList (tokens : List Token) :
    (line tokens).toList = [' '].intercalate (tokens.map (·.text.toList)) := by
  rw [line, String.toList_intercalate, List.map_map]
  rfl

theorem quotedToList (written : String) :
    (quoted written).text.toList = '"' :: (written.toList ++ ['"']) := by
  rw [text, String.toList_append, String.toList_append]
  rfl

theorem runToken (fit : token.Fit) (rest : List Char) :
    LineScript.wordsFrom false [] (token.text.toList ++ rest) =
      LineScript.wordsFrom false token.word.toList.reverse rest := by
  cases token with
  | plain written =>
    have kept : ∀ c ∈ written.toList, LineScript.Kept false c := fun c member =>
      ⟨(fit.2 c member).2.1, fun blank => absurd blank (by simp [(fit.2 c member).1])⟩
    have run := LineScript.wordsRun kept [] rest
    rw [List.append_nil] at run
    exact run
  | quoted written =>
    have kept : ∀ c ∈ written.toList, LineScript.Kept true c := fun c member =>
      ⟨(fit.plain c member).1, fun _ => rfl⟩
    rw [quotedToList, List.cons_append, LineScript.wordsQuote, Bool.not_false, List.append_assoc,
      LineScript.wordsRun kept, List.append_nil, List.singleton_append, LineScript.wordsQuote]
    rfl

theorem lineWords (fit : ∀ token ∈ tokens, token.Fit) :
    LineScript.wordsFrom false [] (line tokens).toList = tokens.map (·.word.toList) := by
  rw [lineToList]
  induction tokens with
  | nil => rfl
  | cons token rest ih =>
    obtain ⟨here, others⟩ := List.forall_mem_cons.mp fit
    have begun : token.word.toList.reverse ≠ [] := by simpa using wordFilled here
    -- The word of the first token ends with the line or at the space behind it.
    cases rest with
    | nil =>
      have run := runToken here []
      rw [List.append_nil] at run
      rw [List.map_cons, List.map_nil, List.intercalate_singleton, run,
        LineScript.wordsEnd begun, List.reverse_reverse]
      rfl
    | cons next later =>
      rw [List.map_cons, List.map_cons, List.intercalate_cons_cons, List.append_assoc,
        runToken here, List.singleton_append, LineScript.wordsBreak begun rfl,
        List.reverse_reverse]
      exact congrArg (token.word.toList :: ·) (ih others)

/-! ### The line itself -/

theorem textFilled (fit : token.Fit) : token.text.toList ≠ [] := by
  cases token with
  | plain written => exact wordFilled fit
  | quoted written => simp [quotedToList]

theorem textBare (fit : token.Fit) : Text.Bare isBlank token.text.toList := by
  cases token with
  | plain written =>
    exact ⟨fun filled => (fit.2 _ (List.head_mem filled)).1,
      fun filled => (fit.2 _ (List.getLast_mem filled)).1⟩
  | quoted written =>
    rw [quotedToList]
    exact ⟨fun _ => by simp; decide, fun _ => by simp; decide⟩

theorem joinFilled (fit : token.Fit) (rest : List Token) :
    [' '].intercalate ((token :: rest).map (·.text.toList)) ≠ [] := by
  cases rest with
  | nil => simpa using textFilled fit
  | cons next later => simp [List.intercalate_cons_cons]

theorem lineBare (fit : ∀ token ∈ tokens, token.Fit) : Text.Bare isBlank (line tokens).toList := by
  rw [lineToList]
  induction tokens with
  | nil => exact ⟨fun filled => absurd rfl filled, fun filled => absurd rfl filled⟩
  | cons token rest ih =>
    obtain ⟨here, others⟩ := List.forall_mem_cons.mp fit
    cases rest with
    | nil =>
      rw [List.map_cons, List.map_nil, List.intercalate_singleton]
      exact textBare here
    | cons next later =>
      rw [List.map_cons, List.map_cons, List.intercalate_cons_cons]
      exact (textBare here).around (ih others) (textFilled here)
        (joinFilled (others next List.mem_cons_self) later) [' ']

theorem textChars (fit : token.Fit) : ∀ c ∈ token.text.toList, c ≠ '#' ∧ c ≠ '\n' := by
  cases token with
  | plain written =>
    intro c inside
    obtain ⟨shown, -, apart⟩ := fit.2 c inside
    refine ⟨apart, ?_⟩
    rintro rfl
    exact absurd shown (by decide)
  | quoted written =>
    intro c inside
    rw [quotedToList, List.mem_cons, List.mem_append, List.mem_singleton] at inside
    rcases inside with rfl | inside | rfl
    · decide
    · exact (fit.plain c inside).2
    · decide

theorem lineChars (fit : ∀ token ∈ tokens, token.Fit) :
    ∀ c ∈ (line tokens).toList, c ≠ '#' ∧ c ≠ '\n' := by
  intro c inside
  rw [lineToList] at inside
  rcases Text.joinMember inside with between | ⟨part, member, inside⟩
  · rw [List.mem_singleton.mp between]
    decide
  · obtain ⟨token, among, rfl⟩ := List.mem_map.mp member
    exact textChars (fit token among) c inside

theorem readLineTokens (fit : ∀ token ∈ tokens, token.Fit) :
    LineScript.readLine (line tokens).toList = LineScript.readWords (tokens.map word) := by
  have whole : (line tokens).toList.takeWhile (· ≠ '#') = (line tokens).toList := by
    rw [List.takeWhile_eq_self_iff]
    exact fun c inside => decide_eq_true (lineChars fit c inside).1
  have bare : LineScript.instruction (line tokens).toList = (line tokens).toList := by
    rw [LineScript.instruction, whole]
    exact (lineBare fit).trim
  rw [LineScript.readLine, bare, LineScript.words, lineWords fit, List.map_map]
  refine congrArg _ (List.map_congr_left fun token _ => ?_)
  exact String.ofList_toList

end Token

end PageScript
