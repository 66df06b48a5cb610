import PageScript.Proofs.Basic
import PageScript.Proofs.Number.Value
import PageScript.Proofs.Script.Lines

/-! Instructions of line syntax: what a line can say, and the record that it says it with. Whatever
text is accepted, its records are those of instructions that a line has room for. -/
namespace PageScript

/-- Text that can stand in quotes, in a line of its own and before a comment. -/
structure Quotable (text : String) : Prop where
  filled : text ≠ ""
  plain : ∀ c ∈ text.toList, c ≠ '"' ∧ c ≠ '#' ∧ c ≠ '\n'

instance (text : String) : Decidable (Quotable text) :=
  decidable_of_iff
    (text ≠ "" ∧ text.toList.all (fun c => c ≠ '"' && (c ≠ '#' && c ≠ '\n')) = true)
    ⟨fun ⟨filled, plain⟩ => ⟨filled, by simpa using plain⟩,
      fun quotable => ⟨quotable.filled, by simpa using quotable.plain⟩⟩

inductive Capture where
  | markup
  | text
  deriving DecidableEq, Repr

def Capture.kind : Capture → String
  | markup => saveMarkupKind
  | text => saveTextKind

inductive Instruction where
  | load (url : String) (waits : Bool)
  | wait (seconds : Double)
  | save (form : Capture) (tag : Option String)
  deriving DecidableEq, Repr

namespace Instruction

def record : Instruction → Record
  | load url waits => ⟨navigateKind, [("url", .string url), ("wait_for_load", .bool waits)]⟩
  | wait seconds => ⟨pauseKind, [("seconds", .number (.double seconds))]⟩
  | save form none => ⟨form.kind, []⟩
  | save form (some tag) => ⟨form.kind, [("tag", .string tag)]⟩

def Fit : Instruction → Prop
  | load url _ => Quotable url
  | wait seconds => 0 ≤ seconds.value
  | save _ none => True
  | save _ (some tag) => Quotable tag

theorem recordInjective : Function.Injective record := by
  rintro (⟨url, waits⟩ | seconds | ⟨_ | _, _ | tag⟩) (⟨url', waits'⟩ | seconds' | ⟨_ | _, _ | tag'⟩)
    same <;> simp [record, Capture.kind, navigateKind, pauseKind, saveMarkupKind, saveTextKind]
      at same ⊢ <;> exact same

end Instruction

theorem Text.joinMember {c : Char} {separator : List Char} {parts : List (List Char)}
    (member : c ∈ separator.intercalate parts) : c ∈ separator ∨ ∃ part ∈ parts, c ∈ part := by
  induction parts with
  | nil => cases member
  | cons part rest ih =>
    by_cases more : rest = []
    · subst more
      rw [List.intercalate_singleton] at member
      exact .inr ⟨part, List.mem_cons_self, member⟩
    · rw [List.intercalate_cons_of_ne_nil more, List.mem_append, List.mem_append] at member
      rcases member with (here | between) | later
      · exact .inr ⟨part, List.mem_cons_self, here⟩
      · exact .inl between
      · exact (ih later).imp_right fun ⟨other, inside, found⟩ =>
          ⟨other, List.mem_cons_of_mem part inside, found⟩

theorem Quotable.joined {words : List String} (filled : words ≠ [])
    (each : ∀ word ∈ words, Quotable word) : Quotable (" ".intercalate words) where
  filled := by
    obtain ⟨word, rest, rfl⟩ := List.exists_cons_of_ne_nil filled
    have first := (each word List.mem_cons_self).filled
    intro none
    cases rest with
    | nil => exact first (by simpa using none)
    | cons other others =>
      rw [String.intercalate_cons_cons] at none
      simp at none
  plain := by
    intro c inside
    rw [String.toList_intercalate] at inside
    rcases Text.joinMember inside with between | ⟨part, member, inside⟩
    · rw [List.mem_singleton.mp between]
      decide
    · obtain ⟨word, among, rfl⟩ := List.mem_map.mp member
      exact (each word among).plain c inside

namespace LineScript

theorem wordsQuotable {line : List Char} (unbroken : '\n' ∉ line) :
    ∀ word ∈ words (instruction line), Quotable word := by
  intro word member
  obtain ⟨chars, inside, rfl⟩ := List.mem_map.mp member
  obtain ⟨filled, read⟩ := wordsChars (List.forall_mem_nil _) inside
  refine ⟨by simpa using filled, fun c here => ?_⟩
  rw [String.toList_ofList] at here
  have beside := Text.trimMember ((read c here).2.resolve_left List.not_mem_nil)
  refine ⟨(read c here).1, by simpa using List.mem_takeWhile_imp beside, ?_⟩
  rintro rfl
  exact unbroken (List.takeWhile_subset _ beside)

/-! ### Records of lines -/

variable {operands : List String} {record : Record}

theorem unquotedPlain {cs : List Char} (plain : ∀ c ∈ cs, c ≠ '"') : unquoted cs = cs := by
  unfold unquoted
  split
  · exact absurd rfl (plain _ List.mem_cons_self)
  · rfl

/-- Words hold no quotes, so there are none to take off a tag, and no tag of words is empty. -/
theorem taggedWords (record : Record) {words : List String} (filled : words ≠ [])
    (each : ∀ word ∈ words, Quotable word) :
    tagged record words = record.set "tag" (.string (" ".intercalate words)) := by
  have tag := Quotable.joined filled each
  cases words with
  | nil => exact absurd rfl filled
  | cons word rest =>
    simp only [tagged]
    generalize " ".intercalate (word :: rest) = text at tag
    have kept : text.toList.isEmpty = false := by simpa using tag.filled
    rw [unquotedPlain fun c inside => (tag.plain c inside).1, kept, String.ofList_toList]
    rfl

theorem loadInstruction (read : load operands = .ok record) :
    ∃ url ∈ operands, ∃ waits, record = (Instruction.load url waits).record := by
  cases operands with
  | nil => cases read
  | cons url options =>
    cases read
    exact ⟨url, List.mem_cons_self, _, rfl⟩

theorem waitInstruction (read : wait operands = .ok record) :
    ∃ seconds, 0 ≤ seconds.value ∧ record = (Instruction.wait seconds).record := by
  cases operands with
  | nil => cases read
  | cons word rest =>
    rw [wait] at read
    split at read
    · cases read
    · rename_i seconds _
      split at read
      · cases read
      · rename_i above
        cases read
        exact ⟨seconds, Double.notBelowZero.mp (Bool.not_eq_true _ ▸ above), rfl⟩

theorem saveInstruction (read : save operands = .ok record)
    (each : ∀ word ∈ operands, Quotable word) :
    ∃ form tag, (Instruction.save form tag).Fit ∧
      record = (Instruction.save form tag).record := by
  have taggedRecord (form : Capture) {words : List String}
      (each : ∀ word ∈ words, Quotable word) : ∃ tag, (Instruction.save form tag).Fit ∧
        tagged (.ofKind form.kind) words = (Instruction.save form tag).record := by
    cases words with
    | nil => exact ⟨none, trivial, rfl⟩
    | cons word rest =>
      have filled := List.cons_ne_nil word rest
      refine ⟨some (" ".intercalate (word :: rest)), Quotable.joined filled each, ?_⟩
      rw [taggedWords _ filled each]
      rfl
  cases operands with
  | nil => cases read
  | cons word words =>
    have each := fun other member => each other (List.mem_cons_of_mem word member)
    simp only [save] at read
    split at read
    · cases read
      exact ⟨.markup, taggedRecord .markup each⟩
    · split at read
      · cases read
        exact ⟨.text, taggedRecord .text each⟩
      · cases read

theorem readLineInstruction {line : List Char} (unbroken : '\n' ∉ line)
    (read : readLine line = .ok (some record)) :
    ∃ i : Instruction, i.Fit ∧ record = i.record := by
  have each := wordsQuotable unbroken
  rw [readLine] at read
  cases found : words (instruction line) with
  | nil =>
    rw [found] at read
    cases read
  | cons word operands =>
    rw [found] at read each
    obtain ⟨-, each⟩ := List.forall_mem_cons.mp each
    simp only [readWords] at read
    split at read
    · obtain ⟨record, read, ⟨⟩⟩ := Result.mapOk.mp read
      obtain ⟨url, member, waits, same⟩ := loadInstruction read
      exact ⟨.load url waits, each url member, same⟩
    · split at read
      · obtain ⟨record, read, ⟨⟩⟩ := Result.mapOk.mp read
        obtain ⟨seconds, above, same⟩ := waitInstruction read
        exact ⟨.wait seconds, above, same⟩
      · split at read
        · obtain ⟨record, read, ⟨⟩⟩ := Result.mapOk.mp read
          obtain ⟨form, tag, fit, same⟩ := saveInstruction read each
          exact ⟨.save form tag, fit, same⟩
        · cases read

theorem readLinesInstructions (number : Nat) {ls : List (List Char)}
    (unbroken : ∀ line ∈ ls, '\n' ∉ line) : ∃ instructions : List Instruction,
      (∀ i ∈ instructions, i.Fit) ∧ (readLines number ls).1 = instructions.map Instruction.record := by
  induction ls generalizing number with
  | nil => exact ⟨[], List.forall_mem_nil _, rfl⟩
  | cons line rest ih =>
    obtain ⟨here, later⟩ := List.forall_mem_cons.mp unbroken
    obtain ⟨instructions, fit, records⟩ := ih (number + 1) later
    rw [readLines]
    cases read : readLine line with
    | error fault => exact ⟨instructions, fit, records⟩
    | ok found =>
      cases found with
      | none => exact ⟨instructions, fit, records⟩
      | some record =>
        obtain ⟨i, fits, rfl⟩ := readLineInstruction here read
        exact ⟨i :: instructions, List.forall_mem_cons.mpr ⟨fits, fit⟩, congrArg _ records⟩

theorem parseInstructions {text : String} {script : Script} (accepted : parse text = .ok script) :
    ∃ instructions : List Instruction, (∀ i ∈ instructions, i.Fit) ∧
      script = .ofRecords (instructions.map Instruction.record) := by
  obtain ⟨instructions, fit, records⟩ :=
    readLinesInstructions 1 (splitUnbroken text.toList)
  rw [parseSplit] at accepted
  generalize readLines 1 (text.toList.splitOn '\n') = found at accepted records
  obtain ⟨_, _ | ⟨e, es⟩⟩ := found <;> cases accepted
  exact ⟨instructions, fit, congrArg Script.ofRecords records⟩

end LineScript

end PageScript
