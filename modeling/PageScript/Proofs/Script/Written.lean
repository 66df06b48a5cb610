import PageScript.Proofs.Number.Numeral
import PageScript.Proofs.Script.Tokens
import PageScript.Proofs.Text.Lowercase

/-! Instructions written down and read again. A line is written with any spelling of its keywords
and any numeral for its seconds; lines without a word may stand between two instructions. -/
namespace PageScript

inductive Keyword where
  | load
  | wait
  | save
  | html
  | text
  | nowait
  deriving DecidableEq, Repr

def Keyword.name : Keyword → String
  | load => "load"
  | wait => "wait"
  | save => "save"
  | html => "html"
  | text => "text"
  | nowait => "nowait"

def Capture.keyword : Capture → Keyword
  | markup => .html
  | text => .text

/-- Keywords with each of their letters in either case, and numerals for seconds. -/
structure Spelling where
  word : Keyword → String
  numeral : Double → String
  cased : ∀ keyword, Text.lowerAscii (word keyword) = keyword.name

namespace Instruction

def tokens (spelling : Spelling) : Instruction → List Token
  | load url true => [.plain (spelling.word .load), .quoted url]
  | load url false =>
    [.plain (spelling.word .load), .quoted url, .plain (spelling.word .nowait)]
  | wait seconds => [.plain (spelling.word .wait), .plain (spelling.numeral seconds)]
  | save form none => [.plain (spelling.word .save), .plain (spelling.word form.keyword)]
  | save form (some tag) =>
    [.plain (spelling.word .save), .plain (spelling.word form.keyword), .quoted tag]

/-- The numeral of a wait stands for its seconds. -/
def Spelled (spelling : Spelling) : Instruction → Prop
  | wait seconds => Double.read? (spelling.numeral seconds).toList = some seconds
  | _ => True

end Instruction

/-- A line of a script: one without a word, or an instruction. -/
inductive Row where
  | idle (line : String)
  | told (spelling : Spelling) (i : Instruction)

namespace Row

def line : Row → String
  | idle line => line
  | told spelling i => Token.line (i.tokens spelling)

def instruction? : Row → Option Instruction
  | idle _ => none
  | told _ i => some i

def Fit : Row → Prop
  | idle line => LineScript.Silent line
  | told spelling i => i.Fit ∧ i.Spelled spelling

end Row

/-! ### Tokens of an instruction -/

theorem Keyword.letters (keyword : Keyword) : ∀ c ∈ keyword.name.toList, c.isAlpha = true := by
  rw [← List.all_eq_true]
  cases keyword <;> decide

namespace Spelling

variable {spelling : Spelling}

theorem lowercase (spelling : Spelling) (keyword : Keyword) :
    Text.lowercase (spelling.word keyword) = keyword.name :=
  Text.lowercaseLetters (spelling.cased keyword) keyword.letters

theorem wordFit (spelling : Spelling) (keyword : Keyword) :
    (Token.plain (spelling.word keyword)).Fit := by
  refine ⟨?_, fun c member => ?_⟩
  · intro none
    have empty : Text.lowerAscii "" = keyword.name := none ▸ spelling.cased keyword
    cases keyword <;> exact absurd empty (by decide)
  · have letter := Text.lowerLetters (spelling.cased keyword) keyword.letters c member
    exact Token.solidHigh (Text.letterBounds letter)

theorem numeralFit {numeral : String} {x : Double} (read : Double.read? numeral.toList = some x) :
    (Token.plain numeral).Fit := by
  obtain ⟨filled, chars⟩ := Numeral.finiteChars read
  refine ⟨by simpa using filled, fun c member => ?_⟩
  have numeric := chars c member
  rw [isNumeric, Bool.or_eq_true] at numeric
  rcases numeric with digit | mark
  · rw [isDigit, Bool.and_eq_true, decide_eq_true_eq, decide_eq_true_eq] at digit
    have low : 48 ≤ c.toNat := digit.1
    have high : c.toNat ≤ 57 := digit.2
    exact Token.solidHigh (by omega)
  · simp only [List.contains_eq_mem, List.mem_cons, List.not_mem_nil, or_false,
      decide_eq_true_eq] at mark
    rcases mark with rfl | rfl | rfl | rfl | rfl <;> exact ⟨by decide, by decide, by decide⟩

end Spelling

theorem Instruction.tokensFit {spelling : Spelling} {i : Instruction} (fit : i.Fit)
    (spelled : i.Spelled spelling) : ∀ token ∈ i.tokens spelling, token.Fit := by
  have keyword := spelling.wordFit
  rcases i with ⟨url, _ | _⟩ | seconds | ⟨form, _ | tag⟩
  · have quoted : (Token.quoted url).Fit := fit
    simp [tokens, keyword, quoted]
  · have quoted : (Token.quoted url).Fit := fit
    simp [tokens, keyword, quoted]
  · have plain := Spelling.numeralFit spelled
    simp [tokens, keyword, plain]
  · simp [tokens, keyword]
  · have quoted : (Token.quoted tag).Fit := fit
    simp [tokens, keyword, quoted]

namespace LineScript

variable {spelling : Spelling}

theorem readLoad (url : String) (waits : Bool) :
    readWords (((Instruction.load url waits).tokens spelling).map Token.word) =
      .ok (some (Instruction.load url waits).record) := by
  have nowait : isNowait (spelling.word .nowait) = true := by
    rw [isNowait, spelling.cased]
    rfl
  cases waits with
  | false =>
    simp only [Instruction.tokens, List.map_cons, List.map_nil, Token.word, readWords,
      spelling.lowercase, load, List.any_cons, nowait]
    rfl
  | true =>
    simp only [Instruction.tokens, List.map_cons, List.map_nil, Token.word, readWords,
      spelling.lowercase]
    rfl

theorem readWait {seconds : Double} (notBelow : 0 ≤ seconds.value)
    (spelled : Double.read? (spelling.numeral seconds).toList = some seconds) :
    readWords (((Instruction.wait seconds).tokens spelling).map Token.word) =
      .ok (some (Instruction.wait seconds).record) := by
  simp only [Instruction.tokens, List.map_cons, List.map_nil, Token.word, readWords,
    spelling.lowercase, wait, spelled, Double.notBelowZero.mpr notBelow]
  rfl

theorem readSave {form : Capture} {tag : Option String} (fit : (Instruction.save form tag).Fit) :
    readWords (((Instruction.save form tag).tokens spelling).map Token.word) =
      .ok (some (Instruction.save form tag).record) := by
  cases tag with
  | none =>
    cases form <;>
      simp only [Instruction.tokens, List.map_cons, List.map_nil, Token.word, readWords,
        spelling.lowercase, save] <;> rfl
  | some tag =>
    have alone (record : Record) : tagged record [tag] = record.set "tag" (.string tag) :=
      taggedWords record (List.cons_ne_nil tag []) (List.forall_mem_singleton.mpr fit)
    cases form <;>
      simp only [Instruction.tokens, List.map_cons, List.map_nil, Token.word, readWords,
        spelling.lowercase, save, alone] <;> rfl

theorem readWordsWritten {i : Instruction} (fit : i.Fit) (spelled : i.Spelled spelling) :
    readWords ((i.tokens spelling).map Token.word) = .ok (some i.record) := by
  cases i with
  | load url waits => exact readLoad url waits
  | wait seconds => exact readWait fit spelled
  | save form tag => exact readSave fit

theorem readRow {row : Row} (fit : row.Fit) :
    readLine row.line.toList = .ok (row.instruction?.map Instruction.record) := by
  cases row with
  | idle line => exact (readLineNone _).mpr fit.wordless
  | told spelling i =>
    obtain ⟨fit, spelled⟩ := fit
    exact (Token.readLineTokens (Instruction.tokensFit fit spelled)).trans
      (readWordsWritten fit spelled)

theorem rowUnbroken {row : Row} (fit : row.Fit) : '\n' ∉ row.line.toList := by
  cases row with
  | idle line => exact fit.unbroken
  | told spelling i =>
    intro inside
    exact (Token.lineChars (Instruction.tokensFit fit.1 fit.2) '\n' inside).2 rfl

theorem readRows {rows : List Row} (fit : ∀ row ∈ rows, row.Fit) (number : Nat) :
    readLines number (rows.map (·.line.toList)) =
      ((rows.filterMap Row.instruction?).map Instruction.record, []) := by
  induction rows generalizing number with
  | nil => rfl
  | cons row rest ih =>
    obtain ⟨here, others⟩ := List.forall_mem_cons.mp fit
    rw [List.map_cons, readLines, readRow here, ih others, List.filterMap_cons]
    cases row.instruction? <;> rfl

/-- A text that writes instructions line by line, with idle lines anywhere among them, is read as
the records of these instructions. -/
theorem parseRows (rows : List Row) (fit : ∀ row ∈ rows, row.Fit) :
    parse ("\n".intercalate (rows.map Row.line)) =
      .ok (.ofRecords ((rows.filterMap Row.instruction?).map Instruction.record)) := by
  -- Where there is no row, `splitOn` still gives a line, the empty one.
  by_cases none : rows = []
  · subst none
    rfl
  have split : ("\n".intercalate (rows.map Row.line)).toList.splitOn '\n' =
      rows.map (·.line.toList) := by
    rw [String.toList_intercalate, List.map_map]
    refine List.splitOn_intercalate '\n' ?_ (by simpa using none)
    exact List.forall_mem_map.mpr fun row member => rowUnbroken (fit row member)
  rw [parseSplit, split, readRows fit]
  rfl

theorem parseRowsSpelled :
    let spelling : Spelling := {
      word
        | .load => "LOAD"
        | .wait => "wait"
        | .save => "Save"
        | .html => "html"
        | .text => "teXt"
        | .nowait => "noWait"
      numeral := Pause.secondsText
      cased := by rintro (_ | _) <;> decide }
    let half : Double := ⟨false, 4503599627370496, -53, by decide⟩
    let instructions : List Instruction :=
      [.load " https://a.b/ " false, .wait half, .save .text (some "c  d")]
    let rows : List Row := [.idle "# e \"", .told spelling instructions[0], .idle " \t",
      .told spelling instructions[1], .told spelling instructions[2], .idle ""]
    let text :=
      "# e \"\nLOAD \" https://a.b/ \" noWait\n \t\nwait 0.5\nSave teXt \"c  d\"\n"
    "\n".intercalate (rows.map Row.line) = text ∧ (∀ row ∈ rows, row.Fit) ∧
      parse text = .ok (.ofRecords (instructions.map Instruction.record)) := by
  intro spelling half instructions rows text
  have written : "\n".intercalate (rows.map Row.line) = text := by decide +kernel
  have link : Quotable " https://a.b/ " := by decide
  have tag : Quotable "c  d" := by decide
  have reads : Double.read? (Pause.secondsText half).toList = some half := by decide +kernel
  have fit : ∀ row ∈ rows, row.Fit := by
    simp only [rows, List.forall_mem_cons]
    exact ⟨.ofBlank (by decide) (List.all_eq_true.mp (by decide)), ⟨link, trivial⟩,
      .ofBlank (by decide) (List.all_eq_true.mp (by decide)),
      ⟨Double.notBelowZero.mp rfl, reads⟩, ⟨tag, trivial⟩,
      .ofBlank (by decide) (List.all_eq_true.mp (by decide)), List.forall_mem_nil _⟩
  have read := parseRows rows fit
  rw [written] at read
  exact ⟨written, fit, read⟩

end LineScript

end PageScript
