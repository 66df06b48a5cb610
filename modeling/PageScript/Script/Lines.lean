import PageScript.Script.Basic
import PageScript.Text.Lowercase

/-! Line syntax, one instruction a line: `load URL [nowait]`, `wait SECONDS`, `save html|text
[TAG]`. What follows a `#` is a comment, cut off before quotes are looked at. Keywords are read in
any case. A text is taken whole or not at all; otherwise every line at fault is named. -/
namespace PageScript

inductive LineFault where
  | unknownKeyword (word : String)
  | loadWithoutUrl
  | waitWithoutSeconds
  | waitNotNumber (word : String)
  | waitNegative
  | saveWithoutType
  | saveUnknownType (word : String)
  deriving DecidableEq, Repr

def LineFault.message : LineFault → String
  | .unknownKeyword word => s!"Unknown command: {word}"
  | .loadWithoutUrl => "LOAD requires a URL"
  | .waitWithoutSeconds => "WAIT requires seconds"
  | .waitNotNumber word => s!"WAIT seconds must be a number, got: {word}"
  | .waitNegative => "WAIT seconds must not be negative"
  | .saveWithoutType => "SAVE requires HTML or TEXT type"
  | .saveUnknownType word => s!"SAVE type must be HTML or TEXT, got: {word}"

structure LineError where
  line : Nat
  fault : LineFault
  deriving DecidableEq, Repr

def LineError.message (e : LineError) : String := s!"Line {e.line}: {e.fault.message}"

namespace LineScript

def lines : List Char → List (List Char)
  | [] => []
  | c :: rest =>
    if c = '\n' then [] :: lines rest
    else match lines rest with
      | [] => [[c]]
      | line :: others => (c :: line) :: others

def instruction (line : List Char) : List Char := Text.trim (line.takeWhile (· ≠ '#'))

/-- Words between blanks. Blanks inside quotes belong to a word, the quotes themselves do not;
`current` holds the word read so far, the last character first. -/
def wordsFrom (quoted : Bool) (current : List Char) : List Char → List (List Char)
  | [] => if current.isEmpty then [] else [current.reverse]
  | c :: rest =>
    if c = '"' then wordsFrom (!quoted) current rest
    else if Text.isBlank c && !quoted then
      if current.isEmpty then wordsFrom quoted [] rest
      else current.reverse :: wordsFrom quoted [] rest
    else wordsFrom quoted (c :: current) rest

def words (line : List Char) : List String := (wordsFrom false [] line).map String.ofList

def isNowait (word : String) : Bool := Text.lowerAscii word = "nowait"

def load : List String → Except LineFault Record
  | [] => .error .loadWithoutUrl
  | url :: options =>
    .ok (((Record.ofKind navigateKind).set "url" (.string url)).set "wait_for_load"
      (.bool (!options.any isNowait)))

def wait : List String → Except LineFault Record
  | [] => .error .waitWithoutSeconds
  | word :: _ => match Double.read? word.toList with
    | none => .error (.waitNotNumber word)
    | some seconds =>
      if seconds.isBelowZero then .error .waitNegative
      else .ok ((Record.ofKind pauseKind).set "seconds" (.number (.double seconds)))

/-- What stands between quotes at both ends, if they are there. -/
def unquoted (cs : List Char) : List Char :=
  match cs with
  | '"' :: rest => if rest.getLast? = some '"' then rest.dropLast else cs
  | _ => cs

def tagged (record : Record) : List String → Record
  | [] => record
  | words =>
    let tag := unquoted (" ".intercalate words).toList
    if tag.isEmpty then record else record.set "tag" (.string (String.ofList tag))

def save : List String → Except LineFault Record
  | [] => .error .saveWithoutType
  | word :: tag =>
    let type := Text.lowercase word
    if type = "html" then .ok (tagged (.ofKind saveMarkupKind) tag)
    else if type = "text" then .ok (tagged (.ofKind saveTextKind) tag)
    else .error (.saveUnknownType type)

def readWords : List String → Except LineFault (Option Record)
  | [] => .ok none
  | word :: operands =>
    let keyword := Text.lowercase word
    if keyword = "load" then (load operands).map some
    else if keyword = "wait" then (wait operands).map some
    else if keyword = "save" then (save operands).map some
    else .error (.unknownKeyword keyword)

def readLine (line : List Char) : Except LineFault (Option Record) :=
  readWords (words (instruction line))

def readLines (number : Nat) : List (List Char) → List Record × List LineError
  | [] => ([], [])
  | line :: rest =>
    let (records, errors) := readLines (number + 1) rest
    match readLine line with
    | .ok none => (records, errors)
    | .ok (some record) => (record :: records, errors)
    | .error fault => (records, ⟨number, fault⟩ :: errors)

def parse (text : String) : Except (List LineError) Script :=
  match readLines 1 (lines text.toList) with
  | (records, []) => .ok (.ofRecords records)
  | (_, errors) => .error errors

end LineScript

end PageScript
