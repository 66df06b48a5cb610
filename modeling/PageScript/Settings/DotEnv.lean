import PageScript.Files.Tree
import PageScript.Text.Classes
import PageScript.Text.Printable

/-! Variables from a `.env` file: `KEY=value` lines, with `export` before the key if wanted. A value
may be quoted, refer to variables by `$NAME` or `${NAME}`, and be followed by a comment; inside
quotes it may go on over several lines. Reading ends at the first line that is wrong, and a variable
that is set already keeps its value. A value that no variable can hold is a fault of its own. -/
namespace PageScript

/-- Variables with their values, the first of a name being the one that counts. -/
abbrev Variables := List (String × String)

/-- What stands after `name=` in a text `KEY=value` of the environment; such a name may itself have
an equals sign in it. -/
def Variables.find? (vars : Variables) (name : String) : Option String :=
  vars.findSome? fun (key, value) =>
    ((name ++ "=").toList.isPrefixOf? (key ++ "=" ++ value).toList).map String.ofList

namespace DotEnv

/-! ### Lines -/

inductive Scan where
  | complete
  | blank
  | escape
  | weak
  | weakEscape
  | strong
  | strongEscape
  deriving DecidableEq, Repr

def quoteOr (otherwise : Scan) (c : Char) : Scan :=
  if c = '\\' then .escape
  else if c = '"' then .weak
  else if c = '\x27' then .strong
  else otherwise

def Scan.next (scan : Scan) (c : Char) : Option Scan :=
  match scan with
  | .complete =>
    some (quoteOr (if Text.isBlank c && c ≠ '\n' && c ≠ '\r' then .blank else .complete) c)
  | .blank => if c = '#' then none else some (quoteOr .complete c)
  | .escape => some .complete
  | .weak => some (if c = '\\' then .weakEscape else if c = '"' then .complete else .weak)
  | .weakEscape => some .weak
  | .strong => some (if c = '\\' then .strongEscape else if c = '\x27' then .complete else .strong)
  | .strongEscape => some .strong

def scanText (scan : Scan) (done : List Char) : List Char → Except (List Char) Scan
  | [] => .ok scan
  | c :: rest => match scan.next c with
    | none => .error done.reverse
    | some scan => scanText scan (c :: done) rest

abbrev FileLine := Option (List Char)

def splitBytes : List UInt8 → List (List UInt8)
  | [] => []
  | b :: rest =>
    if b = 10 then [b] :: splitBytes rest
    else match splitBytes rest with
      | [] => [[b]]
      | line :: others => (b :: line) :: others

def fileLines (bytes : ByteArray) : List FileLine :=
  let content := match bytes.toList with
    | 0xEF :: 0xBB :: 0xBF :: rest => rest
    | content => content
  (splitBytes content).map fun line =>
    (String.fromUTF8? ⟨line.toArray⟩).map String.toList

def dropEnd (line : List Char) : List Char :=
  match line.reverse with
  | '\n' :: '\r' :: rest => rest.reverse
  | '\n' :: rest => rest.reverse
  | _ => line

/-- Lines joined where a quote is open at the end of one; none where the text ends too early. -/
def joined (scan : Scan) (held : List Char) : List FileLine → List FileLine
  | [] => if scan = .complete then [] else [none]
  | none :: _ => [none]
  | some line :: rest =>
    let all := held ++ line
    if (Text.trimStart all).head? = some '#' then some [] :: joined .complete [] rest
    else match scanText scan [] line with
      | .error before => some (held ++ before) :: joined .complete [] rest
      | .ok .complete => some (dropEnd all) :: joined .complete [] rest
      | .ok scan => joined scan all rest

/-! ### Values -/

inductive Quote where
  | open
  | weak
  | strong
  deriving DecidableEq, Repr

/-- A name that is being read, the last character first, in braces or bare. -/
structure Reference where
  braced : Bool
  name : List Char
  deriving DecidableEq, Repr

structure Value where
  quote : Quote := .open
  escaped : Bool := false
  reference : Option Reference := none
  /-- Only blanks and a comment may follow. -/
  ended : Bool := false
  output : List Char := []

def Value.push (v : Value) (c : Char) : Value := { v with output := c :: v.output }

def Value.substitute (lookup : String → Option String) (v : Value) (name : List Char) : Value :=
  let found := (lookup (String.ofList name.reverse)).getD ""
  { v with reference := none, output := found.toList.reverse ++ v.output }

def Value.escape? (v : Value) (c : Char) : Option Value :=
  let v := { v with escaped := false }
  if c = '\\' || c = '\x27' || c = '"' || c = '$' || c = ' ' then some (v.push c)
  else if c = 'n' then some (v.push '\n')
  else none

def bareReference : Reference := ⟨false, []⟩

def Value.refer (lookup : String → Option String) (v : Value) (r : Reference) (c : Char) : Value :=
  if Text.isAlphanumeric c then { v with reference := some { r with name := c :: r.name } }
  else if r.braced then
    if c = '}' then v.substitute lookup r.name
    else { v with reference := some { r with name := c :: r.name } }
  else if c = '{' && r.name.isEmpty then { v with reference := some ⟨true, []⟩ }
  else
    let v := v.substitute lookup r.name
    if c = '$' then { v with reference := some bareReference } else v.push c

def Value.plain (v : Value) (c : Char) : Value :=
  if c = '$' then { v with reference := some bareReference }
  else if c = '\\' then { v with escaped := true }
  else if v.quote = .weak then
    if c = '"' then { v with quote := .open } else v.push c
  else if c = '\x27' then { v with quote := .strong }
  else if c = '"' then { v with quote := .weak }
  else if c = ' ' || c = '\t' then { v with ended := true }
  else v.push c

def comment? (c : Char) : Option Bool :=
  if c = ' ' || c = '\t' then some false else if c = '#' then some true else none

def Value.read? (lookup : String → Option String) (v : Value) : List Char → Option Value
  | [] => some v
  | c :: rest =>
    if v.ended then
      match comment? c with
      | none => none
      | some true => some v
      | some false => v.read? lookup rest
    else if v.escaped then
      match v.escape? c with
      | none => none
      | some v => v.read? lookup rest
    else if v.quote = .strong then
      (if c = '\x27' then { v with quote := .open } else v.push c).read? lookup rest
    else match v.reference with
      | some r => (v.refer lookup r c).read? lookup rest
      | none => (v.plain c).read? lookup rest

def Value.finish? (lookup : String → Option String) (v : Value) : Option String :=
  if v.quote ≠ .open then none
  else match v.reference with
    | some ⟨true, _⟩ => none
    | some ⟨false, name⟩ => some (String.ofList (v.substitute lookup name).output.reverse)
    | none => some (String.ofList v.output.reverse)

def value? (lookup : String → Option String) (cs : List Char) : Option String :=
  (Value.read? lookup {} cs).bind (Value.finish? lookup)

/-! ### Assignments -/

def isKeyStart (c : Char) : Bool := c.isAlpha || c = '_'

def isKeyChar (c : Char) : Bool := c.isAlphanum || c = '_' || c = '.'

def key? (cs : List Char) : Option (String × List Char) :=
  if cs.head?.any isKeyStart then
    some (String.ofList (cs.takeWhile isKeyChar), Text.trimStart (cs.dropWhile isKeyChar))
  else none

def equals? : List Char → Option (List Char)
  | '=' :: rest => some (Text.trimStart rest)
  | _ => none

def assigned? (cs : List Char) : Option (String × List Char) := do
  let (key, rest) ← key? cs
  match equals? rest with
  | some rest => some (key, rest)
  | none =>
    if key ≠ "export" then none
    else
      let (key, rest) ← key? rest
      some (key, ← equals? rest)

inductive Statement where
  | nothing
  | assign (key value : String)
  | wrong
  deriving DecidableEq, Repr

def statement (lookup : String → Option String) (line : List Char) : Statement :=
  let cs := Text.trim line
  if cs.isEmpty || cs.head? = some '#' then .nothing
  else match assigned? cs with
    | none => .wrong
    | some (key, rest) =>
      if rest.isEmpty || rest.head? = some '#' then .assign key ""
      else match value? lookup rest with
        | some value => .assign key value
        | none => .wrong

structure Unsettable where
  key : String
  value : String
  deriving DecidableEq, Repr

def Unsettable.message (e : Unsettable) : String :=
  s!"failed to set environment variable `{Text.quoted e.key}` to `{Text.quoted e.value}`: " ++
    FileFault.nulInName.message

/-- A variable that is set already keeps its value, whatever it was to become. -/
def set (vars : Variables) (key value : String) : Except Unsettable Variables :=
  if (vars.lookup key).isSome then .ok vars
  else if '\x00' ∈ value.toList then .error ⟨key, value⟩
  else .ok (vars ++ [(key, value)])

/-- Variables of the environment and those of lines; `read` holds every value met so far, for
references. -/
def extend (vars read : Variables) : List FileLine → Except Unsettable Variables
  | [] => .ok vars
  | none :: _ => .ok vars
  | some line :: rest =>
    let lookup (name : String) : Option String := (vars.find? name).or (read.lookup name)
    match statement lookup line with
    | .nothing => extend vars read rest
    | .wrong => .ok vars
    | .assign key value => do
      let vars ← set vars key value
      extend vars ((key, value) :: read) rest

def find? (tree : FileTree) : Option ByteArray :=
  ((List.range (tree.home.length + 1)).reverse.map tree.home.take).findSome? fun place =>
    match tree.entry? (place ++ [".env"]) with
    | some (.file bytes) => some bytes
    | _ => none

def load (tree : FileTree) (vars : Variables) : Except Unsettable Variables :=
  match find? tree with
  | some bytes => extend vars [] (joined .complete [] (fileLines bytes))
  | none => .ok vars

end DotEnv

end PageScript
