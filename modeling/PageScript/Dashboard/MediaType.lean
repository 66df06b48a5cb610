/-! Media types: a type and a subtype between tokens and a slash, in letters of any case, then
parameters. What follows the last plus sign of a subtype, unless the sign begins it, is its suffix.
-/
namespace PageScript

structure MediaType where
  type : List Char
  subtype : List Char
  deriving DecidableEq, Repr

namespace MediaType

def isToken (c : Char) : Bool := c.isAlphanum || "!#$%&\x27*+-.^_\x60|~".toList.contains c

def isQuotable (c : Char) : Bool := 31 < c.toNat && c.toNat < 127

inductive Place where
  | gap
  | name
  | equals
  | value
  /-- Inside quotes; the first character there is part of the value, whatever it is. -/
  | quoted (empty : Bool)
  | closed
  deriving DecidableEq, Repr

def Place.next? (place : Place) (c : Char) : Option Place :=
  match place with
  | .gap => if c = ' ' then some .gap else if isToken c then some .name else none
  | .name => if isToken c then some .name else if c = '=' then some .equals else none
  | .equals => if c = '"' then some (.quoted true) else if isToken c then some .value else none
  | .value => if isToken c then some .value else if c = ';' then some .gap else none
  | .quoted empty =>
    if c = '"' && !empty then some .closed
    else if isQuotable c then some (.quoted false) else none
  | .closed => if c = ';' then some .gap else if c = ' ' then some .closed else none

def Place.mayEnd : Place → Bool
  | .name | .quoted _ => false
  | _ => true

def areParameters (cs : List Char) : Bool :=
  ((cs.foldlM Place.next? .gap).map Place.mayEnd).getD false

def read? (cs : List Char) : Option MediaType :=
  let type := cs.takeWhile isToken
  match cs.dropWhile isToken with
  | '/' :: rest =>
    let subtype := rest.takeWhile isToken
    let ends := match rest.dropWhile isToken with
      | [] => true
      | ';' :: parameters => areParameters parameters
      | _ => false
    if type.isEmpty || subtype.isEmpty || !ends then none
    else some ⟨type.map Char.toLower, subtype.map Char.toLower⟩
  | _ => none

def suffix? (m : MediaType) : Option (List Char) :=
  let reversed := m.subtype.reverse
  match reversed.dropWhile (· ≠ '+') with
  | _ :: _ :: _ => some (reversed.takeWhile (· ≠ '+')).reverse
  | _ => none

def application : List Char := "application".toList

def json : List Char := "json".toList

def isJson (m : MediaType) : Bool :=
  m.type = application && (m.subtype = json || m.suffix? = some json)

end MediaType

end PageScript
