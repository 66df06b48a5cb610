import PageScript.Json.Reader

/-! Reading JSON text into a given shape. A part of another shape is a fault where it begins, so it
counts before any fault of the text that follows it. -/
namespace PageScript.Json

/-- The fault of a value that has another shape than the one wanted: a word, string or number must
still be one, an array or object need not be. -/
def unwanted (cs : List Char) : Fault :=
  let judge {α : Type} : Except Fault α → Fault
    | .error fault => fault
    | .ok _ => .mistyped
  match cs with
  | [] => .truncated
  | c :: rest =>
    if c = 'n' then judge (readWord ['u', 'l', 'l'] rest)
    else if c = 't' then judge (readWord ['r', 'u', 'e'] rest)
    else if c = 'f' then judge (readWord ['a', 'l', 's', 'e'] rest)
    else if c = '"' then judge (readString rest)
    else if startsNumber c then judge (Number.read cs)
    else if c = '[' || c = '{' then .mistyped
    else .malformed

def wantString (cs : List Char) : Except Fault (Taken String) :=
  match skipSpace cs with
  | c :: rest => if c = '"' then readString rest else .error (unwanted (c :: rest))
  | [] => .error .truncated

def wantNull (cs : List Char) : Except Fault (List Char) :=
  match skipSpace cs with
  | c :: rest => if c = 'n' then readWord ['u', 'l', 'l'] rest else .error (unwanted (c :: rest))
  | [] => .error .truncated

abbrev Reader (α : Type) := List Char → Except Fault (Taken α)

abbrev MemberReader (σ : Type) := σ → String → Reader σ

def foldMembersFrom {σ : Type} (step : MemberReader σ) :
    Nat → σ → List Char → Except Fault (Taken σ)
  | 0, _, _ => .error .truncated
  | n + 1, state, cs => do
    let (key, rest) ← readKey cs
    let (state, rest) ← step state key rest
    match ← readSeparator '}' rest with
    | .closed after => .ok (state, after)
    | .more after => foldMembersFrom step n state after

def foldMembers {σ : Type} (step : MemberReader σ) (state : σ) (cs : List Char) :
    Except Fault (Taken σ) :=
  match closedAtOnce? '}' cs with
  | some rest => .ok (state, rest)
  | none => foldMembersFrom step (steps cs) state cs

def foldItemsFrom {α : Type} (item : Reader α) : Nat → List Char → Except Fault (Taken (List α))
  | 0, _ => .error .truncated
  | n + 1, cs => do
    let (x, rest) ← item cs
    match ← readSeparator ']' rest with
    | .closed after => .ok ([x], after)
    | .more after =>
      let (xs, after) ← foldItemsFrom item n after
      .ok (x :: xs, after)

def foldItems {α : Type} (item : Reader α) (cs : List Char) : Except Fault (Taken (List α)) :=
  match closedAtOnce? ']' cs with
  | some rest => .ok ([], rest)
  | none => foldItemsFrom item (steps cs) cs

def wantItems {α : Type} (item : Reader α) (cs : List Char) : Except Fault (Taken (List α)) :=
  match skipSpace cs with
  | c :: rest => if c = '[' then foldItems item rest else .error (unwanted (c :: rest))
  | [] => .error .truncated

/-! ### One field

A shape with one field is an object that has the field once, other members being passed over, or an
array that holds nothing but the field. -/

def fieldMember {α : Type} (key : String) (item : Reader α) (found : Option α) (name : String)
    (cs : List Char) : Except Fault (Taken (Option α)) := do
  if name = key then
    if found.isSome then .error .mistyped
    let (x, rest) ← item (← readColon cs)
    .ok (some x, rest)
  else .ok (found, ← pass (← readColon cs))

def soleItem {α : Type} (item : Reader α) (cs : List Char) : Except Fault (Taken α) := do
  if (closedAtOnce? ']' cs).isSome then .error .mistyped
  let (x, rest) ← item cs
  match ← readSeparator ']' rest with
  | .closed rest => .ok (x, rest)
  | .more _ => .error .malformed

def wantField {α : Type} (key : String) (item : Reader α) (cs : List Char) :
    Except Fault (Taken α) := do
  match skipSpace cs with
  | [] => .error .truncated
  | c :: rest =>
    if c = '[' then soleItem item rest
    else if c = '{' then
      match ← foldMembers (fieldMember key item) none rest with
      | (some x, rest) => .ok (x, rest)
      | (none, _) => .error .mistyped
    else .error (unwanted (c :: rest))

def readField {α : Type} (key : String) (item : Reader α) (text : String) : Except Fault α := do
  let (x, rest) ← wantField key item text.toList
  finish rest
  .ok x

/-! ### Objects -/

def keep (budget : Budget) (cs : List Char) : Except Fault (Taken Json) :=
  readValue (steps cs) budget cs

def readObject (text : String) : Except Fault Members := do
  let cs := skipSpace text.toList
  match cs with
  | c :: _ =>
    if c ≠ '{' then .error (unwanted cs)
    else
      let (value, rest) ← keep fullBudget cs
      finish rest
      .ok (value.object?.getD [])
  | [] => .error .truncated

end PageScript.Json
