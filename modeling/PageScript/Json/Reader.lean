import PageScript.Json.Numeral

/-! Reading JSON text, the first fault of which decides.

A value is either kept or passed over. Of a value that is passed over only the grammar is checked:
its nesting is not counted, its escapes need not pair up and its numbers may be of any size. Every
reader takes the text from where it stands and gives back what follows. The number of steps that it
may take is an argument; `steps` of the text is enough. -/
namespace PageScript.Json

abbrev Taken (α : Type) := α × List Char

def steps (text : List Char) : Nat := 2 * text.length + 1

abbrev Budget := Nat

def fullBudget : Budget := 127

def isSpace (c : Char) : Bool := c = ' ' || c = '\n' || c = '\t' || c = '\r'

def skipSpace (cs : List Char) : List Char := cs.dropWhile isSpace

def readWord : List Char → List Char → Except Fault (List Char)
  | [], cs => .ok cs
  | _ :: _, [] => .error .truncated
  | w :: word, c :: cs => if w = c then readWord word cs else .error .malformed

/-! ### Strings -/

def hexValue? (c : Char) : Option Nat :=
  if '0' ≤ c && c ≤ '9' then some (c.toNat - '0'.toNat)
  else if 'a' ≤ c && c ≤ 'f' then some (c.toNat - 'a'.toNat + 10)
  else if 'A' ≤ c && c ≤ 'F' then some (c.toNat - 'A'.toNat + 10)
  else none

def fourHex? : List Char → Option (Nat × List Char)
  | a :: b :: c :: d :: rest => do
    let high := 16 * (← hexValue? a) + (← hexValue? b)
    let low := 16 * (← hexValue? c) + (← hexValue? d)
    some (256 * high + low, rest)
  | _ => none

/-- Four hexadecimal digits; a text of fewer than four bytes ends too early, whatever it holds. -/
def readHex (cs : List Char) : Except Fault (Taken Nat) :=
  match fourHex? cs with
  | some found => .ok found
  | none => .error (if (String.ofList cs).utf8ByteSize < 4 then .truncated else .malformed)

def isHighSurrogate (n : Nat) : Bool := 0xD800 ≤ n && n ≤ 0xDBFF

def isLowSurrogate (n : Nat) : Bool := 0xDC00 ≤ n && n ≤ 0xDFFF

def joinSurrogates (high low : Nat) : Char :=
  Char.ofNat (0x10000 + (high - 0xD800) * 0x400 + (low - 0xDC00))

def readLow (high : Nat) (cs : List Char) : Except Fault (Taken Char) := do
  let rest ← readWord ['\\', 'u'] cs
  let (low, rest) ← readHex rest
  if isLowSurrogate low then .ok (joinSurrogates high low, rest) else .error .malformed

def readUnicode (cs : List Char) : Except Fault (Taken Char) := do
  let (n, rest) ← readHex cs
  if isLowSurrogate n then .error .malformed
  else if isHighSurrogate n then readLow n rest
  else .ok (Char.ofNat n, rest)

def simpleEscape? : Char → Option Char
  | '"' => some '"'
  | '\\' => some '\\'
  | '/' => some '/'
  | 'b' => some '\x08'
  | 'f' => some '\x0c'
  | 'n' => some '\n'
  | 'r' => some '\r'
  | 't' => some '\t'
  | _ => none

def readEscape : List Char → Except Fault (Taken Char)
  | [] => .error .truncated
  | c :: rest =>
    if c = 'u' then readUnicode rest
    else match simpleEscape? c with
      | some plain => .ok (plain, rest)
      | none => .error .malformed

def passEscape : List Char → Except Fault (List Char)
  | [] => .error .truncated
  | c :: rest =>
    if c = 'u' then (readHex rest).map (·.2)
    else if (simpleEscape? c).isSome then .ok rest
    else .error .malformed

/-- After the opening quote; `done` holds what was read, the last character first. -/
def readStringFrom : Nat → List Char → List Char → Except Fault (Taken String)
  | 0, _, _ => .error .truncated
  | n + 1, done, cs => match cs with
    | [] => .error .truncated
    | c :: rest =>
      if c = '"' then .ok (String.ofList done.reverse, rest)
      else if c = '\\' then
        match readEscape rest with
        | .ok (plain, after) => readStringFrom n (plain :: done) after
        | .error fault => .error fault
      else if c.toNat < 0x20 then .error .malformed
      else readStringFrom n (c :: done) rest

def readString (cs : List Char) : Except Fault (Taken String) := readStringFrom (steps cs) [] cs

def passStringFrom : Nat → List Char → Except Fault (List Char)
  | 0, _ => .error .truncated
  | n + 1, cs => match cs with
    | [] => .error .truncated
    | c :: rest =>
      if c = '"' then .ok rest
      else if c = '\\' then
        match passEscape rest with
        | .ok after => passStringFrom n after
        | .error fault => .error fault
      else if c.toNat < 0x20 then .error .malformed
      else passStringFrom n rest

def passString (cs : List Char) : Except Fault (List Char) := passStringFrom (steps cs) cs

/-! ### Values -/

/-- What stands between the parts of an array or object: the text goes on after a comma, or the
bracket closes it. -/
inductive Separator where
  | more (rest : List Char)
  | closed (rest : List Char)

def readSeparator (bracket : Char) (cs : List Char) : Except Fault Separator :=
  match skipSpace cs with
  | [] => .error .truncated
  | c :: rest =>
    if c = ',' then .ok (.more rest)
    else if c = bracket then .ok (.closed rest)
    else .error .malformed

def closedAtOnce? (bracket : Char) (cs : List Char) : Option (List Char) :=
  match skipSpace cs with
  | c :: rest => if c = bracket then some rest else none
  | [] => none

def readColon (cs : List Char) : Except Fault (List Char) :=
  match skipSpace cs with
  | [] => .error .truncated
  | c :: rest => if c = ':' then .ok rest else .error .malformed

def readKey (cs : List Char) : Except Fault (Taken String) :=
  match skipSpace cs with
  | [] => .error .truncated
  | c :: rest => if c = '"' then readString rest else .error .malformed

def startsNumber (c : Char) : Bool := c = '-' || isDigit c

mutual

def readValue : Nat → Budget → List Char → Except Fault (Taken Json)
  | 0, _, _ => .error .truncated
  | n + 1, budget, cs => match skipSpace cs with
    | [] => .error .truncated
    | c :: rest =>
      if c = 'n' then (readWord ['u', 'l', 'l'] rest).map (Json.null, ·)
      else if c = 't' then (readWord ['r', 'u', 'e'] rest).map (Json.bool true, ·)
      else if c = 'f' then (readWord ['a', 'l', 's', 'e'] rest).map (Json.bool false, ·)
      else if c = '"' then (readString rest).map fun (s, after) => (.string s, after)
      else if startsNumber c then (Number.read (c :: rest)).map fun (x, after) => (.number x, after)
      else if c = '[' then match budget with
        | 0 => .error .malformed
        | inner + 1 => match closedAtOnce? ']' rest with
          | some after => .ok (.array [], after)
          | none => (readItems n inner rest).map fun (items, after) => (.array items, after)
      else if c = '{' then match budget with
        | 0 => .error .malformed
        | inner + 1 => match closedAtOnce? '}' rest with
          | some after => .ok (.object [], after)
          | none => (readMembers n inner rest).map fun (pairs, after) =>
              (.object (Members.ofList pairs), after)
      else .error .malformed

def readItems : Nat → Budget → List Char → Except Fault (Taken (List Json))
  | 0, _, _ => .error .truncated
  | n + 1, budget, cs => do
    let (item, rest) ← readValue n budget cs
    match ← readSeparator ']' rest with
    | .closed after => .ok ([item], after)
    | .more after =>
      let (items, after) ← readItems n budget after
      .ok (item :: items, after)

def readMembers : Nat → Budget → List Char → Except Fault (Taken (List (String × Json)))
  | 0, _, _ => .error .truncated
  | n + 1, budget, cs => do
    let (key, rest) ← readKey cs
    let rest ← readColon rest
    let (value, rest) ← readValue n budget rest
    match ← readSeparator '}' rest with
    | .closed after => .ok ([(key, value)], after)
    | .more after =>
      let (members, after) ← readMembers n budget after
      .ok ((key, value) :: members, after)

end

mutual

def passValue : Nat → List Char → Except Fault (List Char)
  | 0, _ => .error .truncated
  | n + 1, cs => match skipSpace cs with
    | [] => .error .truncated
    | c :: rest =>
      if c = 'n' then readWord ['u', 'l', 'l'] rest
      else if c = 't' then readWord ['r', 'u', 'e'] rest
      else if c = 'f' then readWord ['a', 'l', 's', 'e'] rest
      else if c = '"' then passString rest
      else if startsNumber c then Number.pass (c :: rest)
      else if c = '[' then (match closedAtOnce? ']' rest with
        | some after => .ok after
        | none => passItems n rest)
      else if c = '{' then (match closedAtOnce? '}' rest with
        | some after => .ok after
        | none => passMembers n rest)
      else .error .malformed

def passItems : Nat → List Char → Except Fault (List Char)
  | 0, _ => .error .truncated
  | n + 1, cs => do
    let rest ← passValue n cs
    match ← readSeparator ']' rest with
    | .closed after => .ok after
    | .more after => passItems n after

def passMembers : Nat → List Char → Except Fault (List Char)
  | 0, _ => .error .truncated
  | n + 1, cs => do
    let rest ← match skipSpace cs with
      | [] => .error .truncated
      | c :: rest => if c = '"' then passString rest else .error .malformed
    let rest ← readColon rest
    let rest ← passValue n rest
    match ← readSeparator '}' rest with
    | .closed after => .ok after
    | .more after => passMembers n after

end

def pass (cs : List Char) : Except Fault (List Char) := passValue (steps cs) cs

def finish (rest : List Char) : Except Fault Unit :=
  if (skipSpace rest).isEmpty then .ok () else .error .malformed

def read (text : String) : Except Fault Json := do
  let cs := text.toList
  let (value, rest) ← readValue (steps cs) fullBudget cs
  finish rest
  .ok value

end PageScript.Json
