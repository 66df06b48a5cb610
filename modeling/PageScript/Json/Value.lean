import PageScript.Number.Double

/-! JSON values. Members of an object stand in increasing order of their keys, each key once; keys
are ordered by code points, which is also the order of their UTF-8 bytes. -/
namespace PageScript.Json

/-- Whole numbers that fit 64 bits, signed or unsigned, stay whole; all others are binary64. -/
inductive Number where
  | whole (n : Int)
  | double (x : Double)
  deriving DecidableEq, Repr

def Number.toDouble? : Number → Option Double
  | .whole n => Double.ofInt? n
  | .double x => some x

end Json

inductive Json where
  | null
  | bool (value : Bool)
  | number (value : Json.Number)
  | string (value : String)
  | array (items : List Json)
  | object (members : List (String × Json))
  deriving BEq, Repr, Inhabited

namespace Json

abbrev Members := List (String × Json)

namespace Members

def get? (members : Members) (key : String) : Option Json := members.lookup key

def insert (key : String) (value : Json) : Members → Members
  | [] => [(key, value)]
  | (k, v) :: rest =>
    if key < k then (key, value) :: (k, v) :: rest
    else if key = k then (key, value) :: rest
    else (k, v) :: insert key value rest

def erase (members : Members) (key : String) : Members := members.filter (·.1 ≠ key)

def ofList (pairs : List (String × Json)) : Members :=
  pairs.foldl (fun members (key, value) => members.insert key value) []

end Members

def isNull : Json → Bool
  | .null => true
  | _ => false

def string? : Json → Option String
  | .string s => some s
  | _ => none

def bool? : Json → Option Bool
  | .bool b => some b
  | _ => none

def array? : Json → Option (List Json)
  | .array items => some items
  | _ => none

def object? : Json → Option Members
  | .object members => some members
  | _ => none

def ofNat (n : Nat) : Json := .number (.whole n)

end Json

end PageScript
