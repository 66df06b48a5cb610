import PageScript.Number.Double

/-! Numbers written in decimal: digits with a power of ten, and the texts that stand for them.
A text may also name an infinity or no number at all, in letters of either case. -/
namespace PageScript

structure Decimal where
  negative : Bool
  digits : Nat
  exponent : Int
  deriving DecidableEq, Repr

def digitCount (n : Nat) : Nat := (Nat.toDigits 10 n).length

def isDigit (c : Char) : Bool := '0' ≤ c && c ≤ '9'

def digitValue (c : Char) : Nat := c.toNat - '0'.toNat

def digitsValue (cs : List Char) : Nat := cs.foldl (fun n c => 10 * n + digitValue c) 0

/-- The nearest binary64 number; none when that lies beyond the largest one. Sizes far outside the
range are settled by the place of the first digit, without forming the power of ten. -/
def Decimal.toDouble? (d : Decimal) : Option Double :=
  if d.digits = 0 then some (.zero d.negative)
  else
    let place := (digitCount d.digits : Int) + d.exponent
    if 310 < place then none
    else if place < -330 then some (.zero d.negative)
    else match d.exponent with
      | .ofNat k => Double.nearest? d.negative (d.digits * Nat.pow 10 k) 1
      | .negSucc k => Double.nearest? d.negative d.digits (Nat.pow 10 (k + 1))

inductive Quantity where
  | finite (x : Double)
  | infinite (negative : Bool)
  | undefined
  deriving DecidableEq, Repr

namespace Numeral

def mantissa (cs : List Char) : Option (Nat × Int × List Char) :=
  let whole := cs.takeWhile isDigit
  let (part, rest) := match cs.dropWhile isDigit with
    | '.' :: after => (after.takeWhile isDigit, after.dropWhile isDigit)
    | other => ([], other)
  if whole.isEmpty && part.isEmpty then none
  else some (digitsValue (whole ++ part), -(part.length : Int), rest)

def signed (cs : List Char) : Bool × List Char :=
  match cs with
  | '-' :: rest => (true, rest)
  | '+' :: rest => (false, rest)
  | _ => (false, cs)

def power? (cs : List Char) : Option Int :=
  let (negative, digits) := signed cs
  if digits.isEmpty || !digits.all isDigit then none
  else
    let n : Int := digitsValue digits
    some (if negative then -n else n)

def exponent? : List Char → Option Int
  | [] => some 0
  | c :: rest => if c = 'e' || c = 'E' then power? rest else none

def decimal? (negative : Bool) (cs : List Char) : Option Decimal := do
  let (digits, shift, rest) ← mantissa cs
  let power ← exponent? rest
  some ⟨negative, digits, shift + power⟩

def named? (negative : Bool) (cs : List Char) : Option Quantity :=
  let word := String.ofList (cs.map Char.toLower)
  if word = "inf" || word = "infinity" then some (.infinite negative)
  else if word = "nan" then some .undefined
  else none

def read? (text : List Char) : Option Quantity :=
  let (negative, cs) := signed text
  match decimal? negative cs with
  | some d => some (match d.toDouble? with
      | some x => .finite x
      | none => .infinite negative)
  | none => named? negative cs

end Numeral

def Double.read? (text : List Char) : Option Double :=
  match Numeral.read? text with
  | some (.finite x) => some x
  | _ => none

end PageScript
