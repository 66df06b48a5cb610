import PageScript.Number.Numeral

/-! The shortest decimal that reads back as a given number, and its written forms. -/
namespace PageScript

inductive Tie where
  | toEven
  | upward
  deriving DecidableEq, Repr

namespace Double

def decimalPlace (num den : Nat) : Int :=
  if den ≤ num then (digitCount (num / den) : Int) - 1
  else
    let count := digitCount (den / num)
    if den ≤ num * Nat.pow 10 (count - 1) then -((count : Int) - 1) else -(count : Int)

def decimalScale (num den : Nat) : Int → Nat × Nat
  | .ofNat k => (num, den * Nat.pow 10 k)
  | .negSucc k => (num * Nat.pow 10 (k + 1), den)

def readsBack (x : Double) (d : Decimal) : Bool := d.toDouble? = some x

/-- The decimal with its unit at `10 ^ place` that reads back and is nearest, among the two that
enclose the number. -/
def onGrid? (tie : Tie) (x : Double) (place : Int) : Option Decimal :=
  let (num, den) := x.ratio
  let (a, b) := decimalScale num den place
  let below : Decimal := ⟨x.negative, a / b, place⟩
  let above : Decimal := ⟨x.negative, a / b + 1, place⟩
  let rest := 2 * (a % b)
  let preferBelow := rest < b || (rest = b && (tie = .toEven && (a / b) % 2 = 0))
  let (first, second) := if preferBelow then (below, above) else (above, below)
  if x.readsBack first then some first
  else if x.readsBack second then some second
  else none

def exactDecimal (x : Double) : Decimal :=
  match x.exponent with
  | .ofNat k => ⟨x.negative, x.significand * Nat.pow 2 k, 0⟩
  | .negSucc k => ⟨x.negative, x.significand * Nat.pow 5 (k + 1), -(k + 1 : Int)⟩

/-- Seventeen digits always read back, so the exact digits are never needed. -/
def shortest (tie : Tie) (x : Double) : Decimal :=
  if x.isZero then ⟨x.negative, 0, 0⟩
  else
    let place := decimalPlace x.ratio.1 x.ratio.2
    match (List.range 17).findSome? fun (n : Nat) => onGrid? tie x (place - n) with
    | some d => d
    | none => x.exactDecimal

end Double

/-- How a number is laid out: the exponents of ten written without a mark, and what follows a number
that has no fraction. -/
structure NumberStyle where
  tie : Tie
  isPlain : Int → Bool
  wholeSuffix : List Char

namespace NumberStyle

def dropZeros : Nat → List Char → Int → List Char × Int
  | 0, cs, k => (cs, k)
  | n + 1, cs, k => match cs.getLast? with
    | some '0' => dropZeros n cs.dropLast (k + 1)
    | _ => (cs, k)

def zeros (n : Nat) : List Char := List.replicate n '0'

def plain (suffix digits : List Char) (point : Int) : List Char :=
  match point with
  | .ofNat p =>
    if p = 0 then '0' :: '.' :: digits
    else if digits.length ≤ p then digits ++ zeros (p - digits.length) ++ suffix
    else digits.take p ++ '.' :: digits.drop p
  | .negSucc p => '0' :: '.' :: zeros (p + 1) ++ digits

def marked (digits : List Char) (power : Int) : List Char :=
  let fraction := digits.drop 1
  digits.take 1 ++ (if fraction.isEmpty then [] else '.' :: fraction) ++
    ['e', if power < 0 then '-' else '+'] ++ Nat.toDigits 10 power.natAbs

def write (style : NumberStyle) (x : Double) : List Char :=
  let sign := if x.negative then ['-'] else []
  if x.isZero then sign ++ '0' :: style.wholeSuffix
  else
    let d := x.shortest style.tie
    let written := Nat.toDigits 10 d.digits
    let (digits, k) := dropZeros written.length written d.exponent
    let point := (digits.length : Int) + k
    sign ++ if style.isPlain (point - 1) then plain style.wholeSuffix digits point
      else marked digits (point - 1)

end NumberStyle

end PageScript
