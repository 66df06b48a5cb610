/-! Finite binary64 numbers, held exactly: a sign, a significand and a power of two. Each operation
rounds an exact quotient of naturals once, to the nearest number, a tie going to the even
significand. -/
namespace PageScript

/-- The significand fills 53 bits, except where the exponent is the least one. -/
def Double.Canonical (significand : Nat) (exponent : Int) : Prop :=
  significand < Nat.pow 2 53 ∧ -1074 ≤ exponent ∧ exponent ≤ 971 ∧
    (Nat.pow 2 52 ≤ significand ∨ exponent = -1074)

instance (significand exponent) : Decidable (Double.Canonical significand exponent) := by
  unfold Double.Canonical; infer_instance

structure Double where
  negative : Bool
  significand : Nat
  exponent : Int
  canonical : Double.Canonical significand exponent
  deriving DecidableEq, Repr

namespace Double

def zero (negative : Bool) : Double := ⟨negative, 0, -1074, by decide⟩

instance : Inhabited Double := ⟨zero false⟩

def isZero (x : Double) : Bool := x.significand = 0

def isBelowZero (x : Double) : Bool := x.negative && !x.isZero

def isAboveZero (x : Double) : Bool := !x.negative && !x.isZero

def withSign (x : Double) (negative : Bool) : Double := { x with negative }

def ratio (x : Double) : Nat × Nat :=
  match x.exponent with
  | .ofNat k => (x.significand * Nat.pow 2 k, 1)
  | .negSucc k => (x.significand, Nat.pow 2 (k + 1))

def make? (negative : Bool) (significand : Nat) (exponent : Int) : Option Double :=
  if h : Canonical significand exponent then some ⟨negative, significand, exponent, h⟩ else none

def halfEven (num den : Nat) : Nat :=
  let quotient := num / den
  let rest := 2 * (num % den)
  if rest < den then quotient
  else if den < rest then quotient + 1
  else quotient + quotient % 2

def scaleDown (num den : Nat) : Int → Nat × Nat
  | .ofNat k => (num, den * Nat.pow 2 k)
  | .negSucc k => (num * Nat.pow 2 (k + 1), den)

/-- The exponent whose unit resolves a quotient to 53 bits, or the least exponent. -/
def unitExponent (num den : Nat) : Int :=
  if num = 0 then -1074
  else
    let low : Int := (num.log2 : Int) - den.log2 - 53
    let (a, b) := scaleDown num den low
    max (-1074) (if a < b * Nat.pow 2 53 then low else low + 1)

/-- The nearest number to a quotient; none when that lies beyond the largest number. -/
def nearest? (negative : Bool) (num den : Nat) : Option Double :=
  let exponent := unitExponent num den
  let (a, b) := scaleDown num den exponent
  let significand := halfEven a b
  if significand = Nat.pow 2 53 then make? negative (Nat.pow 2 52) (exponent + 1)
  else make? negative significand exponent

def ofNat? (n : Nat) : Option Double := nearest? false n 1

def ofInt? (n : Int) : Option Double := nearest? (n < 0) n.natAbs 1

def mul? (x y : Double) : Option Double :=
  let (a, b) := x.ratio
  let (c, d) := y.ratio
  nearest? (x.negative != y.negative) (a * c) (b * d)

def div? (x y : Double) : Option Double :=
  let (a, b) := x.ratio
  let (c, d) := y.ratio
  nearest? (x.negative != y.negative) (a * d) (b * c)

def nanoseconds (x : Double) : Nat :=
  let (a, b) := x.ratio
  halfEven (a * Nat.pow 10 9) b

end Double

end PageScript
