import PageScript.Json.Value
import PageScript.Number.Shortest

/-! Why a text is not the JSON that was asked for, and numbers in JSON text.

Writing gives the shortest digits that read back under correct rounding. Reading keeps as many
digits as fit 64 bits and scales them by a rounded power of ten, so it may miss the nearest number
by a last place. -/
namespace PageScript.Json

inductive Fault where
  /-- The text ends before the value does. -/
  | truncated
  /-- The text breaks the grammar or a limit of it. -/
  | malformed
  /-- The value has another shape than the one asked for. -/
  | mistyped
  deriving DecidableEq, Repr

def Fault.category : Fault → String
  | .truncated => "eof"
  | .malformed => "syntax"
  | .mistyped => "data"

/-! ### Numbers -/

/-- Powers from -5 to 15 are written without an exponent, and a whole number keeps its point. -/
def numberStyle : NumberStyle := ⟨.toEven, fun power => -5 ≤ power && power < 16, ['.', '0']⟩

def Number.write : Number → List Char
  | .whole n => (if n < 0 then ['-'] else []) ++ Nat.toDigits 10 n.natAbs
  | .double x => numberStyle.write x

namespace Number

/-- Digits taken while the number they form fits 64 bits, the count of the digits left out, and the
rest of the text. -/
def gather (n : Nat) : List Char → Nat × Nat × List Char
  | [] => (n, 0, [])
  | c :: rest =>
    if !isDigit c then (n, 0, c :: rest)
    else if 10 * n + digitValue c < Nat.pow 2 64 then gather (10 * n + digitValue c) rest
    else (n, 1 + (rest.takeWhile isDigit).length, rest.dropWhile isDigit)

def powerOfTen (k : Nat) : Double := (Double.nearest? false (Nat.pow 10 k) 1).getD default

def divided (x : Double) (k : Nat) : Double := (x.div? (powerOfTen k)).getD default

/-- A significand below `2 ^ 64` times a power of ten; none when the product is too large. Powers
outside the range of binary64 are divided out in two steps, after which nothing is left. -/
def scaled? (significand : Nat) : Int → Option Double
  | .ofNat k =>
    if significand = 0 then some default
    else if 308 < k then none
    else (Double.ofNat? significand).bind (·.mul? (powerOfTen k))
  | .negSucc j =>
    let k := j + 1
    let x := (Double.ofNat? significand).getD default
    some (if k ≤ 308 then divided x k
      else if k ≤ 616 then divided (divided x 308) (k - 308)
      else default)

def ofParts (negative : Bool) (significand : Nat) (power : Int) : Except Fault Number :=
  match scaled? significand power with
  | some x => .ok (.double (x.withSign negative))
  | none => .error .malformed

def missing : List Char → Fault
  | [] => .truncated
  | _ :: _ => .malformed

/-- Powers are 32-bit numbers: sums stop at the bounds of that range, and a written power outside it
stands for zero or for a number that is too large. -/
def clampPower (power : Int) : Int := max (-(Nat.pow 2 31 : Int)) (min (Nat.pow 2 31 - 1 : Int) power)

def readPower (negative : Bool) (significand : Nat) (power : Int) (cs : List Char) :
    Except Fault (Number × List Char) := do
  let (down, digits) := match cs with
    | '+' :: rest => (false, rest)
    | '-' :: rest => (true, rest)
    | _ => (false, cs)
  let written := digits.takeWhile isDigit
  let rest := digits.dropWhile isDigit
  if written.isEmpty then .error (missing rest)
  else
    let n := digitsValue written
    if Nat.pow 2 31 ≤ n then
      if significand ≠ 0 && !down then .error .malformed
      else .ok (.double (.zero negative), rest)
    else
      let x ← ofParts negative significand (clampPower (if down then power - n else power + n))
      .ok (x, rest)

def readTail (negative : Bool) (significand : Nat) (power : Int) (cs : List Char) :
    Except Fault (Number × List Char) :=
  match cs with
  | c :: rest =>
    if c = 'e' || c = 'E' then readPower negative significand power rest
    else (ofParts negative significand power).map (·, cs)
  | [] => (ofParts negative significand power).map (·, [])

def readFraction (negative : Bool) (significand : Nat) (power : Int) (cs : List Char) :
    Except Fault (Number × List Char) :=
  let count := (cs.takeWhile isDigit).length
  if count = 0 then .error (missing cs)
  else
    let (n, dropped, rest) := gather significand cs
    readTail negative n (power - (count - dropped : Nat)) rest

def ofDigits (negative : Bool) (n : Nat) : Number :=
  if !negative then .whole n
  else if n = 0 || Nat.pow 2 63 < n then .double (((Double.ofNat? n).getD default).withSign true)
  else .whole (-(n : Int))

def readRest (negative : Bool) (n dropped : Nat) (cs : List Char) :
    Except Fault (Number × List Char) :=
  match cs with
  | '.' :: rest => readFraction negative n dropped rest
  | c :: _ =>
    if c = 'e' || c = 'E' || dropped ≠ 0 then readTail negative n dropped cs
    else .ok (ofDigits negative n, cs)
  | [] => if dropped ≠ 0 then readTail negative n dropped [] else .ok (ofDigits negative n, [])

/-- After the sign. A zero is the only digit before the point or stands alone. -/
def readUnsigned (negative : Bool) (cs : List Char) : Except Fault (Number × List Char) :=
  match cs with
  | [] => .error .truncated
  | '0' :: rest =>
    if rest.head?.any isDigit then .error .malformed else readRest negative 0 0 rest
  | c :: _ =>
    if isDigit c then
      let (n, dropped, rest) := gather 0 cs
      readRest negative n dropped rest
    else .error .malformed

def read (cs : List Char) : Except Fault (Number × List Char) :=
  match cs with
  | '-' :: rest => readUnsigned true rest
  | _ => readUnsigned false cs

def passDigits (cs : List Char) : Except Fault (List Char) :=
  if cs.head?.any isDigit then .ok (cs.dropWhile isDigit) else .error .malformed

def passPower (cs : List Char) : Except Fault (List Char) :=
  match cs with
  | c :: rest =>
    if c = 'e' || c = 'E' then
      passDigits (match rest with
        | d :: after => if d = '+' || d = '-' then after else rest
        | [] => [])
    else .ok cs
  | [] => .ok []

def pass (cs : List Char) : Except Fault (List Char) := do
  let digits := match cs with
    | '-' :: rest => rest
    | _ => cs
  let rest ← match digits with
    | '0' :: rest => if rest.head?.any isDigit then .error .malformed else .ok rest
    | _ => passDigits digits
  match rest with
  | '.' :: after => passPower (← passDigits after)
  | _ => passPower rest

end Number

end PageScript.Json
