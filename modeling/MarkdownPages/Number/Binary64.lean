import MarkdownPages.Text.Basic

/-!
# Binary64 numbers

Numbers with a fractional part are kept in the binary64 format: a mantissa below `2 ^ 53` times a
power of two whose exponent is at least `-1074`.  A decimal is read as the nearest number of the
format; of two nearest ones the one with the even mantissa is taken.
-/

namespace MarkdownPages

open Text

inductive Binary64
  /-- The number `mantissa * 2 ^ exponent`, or its negative. -/
  | finite (negative : Bool) (mantissa : Nat) (exponent : Int)
  | infinite (negative : Bool)
  | nan
deriving DecidableEq, Repr

namespace Binary64

/-! ## Rounding -/

def leastExponent : Int := -1074

def greatestExponent : Int := 971

def mantissaBound : Nat := Nat.pow 2 53

/-- The quotient of two numbers, rounded to the nearest number; a half goes to the even one. -/
def roundDiv (num den : Nat) : Nat :=
  let q := num / den
  let r := num % den
  if 2 * r > den ∨ (2 * r = den ∧ q % 2 = 1) then q + 1 else q

/-- The ratio `num / den` as a multiple of `2 ^ exponent`, again as a ratio. -/
def inUnits (num den : Nat) (exponent : Int) : Nat × Nat :=
  (num * Nat.pow 2 (-exponent).toNat, den * Nat.pow 2 exponent.toNat)

def exponentFor (num den : Nat) : Int :=
  let guess := max leastExponent ((num.log2 : Int) - (den.log2 : Int) - 53)
  let (n, d) := inUnits num den guess
  if n / d < mantissaBound then guess else guess + 1

def ofRatio (negative : Bool) (num den : Nat) : Binary64 :=
  if num = 0 then .finite negative 0 0
  else
    let exponent := exponentFor num den
    let (n, d) := inUnits num den exponent
    let mantissa := roundDiv n d
    let (mantissa, exponent) :=
      if mantissa = mantissaBound then (mantissa / 2, exponent + 1) else (mantissa, exponent)
    if exponent > greatestExponent then .infinite negative
    else if mantissa = 0 then .finite negative 0 0
    else .finite negative mantissa exponent

/--
The number nearest to `digits * 10 ^ power`.  Beyond the powers that the format can tell apart from
infinity and from zero the power itself is not computed.
-/
def ofDecimal (negative : Bool) (digits : Nat) (power : Int) : Binary64 :=
  let magnitude : Int := (Nat.toDigits 10 digits).length + power
  if digits = 0 ∨ magnitude < -400 then .finite negative 0 0
  else if magnitude > 400 then .infinite negative
  else ofRatio negative (digits * Nat.pow 10 power.toNat) (Nat.pow 10 (-power).toNat)

/-! ## Reading -/

def readSign : Text → Bool × Text
  | '-' :: rest => (true, rest)
  | '+' :: rest => (false, rest)
  | s => (false, s)

def readExponent? : Text → Option Int
  | [] => some 0
  | e :: rest =>
    let (negative, digits) := readSign rest
    if (e = 'e' ∨ e = 'E') ∧ digits ≠ [] ∧ digits.all Char.isDigit then
      some (if negative then -(decimalNumber digits : Int) else decimalNumber digits)
    else none

def readDecimal? (negative : Bool) (s : Text) : Option Binary64 := do
  let whole := s.takeWhile Char.isDigit
  let rest := s.dropWhile Char.isDigit
  let (part, rest) :=
    match rest with
    | '.' :: rest => (rest.takeWhile Char.isDigit, rest.dropWhile Char.isDigit)
    | rest => ([], rest)
  if whole.isEmpty && part.isEmpty then none
  else
    let exponent ← readExponent? rest
    some (ofDecimal negative (decimalNumber (whole ++ part)) (exponent - part.length))

def ofText? (s : Text) : Option Binary64 :=
  let (negative, s) := readSign (trim s)
  let name := String.ofList (lower s)
  if name = "inf" ∨ name = "infinity" then some (.infinite negative)
  else if name = "nan" then some .nan
  else readDecimal? negative s

/-! ## Comparing -/

def negate : Binary64 → Binary64
  | .finite negative m e => .finite (!negative) m e
  | .infinite negative => .infinite (!negative)
  | .nan => .nan

def isZero : Binary64 → Bool
  | .finite _ m _ => m = 0
  | _ => false

def isInt (n : Int) : Binary64 → Bool
  | .finite negative m e =>
    (if negative then -n else n) * Nat.pow 2 (-e).toNat = m * Nat.pow 2 e.toNat
  | _ => false

/-- Equality of numbers: the two zeros are equal. -/
def same (x y : Binary64) : Bool := x == y || (x.isZero && y.isZero)

end Binary64

end MarkdownPages
