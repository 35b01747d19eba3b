import MarkdownPages.Number.Binary64

/-!
# The shortest decimal

A binary64 number is written with the fewest digits that read back as the same number; of several
such decimals the nearest one is taken.  Small and large numbers are written with an exponent.
-/

namespace MarkdownPages.Binary64

open Text

structure Neighbourhood where
  low : Nat
  centre : Nat
  high : Nat
  /-- Everything is counted in units of `2 ^ exponent`. -/
  exponent : Int
  closed : Bool

/-- Below the first mantissa of 53 bits the numbers lie twice as close. -/
def neighbourhood (mantissa : Nat) (exponent : Int) : Neighbourhood :=
  let below := if mantissa = mantissaBound / 2 ∧ exponent > leastExponent then 1 else 2
  ⟨4 * mantissa - below, 4 * mantissa, 4 * mantissa + 2, exponent - 2, mantissa % 2 = 0⟩

namespace Neighbourhood

def ratio (h : Neighbourhood) (n : Nat) (power : Int) : Nat × Nat :=
  (n * Nat.pow 2 h.exponent.toNat * Nat.pow 10 (-power).toNat,
    Nat.pow 2 (-h.exponent).toNat * Nat.pow 10 power.toNat)

def holds (h : Neighbourhood) (digits : Nat) (power : Int) : Bool :=
  let (low, den) := h.ratio h.low power
  let (high, _) := h.ratio h.high power
  if h.closed then low ≤ digits * den && digits * den ≤ high
  else low < digits * den && digits * den < high

def magnitude (h : Neighbourhood) : Int :=
  let (num, den) := h.ratio h.centre 0
  if num ≥ den then (Nat.toDigits 10 (num / den)).length
  else
    -- the zeros after the point are those of the number's reciprocal before it
    let guess : Int := 1 - (Nat.toDigits 10 (den / num)).length
    let (num, den) := h.ratio h.centre guess
    if num ≥ den then guess + 1 else guess

/-- The decimal on the grid `10 ^ power` that reads back, the nearer one if both neighbours do. -/
def onGrid? (h : Neighbourhood) (power : Int) : Option Nat :=
  let (num, den) := h.ratio h.centre power
  let q := num / den
  let r := num % den
  let upperFirst : Bool := 2 * r > den ∨ (2 * r = den ∧ q % 2 = 1)
  match h.holds q power, h.holds (q + 1) power with
  | true, true => some (if upperFirst then q + 1 else q)
  | true, false => some q
  | false, true => some (q + 1)
  | false, false => none

/-- The first grid with a hit, from coarse to fine; 17 digits always suffice. -/
def search (h : Neighbourhood) : (grids : Nat) → (power : Int) → Nat × Int
  | 0, power => (roundDiv (h.ratio h.centre power).1 (h.ratio h.centre power).2, power)
  | grids + 1, power =>
    match h.onGrid? power with
    | some digits => (digits, power)
    | none => search h grids (power - 1)

end Neighbourhood

def shortest (mantissa : Nat) (exponent : Int) : Nat × Int :=
  let h := neighbourhood mantissa exponent
  h.search 17 (h.magnitude - 1)

def significant (digits : Nat) : Text :=
  ((Nat.toDigits 10 digits).reverse.dropWhile (· == '0')).reverse

/-- A point among the digits; the first `point` digits stand before it. -/
def positional (digits : Text) (point : Int) : Text :=
  if point ≤ 0 then "0.".toList ++ List.replicate (-point).toNat '0' ++ digits
  else if digits.length ≤ point.toNat then
    digits ++ List.replicate (point.toNat - digits.length) '0' ++ ".0".toList
  else digits.take point.toNat ++ '.' :: digits.drop point.toNat

def scientific (digits : Text) (point : Int) : Text :=
  let power := point - 1
  let tail := digits.drop 1
  let exponent := Text.ofNat power.natAbs
  digits.take 1 ++ (if tail.isEmpty then [] else '.' :: tail) ++
    (if power < 0 then "e-".toList else "e+".toList) ++
    List.replicate (2 - exponent.length) '0' ++ exponent

def isPositional (point : Int) : Bool := -4 < point && point ≤ 16

def positiveText (mantissa : Nat) (exponent : Int) : Text :=
  let (digits, power) := shortest mantissa exponent
  let point : Int := (Nat.toDigits 10 digits).length + power
  if isPositional point then positional (significant digits) point
  else scientific (significant digits) point

def toText : Binary64 → Text
  | .finite negative m e =>
    (if negative then ['-'] else []) ++ (if m = 0 then "0.0".toList else positiveText m e)
  | .infinite negative => if negative then "-inf".toList else "inf".toList
  | .nan => "nan".toList

end MarkdownPages.Binary64
