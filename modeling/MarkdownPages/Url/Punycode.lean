import MarkdownPages.Text.Basic

/-!
# Punycode

Host names are written in ASCII.  A label with other characters is written as its ASCII characters,
a hyphen, and a list of numbers that tells where the other characters are inserted, in the order of
their code points.  The numbers are written in base 36 with digits whose thresholds depend on a bias
that adapts to the numbers written so far.
-/

namespace MarkdownPages.Url.Punycode

open Text

def isAscii (c : Char) : Bool := c.toNat < 0x80

def digitChar (digit : Nat) : Char :=
  if digit < 26 then Char.ofNat (0x61 + digit) else Char.ofNat (0x30 + (digit - 26))

def digitValue? (c : Char) : Option Nat :=
  if c.isLower then some (c.toNat - 0x61)
  else if c.isUpper then some (c.toNat - 0x41)
  else if c.isDigit then some (c.toNat - 0x30 + 26)
  else none

def threshold (place bias : Nat) : Nat := max 1 (min 26 (36 * (place + 1) - bias))

theorem threshold_pos (place bias : Nat) : 1 ≤ threshold place bias := by
  unfold threshold
  omega

theorem threshold_le (place bias : Nat) : threshold place bias ≤ 26 := by
  unfold threshold
  omega

/-- Divides by 35 until the number is at most 455; the bias grows by 36 with each division. -/
def scaleBias (delta grown : Nat) : Nat :=
  if 455 < delta then scaleBias (delta / 35) (grown + 36) else grown + 36 * delta / (delta + 38)
termination_by delta
decreasing_by exact Nat.div_lt_self (by omega) (by omega)

/-- The bias after a number has been written; `count` is the number of characters placed so far. -/
def adapt (delta : Nat) (first : Bool) (count : Nat) : Nat :=
  let scaled := if first then delta / 700 else delta / 2
  scaleBias (scaled + scaled / count) 0

/-! ## Writing -/

def encodeNumber (bias place n : Nat) : Text :=
  let t := threshold place bias
  if n < t then [digitChar n]
  else digitChar (t + (n - t) % (36 - t)) :: encodeNumber bias (place + 1) ((n - t) / (36 - t))
termination_by n
decreasing_by
  have h₁ := threshold_pos place bias
  have h₂ := threshold_le place bias
  calc (n - threshold place bias) / (36 - threshold place bias)
      ≤ n - threshold place bias := Nat.div_le_self _ _
    _ < n := by omega

structure Writer where
  written : Text
  delta : Nat
  bias : Nat
  placed : Nat

def Writer.pass (basicCount code : Nat) (w : Writer) (c : Char) : Writer :=
  if c.toNat < code then { w with delta := w.delta + 1 }
  else if c.toNat = code then
    { written := w.written ++ encodeNumber w.bias 0 w.delta
      delta := 0
      bias := adapt w.delta (w.placed == basicCount) (w.placed + 1)
      placed := w.placed + 1 }
  else w

/-- Places the characters with the given code points, which are in order; `next` is the least code
point that may still come. -/
def placeAll (label : Text) (basicCount : Nat) : List Nat → Nat → Writer → Writer
  | [], _, w => w
  | code :: codes, next, w =>
    let w := { w with delta := w.delta + (code - next) * (w.placed + 1) }
    let w := label.foldl (Writer.pass basicCount code) w
    placeAll label basicCount codes (code + 1) { w with delta := w.delta + 1 }

def insertOnce (n : Nat) : List Nat → List Nat
  | [] => [n]
  | m :: ms => if n < m then n :: m :: ms else if n = m then m :: ms else m :: insertOnce n ms

def encode (label : Text) : Text :=
  let basic := label.filter isAscii
  let codes := (label.filter (!isAscii ·)).foldr (fun c codes => insertOnce c.toNat codes) []
  let placed := placeAll label basic.length codes 128 ⟨[], 0, 72, basic.length⟩
  basic ++ (if basic.isEmpty then [] else ['-']) ++ placed.written

/-! ## Reading -/

def readNumber? (bias : Nat) : (place weight : Nat) → Text → Option (Nat × Text)
  | _, _, [] => none
  | place, weight, c :: rest => do
    let digit ← digitValue? c
    let t := threshold place bias
    if digit < t then some (digit * weight, rest)
    else
      let (n, after) ← readNumber? bias (place + 1) (weight * (36 - t)) rest
      some (digit * weight + n, after)

/--
Inserts the characters that the digits tell into `label`.  `code` and `position` are where the last
one went; `fuel` bounds the number of characters.
-/
def insertAll? :
    (fuel : Nat) → (label : Text) → (code position bias : Nat) → (first : Bool) → Text → Option Text
  | _, label, _, _, _, _, [] => some label
  | 0, _, _, _, _, _, _ :: _ => none
  | fuel + 1, label, code, position, bias, first, digits => do
    let (delta, rest) ← readNumber? bias 0 1 digits
    let slots := label.length + 1
    let advanced := position + delta
    let code := code + advanced / slots
    let position := advanced % slots
    if h : code.isValidChar then
      let label := label.take position ++ [Char.ofNatAux code h] ++ label.drop position
      insertAll? fuel label code (position + 1) (adapt delta first slots) false rest
    else none

def decode? (s : Text) : Option Text :=
  if !s.all isAscii then none
  else
    let digits := (s.reverse.takeWhile (· != '-')).reverse
    let basic := s.take (s.length - digits.length - 1)
    insertAll? digits.length basic 128 0 72 true digits

end MarkdownPages.Url.Punycode
