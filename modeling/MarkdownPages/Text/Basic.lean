/-!
# Text

Documents, headings, paths and settings are all texts: lists of characters.  This file holds the
blank characters and the operations on texts that the rest of the library shares.
-/

namespace MarkdownPages

abbrev Text := List Char

namespace Text

/-! ## Blanks -/

/--
The blank characters: every character with the Unicode property `White_Space`, and the four
information separators `U+001C` to `U+001F`.
-/
def isBlank (c : Char) : Bool :=
  let n := c.toNat
  (0x09 ≤ n && n ≤ 0x0D) || (0x1C ≤ n && n ≤ 0x20) || n == 0x85 || n == 0xA0 || n == 0x1680 ||
    (0x2000 ≤ n && n ≤ 0x200A) || n == 0x2028 || n == 0x2029 || n == 0x202F || n == 0x205F ||
    n == 0x3000

def trimStart (s : Text) : Text := s.dropWhile isBlank

def trimEnd (s : Text) : Text := (s.reverse.dropWhile isBlank).reverse

def trim (s : Text) : Text := trimEnd (trimStart s)

def squeezeBlanks (s : Text) : Text :=
  go false s
where
  go : Bool → Text → Text
    | _, [] => []
    | inRun, c :: rest =>
      if isBlank c then
        if inRun then go true rest else ' ' :: go true rest
      else c :: go false rest

/-! ## Beginnings and ends -/

theorem length_of_isPrefixOf? {lead s rest : Text} (h : lead.isPrefixOf? s = some rest) :
    s.length = lead.length + rest.length := by
  induction lead generalizing s with
  | nil =>
      obtain rfl : s = rest := Option.some.inj h
      simp
  | cons l lead ih =>
      cases s with
      | nil => cases h
      | cons c s =>
          have hread : (if l == c then lead.isPrefixOf? s else none) = some rest := h
          split at hread
          · simp only [List.length_cons, ih hread]
            omega
          · cases hread

def dropFinalNewline (s : Text) : Text := if s.getLast? = some '\n' then s.dropLast else s

def ofNat (n : Nat) : Text := Nat.toDigits 10 n

/-! ## ASCII -/

/--
The lower case of a character, as far as ASCII goes: besides `A` to `Z` only the Kelvin sign and the
dotted capital I have ASCII letters in their lower case, so that any other character may stand for
itself.
-/
def lowerChar (c : Char) : Text :=
  if c.isUpper then [Char.ofNat (c.toNat + 32)]
  else if c.toNat = 0x212A then ['k']
  else if c.toNat = 0x130 then ['i', Char.ofNat 0x307]
  else [c]

def lower (s : Text) : Text := s.flatMap lowerChar

/--
The ASCII letter that a character is a case variant of, in lower case.  Case variants are compared
one by one, so that the long s, the Kelvin sign, and the letters i with the other dot count among
them.
-/
def lowerVariant (c : Char) : Char :=
  if c.isUpper then Char.ofNat (c.toNat + 32)
  else if c.toNat = 0x17F then 's'
  else if c.toNat = 0x212A then 'k'
  else if c.toNat = 0x130 ∨ c.toNat = 0x131 then 'i'
  else c

def isAsciiPunctuation (c : Char) : Bool :=
  let n := c.toNat
  (0x21 ≤ n && n ≤ 0x2F) || (0x3A ≤ n && n ≤ 0x40) || (0x5B ≤ n && n ≤ 0x60) ||
    (0x7B ≤ n && n ≤ 0x7E)

def hexValue? (c : Char) : Option Nat :=
  if c.isDigit then some (c.toNat - 0x30)
  else if 'a' ≤ c && c ≤ 'f' then some (c.toNat - 0x61 + 10)
  else if 'A' ≤ c && c ≤ 'F' then some (c.toNat - 0x41 + 10)
  else none

def isHexDigit (c : Char) : Bool := (hexValue? c).isSome

def hexNumber (s : Text) : Nat := s.foldl (fun n c => 16 * n + (hexValue? c).getD 0) 0

def decimalNumber (s : Text) : Nat := s.foldl (fun n c => 10 * n + (c.toNat - 0x30)) 0

def inRanges (ranges : List (Nat × Nat)) (c : Char) : Bool :=
  ranges.any fun (first, last) => first ≤ c.toNat && c.toNat ≤ last

end Text

end MarkdownPages
