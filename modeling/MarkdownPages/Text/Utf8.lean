import MarkdownPages.Text.Basic

/-!
# UTF-8

Files hold bytes.  A text is written as its UTF-8 form, and bytes are read only if they are the
UTF-8 form of a text: the shortest form of each character, and no surrogates.
-/

namespace MarkdownPages.Text

def utf8Bytes (c : Char) : List Nat :=
  let n := c.toNat
  if n < 0x80 then [n]
  else if n < 0x800 then [0xC0 + n / 0x40, 0x80 + n % 0x40]
  else if n < 0x10000 then [0xE0 + n / 0x1000, 0x80 + n / 0x40 % 0x40, 0x80 + n % 0x40]
  else [0xF0 + n / 0x40000, 0x80 + n / 0x1000 % 0x40, 0x80 + n / 0x40 % 0x40, 0x80 + n % 0x40]

def encodeUtf8 (s : Text) : List Nat := s.flatMap utf8Bytes

def continuationBits? (n : Nat) : Option Nat :=
  if 0x80 ≤ n ∧ n ≤ 0xBF then some (n - 0x80) else none

def charFrom? (least n : Nat) : Option Char :=
  if least ≤ n ∧ n.isValidChar then some (Char.ofNat n) else none

def readUtf8Char? : List Nat → Option (Char × List Nat)
  | [] => none
  | b :: rest =>
    if b < 0x80 then some (Char.ofNat b, rest)
    else if 0xC0 ≤ b ∧ b ≤ 0xDF then
      match rest with
      | c :: rest => do
        let x ← continuationBits? c
        let char ← charFrom? 0x80 ((b - 0xC0) * 0x40 + x)
        some (char, rest)
      | _ => none
    else if 0xE0 ≤ b ∧ b ≤ 0xEF then
      match rest with
      | c :: d :: rest => do
        let x ← continuationBits? c
        let y ← continuationBits? d
        let char ← charFrom? 0x800 ((b - 0xE0) * 0x1000 + x * 0x40 + y)
        some (char, rest)
      | _ => none
    else if 0xF0 ≤ b ∧ b ≤ 0xF7 then
      match rest with
      | c :: d :: e :: rest => do
        let x ← continuationBits? c
        let y ← continuationBits? d
        let z ← continuationBits? e
        let char ← charFrom? 0x10000 ((b - 0xF0) * 0x40000 + x * 0x1000 + y * 0x40 + z)
        some (char, rest)
      | _ => none
    else none

def decodeUtf8? (bytes : List Nat) : Option Text := go bytes.length bytes []
where
  go : Nat → List Nat → Text → Option Text
    | _, [], read => some read.reverse
    | 0, _ :: _, _ => none
    | fuel + 1, b :: rest, read =>
      match readUtf8Char? (b :: rest) with
      | some (c, rest) => go fuel rest (c :: read)
      | none => none

/-- Every line ends with a line feed: carriage returns, alone or before a line feed, become one. -/
def normalizeNewlines : Text → Text
  | [] => []
  | '\r' :: '\n' :: rest => '\n' :: normalizeNewlines rest
  | '\r' :: rest => '\n' :: normalizeNewlines rest
  | c :: rest => c :: normalizeNewlines rest

end MarkdownPages.Text
