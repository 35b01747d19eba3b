import MarkdownPages.Text.Basic
import MarkdownPages.Text.Utf8

/-!
# Percent encoding

A character that may not stand in a URL is written as the bytes of its UTF-8 form, each as a percent
sign and two hexadecimal digits.
-/

namespace MarkdownPages.Url

open Text

def hexByte (n : Nat) : Text :=
  let digit (d : Nat) : Char := if d < 10 then Char.ofNat (0x30 + d) else Char.ofNat (0x37 + d)
  [digit (n / 16), digit (n % 16)]

def percentByte (n : Nat) : Text := '%' :: hexByte n

def isUrlPunctuation (c : Char) : Bool := ";/?:@&=+$,-_.!~*'()#".toList.contains c

def encodeChar (c : Char) : Text :=
  if c.isAlphanum || isUrlPunctuation c then [c] else (utf8Bytes c).flatMap percentByte

/-- Encodes what needs it; escapes that are already there stay. -/
def percentEncode : Text → Text
  | [] => []
  | '%' :: a :: b :: rest =>
    if isHexDigit a && isHexDigit b then '%' :: a :: b :: percentEncode rest
    else percentByte 0x25 ++ percentEncode (a :: b :: rest)
  | c :: rest => encodeChar c ++ percentEncode rest

def readEscapes : Text → List Nat × Text
  | '%' :: a :: b :: rest =>
    match hexValue? a, hexValue? b with
    | some x, some y =>
      let (bytes, after) := readEscapes rest
      ((16 * x + y) :: bytes, after)
    | _, _ => ([], '%' :: a :: b :: rest)
  | s => ([], s)

def staysEscaped (n : Nat) : Bool := (";/?:@&=+$,#%".toList.map Char.toNat).contains n

def isContinuation (n : Nat) : Bool := 0x80 ≤ n && n ≤ 0xBF

def replacements (count : Nat) : Text := List.replicate count (Char.ofNat 0xFFFD)

/-- A character of two, three or four bytes, or as many replacement characters. -/
def decodeGroup (bytes : List Nat) : Text :=
  (decodeUtf8? bytes).getD (replacements bytes.length)

/--
Decodes the bytes of a run of escapes.  A lead byte with as many continuation bytes as it calls for
is one group, even if the group writes no character.
-/
def decodeBytes : List Nat → Text
  | [] => []
  | b :: rest =>
    if b < 0x80 then (if staysEscaped b then percentByte b else [Char.ofNat b]) ++ decodeBytes rest
    else
      match rest with
      | c :: rest₁ =>
        if 0xC0 ≤ b ∧ b ≤ 0xDF ∧ isContinuation c then decodeGroup [b, c] ++ decodeBytes rest₁
        else
          match rest₁ with
          | d :: rest₂ =>
            if 0xE0 ≤ b ∧ b ≤ 0xEF ∧ isContinuation c ∧ isContinuation d then
              decodeGroup [b, c, d] ++ decodeBytes rest₂
            else
              match rest₂ with
              | e :: rest₃ =>
                if 0xF0 ≤ b ∧ b ≤ 0xF7 ∧ isContinuation c ∧ isContinuation d ∧ isContinuation e then
                  decodeGroup [b, c, d, e] ++ decodeBytes rest₃
                else replacements 1 ++ decodeBytes (c :: d :: e :: rest₃)
              | [] => replacements 1 ++ decodeBytes [c, d]
          | [] => replacements 1 ++ decodeBytes [c]
      | [] => replacements 1

def percentDecode (s : Text) : Text := go s.length s
where
  go : Nat → Text → Text
    | 0, s => s
    | _ + 1, [] => []
    | fuel + 1, c :: rest =>
      match readEscapes (c :: rest) with
      | ([], _) => c :: go fuel rest
      | (bytes, after) => decodeBytes bytes ++ go fuel after

end MarkdownPages.Url
