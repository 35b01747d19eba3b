import MarkdownPages.Text.Basic
import MarkdownPages.Text.Printable

/-!
# Quoted texts

Messages show texts in quotes.  The quotes are single ones, unless the text holds single quotes
and no double ones.  Characters that are not printable are written by their code points.
-/

namespace MarkdownPages.Text

def hexPadded (width n : Nat) : Text :=
  let digits := Nat.toDigits 16 n
  List.replicate (width - digits.length) '0' ++ digits

def escapeCode (c : Char) : Text :=
  let n := c.toNat
  if n ≤ 0xFF then '\\' :: 'x' :: hexPadded 2 n
  else if n ≤ 0xFFFF then '\\' :: 'u' :: hexPadded 4 n
  else '\\' :: 'U' :: hexPadded 8 n

def quoteChar (quote c : Char) : Text :=
  if c = quote ∨ c = '\\' then ['\\', c]
  else if c = '\n' then ['\\', 'n']
  else if c = '\r' then ['\\', 'r']
  else if c = '\t' then ['\\', 't']
  else if isPrintable c then [c]
  else escapeCode c

def quoteFor (s : Text) : Char := if '\'' ∈ s ∧ '"' ∉ s then '"' else '\''

def quoted (s : Text) : Text :=
  let quote := quoteFor s
  quote :: s.flatMap (quoteChar quote) ++ [quote]

def quoteByte (quote : Char) (n : Nat) : Text :=
  if n < 0x80 then quoteChar quote (Char.ofNat n) else '\\' :: 'x' :: hexPadded 2 n

def quotedBytes (bytes : List Nat) : Text :=
  let quote := quoteFor (bytes.map Char.ofNat)
  'b' :: quote :: bytes.flatMap (quoteByte quote) ++ [quote]

end MarkdownPages.Text
