import MarkdownPages.Yaml.Basic

/-!
# Quoted texts in documents

A text in single quotes holds a quote as two.  A text in double quotes knows escapes.  Both may run
over several lines, which are folded; a document separator may not stand among them.
-/

namespace MarkdownPages.Yaml

open Text

def escaped? : Char → Option Char
  | '0' => some (Char.ofNat 0x00)
  | 'a' => some (Char.ofNat 0x07)
  | 'b' => some (Char.ofNat 0x08)
  | 't' | '\t' => some '\t'
  | 'n' => some '\n'
  | 'v' => some (Char.ofNat 0x0B)
  | 'f' => some (Char.ofNat 0x0C)
  | 'r' => some '\r'
  | 'e' => some (Char.ofNat 0x1B)
  | ' ' => some ' '
  | '"' => some '"'
  | '/' => some '/'
  | '\\' => some '\\'
  | 'N' => some nextLine
  | '_' => some (Char.ofNat 0xA0)
  | 'L' => some (Char.ofNat 0x2028)
  | 'P' => some (Char.ofNat 0x2029)
  | _ => none

def escapeWidth? : Char → Option Nat
  | 'x' => some 2
  | 'u' => some 4
  | 'U' => some 8
  | _ => none

def readHex? (width : Nat) (s : Text) : Option (Nat × Text) :=
  let digits := s.take width
  if digits.length = width && digits.all isHexDigit then some (hexNumber digits, s.drop width)
  else none

def readLowSurrogate? : Text → Option (Nat × Text)
  | '\\' :: 'u' :: rest => do
    let (n, rest) ← readHex? 4 rest
    if 0xDC00 ≤ n ∧ n ≤ 0xDFFF then some (n, rest) else none
  | _ => none

/--
Reads a numeric escape after its letter.  Two escapes that write a surrogate pair are one
character; a half of a pair on its own is no character and is replaced.
-/
def readCodePoint (width : Nat) (s : Text) : Except Error (Char × Text) :=
  match readHex? width s with
  | none => .error .malformed
  | some (n, rest) =>
    if n > 0x10FFFF then .error .codePoint
    else if 0xD800 ≤ n ∧ n ≤ 0xDFFF then
      match readLowSurrogate? rest with
      | some (m, rest') =>
        if n < 0xDC00 then
          .ok (Char.ofNat (0x10000 + (n - 0xD800) * 0x400 + (m - 0xDC00)), rest')
        else .ok (Char.ofNat 0xFFFD, rest)
      | none => .ok (Char.ofNat 0xFFFD, rest)
    else .ok (Char.ofNat n, rest)

def readBreaks (fuel : Nat) (s : Text) : Except Error (Text × Text) :=
  if isSeparator s then .error .malformed
  else
    let s := s.dropWhile isSpaceOrTab
    match fuel, takeBreak? s with
    | fuel + 1, some (b, rest) => do
      let (more, rest) ← readBreaks fuel rest
      .ok (b :: more, rest)
    | _, _ => .ok ([], s)

def readQuoted (double : Bool) (s : Text) : Except Error (Text × Text) := go s.length s []
where
  go : Nat → Text → Text → Except Error (Text × Text)
    | _, [], _ | 0, _, _ => .error .malformed
    | fuel + 1, c :: rest, read =>
      if !double && c = '\'' then
        match rest with
        | '\'' :: rest => go fuel rest ('\'' :: read)
        | rest => .ok (read.reverse, rest)
      else if double && c = '"' then .ok (read.reverse, rest)
      else if double && c = '\\' then
        match rest with
        | [] => .error .malformed
        | e :: rest =>
          match escaped? e, escapeWidth? e with
          | some char, _ => go fuel rest (char :: read)
          | none, some width => do
            let (char, rest) ← readCodePoint width rest
            go fuel rest (char :: read)
          | none, none =>
            if isBreak e then do
              let (breaks, rest) ← readBreaks rest.length rest
              go fuel rest (breaks.reverse ++ read)
            else .error .malformed
      else if isSpaceOrTab c || isBreak c then
        let blanks := (c :: rest).takeWhile isSpaceOrTab
        let after := (c :: rest).dropWhile isSpaceOrTab
        match takeBreak? after with
        | some (b, after) => do
          let (breaks, after) ← readBreaks after.length after
          go fuel after ((fold b breaks).reverse ++ read)
        | none => go fuel after (blanks.reverse ++ read)
      else go fuel rest (c :: read)

end MarkdownPages.Yaml
