import MarkdownPages.Yaml.Basic

/-!
# Names in documents

Anchors name a part of a document, tags name the kind of a value, and directives come before a
document.
-/

namespace MarkdownPages.Yaml

open Text

/-! ## Anchors -/

def isAnchorChar (c : Char) : Bool :=
  let n := c.toNat
  !",[]\x7b\x7d".toList.contains c &&
    ((0x21 ≤ n && n ≤ 0x7E) || (0xA0 ≤ n && n ≤ 0xD7FF) ||
      (0xE000 ≤ n && n ≤ 0xFFFD && n ≠ 0xFEFF) || 0x10000 ≤ n)

def atAnchorEnd : Option Char → Bool
  | none => true
  | some c => isSpaceOrTab c || isBreak c || ",[]\x7b\x7d".toList.contains c

def readAnchor (s : Text) : Except Error (Text × Text) :=
  let name := s.takeWhile isAnchorChar
  let rest := s.dropWhile isAnchorChar
  if name.isEmpty || !atAnchorEnd rest.head? then .error .malformed else .ok (name, rest)

/-! ## Tags -/

/-- A tag as it is written: a handle that stands for the first part, and the second part. -/
structure Tag where
  handle : Option Text
  suffix : Text
deriving DecidableEq, Repr

namespace Tag

def plain : Tag := ⟨none, ['!']⟩

def isHandleChar (c : Char) : Bool := c.isAlphanum || c = '-' || c = '_'

def isUriChar (version : Version) (c : Char) : Bool :=
  c.isAlphanum || "-;/?:@&=+$,_.!~*'()[]".toList.contains c || (version.isLater && c = '#')

def readEscapes : (fuel : Nat) → Text → Except Error (List Nat × Text)
  | 0, s => .ok ([], s)
  | fuel + 1, '%' :: a :: b :: rest =>
    if isHexDigit a && isHexDigit b then do
      let (bytes, rest) ← readEscapes fuel rest
      .ok (hexNumber [a, b] :: bytes, rest)
    else .error .malformed
  | _, '%' :: _ => .error .malformed
  | _, s => .ok ([], s)

/-- The ASCII text of escaped bytes; kinds of values have ASCII names only. -/
def ofBytes (bytes : List Nat) : Text :=
  bytes.map fun n => if n < 0x80 then Char.ofNat n else Char.ofNat 0xFFFD

def readSuffix (version : Version) : (fuel : Nat) → Text → Except Error (Text × Text)
  | 0, s => .ok ([], s)
  | fuel + 1, s =>
    match s with
    | [] => .ok ([], [])
    | c :: rest =>
      if c = '%' then do
        let (bytes, rest) ← readEscapes s.length s
        let (more, rest) ← readSuffix version fuel rest
        .ok (ofBytes bytes ++ more, rest)
      else if isUriChar version c then do
        let (more, rest) ← readSuffix version fuel rest
        .ok (c :: more, rest)
      else .ok ([], s)

def readUri (version : Version) (s : Text) : Except Error (Text × Text) := do
  let (uri, rest) ← readSuffix version s.length s
  if uri.isEmpty then .error .malformed else .ok (uri, rest)

def readHandle : Text → Except Error (Text × Text)
  | '!' :: rest =>
    let name := rest.takeWhile isHandleChar
    match rest.dropWhile isHandleChar with
    | '!' :: after => .ok ('!' :: name ++ ['!'], after)
    | _ => if rest.head? = some ' ' then .ok (['!'], rest) else .error .malformed
  | _ => .error .malformed

def hasHandle (s : Text) : Bool := (s.takeWhile (fun c => !atGap (some c))).contains '!'

def read (version : Version) (s : Text) : Except Error (Tag × Text) := do
  let (tag, rest) ←
    match s with
    | '<' :: rest => do
      let (uri, rest) ← readUri version rest
      match rest with
      | '>' :: rest => pure (Tag.mk none uri, rest)
      | _ => throw .malformed
    | s =>
      if atWordEnd s.head? then pure (plain, s)
      else if hasHandle s then do
        let (handle, rest) ← readHandle ('!' :: s)
        let (uri, rest) ← readUri version rest
        pure (Tag.mk (some handle) uri, rest)
      else do
        let (uri, rest) ← readUri version s
        pure (Tag.mk (some ['!']) uri, rest)
  if atGap rest.head? then .ok (tag, rest) else .error .malformed

end Tag

/-! ## Directives -/

inductive Directive
  | version (version : Version)
  | tagHandle (handle uri : Text)
  /-- A directive that says nothing about this format. -/
  | other
deriving DecidableEq, Repr

namespace Directive

def isNameChar (c : Char) : Bool := c.isAlphanum || "-_:.".toList.contains c

def readNumber (s : Text) : Except Error (Nat × Text) :=
  let digits := s.takeWhile Char.isDigit
  if digits.isEmpty then .error .malformed
  else .ok (decimalNumber digits, s.dropWhile Char.isDigit)

def readVersion (s : Text) : Except Error (Directive × Text) := do
  let (major, rest) ← readNumber (s.dropWhile (· == ' '))
  match rest with
  | '.' :: rest => do
    let (minor, rest) ← readNumber rest
    if atGap rest.head? then .ok (.version ⟨major, minor⟩, rest) else .error .malformed
  | _ => .error .malformed

def readTagHandle (version : Version) (s : Text) : Except Error (Directive × Text) := do
  let (handle, rest) ← Tag.readHandle (s.dropWhile (· == ' '))
  if rest.head? ≠ some ' ' then .error .malformed
  else
    let (uri, rest) ← Tag.readUri version (rest.dropWhile (· == ' '))
    if atGap rest.head? then .ok (.tagHandle handle uri, rest) else .error .malformed

def read (version : Version) (s : Text) : Except Error (Directive × Text) := do
  let name := s.takeWhile isNameChar
  let rest := s.dropWhile isNameChar
  if name.isEmpty || !atGap rest.head? then .error .malformed
  else
    let (directive, rest) ←
      if name = "YAML".toList then readVersion rest
      else if name = "TAG".toList then readTagHandle version rest
      else pure (.other, rest.dropWhile (fun c => !atLineEnd (some c)))
    let rest ← dropBlankLine rest
    .ok (directive, rest)

end Directive

end MarkdownPages.Yaml
