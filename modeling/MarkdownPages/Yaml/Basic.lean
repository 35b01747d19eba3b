import MarkdownPages.Calendar

/-!
# Documents of settings

The settings of a site are written in YAML.  This file holds what all parts of the reader share: the
versions of the format, the classes of characters, line breaks, and why a document is refused.

The text of a document has been brought to line feeds before; the next-line character and the line
and paragraph separators are line breaks too, but only a line feed starts a new line of columns.
-/

namespace MarkdownPages.Yaml

open Text

structure Version where
  major : Nat
  minor : Nat
deriving DecidableEq, Repr

namespace Version

def old : Version := ⟨1, 1⟩

def current : Version := ⟨1, 2⟩

def isLater (v : Version) : Bool := 1 < v.major || (v.major = 1 && 1 < v.minor)

end Version

inductive Error
  /-- The text breaks the rules of the format, or a value breaks those of its tag. -/
  | malformed
  /-- A numeric escape names no character. -/
  | codePoint
  | wholeNumber (base : Nat) (literal : Text)
  | number (literal : Text)
  /-- A number without any characters. -/
  | noNumber
  /-- A number with more than one exponent. -/
  | exponents
  | truth (literal : Text)
  | calendar (error : CalendarError)
  /-- A key holds a collection, whose kind is named. -/
  | mutableKey (kind : Text)
  /-- A key stands twice in a sequence of pairs that must differ. -/
  | repeatedPair
  /-- The document asks for a version without rules. -/
  | version (version : Version)
deriving DecidableEq, Repr

/-! ## Characters -/

def isAllowed (c : Char) : Bool :=
  let n := c.toNat
  n = 0x09 || n = 0x0A || n = 0x0D || (0x20 ≤ n && n ≤ 0x7E) || n = 0x85 ||
    (0xA0 ≤ n && n ≤ 0xD7FF) || (0xE000 ≤ n && n ≤ 0xFFFD) || 0x10000 ≤ n

/-- The byte order mark, which takes no column. -/
def byteOrderMark : Char := Char.ofNat 0xFEFF

def nextLine : Char := Char.ofNat 0x85

def isBreak (c : Char) : Bool :=
  c = '\n' || c = nextLine || c.toNat = 0x2028 || c.toNat = 0x2029

def isSpaceOrTab (c : Char) : Bool := c = ' ' || c = '\t'

def atLineEnd : Option Char → Bool
  | none => true
  | some c => c = '\n' || c = nextLine

def atWordEnd (c : Option Char) : Bool :=
  atLineEnd c || c = some ' ' || c = some '\t'

def atGap : Option Char → Bool
  | none => true
  | some c => c = ' ' || isBreak c

/-- Takes a line break, which a next-line character counts as a plain one. -/
def takeBreak? : Text → Option (Char × Text)
  | [] => none
  | c :: rest =>
    if c = '\n' ∨ c = nextLine then some ('\n', rest)
    else if isBreak c then some (c, rest)
    else none

def dropBreak (s : Text) : Text :=
  match takeBreak? s with
  | some (_, rest) => rest
  | none => s

def isMark (c : Char) (s : Text) : Bool :=
  match [c, c, c].isPrefixOf? s with
  | some rest => atWordEnd rest.head?
  | none => false

def isSeparator (s : Text) : Bool := isMark '-' s || isMark '.' s

def dropComment : Text → Text
  | '#' :: rest => rest.dropWhile (fun c => !atLineEnd (some c))
  | s => s

def dropBlankLine (s : Text) : Except Error Text :=
  let rest := dropComment (s.dropWhile (· == ' '))
  if atLineEnd rest.head? then .ok (dropBreak rest) else .error .malformed

/-- Lines that are joined: a single break becomes a space, and further breaks stay. -/
def fold (first : Char) (more : Text) : Text :=
  if first ≠ '\n' then first :: more
  else if more.isEmpty then [' ']
  else more

end MarkdownPages.Yaml
