import MarkdownPages.Text.Basic

/-!
# Anchors

An anchor is the identifier of a heading.  It is made of lower-case ASCII letters, digits and
hyphens, and an author can predict it from the heading's text: every other character counts as a
hyphen, runs of hyphens are one hyphen, one hyphen at the end is dropped, and an anchor that would
start with a digit starts with `id-`.  Within a document a repeated anchor gets a number.
-/

namespace MarkdownPages.Anchor

open Text

/-! ## The alphabet -/

def isAnchorChar (c : Char) : Bool := c.isLower || c.isDigit

def hyphenate (c : Char) : Char := if isAnchorChar c then c else '-'

def squeezeHyphens : Text → Text
  | [] => []
  | c :: rest =>
    if c = '-' ∧ rest.head? = some '-' then squeezeHyphens rest else c :: squeezeHyphens rest

def dropLastHyphen (s : Text) : Text := if s.getLast? = some '-' then s.dropLast else s

def guardDigit : Text → Text
  | [] => []
  | c :: rest => if c.isDigit then 'i' :: 'd' :: '-' :: c :: rest else c :: rest

def ofHeading (heading : Text) : Text :=
  guardDigit (dropLastHyphen (squeezeHyphens ((lower (trim heading)).map hyphenate)))

/-! ## Repeated anchors -/

/-- The `n`-th form of an anchor: the anchor itself, then the anchor with `-1`, `-2`, ... -/
def numbered (anchor : Text) : Nat → Text
  | 0 => anchor
  | n + 1 => anchor ++ '-' :: Text.ofNat (n + 1)

/--
The first form of `anchor` that is not among `used`.  Forms are pairwise distinct, so one of the
first `used.length + 1` is free.
-/
def fresh (used : List Text) (anchor : Text) : Text :=
  search used.length 0
where
  /-- Tries the form `n` and at most `budget` later ones. -/
  search : (budget n : Nat) → Text
    | 0, n => numbered anchor n
    | budget + 1, n =>
      if used.contains (numbered anchor n) then search budget (n + 1) else numbered anchor n

def assign (used : List Text) : List Text → List Text
  | [] => []
  | heading :: rest =>
    let anchor := fresh used (ofHeading heading)
    anchor :: assign (anchor :: used) rest

end MarkdownPages.Anchor
