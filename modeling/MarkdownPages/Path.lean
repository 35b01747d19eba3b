import MarkdownPages.Text.Basic

/-!
# Paths

A path is kept in its normal form: how it is rooted, and its components without empty ones and
without `.`.  A component `..` stays, since what it names depends on the disk.
-/

namespace MarkdownPages

open Text

inductive Path.Root
  | relative
  | slash
  | doubleSlash
deriving DecidableEq, Repr

structure Path where
  root : Path.Root
  parts : List Text
deriving DecidableEq, Repr

namespace Path

def Root.text : Root → Text
  | .relative => []
  | .slash => ['/']
  | .doubleSlash => ['/', '/']

def rootOf : Text → Root
  | '/' :: '/' :: '/' :: _ => .slash
  | '/' :: '/' :: _ => .doubleSlash
  | '/' :: _ => .slash
  | _ => .relative

def isPart (part : Text) : Bool := !part.isEmpty && part != ['.']

def ofText (s : Text) : Path := ⟨rootOf s, (s.splitOn '/').filter isPart⟩

def toText (p : Path) : Text :=
  if p.root = .relative ∧ p.parts = [] then ['.'] else p.root.text ++ ['/'].intercalate p.parts

/-- Whether a path holds the null character, which no name of a file may hold. -/
def hasNull (p : Path) : Bool := p.parts.any (·.contains (Char.ofNat 0))

def isAbsolute (p : Path) : Bool := p.root != .relative

/-- A path inside a directory; an absolute path replaces the directory. -/
def join (directory p : Path) : Path :=
  if p.root = .relative then ⟨directory.root, directory.parts ++ p.parts⟩ else p

def dropParts? (lead parts : List Text) : Option (List Text) := lead.isPrefixOf? parts

def relativeTo? (base p : Path) : Option Path :=
  if base.root = p.root then (dropParts? base.parts p.parts).map (⟨.relative, ·⟩) else none

def shownFrom (current p : Path) : Text :=
  if p.isAbsolute then ((relativeTo? current p).getD p).toText else p.toText

end Path

end MarkdownPages
