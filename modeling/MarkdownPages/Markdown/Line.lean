import MarkdownPages.Text.Basic

/-!
# Lines

The block structure of a document depends on how far its lines are indented, counted in columns: a
tab advances to the next multiple of four.  A line is kept as its *lead*, which holds the
indentation and the list markers that the enclosing items have taken, and its *body*, which starts
with a character that is neither a space nor a tab.
-/

namespace MarkdownPages.Markdown

open Text

def isIndent (c : Char) : Bool := c == ' ' || c == '\t'

/--
White space: the blanks of ASCII and the space separators of Unicode.  It separates words where
emphasis is concerned.
-/
def isWhite (c : Char) : Bool :=
  let n := c.toNat
  (0x09 ≤ n && n ≤ 0x0D) || n == 0x20 || n == 0xA0 || n == 0x1680 || (0x2000 ≤ n && n ≤ 0x200A) ||
    n == 0x202F || n == 0x205F || n == 0x3000

/-- White space, and the line and paragraph separators: what may surround a heading or a
paragraph. -/
def isMargin (c : Char) : Bool := isWhite c || c.toNat == 0x2028 || c.toNat == 0x2029

def trimMargins (s : Text) : Text :=
  ((s.dropWhile isMargin).reverse.dropWhile isMargin).reverse

structure Line where
  /-- What stands before the body: indentation, and list markers of enclosing items. -/
  lead : Text
  body : Text
  /-- The column of the body.  A line that only continues a paragraph of a quote has column `-1`. -/
  indent : Int
  /-- The columns that the markers of enclosing quotes take, which shifts the tab stops. -/
  base : Nat
  /-- Whether a line feed ends the line; only the last line of a document may lack it. -/
  ended : Bool
deriving DecidableEq, Repr

/-- The column behind a character that starts at `column`; `shift` moves the tab stops. -/
def advance (shift column : Nat) (c : Char) : Nat :=
  if c = '\t' then column + (4 - (column + shift) % 4) else column + 1

def advanceAll (shift column : Nat) (s : Text) : Nat := s.foldl (advance shift) column

namespace Line

def isBlank (l : Line) : Bool := l.body.isEmpty

def ofText (s : Text) (ended : Bool) : Line :=
  let lead := s.takeWhile isIndent
  ⟨lead, s.dropWhile isIndent, advanceAll 0 0 lead, 0, ended⟩

def bodyWithEnd (l : Line) : Text := if l.ended then l.body ++ ['\n'] else l.body

/--
Removes `columns` columns from the lead.  A tab that reaches beyond them leaves spaces; other
characters of the lead take one column each.
-/
def dropColumns (shift columns : Nat) : (column : Nat) → Text → Text
  | column, [] => List.replicate (column - columns) ' '
  | column, c :: lead =>
    if columns ≤ column then List.replicate (column - columns) ' ' ++ c :: lead
    else dropColumns shift columns (advance shift column c) lead

def dedent (columns : Nat) (l : Line) : Text := dropColumns l.base columns 0 l.lead ++ l.body

end Line

/-- The lines of a document.  What follows the last line feed counts only if it has a body. -/
def lines (source : Text) : List Line :=
  go (source.splitOn '\n')
where
  go : List Text → List Line
    | [] => []
    | [last] => if last.all isIndent then [] else [Line.ofText last false]
    | line :: rest => Line.ofText line true :: go rest

def dedentAll (columns : Nat) (ls : List Line) : Text :=
  ls.flatMap fun l => l.dedent columns ++ (if l.ended then ['\n'] else [])

def dedentBetween (columns : Nat) (ls : List Line) : Text :=
  ['\n'].intercalate (ls.map (Line.dedent columns))

end MarkdownPages.Markdown
