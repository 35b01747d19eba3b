import MarkdownPages.Yaml.Basic

/-!
# Places in a document

A place is what remains of the text, with the number of characters before it, its line and its
column.
-/

namespace MarkdownPages.Yaml

open Text

structure Cursor where
  rest : Text
  index : Nat
  line : Nat
  column : Nat
deriving Repr

namespace Cursor

def start (s : Text) : Cursor := ⟨s, 0, 0, 0⟩

def next (c : Cursor) : Cursor :=
  match c.rest with
  | [] => c
  | '\n' :: rest => ⟨rest, c.index + 1, c.line + 1, 0⟩
  | char :: rest =>
    ⟨rest, c.index + 1, c.line, if char = byteOrderMark then c.column else c.column + 1⟩

def skip : Nat → Cursor → Cursor
  | 0, c => c
  | n + 1, c => skip n c.next

/-- The place before `rest`, which is an end of the text that remains. -/
def goTo (c : Cursor) (rest : Text) : Cursor := skip (c.rest.length - rest.length) c

def peek (c : Cursor) : Option Char := c.rest.head?

def isSeparator (c : Cursor) : Bool := c.column = 0 && Yaml.isSeparator c.rest

end Cursor

end MarkdownPages.Yaml
