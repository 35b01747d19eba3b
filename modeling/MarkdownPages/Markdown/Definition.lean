import MarkdownPages.Markdown.LinkParts
import MarkdownPages.Text.CaseFold

/-!
# Definitions

A definition `[label]: destination "title"` names a target that links anywhere in the document may
refer to.  Labels are compared up to case and the amount of white space; the first definition of a
label counts.
-/

namespace MarkdownPages.Markdown

open Text

abbrev Definitions := List (Text × Target)

namespace Definitions

def labelForm (label : Text) : Text := fold (squeezeBlanks (trim label))

def find? (defs : Definitions) (label : Text) : Option Target := defs.lookup (labelForm label)

def insert (defs : Definitions) (label : Text) (target : Target) : Definitions :=
  if (defs.find? label).isSome then defs else (labelForm label, target) :: defs

end Definitions

def readLabel? : (read : Text) → Text → Option (Text × Text)
  | _, [] => none
  | read, '\\' :: c :: rest => readLabel? (c :: '\\' :: read) rest
  | read, c :: rest =>
    if c = ']' then some (read.reverse, rest)
    else if c = '[' then none
    else readLabel? (c :: read) rest

def splitLine : Text → Text × Text
  | [] => ([], [])
  | c :: rest =>
    if c = '\n' then ([c], rest)
    else
      let (line, after) := splitLine rest
      (c :: line, after)

def isLineEnd (s : Text) : Bool :=
  match s.dropWhile isIndent with
  | [] => true
  | c :: _ => c == '\n'

/--
Reads the definition at the start of a text, which holds the lines that could belong to it.  The
answer holds the label, the target, and what follows the definition on its last line.

The destination stands on one line.  What follows it must end the line or be a title; a title that
is followed by something else is no title, if the destination alone can end its line.
-/
def readDefinition? (s : Text) : Option (Text × Target × Text) := do
  let (label, afterLabel) ← readLabel? [] (← ['['].isPrefixOf? s)
  let (line, later) := splitLine ((← [':'].isPrefixOf? afterLabel).dropWhile isGap)
  let (href, afterHref) ← readAcceptedDestination? line
  if (Definitions.labelForm label).isEmpty then none
  else if afterHref.isEmpty then
    some (label, ⟨href, []⟩, if line.getLast? = some '\n' then '\n' :: later else later)
  else
    let rest := afterHref ++ later
    let behind := rest.dropWhile isGap
    let withoutTitle := if isLineEnd rest then some (label, ⟨href, []⟩, rest) else none
    match if behind.length < rest.length then readTitle? behind else none with
    | some (title, afterTitle) =>
      if isLineEnd afterTitle then some (label, ⟨href, title⟩, afterTitle)
      else if title.isEmpty then none
      else withoutTitle
    | none => withoutTitle

def linesRead (s rest : Text) : Nat := (s.take (s.length - rest.length)).count '\n' + 1

end MarkdownPages.Markdown
