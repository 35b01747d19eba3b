import MarkdownPages.Html.Tag
import MarkdownPages.Markdown.Block
import MarkdownPages.Markdown.Line

/-!
# How blocks start

What a single line tells about the block that it starts, and which starts interrupt a paragraph.
-/

namespace MarkdownPages.Markdown

open Text

structure Place where
  column : Nat
  /-- The column of the innermost enclosing list, if there is one. -/
  listColumn : Option Nat
deriving DecidableEq, Repr

namespace Line

/-- A line that is indented by four columns or more can only start indented code. -/
def isCode (place : Place) (l : Line) : Bool := 4 ≤ l.indent - place.column

def isOutdented (place : Place) (l : Line) : Bool := l.indent < place.column

end Line

/-! ## Fences -/

structure Fence where
  marker : Char
  length : Nat
  info : Text
deriving DecidableEq, Repr

def Fence.ofBody? (body : Text) : Option Fence :=
  match body with
  | [] => none
  | c :: _ =>
    let length := (body.takeWhile (· == c)).length
    let info := body.drop length
    if (c = '`' ∨ c = '~') ∧ 3 ≤ length ∧ ¬(c = '`' ∧ '`' ∈ info) then some ⟨c, length, info⟩
    else none

def Fence.isClosedBy (fence : Fence) (body : Text) : Bool :=
  let length := (body.takeWhile (· == fence.marker)).length
  fence.length ≤ length && (body.drop length).all isIndent

/-! ## Rules and headings -/

def isRule (body : Text) : Bool :=
  match body with
  | [] => false
  | c :: _ =>
    (c == '*' || c == '-' || c == '_') && body.all (fun d => d == c || isIndent d) &&
      3 ≤ body.count c

def trimIndentEnd (s : Text) : Text := (s.reverse.dropWhile isIndent).reverse

def dropClosingMarks (s : Text) : Text :=
  let s := trimIndentEnd s
  let kept := (s.reverse.dropWhile (· == '#')).reverse
  match kept.getLast? with
  | some c => if isIndent c then kept else s
  | none => s

def readHeading? (body : Text) : Option (Nat × Text) :=
  let level := (body.takeWhile (· == '#')).length
  let rest := body.drop level
  if 1 ≤ level ∧ level ≤ 6 ∧ rest.head?.all isIndent then
    some (level, trimMargins (dropClosingMarks rest))
  else none

def underlineLevel? (body : Text) : Option Nat :=
  match body with
  | [] => none
  | c :: _ =>
    if (c = '=' ∨ c = '-') ∧ (body.dropWhile (· == c)).all isIndent then
      some (if c = '=' then 1 else 2)
    else none

/-! ## List markers -/

structure Marker where
  kind : ListKind
  sign : Char
  length : Nat
deriving DecidableEq, Repr

namespace Marker

def isFollowed (rest : Text) : Bool := rest.head?.all isIndent

def ordered? (body : Text) : Option Marker :=
  let digits := body.takeWhile Char.isDigit
  match body.drop digits.length with
  | sign :: rest =>
    if 1 ≤ digits.length ∧ digits.length ≤ 9 ∧ (sign = ')' ∨ sign = '.') ∧ isFollowed rest then
      some ⟨.ordered (decimalNumber digits), sign, digits.length + 1⟩
    else none
  | [] => none

def bullet? (body : Text) : Option Marker :=
  match body with
  | sign :: rest =>
    if (sign = '*' ∨ sign = '-' ∨ sign = '+') ∧ isFollowed rest then some ⟨.bullet, sign, 1⟩
    else none
  | [] => none

def ofBody? (body : Text) : Option Marker := ordered? body <|> bullet? body

def continues (m first : Marker) : Bool :=
  m.sign == first.sign &&
    match m.kind, first.kind with
    | .bullet, .bullet => true
    | .ordered _, .ordered _ => true
    | _, _ => false

end Marker

/--
The marker of the list that a line starts.  A line left of its container that is indented by four
columns or more within the enclosing list starts none.  A list interrupts a paragraph only if its
first item is not empty and its number is one.
-/
def listMarker? (place : Place) (inParagraph : Bool) (l : Line) : Option Marker := do
  if place.listColumn.any (fun column => 4 ≤ l.indent - column) && l.isOutdented place then none
  else
    let marker ← Marker.ofBody? l.body
    if inParagraph && !l.isOutdented place &&
        ((l.body.drop marker.length).all isIndent ||
          match marker.kind with
          | .bullet => false
          | .ordered start => start != 1) then none
    else some marker

/-! ## Interruptions -/

def isQuote (l : Line) : Bool := l.body.head? == some '>'

def endsItems (place : Place) (l : Line) : Bool :=
  !l.isCode place && ((Fence.ofBody? l.body).isSome || isQuote l || isRule l.body)

def interrupts (place : Place) (inParagraph : Bool) (l : Line) : Bool :=
  endsItems place l ||
    (!l.isCode place &&
      ((listMarker? place inParagraph l).isSome ||
        (Html.BlockKind.ofLine? l.body).any Html.BlockKind.interrupts ||
        (readHeading? l.body).isSome))

end MarkdownPages.Markdown
