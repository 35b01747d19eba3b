import MarkdownPages.Markdown.Inline.Basic
import MarkdownPages.Text.Punctuation

/-!
# Emphasis

Runs of `*` and `_` open and close emphasis.  Every character of a run is a mark of its own.  A
closing mark is paired with the nearest open mark of its kind before it; what lies between a pair
is settled.  Two pairs that touch on both sides are strong emphasis.
-/

namespace MarkdownPages.Markdown

open Text

structure Mark where
  sign : Char
  length : Nat
  opens : Bool
  closes : Bool
deriving DecidableEq, Repr

/-! ## Runs -/

/--
The mark of a run between two characters.  A run opens if it leans on what follows and closes if it
leans on what precedes; underscores do neither inside a word.
-/
def Mark.between (sign : Char) (length : Nat) (before after : Char) : Mark :=
  let whiteBefore := isWhite before
  let whiteAfter := isWhite after
  let punctuationBefore := isPunctuation before
  let punctuationAfter := isPunctuation after
  let leansRight := !whiteAfter && (!punctuationAfter || whiteBefore || punctuationBefore)
  let leansLeft := !whiteBefore && (!punctuationBefore || whiteAfter || punctuationAfter)
  let splitsWords := sign == '*'
  ⟨sign, length, leansRight && (splitsWords || !leansLeft || punctuationBefore),
    leansLeft && (splitsWords || !leansRight || punctuationAfter)⟩

inductive Piece
  | element (e : Inline)
  | mark (m : Mark)
deriving DecidableEq, Repr

/-! ## Pairing -/

structure PairedMark extends Mark where
  place : Nat
  partner : Option Nat
deriving DecidableEq, Repr

/--
The state of pairing.  `jumps` tells for each mark how many marks before it are settled, `floors`
for each class of closing marks below which mark no partner is to be found, `runStart` is the
first mark of the current run and `lastPlace` the place of the mark before.
-/
structure Pairing where
  marks : Array PairedMark
  jumps : Array Nat
  floors : List ((Char × Bool × Nat) × Nat)
  runStart : Nat
  lastPlace : Option Nat

namespace Pairing

def jump (p : Pairing) (i : Nat) : Nat := (p.jumps[i]?).getD 0

/--
Marks that both open and close do not pair if the lengths of their runs add up to a multiple of
three, unless both are multiples of three.
-/
def clash (opener closer : Mark) : Bool :=
  (opener.closes || closer.opens) && (opener.length + closer.length) % 3 == 0 &&
    (opener.length % 3 != 0 || closer.length % 3 != 0)

def findOpener? (p : Pairing) (closer : Mark) (floor : Nat) : (fuel count : Nat) → Option Nat
  | 0, _ => none
  | fuel + 1, count =>
    if count ≤ floor then none
    else
      let i := count - 1
      match p.marks[i]? with
      | none => none
      | some opener =>
        if opener.sign == closer.sign && opener.opens && opener.partner.isNone &&
            !clash opener.toMark closer then some i
        else findOpener? p closer floor fuel (i - p.jump i)

def classOf (m : Mark) : Char × Bool × Nat := (m.sign, m.opens, m.length % 3)

def join (p : Pairing) (opener closer : Nat) : Pairing :=
  let before :=
    match opener with
    | 0 => 0
    | i + 1 => if (p.marks[i]?).any (!·.opens) then p.jump i + 1 else 0
  { p with
    marks := (p.marks.modify closer fun m => { m with opens := false }).modify opener fun m =>
      { m with closes := false, partner := some closer }
    jumps := (p.jumps.setIfInBounds closer (closer - opener + before)).setIfInBounds opener before
    lastPlace := none }

def step (p : Pairing) (i : Nat) : Pairing :=
  match p.marks[i]? with
  | none => p
  | some m =>
    let sameRun := (p.marks[p.runStart]?).any (·.sign == m.sign) &&
      p.lastPlace.any (· + 1 == m.place)
    let p := { p with
      jumps := p.jumps.push 0
      runStart := if sameRun then p.runStart else i
      lastPlace := some m.place }
    if !m.closes then p
    else
      let floor := (p.floors.lookup (classOf m.toMark)).getD 0
      let count := p.runStart - p.jump p.runStart
      match p.findOpener? m.toMark floor (count + 1) count with
      | some opener => p.join opener i
      | none =>
        if count = 0 then p else { p with floors := (classOf m.toMark, count) :: p.floors }

end Pairing

def marksOf (pieces : List Piece) : List PairedMark :=
  go 0 pieces
where
  go : Nat → List Piece → List PairedMark
    | _, [] => []
    | place, .element _ :: rest => go (place + 1) rest
    | place, .mark m :: rest => ⟨m, place, none⟩ :: go (place + 1) rest

def pairMarks (pieces : List Piece) : Array PairedMark :=
  let marks := (marksOf pieces).toArray
  ((List.range marks.size).foldl Pairing.step ⟨marks, #[], [], 0, none⟩).marks

/-! ## Elements -/

abbrev Roles := List (Nat × Option Inline)

def isStrongPair (marks : Array PairedMark) (i close : Nat) : Bool :=
  match i with
  | 0 => false
  | outer + 1 =>
    match marks[outer]?, marks[i]?, marks[close]?, marks[close + 1]? with
    | some before, some start, some stop, some behind =>
      before.partner == some (close + 1) && before.sign == start.sign &&
        before.place + 1 == start.place && behind.place == stop.place + 1
    | _, _, _, _ => false

def rolesOf (marks : Array PairedMark) : (count : Nat) → Roles
  | 0 => []
  | i + 1 =>
    match (marks[i]?).bind (·.partner) with
    | none => rolesOf marks i
    | some close =>
      if isStrongPair marks i close then
        (i, some (.emphasisStart true)) :: (close, some (.emphasisEnd true)) ::
          (i - 1, none) :: (close + 1, none) :: rolesOf marks (i - 1)
      else
        (i, some (.emphasisStart false)) :: (close, some (.emphasisEnd false)) :: rolesOf marks i
termination_by count => count

/-- The elements of a sequence, in which the marks have the given roles; `next` is the next mark. -/
def resolveWith (roles : Roles) : (next : Nat) → List Piece → List Inline
  | _, [] => []
  | next, .element e :: rest => e :: resolveWith roles next rest
  | next, .mark m :: rest =>
    let elements :=
      match roles.lookup next with
      | none => [.text [m.sign]]
      | some role => role.toList
    elements ++ resolveWith roles (next + 1) rest

def resolve (pieces : List Piece) : List Inline :=
  let marks := pairMarks pieces
  resolveWith (rolesOf marks marks.size) 0 pieces

end MarkdownPages.Markdown
