import MarkdownPages.Yaml.Cursor

/-!
# Block texts in documents

A block text is a header and indented lines.  The header says how much the lines are indented, if
the first of them is not to tell, and what becomes of the breaks at the end.  A literal text keeps
its line breaks; a folded one joins lines that do not start with a blank.
-/

namespace MarkdownPages.Yaml

open Text

inductive Chomp
  | strip
  /-- The break of the last line stays, and empty lines after it go. -/
  | clip
  | keep
deriving DecidableEq, Repr

structure BlockHeader where
  chomp : Chomp
  /-- The indentation of the lines, counted from the surrounding one. -/
  increment : Option Nat

namespace BlockHeader

def readChomp? : Text → Option (Chomp × Text)
  | '+' :: rest => some (.keep, rest)
  | '-' :: rest => some (.strip, rest)
  | _ => none

def readIncrement : Text → Except Error (Option Nat × Text)
  | [] => .ok (none, [])
  | c :: rest =>
    if c = '0' then .error .malformed
    else if c.isDigit then .ok (some (decimalNumber [c]), rest)
    else .ok (none, c :: rest)

def read (s : Text) : Except Error (BlockHeader × Text) := do
  let (header, rest) ←
    match readChomp? s with
    | some (chomp, rest) => do
      let (increment, rest) ← readIncrement rest
      pure (BlockHeader.mk chomp increment, rest)
    | none => do
      let (increment, rest) ← readIncrement s
      match increment, readChomp? rest with
      | some n, some (chomp, rest) => pure (BlockHeader.mk chomp (some n), rest)
      | _, _ => pure (BlockHeader.mk .clip increment, rest)
  if atGap rest.head? then
    let rest ← dropBlankLine rest
    .ok (header, rest)
  else .error .malformed

end BlockHeader

structure LeadingLines where
  breaks : Text
  first : Option Nat
  width : Nat
  after : Cursor

def readLeadingLines : (fuel : Nat) → Cursor → LeadingLines
  | 0, c => ⟨[], none, 0, c⟩
  | fuel + 1, c =>
    if c.peek = some ' ' then
      let lines := readLeadingLines fuel c.next
      { lines with width := max c.next.column lines.width }
    else
      match takeBreak? c.rest with
      | none => ⟨[], none, 0, c⟩
      | some (b, _) =>
        let lines := readLeadingLines fuel c.next
        { lines with breaks := b :: lines.breaks, first := some c.column }

def skipIndent (indent : Nat) : (fuel : Nat) → Cursor → Cursor
  | 0, c => c
  | fuel + 1, c =>
    if c.column < indent ∧ c.peek = some ' ' then skipIndent indent fuel c.next else c

def readEmptyLines (indent : Nat) : (fuel : Nat) → Cursor → Text × Cursor
  | 0, c => ([], c)
  | fuel + 1, c =>
    let c := skipIndent indent c.rest.length c
    match takeBreak? c.rest with
    | none => ([], c)
    | some (b, _) =>
      let (breaks, after) := readEmptyLines indent fuel c.next
      (b :: breaks, after)

structure BlockLines where
  text : Text
  /-- The break of the last line, if it has one. -/
  lastBreak : Text
  breaks : Text
  after : Cursor

def joinLines (folded : Bool) (line lastBreak breaks next : Text) : Text :=
  let startsBlank := fun (s : Text) => (s.head?.map isSpaceOrTab).getD false
  if folded && lastBreak = ['\n'] && !startsBlank line && !startsBlank next then
    if breaks.isEmpty then [' '] else []
  else lastBreak

def readBlockLines (folded topLevel : Bool) (indent : Nat) :
    (fuel : Nat) → (read : BlockLines) → BlockLines
  | 0, read => read
  | fuel + 1, read =>
    let c := read.after
    let line := c.rest.takeWhile (fun c => !atLineEnd (some c))
    let c := c.skip line.length
    let (lastBreak, c) :=
      match takeBreak? c.rest with
      | some (b, _) => ([b], c.next)
      | none => ([], c)
    let (breaks, after) := readEmptyLines indent (c.rest.length + 1) c
    let text := read.text ++ read.breaks ++ line
    if (topLevel && after.isSeparator) || after.column ≠ indent || after.rest.isEmpty then
      ⟨text, lastBreak, breaks, after⟩
    else
      readBlockLines folded topLevel indent fuel
        ⟨text ++ joinLines folded line lastBreak breaks after.rest, lastBreak, breaks, after⟩

def chompEnd (chomp : Chomp) (lines : BlockLines) : Text :=
  match chomp with
  | .strip => []
  | .clip => lines.lastBreak
  | .keep => lines.lastBreak ++ lines.breaks

/--
Reads a block text from its header on.  Its lines are indented to `least` at least; an empty line
before the first one may not be shorter than it if it is not empty itself.
-/
def readBlockText (folded : Bool) (least : Nat) (c : Cursor) : Except Error (Text × Cursor) := do
  let (header, rest) ← BlockHeader.read c.rest
  let c := c.goTo rest
  let fuel := rest.length + 1
  let (topLevel, indent, breaks, after) ←
    match header.increment with
    | none =>
      let lines := readLeadingLines fuel c
      if lines.first.any (fun n => 0 < n && n < lines.width) then .error .malformed
      else pure (decide (least = 0), max least lines.width, lines.breaks, lines.after)
    | some n =>
      let indent := max least 1 + n - 1
      let (breaks, after) := readEmptyLines indent fuel c
      pure (false, indent, breaks, after)
  let start : BlockLines := ⟨[], [], breaks, after⟩
  let lines :=
    if after.column = indent && !after.rest.isEmpty then
      readBlockLines folded topLevel indent fuel start
    else start
  .ok (lines.text ++ chompEnd header.chomp lines, lines.after)

end MarkdownPages.Yaml
