import MarkdownPages.Yaml.Cursor

/-!
# Plain texts in documents

A plain text stands without quotes.  It consists of words; spaces between words stay, and lines are
folded.  It ends before a comment, a colon that ends a word, a document separator, or a line that is
not indented enough; inside brackets also before commas and brackets.
-/

namespace MarkdownPages.Yaml

open Text

def flowStops : Text := ",:?[]\x7b\x7d".toList

def endsPlainWord (version : Version) (inFlow : Bool) (c : Char) (next : Option Char) : Bool :=
  if c = ':' && !atWordEnd next then false
  else if c = '?' && version ≠ .old then false
  else atWordEnd (some c) || c = ':' && !inFlow || inFlow && flowStops.contains c

def splitPlainWord (version : Version) (inFlow : Bool) : Text → Text × Text
  | [] => ([], [])
  | c :: rest =>
    if endsPlainWord version inFlow c rest.head? then ([], c :: rest)
    else
      let (word, rest) := splitPlainWord version inFlow rest
      (c :: word, rest)

structure PlainGap where
  /-- The text that stands for the gap if a word follows; nothing if none can follow. -/
  text : Text
  hasBreak : Bool
  after : Cursor

def readPlainBreaks? : (fuel : Nat) → Cursor → Option Text × Cursor
  | 0, c => (some [], c)
  | fuel + 1, c =>
    if c.peek = some ' ' then readPlainBreaks? fuel c.next
    else
      match takeBreak? c.rest with
      | none => (some [], c)
      | some (b, _) =>
        if isSeparator c.next.rest then (none, c.next)
        else
          let (breaks, after) := readPlainBreaks? fuel c.next
          (breaks.map (b :: ·), after)

def readPlainGap (c : Cursor) : PlainGap :=
  let spaces := c.rest.takeWhile (· == ' ')
  let c := c.skip spaces.length
  match takeBreak? c.rest with
  | none => ⟨spaces, false, c⟩
  | some (b, _) =>
    if isSeparator c.next.rest then ⟨[], true, c.next⟩
    else
      match readPlainBreaks? c.rest.length c.next with
      | (some breaks, after) => ⟨fold b breaks, true, after⟩
      | (none, after) => ⟨[], true, after⟩

structure PlainText where
  text : Text
  atLineStart : Bool
  after : Cursor

/-- Reads a plain text; outside brackets its lines start at column `indent` at least. -/
def readPlain (version : Version) (inFlow : Bool) (indent : Nat) (c : Cursor) : PlainText :=
  go c.rest.length c [] ⟨[], false, c⟩
where
  /-- `gap` stands between what has been read and the next word. -/
  go : Nat → Cursor → (gap : Text) → PlainText → PlainText
    | 0, _, _, read => read
    | fuel + 1, c, gap, read =>
      let (word, _) := splitPlainWord version inFlow c.rest
      if c.peek = some '#' || word.isEmpty then read
      else
        let next := readPlainGap (c.skip word.length)
        let read := ⟨read.text ++ gap ++ word, next.hasBreak, next.after⟩
        if next.text.isEmpty || (!inFlow && next.after.column < indent) then read
        else go fuel next.after next.text read

end MarkdownPages.Yaml
