import MarkdownPages.Html.Tag
import MarkdownPages.Markdown.Definition
import MarkdownPages.Markdown.Inline.Emphasis

/-!
# Inline tokens

What stands at a position of an inline text: a run of plain characters, an escape, a code span, a
link, and so on.  The text of a link ends at the first closing bracket that is part of no token,
so that finding a link means skipping tokens.
-/

namespace MarkdownPages.Markdown

open Text

/-! ## Positions -/

abbrev Source := Array Char

namespace Source

def slice (s : Source) (start stop : Nat) : Text := (s.extract start stop).toList

def skipWhile (s : Source) (p : Char → Bool) (limit pos : Nat) : Nat :=
  pos + ((s.slice pos limit).takeWhile p).length

end Source

structure LinkSpan where
  start : Nat
  stop : Nat
  target : Target
deriving DecidableEq, Repr

inductive Token
  /-- Characters that stand for themselves. -/
  | plain (content : Text)
  /-- A line feed, with the indentation of the next line. -/
  | lineFeed
  /-- A line feed behind a backslash, with the indentation of the next line. -/
  | hardBreak
  /-- Characters that an escape or a reference stands for. -/
  | decoded (content : Text)
  | code (content : Text)
  | marks (mark : Mark)
  | link (span : LinkSpan)
  | image (span : LinkSpan)
  | autolink (href shown : Text)
  | html (content : Text)
deriving DecidableEq, Repr

/--
What is known about a text: where the tokens at some positions end, where the last runs of backquotes
start, by their lengths, and whether a run has been looked for up to the end of the text.
-/
structure Memo where
  ends : List (Nat × Nat) := []
  runs : List (Nat × Nat) := []
  scanned : Bool := false
deriving DecidableEq, Repr

/-! ## Simple tokens -/

def endsPlain (c : Char) : Bool := c == '\n' || "!#$%&*+-:<=>@[\\]^_`\x7b\x7d~".toList.contains c

def readEscape? (s : Source) (limit pos : Nat) : Option (Token × Nat) :=
  if limit ≤ pos + 1 then none
  else
    match s[pos + 1]? with
    | none => none
    | some '\n' => some (.hardBreak, s.skipWhile isIndent limit (pos + 2))
    | some c => some (.decoded (if isAsciiPunctuation c then [c] else ['\\', c]), pos + 2)

def codeContent (raw : Text) : Text :=
  let s := raw.map fun c => if c = '\n' then ' ' else c
  if s.head? = some ' ' ∧ s.getLast? = some ' ' ∧ !s.all isBlank then (s.drop 1).dropLast else s

def passRun (runs : List (Nat × Nat)) (length start : Nat) : List (Nat × Nat) :=
  (length, max start ((runs.lookup length).getD 0)) :: runs

/--
The next run of `length` backquotes from `pos` on, and the runs that are known then.  Runs are
measured up to `limit`; behind it every backquote is a run.
-/
def findBackquotes (s : Source) (limit length : Nat) :
    (fuel pos : Nat) → (runs : List (Nat × Nat)) → Option (Nat × Nat) × List (Nat × Nat)
  | 0, _, runs => (none, runs)
  | fuel + 1, pos, runs =>
    let start := s.skipWhile (· != '`') s.size pos
    if s.size ≤ start then (none, runs)
    else
      let stop := s.skipWhile (· == '`') limit (start + 1)
      -- a run that closes is kept as well: its opening run may be read again behind a lone bracket
      let runs := passRun runs (stop - start) start
      if stop - start = length then (some (start, stop), runs)
      else findBackquotes s limit length fuel stop runs

def Memo.hasNoRun (memo : Memo) (length pos : Nat) : Bool :=
  memo.scanned && (memo.runs.lookup length).all (· ≤ pos)

def readCodeSpan (s : Source) (limit : Nat) (memo : Memo) (pos : Nat) : (Token × Nat) × Memo :=
  let stop := s.skipWhile (· == '`') limit (pos + 1)
  let plain := (.plain (s.slice pos stop), stop)
  if memo.hasNoRun (stop - pos) pos then (plain, memo)
  else
    match findBackquotes s limit (stop - pos) (s.size + 1) stop memo.runs with
    | (some (close, after), runs) =>
      ((.code (codeContent (s.slice stop close)), after), { memo with runs := runs })
    | (none, runs) => (plain, { memo with runs := runs, scanned := true })

/-- The marks of a run of stars or underscores; the ends of the text count as white space. -/
def readMarks (s : Source) (limit pos : Nat) (sign : Char) : Token × Nat :=
  let stop := s.skipWhile (· == sign) limit pos
  let before := if pos = 0 then ' ' else (s[pos - 1]?).getD ' '
  let after := if stop < limit then (s[stop]?).getD ' ' else ' '
  (.marks (Mark.between sign (stop - pos) before after), stop)

/-! ## Autolinks and raw HTML -/

def isAbsoluteUrl (s : Text) : Bool :=
  let s := dropFinalNewline s
  let isSchemeChar := fun c => c.isAlphanum || c == '+' || c == '.' || c == '-'
  let scheme := s.takeWhile isSchemeChar
  match s.drop scheme.length with
  | ':' :: rest =>
    scheme.head?.any Char.isAlpha && 2 ≤ scheme.length && scheme.length ≤ 32 &&
      rest.all fun c => c != '<' && c != '>' && 0x20 < c.toNat
  | _ => false

def isHostLabel (s : Text) : Bool :=
  s.length ≤ 63 && s.head?.any Char.isAlphanum && s.getLast?.any Char.isAlphanum &&
    s.all fun c => c.isAlphanum || c == '-'

def isMailAddress (s : Text) : Bool :=
  let s := dropFinalNewline s
  let user := s.takeWhile (· != '@')
  match s.drop user.length with
  | _ :: host =>
    !user.isEmpty &&
      user.all (fun c => c.isAlphanum || ".!#$%&'*+/=?^_`\x7b|\x7d~-".toList.contains c) &&
      (host.splitOn '.').all isHostLabel
  | [] => false

def readAutolink? (s : Source) (limit pos : Nat) : Option (Token × Nat) :=
  let stop := s.skipWhile (fun c => c != '<' && c != '>') limit (pos + 1)
  if stop < limit && s[stop]? == some '>' then
    let url := s.slice (pos + 1) stop
    let target? :=
      if isAbsoluteUrl url then some url
      else if isMailAddress url then some ("mailto:".toList ++ url)
      else none
    target?.bind fun target =>
      let href := Url.normalize target
      if Url.isAccepted href then some (.autolink href (Url.display url), stop + 1) else none
  else none

def readInlineHtml? (s : Source) (limit pos : Nat) : Option (Token × Nat) :=
  if limit ≤ pos + 2 then none
  else
    let behind := s.slice (pos + 1) s.size
    (Html.dropRaw? behind).map fun rest =>
      (.html (s.slice pos (s.size - rest.length)), s.size - rest.length)

def readInlineReference? (s : Source) (pos : Nat) : Option (Token × Nat) :=
  (Html.readReference? (s.slice (pos + 1) s.size)).map fun (decoded, rest) =>
    (.decoded decoded, s.size - rest.length)

/-! ## Links -/

abbrev Skip := (limit : Nat) → Memo → (pos : Nat) → Nat × Memo

/--
The closing bracket of the text behind an opening bracket, from `pos` on; `depth` counts the
brackets that are open.  If `flat`, no token in the text may start with a bracket.
-/
def findTextEnd (s : Source) (skip : Skip) (limit : Nat) (flat : Bool) :
    (fuel depth : Nat) → Memo → (pos : Nat) → Option Nat × Memo
  | 0, _, memo, _ => (none, memo)
  | fuel + 1, depth, memo, pos =>
    if limit ≤ pos then (none, memo)
    else
      let c := (s[pos]?).getD ' '
      if c = ']' ∧ depth = 1 then (some pos, memo)
      else
        let depth := if c = ']' then depth - 1 else depth
        let (next, memo) := skip limit memo pos
        if c = '[' then
          if next = pos + 1 then findTextEnd s skip limit flat fuel (depth + 1) memo next
          else if flat then (none, memo)
          else findTextEnd s skip limit flat fuel depth memo next
        else findTextEnd s skip limit flat fuel depth memo next

def textEnd (s : Source) (skip : Skip) (limit : Nat) (flat : Bool) (memo : Memo) (bracket : Nat) :
    Option Nat × Memo :=
  findTextEnd s skip limit flat (limit + 1) 1 memo (bracket + 1)

/--
The target that a reference names.  The label may follow in brackets at `pos`; without a label the
text between `start` and `stop` is the label.
-/
def findReference (s : Source) (defs : Definitions) (skip : Skip) (limit : Nat) (memo : Memo)
    (start stop pos : Nat) : Option (LinkSpan × Nat) × Memo :=
  let ((label, after), memo) :=
    if pos < limit && s[pos]? == some '[' then
      match textEnd s skip limit false memo pos with
      | (some close, memo) => ((s.slice (pos + 1) close, close + 1), memo)
      | (none, memo) => (([], stop + 1), memo)
    else (([], stop + 1), memo)
  let label := if label.isEmpty then s.slice start stop else label
  ((defs.find? label).map fun target => (⟨start, stop, target⟩, after), memo)

def findLink (s : Source) (defs : Definitions) (skip : Skip) (limit : Nat) (memo : Memo)
    (pos : Nat) : Option (LinkSpan × Nat) × Memo :=
  match textEnd s skip limit true memo pos with
  | (none, memo) => (none, memo)
  | (some stop, memo) =>
    let reference := findReference s defs skip limit memo (pos + 1) stop
    -- without definitions there is nothing to refer to, and no label is looked for
    let reference := fun at' => if defs.isEmpty then (none, memo) else reference at'
    if stop + 1 < limit && s[stop + 1]? == some '(' then
      match readTail (s.slice (stop + 2) limit) with
      | .unfinished => (none, memo)
      | .target target after => (some (⟨pos + 1, stop, target⟩, limit - after.length), memo)
      | .broken stopped => reference (limit - stopped.length + 1)
    else reference (stop + 1)

def findImage (s : Source) (defs : Definitions) (skip : Skip) (limit : Nat) (memo : Memo)
    (pos : Nat) : Option (LinkSpan × Nat) × Memo :=
  if pos + 1 < limit && s[pos + 1]? != some '[' then (none, memo)
  else
    match textEnd s skip limit false memo (pos + 1) with
    | (none, memo) => (none, memo)
    | (some stop, memo) =>
      if stop + 1 < limit && s[stop + 1]? == some '(' then
        match readTail (s.slice (stop + 2) limit) with
        | .target target after => (some (⟨pos + 2, stop, target⟩, limit - after.length), memo)
        | .unfinished | .broken _ => (none, memo)
      else if defs.isEmpty then (none, memo)
      else findReference s defs skip limit memo (pos + 2) stop (stop + 1)

/-! ## All tokens -/

/-- The token at a position and where it ends; marks are tokens only if `withMarks`. -/
def readToken (s : Source) (defs : Definitions) (skip : Skip) (withMarks : Bool) (limit : Nat)
    (memo : Memo) (pos : Nat) : Option (Token × Nat) × Memo :=
  match s[pos]? with
  | none => (none, memo)
  | some c =>
    if !endsPlain c then
      let stop := s.skipWhile (fun c => !endsPlain c) limit pos
      (some (.plain (s.slice pos stop), stop), memo)
    else if c = '\n' then (some (.lineFeed, s.skipWhile isIndent limit (pos + 1)), memo)
    else if c = '\\' then (readEscape? s limit pos, memo)
    else if c = '`' then
      let (found, memo) := readCodeSpan s limit memo pos
      (some found, memo)
    else if c = '*' ∨ c = '_' then
      (if withMarks then some (readMarks s limit pos c) else none, memo)
    else if c = '[' then
      let (found, memo) := findLink s defs skip limit memo pos
      (found.map fun (span, after) => (.link span, after), memo)
    else if c = '!' then
      let (found, memo) := findImage s defs skip limit memo pos
      (found.map fun (span, after) => (.image span, after), memo)
    else if c = '<' then (readAutolink? s limit pos <|> readInlineHtml? s limit pos, memo)
    else if c = '&' then
      (if pos + 1 < limit then readInlineReference? s pos else none, memo)
    else (none, memo)

/--
Skips the token at a position, or one character.  Inside tokens that nest more deeply than `room`
allows, everything is skipped.
-/
def skipToken (s : Source) (defs : Definitions) : (room : Nat) → Skip
  | 0 => fun limit memo pos => remember memo pos (limit + 1)
  | room + 1 => fun limit memo pos =>
    match memo.ends.lookup pos with
    | some stop => (stop, memo)
    | none =>
      match readToken s defs (skipToken s defs room) false limit memo pos with
      | (some (_, stop), memo) => remember memo pos stop
      | (none, memo) => remember memo pos (pos + 1)
where
  /-- What is known about a position stays; else the end of its token becomes known. -/
  remember (memo : Memo) (pos stop : Nat) : Nat × Memo :=
    match memo.ends.lookup pos with
    | some known => (known, memo)
    | none => (stop, { memo with ends := (pos, stop) :: memo.ends })

end MarkdownPages.Markdown
