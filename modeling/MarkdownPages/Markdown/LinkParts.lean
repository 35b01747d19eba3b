import MarkdownPages.Html.Reference
import MarkdownPages.Markdown.Line
import MarkdownPages.Url.Destination

/-!
# Destinations and titles

The parts of a Markdown link behind its text, which links, images and definitions share.
-/

namespace MarkdownPages.Markdown

open Text

structure Target where
  href : Text
  title : Text
deriving DecidableEq, Repr

/-- Reads the inside of angle brackets up to the closing one; the part read so far is reversed. -/
def readBracketed? : (read : Text) → Text → Option (Text × Text)
  | _, [] => none
  | read, '\\' :: c :: rest => readBracketed? (c :: '\\' :: read) rest
  | read, c :: rest =>
    if c = '>' then some (read.reverse, rest)
    else if c = '<' ∨ c = '\n' then none
    else readBracketed? (c :: read) rest

/--
Reads a destination without brackets.  It ends at a space, a control character or a closing
parenthesis that is not open; parentheses nest at most 32 levels deep.
-/
def readBare? : (depth : Nat) → (read : Text) → Text → Option (Text × Text)
  | depth, read, [] => if depth = 0 then some (read.reverse, []) else none
  | depth, read, '\\' :: c :: rest =>
    if c = ' ' then if depth = 0 then some (read.reverse, '\\' :: c :: rest) else none
    else readBare? depth (c :: '\\' :: read) rest
  | depth, read, c :: rest =>
    if c.toNat ≤ 0x20 ∨ c.toNat = 0x7F then
      if depth = 0 then some (read.reverse, c :: rest) else none
    else if c = '(' then if depth < 32 then readBare? (depth + 1) (c :: read) rest else none
    else if c = ')' then
      match depth with
      | 0 => some (read.reverse, c :: rest)
      | depth + 1 => readBare? depth (c :: read) rest
    else readBare? depth (c :: read) rest

def readDestination? : Text → Option (Text × Text)
  | '<' :: rest => (readBracketed? [] rest).map fun (raw, after) => (Html.unescape raw, after)
  | s => do
    let (raw, after) ← readBare? 0 [] s
    if raw.isEmpty then none else some (Html.unescape raw, after)

def readAcceptedDestination? (s : Text) : Option (Text × Text) := do
  let (destination, after) ← readDestination? s
  let href := Url.normalize destination
  if Url.isAccepted href then some (href, after) else none

def readTitleBody? (close : Char) : (read : Text) → Text → Option (Text × Text)
  | _, [] => none
  | read, '\\' :: c :: rest => readTitleBody? close (c :: '\\' :: read) rest
  | read, c :: rest =>
    if c = close then some (read.reverse, rest)
    else if c = '(' ∧ close = ')' then none
    else readTitleBody? close (c :: read) rest

def titleClose? (c : Char) : Option Char :=
  if c = '"' ∨ c = '\'' then some c else if c = '(' then some ')' else none

def readTitle? : Text → Option (Text × Text)
  | [] => none
  | c :: rest => do
    let (raw, after) ← readTitleBody? (← titleClose? c) [] rest
    some (Html.unescape raw, after)

def isGap (c : Char) : Bool := isIndent c || c == '\n'

inductive Tail
  /-- A target, and what follows the closing parenthesis. -/
  | target (target : Target) (after : Text)
  /-- No target; reading stopped before these characters. -/
  | broken (stopped : Text)
  /-- Nothing but gaps follows the opening parenthesis. -/
  | unfinished

def readTail (s : Text) : Tail :=
  match s.dropWhile isGap with
  | [] => .unfinished
  | inside =>
    let (href, title, stopped) :=
      match readDestination? inside with
      | none => ([], [], inside)
      | some (destination, after) =>
        let href := Url.normalize destination
        let (href, after) := if Url.isAccepted href then (href, after) else ([], inside)
        let behind := after.dropWhile isGap
        match if behind.length < after.length then readTitle? behind else none with
        | some (title, after) => (href, title, after.dropWhile isGap)
        | none => (href, [], behind)
    match stopped with
    | ')' :: after => .target ⟨href, title⟩ after
    | stopped => .broken stopped

end MarkdownPages.Markdown
