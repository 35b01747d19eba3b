import MarkdownPages.Yaml.BlockText
import MarkdownPages.Yaml.Plain
import MarkdownPages.Yaml.Quoted
import MarkdownPages.Yaml.Token

/-!
# Reading tokens

A key is known for one only when its colon comes.  So a token that may start a key is kept as a
candidate; the colon puts the key before it.  A candidate lapses at the end of its line, after 1024
characters, or when another one takes its place.  A fault is noticed when a token is asked for that
waits for a candidate, or that comes after all tokens that have been read.
-/

namespace MarkdownPages.Yaml

open Text

inductive Bracket
  | square
  | curly
deriving DecidableEq, Repr

structure Candidate where
  depth : Nat
  slot : Nat
  /-- Whether nothing but a key may stand there. -/
  required : Bool
  index : Nat
  line : Nat
  column : Nat
deriving Repr

structure Scan where
  here : Cursor
  version : Version
  nextVersion : Version
  /-- The brackets around the place, the inner ones first. -/
  brackets : List Bracket
  /-- The columns of the sequences and mappings around the place, the inner ones first. -/
  indents : List Nat
  /-- Whether a key may start here. -/
  keyAllowed : Bool
  candidates : List Candidate
  /-- What has been read, last token first. -/
  read : List Token

namespace Scan

def start (s : Text) : Scan := ⟨.start s, .current, .current, [], [], true, [], []⟩

def depth (s : Scan) : Nat := s.brackets.length

def inFlow (s : Scan) : Bool := !s.brackets.isEmpty

def push (s : Scan) (token : Token) : Scan := { s with read := token :: s.read }

def goTo (s : Scan) (rest : Text) : Scan := { s with here := s.here.goTo rest }

def skip (s : Scan) (n : Nat) : Scan := { s with here := s.here.skip n }

def allowKey (s : Scan) (allowed : Bool) : Scan := { s with keyAllowed := allowed }

/-! ## Candidates -/

def hasLapsed (here : Cursor) (c : Candidate) : Bool :=
  c.line ≠ here.line || here.index - c.index > 1024

/-- Keeps the candidates that `keep` holds of; the others may not be required. -/
def keepCandidates (s : Scan) (keep : Candidate → Bool) : Except Error Scan :=
  if s.candidates.any (fun c => !keep c && c.required) then .error .malformed
  else .ok { s with candidates := s.candidates.filter keep }

def dropLapsed (s : Scan) : Except Error Scan := s.keepCandidates (fun c => !hasLapsed s.here c)

def dropCandidate (s : Scan) : Except Error Scan := s.keepCandidates (fun c => c.depth ≠ s.depth)

def atIndent (s : Scan) : Bool := !s.inFlow && s.indents.head? = some s.here.column

def addCandidate (s : Scan) : Except Error Scan :=
  if s.keyAllowed then do
    let s ← s.dropCandidate
    let candidate : Candidate :=
      ⟨s.depth, s.read.length, s.atIndent, s.here.index, s.here.line, s.here.column⟩
    .ok { s with candidates := candidate :: s.candidates }
  else .ok s

def insert (s : Scan) (slot : Nat) (tokens : List Token) : Scan :=
  let after := s.read.length - slot
  { s with read := s.read.take after ++ tokens.reverse ++ s.read.drop after }

/-! ## Indentation -/

def closeBlocks (indents : List Nat) (column : Nat) (read : List Token) : List Nat × List Token :=
  match indents with
  | [] => ([], read)
  | indent :: outer =>
    if column < indent then closeBlocks outer column (.blockEnd :: read)
    else (indent :: outer, read)

/-- Ends the blocks that the place is left of; indentation does not count in brackets. -/
def unwind (s : Scan) (column : Nat) : Scan :=
  if s.inFlow then s
  else
    let (indents, read) := closeBlocks s.indents column s.read
    { s with indents, read }

def unwindAll (s : Scan) : Scan :=
  if s.inFlow then s
  else { s with indents := [], read := s.indents.map (fun _ => Token.blockEnd) ++ s.read }

def startsBlock (s : Scan) (column : Nat) : Bool :=
  match s.indents with
  | [] => true
  | indent :: _ => indent < column

def openBlock (s : Scan) (token : Token) : Scan :=
  if s.startsBlock s.here.column then
    { s with indents := s.here.column :: s.indents, read := token :: s.read }
  else s

def leastIndent (s : Scan) : Nat :=
  match s.indents with
  | [] => 0
  | indent :: _ => indent + 1

/-! ## Between tokens -/

/-- Skips blanks, comments and line breaks.  Outside brackets tabs are no blanks. -/
def skipBlanks (inFlow : Bool) : (fuel : Nat) → Cursor → Bool → Cursor × Bool
  | 0, c, keyAllowed => (c, keyAllowed)
  | fuel + 1, c, keyAllowed =>
    let rest := c.rest.dropWhile (fun ch => ch = ' ' || inFlow && ch = '\t')
    let c := c.goTo (dropComment rest)
    match takeBreak? c.rest with
    | some _ => skipBlanks inFlow fuel c.next (keyAllowed || !inFlow)
    | none => (c, keyAllowed)

def toToken (s : Scan) : Scan :=
  let here :=
    if s.here.index = 0 ∧ s.here.peek = some byteOrderMark then s.here.next else s.here
  let (here, keyAllowed) := skipBlanks s.inFlow (here.rest.length + 1) here s.keyAllowed
  { s with here, keyAllowed }

/-! ## Tokens -/

def readEnd (s : Scan) : Except Error Scan := do
  let s ← s.unwindAll.dropCandidate
  .ok ({ s with candidates := [], keyAllowed := false }.push .streamEnd)

def readDirective (s : Scan) : Except Error Scan := do
  let s ← s.unwindAll.dropCandidate
  let (directive, rest) ← Directive.read s.version (s.here.rest.drop 1)
  let nextVersion :=
    match directive with
    | .version version => version
    | _ => s.nextVersion
  .ok ({ s with keyAllowed := false, nextVersion }.goTo rest |>.push (.directive directive))

def readSeparator (s : Scan) (token : Token) : Except Error Scan := do
  let s ← s.unwindAll.dropCandidate
  let s := (s.allowKey false).skip 3 |>.push token
  .ok (if token = .documentStart then
    { s with version := s.nextVersion, nextVersion := .current } else s)

def readOpening (s : Scan) (bracket : Bracket) (token : Token) : Except Error Scan := do
  let s ← s.addCandidate
  .ok ({ s with brackets := bracket :: s.brackets, keyAllowed := true }.skip 1 |>.push token)

/-- A closing bracket.  Whether it matches is not checked here. -/
def readClosing (s : Scan) (token : Token) : Except Error Scan := do
  let s ← s.dropCandidate
  .ok ({ s with brackets := s.brackets.drop 1, keyAllowed := false }.skip 1 |>.push token)

def readComma (s : Scan) : Except Error Scan := do
  let s ← s.dropCandidate
  .ok ((s.allowKey true).skip 1 |>.push .comma)

def readItem (s : Scan) : Except Error Scan := do
  if !s.inFlow && !s.keyAllowed then throw .malformed
  let s := if s.inFlow then s else s.openBlock .blockSequence
  let s ← s.dropCandidate
  .ok ((s.allowKey true).skip 1 |>.push .item)

def readKey (s : Scan) : Except Error Scan := do
  if !s.inFlow && !s.keyAllowed then throw .malformed
  let s := if s.inFlow then s else s.openBlock .blockMapping
  let s ← s.dropCandidate
  .ok ((s.allowKey !s.inFlow).skip 1 |>.push .key)

def readValue (s : Scan) : Except Error Scan :=
  match s.candidates.find? (fun c => c.depth = s.depth) with
  | some candidate =>
    let s := { s with candidates := s.candidates.filter (fun c => c.depth ≠ s.depth) }
    let opens := !s.inFlow && s.startsBlock candidate.column
    let s := s.insert candidate.slot (if opens then [.blockMapping, .key] else [.key])
    let s := if opens then { s with indents := candidate.column :: s.indents } else s
    .ok ((s.allowKey false).skip 1 |>.push .value)
  | none => do
    if !s.inFlow && !s.keyAllowed then throw .malformed
    let s := if s.inFlow then s else s.openBlock .blockMapping
    .ok ((s.allowKey !s.inFlow).skip 1 |>.push .value)

def readName (s : Scan) (token : Text → Token) : Except Error Scan := do
  let s ← s.addCandidate
  let (name, rest) ← readAnchor (s.here.rest.drop 1)
  .ok ((s.allowKey false).goTo rest |>.push (token name))

def readTag (s : Scan) : Except Error Scan := do
  let s ← s.addCandidate
  let (tag, rest) ← Tag.read s.version (s.here.rest.drop 1)
  .ok ((s.allowKey false).goTo rest |>.push (.tag tag))

def readBlock (s : Scan) (folded : Bool) : Except Error Scan := do
  let s ← s.dropCandidate
  let (text, here) ← readBlockText folded s.leastIndent s.here.next
  .ok ({ s with here, keyAllowed := true }.push (.scalar false text))

def readQuotedText (s : Scan) (double : Bool) : Except Error Scan := do
  let s ← s.addCandidate
  let (text, rest) ← readQuoted double (s.here.rest.drop 1)
  .ok ((s.allowKey false).goTo rest |>.push (.scalar false text))

def readPlainText (s : Scan) : Except Error Scan := do
  let s ← s.addCandidate
  let plain := readPlain s.version s.inFlow s.leastIndent s.here
  .ok ({ s with here := plain.after, keyAllowed := plain.atLineStart }.push
    (.scalar true plain.text))

def reserved : Text := "-?:,[]\x7b\x7d#&*!|>'\"%@`".toList

def startsPlain (version : Version) (inFlow : Bool) (c : Char) (next : Option Char) : Bool :=
  let isSign := reserved.contains c || isSpaceOrTab c || isBreak c
  !isSign ||
    (!atWordEnd next &&
      (c = '-' || (!inFlow && (c = '?' || c = ':')) || (version ≠ .old && inFlow && c = ':')))

/--
Whether a colon that `next` follows ends a key.  Outside brackets it has to end a word.  Inside
square brackets likewise; inside curly ones only right after another colon, as long as an earlier
token may still start a key.
-/
def isValue (s : Scan) (waits : Bool) (next : Option Char) : Bool :=
  match s.brackets with
  | [] => atWordEnd next
  | bracket :: _ =>
    s.version = .old || atWordEnd next ||
      (bracket = .curly && !(waits && s.read.head? = some .value))

/-- Reads the token at the place; `waits` tells whether an earlier token may still start a key. -/
def readToken (s : Scan) (waits : Bool) : Except Error Scan :=
  match s.here.rest with
  | [] => s.readEnd
  | c :: rest =>
    let next := rest.head?
    let atStart := s.here.column = 0
    if c = '%' && atStart then s.readDirective
    else if atStart && isMark '-' s.here.rest then s.readSeparator .documentStart
    else if atStart && isMark '.' s.here.rest then s.readSeparator .documentEnd
    else if c = '[' then s.readOpening .square .flowSequence
    else if c = '\x7b' then s.readOpening .curly .flowMapping
    else if c = ']' then s.readClosing .flowSequenceEnd
    else if c = '\x7d' then s.readClosing .flowMappingEnd
    else if c = ',' then s.readComma
    else if c = '-' && atWordEnd next then s.readItem
    else if c = '?' && (s.inFlow || atWordEnd next) then s.readKey
    else if c = ':' && s.isValue waits next then s.readValue
    else if c = '*' then s.readName .reference
    else if c = '&' then s.readName .anchor
    else if c = '!' then s.readTag
    else if c = '|' && !s.inFlow then s.readBlock false
    else if c = '>' && !s.inFlow then s.readBlock true
    else if c = '\'' then s.readQuotedText false
    else if c = '"' then s.readQuotedText true
    else if startsPlain s.version s.inFlow c next then s.readPlainText
    else .error .malformed

def step (s : Scan) : Except Error Scan := do
  let s ← s.dropLapsed
  let waits := !s.candidates.isEmpty
  let s ← s.toToken.dropLapsed
  (s.unwind s.here.column).readToken waits

def settled (s : Scan) : List Token :=
  s.read.reverse.take (s.candidates.foldl (fun n c => min n c.slot) s.read.length)

def run : (fuel : Nat) → Scan → TokenStream
  | 0, s => ⟨s.settled, some .malformed⟩
  | fuel + 1, s =>
    if s.read.head? = some .streamEnd then ⟨s.read.reverse, none⟩
    else
      match s.step with
      | .ok s => run fuel s
      | .error e => ⟨s.settled, some e⟩

end Scan

def TokenStream.ofText (s : Text) : TokenStream :=
  if s.all isAllowed then Scan.run (s.length + 2) (Scan.start s) else ⟨[], some .malformed⟩

end MarkdownPages.Yaml
