import MarkdownPages.Markdown.Block.Start
import MarkdownPages.Markdown.Definition

/-!
# Reading blocks

The lines of a container are read from the top.  Each reader takes the lines that are left,
answers a block and the lines behind it, and leaves the rest to the container.  Quotes and list
items are containers in turn, as long as they do not nest more deeply than `maxDepth`.
-/

namespace MarkdownPages.Markdown

open Text

def maxDepth : Nat := 20

abbrev RawBlock := Block Text Text

structure Contents where
  blocks : List RawBlock
  /-- The lines that do not belong to the container. -/
  rest : List Line
  /-- Whether no blank line stands before the last block. -/
  tight : Bool
  defs : Definitions

/-! ## Leaves -/

def readCode (place : Place) (first : Line) (more : List Line) : RawBlock × List Line :=
  let run := more.takeWhile fun l => l.isBlank || l.isCode place
  let count := (run.reverse.dropWhile Line.isBlank).length
  (.code (dedentBetween (4 + place.column) (first :: more.take count) ++ ['\n']), more.drop count)

/--
The number of lines inside a fence, and whether a line closes it.  A line left of the container ends
it, and so does an empty last line without a line feed.
-/
def fenceExtent (place : Place) (fence : Fence) : List Line → Nat × Bool
  | [] => (0, false)
  | l :: ls =>
    if (!l.isBlank && l.isOutdented place) || (l.isBlank && !l.ended) then (0, false)
    else if !l.isCode place && fence.isClosedBy l.body then (0, true)
    else
      let (count, closed) := fenceExtent place fence ls
      (count + 1, closed)

def readFence (place : Place) (fence : Fence) (first : Line) (more : List Line) :
    RawBlock × List Line :=
  let (count, closed) := fenceExtent place fence more
  (.fence fence.info (dedentAll first.indent.toNat (more.take count)),
    more.drop (if closed then count + 1 else count))

def htmlExtent (place : Place) (kind : Html.BlockKind) : List Line → Nat
  | [] => 0
  | l :: ls =>
    if l.isOutdented place then 0
    else if kind.endsAt l.body then if l.isBlank then 0 else 1
    else htmlExtent place kind ls + 1

def readHtml (place : Place) (kind : Html.BlockKind) (first : Line) (more : List Line) :
    RawBlock × List Line :=
  let count := if kind.endsAt first.body then 0 else htmlExtent place kind more
  (.html (dedentAll place.column (first :: more.take count)), more.drop count)

/--
Whether a line continues the paragraph before it whatever it looks like: it is indented too far to
start a block, or it has been found to continue a paragraph in a quote.
-/
def continuesAnyway (place : Place) (l : Line) : Bool := l.isCode place || l.indent < 0

def paragraphLines (place : Place) (ls : List Line) : List Line :=
  ls.takeWhile fun l => !l.isBlank && (continuesAnyway place l || !interrupts place true l)

def underline? (place : Place) : List Line → Option (Nat × Nat)
  | [] => none
  | l :: ls =>
    if l.isBlank then none
    else if l.isCode place then (underline? place ls).map fun (count, level) => (count + 1, level)
    else
      match if l.isOutdented place then none else underlineLevel? l.body with
      | some level => some (0, level)
      | none =>
        if l.indent < 0 || !interrupts place true l then
          (underline? place ls).map fun (count, level) => (count + 1, level)
        else none

def readParagraph (place : Place) (first : Line) (more : List Line) : RawBlock × List Line :=
  match underline? place more with
  | some (count, level) =>
    (.heading level (trimMargins (dedentBetween place.column (first :: more.take count))),
      more.drop (count + 1))
  | none =>
    let continued := paragraphLines place more
    (.paragraph (trimMargins (dedentBetween place.column (first :: continued))),
      more.drop continued.length)

def definitionLines (place : Place) (ls : List Line) : List Line :=
  ls.takeWhile fun l => !l.isBlank && (continuesAnyway place l || !interrupts place false l)

def readDefinitionBlock? (place : Place) (first : Line) (more : List Line) :
    Option ((Text × Target) × List Line) := do
  let source := (first :: definitionLines place more).flatMap Line.bodyWithEnd
  let (label, target, rest) ← readDefinition? source
  some ((label, target), (first :: more).drop (linesRead source rest))

/-! ## Quotes -/

def unquote (l : Line) : Line :=
  let inside := l.body.drop 1
  let start := l.indent.toNat + 1
  let (inside, start, shift, spaced) :=
    match inside with
    | ' ' :: rest => (rest, start + 1, l.base, true)
    | '\t' :: rest =>
      if (l.base + start) % 4 = 3 then (rest, start + 1, l.base, true)
      else (inside, start, l.base + 1, true)
    | inside => (inside, start, l.base, false)
  let lead := inside.takeWhile isIndent
  { lead := lead
    body := inside.dropWhile isIndent
    indent := (advanceAll shift start lead : Int) - start
    base := l.indent.toNat + 1 + (if spaced then 1 else 0)
    ended := l.ended }

/--
The lines of a quote behind its first one, as they stand inside it.  Without a mark a line belongs
to the quote only if it continues a paragraph: the line before is not blank and this one starts no
block.
-/
def quoteLines (place : Place) : (lastBlank : Bool) → List Line → List Line
  | _, [] => []
  | lastBlank, l :: ls =>
    if l.isBlank then []
    else if isQuote l && !l.isOutdented place then
      let inner := unquote l
      inner :: quoteLines place inner.isBlank ls
    else if lastBlank || interrupts place false l then []
    else { l with indent := -1 } :: quoteLines place lastBlank ls

/-! ## Lists -/

abbrev ContainerReader := Place → Definitions → List Line → Contents

def openItem (marker : Marker) (l : Line) : Nat × Line :=
  let start := l.indent.toNat + marker.length
  let rest := l.body.drop marker.length
  let gap := rest.takeWhile isIndent
  let body := rest.dropWhile isIndent
  let stop := advanceAll l.base start gap
  let width := if body.isEmpty || 4 < stop - start then 1 else stop - start
  (start + width,
    { l with
      lead := l.lead ++ l.body.take marker.length ++ gap
      body := body
      indent := stop })

def lastIsBlank (ls rest : List Line) : Bool :=
  (ls.take (ls.length - rest.length)).getLast?.any Line.isBlank

structure Items where
  items : List (List RawBlock)
  tight : Bool
  rest : List Line
  defs : Definitions

/--
Reads the items of a list from the line that `marker` was found on.  An empty first line that is
followed by a blank line is an item of its own.  `endedBlank` tells whether the item before ended
with a blank line, which makes the list loose; `fuel` bounds the number of items.
-/
def readItems (read : ContainerReader) (place : Place) (first : Marker) :
    (fuel : Nat) → (marker : Marker) → (endedBlank : Bool) → Definitions → List Line → Items
  | 0, _, _, defs, ls => ⟨[], true, ls, defs⟩
  | _ + 1, _, _, defs, [] => ⟨[], true, [], defs⟩
  | fuel + 1, marker, endedBlank, defs, l :: ls =>
    let (column, line) := openItem marker l
    let item :=
      if line.isBlank && ls.head?.all Line.isBlank then
        { blocks := [], rest := ls.drop 1, tight := true, defs := defs : Contents }
      else read ⟨column, some place.column⟩ defs (line :: ls)
    let tight := item.tight && !endedBlank
    let endedBlank := 1 < (l :: ls).length - item.rest.length && lastIsBlank (l :: ls) item.rest
    let next? := do
      let next ← item.rest.head?
      if next.isOutdented place || next.isCode place || endsItems place next then none
      else
        let marker ← (match first.kind with
          | .bullet => Marker.bullet? next.body
          | .ordered _ => Marker.ordered? next.body)
        if marker.sign = first.sign then some marker else none
    match next? with
    | some marker =>
      let others := readItems read place first fuel marker endedBlank item.defs item.rest
      { others with items := item.blocks :: others.items, tight := tight && others.tight }
    | none => ⟨[item.blocks], tight, item.rest, item.defs⟩

/-! ## Containers -/

def readBlock (readQuote readItem : ContainerReader) (place : Place) (defs : Definitions)
    (l : Line) (ls : List Line) : Option RawBlock × List Line × Definitions :=
  let leaf := fun (block, rest) => (some block, rest, defs)
  if l.isCode place then leaf (readCode place l ls)
  else
    match Fence.ofBody? l.body with
    | some fence => leaf (readFence place fence l ls)
    | none =>
      if isQuote l then
        let first := unquote l
        let inner := first :: quoteLines place first.isBlank ls
        let contents := readQuote ⟨0, place.listColumn⟩ defs inner
        (some (.quote contents.blocks),
          (l :: ls).drop (inner.length - contents.rest.length), contents.defs)
      else if isRule l.body then (some .rule, ls, defs)
      else
        match listMarker? place false l with
        | some marker =>
          let list := readItems readItem place marker (ls.length + 1) marker false defs (l :: ls)
          (some (.list marker.kind list.tight list.items), list.rest, list.defs)
        | none =>
          match readDefinitionBlock? place l ls with
          | some ((label, target), rest) => (none, rest, defs.insert label target)
          | none =>
            match Html.BlockKind.ofLine? l.body with
            | some kind => leaf (readHtml place kind l ls)
            | none =>
              match readHeading? l.body with
              | some (level, content) => (some (.heading level content), ls, defs)
              | none => leaf (readParagraph place l ls)

/--
Reads blocks until a line stands left of the container.  `loose` tells whether a blank line has been
seen; `fuel` bounds the number of blocks.
-/
def readBlocks (readQuote readItem : ContainerReader) (place : Place) :
    (fuel : Nat) → (loose tight : Bool) → Definitions → List Line → Contents
  | 0, _, tight, defs, ls => ⟨[], ls, tight, defs⟩
  | fuel + 1, loose, tight, defs, ls =>
    match ls.dropWhile Line.isBlank with
    | [] => ⟨[], [], tight, defs⟩
    | l :: ls =>
      if l.isOutdented place then ⟨[], l :: ls, tight, defs⟩
      else
        let (block?, rest, defs) := readBlock readQuote readItem place defs l ls
        let followedByBlank := rest.head?.any Line.isBlank
        let others := readBlocks readQuote readItem place fuel
          (loose || lastIsBlank (l :: ls) rest || followedByBlank) (!loose) defs
          (if followedByBlank then rest.drop 1 else rest)
        { others with blocks := block?.toList ++ others.blocks }

/-- A container that nests too deeply takes all its lines and holds nothing. -/
def skipContents : ContainerReader := fun place defs ls =>
  match ls.dropWhile Line.isBlank with
  | [] => ⟨[], [], true, defs⟩
  | l :: ls => if l.isOutdented place then ⟨[], l :: ls, true, defs⟩ else ⟨[], [], true, defs⟩

/-- Reads the lines of a container that may hold `room` levels of containers; an item takes two. -/
def readContents : (room : Nat) → ContainerReader
  | 0 => skipContents
  | 1 => fun place defs ls =>
    readBlocks (readContents 0) skipContents place (ls.length + 1) false true defs ls
  | room + 2 => fun place defs ls =>
    readBlocks (readContents (room + 1)) (readContents room) place (ls.length + 1) false true
      defs ls

def readDocument (source : Text) : List RawBlock × Definitions :=
  let contents := readContents maxDepth ⟨0, none⟩ [] (lines source)
  (contents.blocks, contents.defs)

end MarkdownPages.Markdown
