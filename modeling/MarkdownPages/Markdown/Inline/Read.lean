import MarkdownPages.Markdown.Inline.Token

/-!
# Reading inline texts

The tokens of an inline text become pieces, and the pieces become elements once their emphasis is
paired.  The text of a link is a sequence of its own.
-/

namespace MarkdownPages.Markdown

open Text

def maxInlineDepth : Nat := 20

structure Reading where
  pieces : List Piece
  plain : Text
  memo : Memo

namespace Reading

def flush (r : Reading) : Reading :=
  if r.plain.isEmpty then r
  else { r with pieces := .element (.text r.plain.reverse) :: r.pieces, plain := [] }

def push (r : Reading) (e : Inline) : Reading :=
  let r := r.flush
  { r with pieces := .element e :: r.pieces }

def pushPlain (r : Reading) (s : Text) : Reading := { r with plain := s.reverse ++ r.plain }

def pushMarks (r : Reading) (m : Mark) : Reading :=
  let r := r.flush
  { r with pieces := List.replicate m.length (.mark m) ++ r.pieces }

def pushLineFeed (r : Reading) : Reading :=
  match r.plain with
  | ' ' :: ' ' :: rest => { r with plain := rest.dropWhile (· == ' ') }.push .hardBreak
  | ' ' :: rest => { r with plain := rest }.push .softBreak
  | _ => r.push .softBreak

def elements (r : Reading) : List Inline := resolve r.flush.pieces.reverse

end Reading

abbrev SpanReader := (start stop : Nat) → Memo → List Inline × Memo

/-- Adds a token. `readText` reads the text of a link and `describe` the text of an image. -/
def Reading.pushToken (s : Source) (readText : SpanReader) (describe : Text → Text) (r : Reading) :
    Token → Reading
  | .plain content => r.pushPlain content
  | .lineFeed => r.pushLineFeed
  | .hardBreak => r.push .hardBreak
  | .decoded content => r.push (.text content)
  | .code content => r.push (.code content)
  | .marks mark => r.pushMarks mark
  | .link span =>
    let (inside, memo) := readText span.start span.stop r.memo
    let r := r.push (.linkStart span.target)
    { r with
      pieces := .element .linkEnd :: (inside.map Piece.element).reverse ++ r.pieces
      memo := memo }
  | .image span => r.push (.image span.target (describe (s.slice span.start span.stop)))
  | .autolink href shown =>
    ((r.push (.linkStart ⟨href, []⟩)).push (.text shown)).push .linkEnd
  | .html content => r.push (.html content)

def readTokens (s : Source) (defs : Definitions) (skip : Skip) (readText : SpanReader)
    (describe : Text → Text) (limit : Nat) : (fuel : Nat) → Reading → (pos : Nat) → Reading
  | 0, r, _ => r
  | fuel + 1, r, pos =>
    if limit ≤ pos then r
    else
      let (token?, memo) := readToken s defs skip true limit r.memo pos
      let r := { r with memo := memo }
      match token? with
      | some (token, after) =>
        readTokens s defs skip readText describe limit fuel
          (r.pushToken s readText describe token) after
      | none =>
        readTokens s defs skip readText describe limit fuel
          (r.pushPlain (s.slice pos (pos + 1))) (pos + 1)

/--
Reads the text between two positions.  The texts of links inside may nest `room` levels deep; beyond
that, everything is plain.
-/
def readSpan (s : Source) (defs : Definitions) (describe : Text → Text) :
    (room : Nat) → SpanReader
  | 0 => fun start stop memo =>
    ((Reading.mk [] [] memo |>.pushPlain (s.slice start stop)).elements, memo)
  | room + 1 => fun start stop memo =>
    let r := readTokens s defs (skipToken s defs (room + 1)) (readSpan s defs describe room)
      describe stop (stop - start + 1) ⟨[], [], memo⟩ start
    (r.elements, r.memo)

def readInlineWith (defs : Definitions) : (images : Nat) → Text → List Inline
  | 0, _ => []
  | images + 1, content =>
    let source := content.toArray
    let describe := fun inside => (readInlineWith defs images inside).flatMap Inline.toDescription
    (readSpan source defs describe maxInlineDepth 0 source.size {}).1

/-- The elements of a text.  The text of an image is shorter than the image. -/
def readInline (defs : Definitions) (content : Text) : List Inline :=
  readInlineWith defs (content.length + 1) content

end MarkdownPages.Markdown
