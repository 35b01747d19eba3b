import MarkdownPages.Text.Basic

/-!
# Blocks

The block structure of a document.  The texts of headings and paragraphs are left open: they are raw
when the blocks are read, and inline elements later.
-/

namespace MarkdownPages.Markdown

inductive ListKind
  | bullet
  | ordered (start : Nat)
deriving DecidableEq, Repr

/-- A block, with headings that hold a `Heading` and paragraphs that hold a `Paragraph`. -/
inductive Block (Heading Paragraph : Type)
  | paragraph (content : Paragraph)
  | heading (level : Nat) (content : Heading)
  | rule
  | code (content : Text)
  /-- A fenced code block; the info string is raw. -/
  | fence (info content : Text)
  | html (content : Text)
  | quote (children : List (Block Heading Paragraph))
  /-- A list; the paragraphs of a tight list are shown without their tags. -/
  | list (kind : ListKind) (tight : Bool) (items : List (List (Block Heading Paragraph)))

namespace Block

variable {H H' P P' σ : Type}

mutual

def headings : Block H P → List H
  | .heading _ content => [content]
  | .quote children => headingsAll children
  | .list _ _ items => headingsItems items
  | .paragraph _ | .rule | .code _ | .fence _ _ | .html _ => []

def headingsAll : List (Block H P) → List H
  | [] => []
  | b :: bs => headings b ++ headingsAll bs

def headingsItems : List (List (Block H P)) → List H
  | [] => []
  | item :: items => headingsAll item ++ headingsItems items

end

mutual

def map (f : H → H') (g : P → P') : Block H P → Block H' P'
  | .paragraph content => .paragraph (g content)
  | .heading level content => .heading level (f content)
  | .rule => .rule
  | .code content => .code content
  | .fence info content => .fence info content
  | .html content => .html content
  | .quote children => .quote (mapAll f g children)
  | .list kind tight items => .list kind tight (mapItems f g items)

def mapAll (f : H → H') (g : P → P') : List (Block H P) → List (Block H' P')
  | [] => []
  | b :: bs => map f g b :: mapAll f g bs

def mapItems (f : H → H') (g : P → P') : List (List (Block H P)) → List (List (Block H' P'))
  | [] => []
  | item :: items => mapAll f g item :: mapItems f g items

end

mutual

def mapHeadings (f : σ → H → H' × σ) (s : σ) : Block H P → Block H' P × σ
  | .paragraph content => (.paragraph content, s)
  | .heading level content => let (content, s) := f s content; (.heading level content, s)
  | .rule => (.rule, s)
  | .code content => (.code content, s)
  | .fence info content => (.fence info content, s)
  | .html content => (.html content, s)
  | .quote children => let (children, s) := mapHeadingsAll f s children; (.quote children, s)
  | .list kind tight items =>
    let (items, s) := mapHeadingsItems f s items
    (.list kind tight items, s)

def mapHeadingsAll (f : σ → H → H' × σ) (s : σ) :
    List (Block H P) → List (Block H' P) × σ
  | [] => ([], s)
  | b :: bs =>
    let (b, s) := mapHeadings f s b
    let (bs, s) := mapHeadingsAll f s bs
    (b :: bs, s)

def mapHeadingsItems (f : σ → H → H' × σ) (s : σ) :
    List (List (Block H P)) → List (List (Block H' P)) × σ
  | [] => ([], s)
  | item :: items =>
    let (item, s) := mapHeadingsAll f s item
    let (items, s) := mapHeadingsItems f s items
    (item :: items, s)

end

end Block

end MarkdownPages.Markdown
