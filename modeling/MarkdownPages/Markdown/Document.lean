import MarkdownPages.Anchor
import MarkdownPages.Markdown.Block.Read
import MarkdownPages.Markdown.Inline.Read
import MarkdownPages.Text.Utf8

/-!
# Documents

A document is read in two passes, since a definition may stand behind the links that refer to it:
first its blocks, then the texts of its headings and paragraphs.  Its headings get anchors, and the
whole is written as HTML.
-/

namespace MarkdownPages.Markdown

open Text

structure Heading where
  anchor : Text
  content : List Inline
deriving DecidableEq, Repr

def titleOf (content : List Inline) : Text := content.flatMap Inline.toTitle

abbrev DocBlock := Block Heading (List Inline)

def normalizeSource (s : Text) : Text :=
  (normalizeNewlines s).map fun c => if c.toNat = 0 then Html.replacement else c

def anchorHeading (used : List Text) (content : List Inline) : Heading × List Text :=
  let anchor := Anchor.fresh used (Anchor.ofHeading (titleOf content))
  (⟨anchor, content⟩, anchor :: used)

def readBlocksOf (source : Text) : List DocBlock :=
  let (blocks, defs) := readDocument (normalizeSource source)
  let blocks := Block.mapAll (readInline defs) (readInline defs) blocks
  (Block.mapHeadingsAll anchorHeading [] blocks).1

def headingsOf (source : Text) : List Heading := Block.headingsAll (readBlocksOf source)

/-! ## HTML -/

def inlineHtml (content : List Inline) : Text := content.flatMap Inline.toHtml

def fenceHtml (info content : Text) : Text :=
  let info := trim (Html.unescape info)
  let language := info.takeWhile fun c => !isBlank c
  "<pre><code".toList ++
    (if info.isEmpty then []
      else Html.writeAttribute "class".toList ("language-".toList ++ language)) ++
    ['>'] ++ Html.escape content ++ "</code></pre>\n".toList

def headingTag (level : Nat) : Text := 'h' :: Text.ofNat level

def listOpenTag : ListKind → Text
  | .bullet => "<ul>\n".toList
  | .ordered start =>
    "<ol".toList ++
      (if start = 1 then [] else Html.writeAttribute "start".toList (Text.ofNat start)) ++
      ">\n".toList

def listCloseTag : ListKind → Text
  | .bullet => "</ul>\n".toList
  | .ordered _ => "</ol>\n".toList

def isParagraph : DocBlock → Bool
  | .paragraph _ => true
  | _ => false

/--
What stands between the opening tag of a container and its contents: a line feed, unless there are
none or they start with a paragraph that is shown without tags.
-/
def containerGap (tight : Bool) : List DocBlock → Text
  | [] => []
  | b :: _ => if tight && isParagraph b then [] else ['\n']

mutual

/--
The HTML of a block.  In a tight list item a paragraph is shown without its tags; if such a
paragraph stands before it, as `afterBare` tells, the tag of a block starts a new line.
-/
def blockHtml (tight afterBare : Bool) : DocBlock → Text
  | .paragraph content =>
    if tight then inlineHtml content else "<p>".toList ++ inlineHtml content ++ "</p>\n".toList
  | .heading level heading =>
    startLine afterBare ++ ['<'] ++ headingTag level ++
      Html.writeAttribute "id".toList heading.anchor ++ ['>'] ++ inlineHtml heading.content ++
      "</".toList ++ headingTag level ++ ">\n".toList
  | .rule => startLine afterBare ++ "<hr />\n".toList
  | .code content => "<pre><code>".toList ++ Html.escape content ++ "</code></pre>\n".toList
  | .fence info content => fenceHtml info content
  | .html content => content
  | .quote children =>
    startLine afterBare ++ "<blockquote>".toList ++ containerGap false children ++
      blocksHtml false false children ++ "</blockquote>\n".toList
  | .list kind tight items =>
    startLine afterBare ++ listOpenTag kind ++ itemsHtml tight items ++ listCloseTag kind
where
  /-- A line feed behind a paragraph without tags. -/
  startLine (afterBare : Bool) : Text := if afterBare then ['\n'] else []

def blocksHtml (tight afterBare : Bool) : List DocBlock → Text
  | [] => []
  | b :: bs => blockHtml tight afterBare b ++ blocksHtml tight (tight && isParagraph b) bs

def itemsHtml (tight : Bool) : List (List DocBlock) → Text
  | [] => []
  | item :: items =>
    "<li>".toList ++ containerGap tight item ++ blocksHtml tight false item ++ "</li>\n".toList ++
      itemsHtml tight items

end

def toHtml (source : Text) : Text := blocksHtml false false (readBlocksOf source)

end MarkdownPages.Markdown
