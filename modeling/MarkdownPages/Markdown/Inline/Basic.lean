import MarkdownPages.Html.Escape
import MarkdownPages.Markdown.LinkParts

/-!
# Inline elements

The contents of a heading or a paragraph are a flat sequence of elements, in which emphasis and
links have a start and an end.
-/

namespace MarkdownPages.Markdown

open Text

inductive Inline
  | text (content : Text)
  | code (content : Text)
  | softBreak
  | hardBreak
  | html (content : Text)
  | emphasisStart (strong : Bool)
  | emphasisEnd (strong : Bool)
  | linkStart (target : Target)
  | linkEnd
  | image (target : Target) (description : Text)
deriving DecidableEq, Repr

namespace Inline

def toHtml : Inline → Text
  | .text content => Html.escape content
  | .code content => "<code>".toList ++ Html.escape content ++ "</code>".toList
  | .softBreak => ['\n']
  | .hardBreak => "<br />\n".toList
  | .html content => content
  | .emphasisStart strong => if strong then "<strong>".toList else "<em>".toList
  | .emphasisEnd strong => if strong then "</strong>".toList else "</em>".toList
  | .linkStart target =>
    "<a".toList ++ Html.writeAttribute "href".toList target.href ++
      (if target.title.isEmpty then [] else Html.writeAttribute "title".toList target.title) ++
      ['>']
  | .linkEnd => "</a>".toList
  | .image target description =>
    "<img".toList ++ Html.writeAttribute "src".toList target.href ++
      Html.writeAttribute "alt".toList description ++
      (if target.title.isEmpty then [] else Html.writeAttribute "title".toList target.title) ++
      " />".toList

def toDescription : Inline → Text
  | .text content => content
  | .code content => content
  | .softBreak | .hardBreak => ['\n']
  | .html content => content
  | .image _ description => description
  | .emphasisStart _ | .emphasisEnd _ | .linkStart _ | .linkEnd => []

def toTitle : Inline → Text
  | .text content => content
  | .code content => content
  | _ => []

end Inline

end MarkdownPages.Markdown
