import MarkdownPages.Link
import MarkdownPages.Marker
import MarkdownPages.Markdown.Document

/-!
# Fragments

A fragment is a piece of Markdown that becomes a named block of its page.  Its links are replaced by
placeholders, the result is rendered, and the marker tags are removed.
-/

namespace MarkdownPages

open Text

structure Fragment where
  name : Text
  markdown : Text
deriving DecidableEq, Repr

namespace Fragment

def html (style : LinkStyle) (markdown : Text) : Text :=
  Marker.strip style.marker (Markdown.toHtml (Link.replaceAll style markdown))

def block (style : LinkStyle) (f : Fragment) : Text :=
  "<ng-template #".toList ++ f.name ++ ">\n".toList ++ trim (html style f.markdown) ++
    "\n</ng-template>\n\n".toList

def assemble (style : LinkStyle) (fragments : List Fragment) (base : Text) : Text :=
  fragments.flatMap (block style) ++ base

end Fragment

end MarkdownPages
