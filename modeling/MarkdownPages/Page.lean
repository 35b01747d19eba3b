import MarkdownPages.Path

/-!
# Pages

A page is a directory, a stem that its files share, and its fragments in order.  The names of its
files follow from the stem: `stem.template.html`, `stem.rendered.html` and, for a fragment `name`,
`stem.name.md`.
-/

namespace MarkdownPages

open Text

structure Page where
  key : Text
  directory : Path
  stem : Text
  fragments : List Text
deriving DecidableEq, Repr

namespace Page

/-- The path of a file of the page.  The name is read as a path, so a stem may hold slashes. -/
def file (page : Page) (name : Text) : Path := page.directory.join (Path.ofText name)

def templatePath (page : Page) : Path := page.file (page.stem ++ ".template.html".toList)

def renderedPath (page : Page) : Path := page.file (page.stem ++ ".rendered.html".toList)

def fragmentPath (page : Page) (fragment : Text) : Path :=
  page.file (page.stem ++ ".".toList ++ fragment ++ ".md".toList)

/-- The files that the page is built from, in the order in which they are read. -/
def sources (page : Page) : List Path := page.templatePath :: page.fragments.map page.fragmentPath

end Page

end MarkdownPages
