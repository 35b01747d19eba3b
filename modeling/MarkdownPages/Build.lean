import MarkdownPages.Files
import MarkdownPages.Fragment
import MarkdownPages.Page

/-!
# Building pages

Pages are built one after the other.  For each page its base template is read, then its fragments
in order; the document is written beside them, and the path is announced.  The first file that
cannot be read or written ends the build: what has been written stays, and later pages are not
begun.
-/

namespace MarkdownPages

open Text

namespace Build

inductive Event
  | read (path : Path)
  /-- An attempt to write; `done` tells whether it succeeded. -/
  | write (path : Path) (text : Text) (done : Bool)
  | announce (path : Path)
deriving DecidableEq, Repr

structure Progress (σ : Type) where
  files : σ
  events : List Event

abbrev Action (σ α : Type) := Progress σ → Except FileError α × Progress σ

variable {σ : Type}

def readFile (access : FileAccess σ) (path : Path) : Action σ Text := fun p =>
  (access.read p.files path, { p with events := p.events ++ [.read path] })

def writeFile (access : FileAccess σ) (path : Path) (text : Text) : Action σ Unit := fun p =>
  match access.write p.files path text with
  | .ok files => (.ok (), ⟨files, p.events ++ [.write path text true]⟩)
  | .error e => (.error e, { p with events := p.events ++ [.write path text false] })

def readFragments (access : FileAccess σ) (page : Page) :
    (names : List Text) → Action σ (List Fragment)
  | [], p => (.ok [], p)
  | name :: names, p =>
    match readFile access (page.fragmentPath name) p with
    | (.error e, p) => (.error e, p)
    | (.ok markdown, p) =>
      match readFragments access page names p with
      | (.error e, p) => (.error e, p)
      | (.ok fragments, p) => (.ok (⟨name, markdown⟩ :: fragments), p)

def renderPage (access : FileAccess σ) (style : LinkStyle) (page : Page) : Action σ Text := fun p =>
  match readFile access page.templatePath p with
  | (.error e, p) => (.error e, p)
  | (.ok base, p) =>
    match readFragments access page page.fragments p with
    | (.error e, p) => (.error e, p)
    | (.ok fragments, p) => (.ok (Fragment.assemble style fragments base), p)

def buildPage (access : FileAccess σ) (style : LinkStyle) (page : Page) : Action σ Unit := fun p =>
  match renderPage access style page p with
  | (.error e, p) => (.error e, p)
  | (.ok document, p) =>
    match writeFile access page.renderedPath document p with
    | (.error e, p) => (.error e, p)
    | (.ok (), p) => (.ok (), { p with events := p.events ++ [.announce page.renderedPath] })

def run (access : FileAccess σ) (style : LinkStyle) : List Page → Action σ (List Path)
  | [], p => (.ok [], p)
  | page :: pages, p =>
    match buildPage access style page p with
    | (.error e, p) => (.error e, p)
    | (.ok (), p) =>
      match run access style pages p with
      | (.error e, p) => (.error e, p)
      | (.ok written, p) => (.ok (page.renderedPath :: written), p)

/-! ## What a build has done -/

def reads (events : List Event) : List Path :=
  events.filterMap fun | .read path => some path | _ => none

def writes (events : List Event) : List Path :=
  events.filterMap fun | .write path _ _ => some path | _ => none

def changes (events : List Event) : List (Path × Text) :=
  events.filterMap fun | .write path text true => some (path, text) | _ => none

def announced (events : List Event) : List Path :=
  events.filterMap fun | .announce path => some path | _ => none

def notices (listening : Bool) (events : List Event) : List Path :=
  if listening then announced events else []

end Build

end MarkdownPages
