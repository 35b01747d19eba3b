import MarkdownPages.Link
import MarkdownPages.Page
import MarkdownPages.Site.Error

/-!
# Sites

A site is a list of pages with distinct keys, and the markup that stands for links.  It is described
by settings: a mapping `pages` from keys to pages, and a mapping `defaults` with the names of the
markup.  Everything that the settings say is checked in their order; the first fault counts.
-/

namespace MarkdownPages

open Text

structure Site where
  /-- The element that stands for a link. -/
  element : Text
  hrefAttribute : Text
  pages : List Page
deriving DecidableEq, Repr

namespace Site

/-! ## Names -/

/-- A name: `first` holds of its first character and `rest` of the others.  A line feed may end
it. -/
def isName (first rest : Char → Bool) (s : Text) : Bool :=
  match dropFinalNewline s with
  | [] => false
  | c :: cs => first c && cs.all rest

def isMarkupName (s : Text) : Bool := isName Char.isAlpha (fun c => c.isAlphanum || c = '-') s

def isFragmentName (s : Text) : Bool :=
  isName (fun c => c.isAlpha || c = '_') (fun c => c.isAlphanum || c = '_') s

/-! ## Settings -/

def markupName (setting : String) (fallback : Text) (defaults : List (Value × Value)) :
    Except SiteError Text :=
  match Value.setting setting defaults with
  | .null => .ok fallback
  | .text s => if isMarkupName s then .ok s else .error (.markupName setting (.text s))
  | value => .error (.markupName setting value)

def fragmentName (key : Text) : Value → Except SiteError Text
  | .text s => if isFragmentName s then .ok s else .error (.fragmentName key (.text s))
  | value => .error (.fragmentName key value)

def directory (key : Text) (value : Value) : Except SiteError Path :=
  if value.isBlank then .error (.noDirectory key)
  else
    match value with
    | .text s => .ok (Path.ofText s)
    | value => .error (.directoryNotText key value)

def fragments (key : Text) (value : Value) : Except SiteError (List Text) :=
  match (value.orElse .emptyList).items? with
  | some items => items.mapM (fragmentName key)
  | none => .error (.fragmentsNotList key)

/-- The page with the given key and settings.  Its stem is its key unless the settings name one. -/
def pageOf (key : Text) (settings : Value) : Except SiteError Page :=
  match settings.entries? with
  | none => .error (.pageNotMapping key)
  | some entries => do
    let directory ← directory key (Value.setting "directory" entries)
    let stem := ((Value.setting "prefix" entries).orElse (.text key)).toText
    let fragments ← fragments key (Value.setting "fragments" entries)
    .ok ⟨key, directory, stem, fragments⟩

/-- Sets the page of a key; a key that is there already keeps its place. -/
def putPage (page : Page) : List Page → List Page
  | [] => [page]
  | p :: pages => if p.key = page.key then page :: pages else p :: putPage page pages

def pagesOf (pages : List Page) : List (Value × Value) → Except SiteError (List Page)
  | [] => .ok pages
  | (key, settings) :: entries => do
    let page ← pageOf key.toText settings
    pagesOf (putPage page pages) entries

/-- The site that settings describe; settings that say nothing count as an empty mapping. -/
def ofValue (settings : Value) : Except SiteError Site :=
  match (settings.orElse .emptyMap).entries? with
  | none => .error .notMapping
  | some entries =>
    match ((Value.setting "defaults" entries).orElse .emptyMap).entries? with
    | none => .error .defaultsNotMapping
    | some defaults => do
      let element ← markupName "link_element" LinkStyle.defaultElement defaults
      let hrefAttribute ←
        markupName "link_href_attribute" LinkStyle.defaultHrefAttribute defaults
      let pages := Value.setting "pages" entries
      if pages.isBlank then .error .noPages
      else
        match pages.entries? with
        | none => .error .pagesNotMapping
        | some list => do
          let pages ← pagesOf [] list
          .ok ⟨element, hrefAttribute, pages⟩

/-! ## Using a site -/

def style (site : Site) : LinkStyle :=
  ⟨site.element, site.hrefAttribute, LinkStyle.defaultMarker⟩

def page (site : Site) (key : Text) : Except SiteError Page :=
  match site.pages.find? (·.key = key) with
  | some page => .ok page
  | none => .error (.unknownPage key (site.pages.map (·.key)))

end Site

end MarkdownPages
