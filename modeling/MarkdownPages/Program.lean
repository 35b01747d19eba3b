import MarkdownPages.Anchor
import MarkdownPages.Build
import MarkdownPages.Command
import MarkdownPages.Disk
import MarkdownPages.Site.Load

/-!
# The program

What a command does to the files of a place, and what it prints.
-/

namespace MarkdownPages

open Text

structure Place (σ : Type) where
  access : FileAccess σ
  isThere : σ → Path → Bool
  current : Path

namespace Program

def defaultSettings : Path := Path.ofText "config/markdown-pages.yaml".toList

def settingsPath (settings : Option Text) : Path :=
  (settings.map Path.ofText).getD defaultSettings

def announcement (current path : Path) : Text :=
  "rendered ".toList ++ Path.shownFrom current path ++ ['\n']

def output (current : Path) (events : List Build.Event) : Text :=
  (Build.announced events).flatMap (announcement current)

variable {σ : Type}

def loadSite (place : Place σ) (files : σ) (path : Path) : Except LoadError Site :=
  if place.isThere files path then
    match place.access.read files path with
    | .ok s => Site.ofText s
    | .error e => .error (.file e)
  else .error (.missing path)

/-- The pages that are to be rendered; an empty key asks for all of them. -/
def chosen (site : Site) (key : Option Text) : Except SiteError (List Page) :=
  match key with
  | none | some [] => .ok site.pages
  | some key => do return [← site.page key]

def plan (place : Place σ) (files : σ) (key settings : Option Text) :
    Except LoadError (Site × List Page) := do
  let site ← loadSite place files (settingsPath settings)
  match chosen site key with
  | .ok pages => .ok (site, pages)
  | .error e => .error (.site e)

structure Outcome (σ : Type) where
  files : σ
  events : List Build.Event
  output : Text
  error : Option LoadError

def run (place : Place σ) (files : σ) : Command → Outcome σ
  | .slug heading => ⟨files, [], Anchor.ofHeading heading ++ ['\n'], none⟩
  | .render key settings =>
    match plan place files key settings with
    | .error e => ⟨files, [], [], some e⟩
    | .ok (site, pages) =>
      let (result, progress) := Build.run place.access site.style pages ⟨files, []⟩
      let error :=
        match result with
        | .ok _ => none
        | .error e => some (.file e)
      ⟨progress.files, progress.events, output place.current progress.events, error⟩

end Program

def Disk.place (current : Path) : Place Disk :=
  ⟨Disk.access current, fun disk path => disk.isThere current path, current⟩

end MarkdownPages
