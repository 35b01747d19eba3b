import MarkdownPages.Yaml.Value

/-!
# Faults of settings

Why settings are refused, and how the fault is worded.
-/

namespace MarkdownPages

open Text

inductive SiteError
  /-- The settings are no mapping. -/
  | notMapping
  | defaultsNotMapping
  /-- A default that names markup is no name. -/
  | markupName (setting : String) (value : Value)
  | noPages
  | pagesNotMapping
  | pageNotMapping (key : Text)
  | noDirectory (key : Text)
  | directoryNotText (key : Text) (value : Value)
  | fragmentsNotList (key : Text)
  | fragmentName (key : Text) (value : Value)
  | unknownPage (key : Text) (known : List Text)

namespace SiteError

def aboutPage (key : Text) (what : String) : Text :=
  "Page '".toList ++ key ++ "' ".toList ++ what.toList

def knownText (known : List Text) : Text :=
  let list := ", ".toList.intercalate known
  if list.isEmpty then "<none>".toList else list

def message : SiteError → Text
  | .notMapping => "Top-level YAML structure must be a mapping.".toList
  | .defaultsNotMapping => "'defaults' must be a mapping of settings.".toList
  | .markupName setting value =>
    "defaults.".toList ++ setting.toList ++ " must be a markup name, got ".toList ++ value.shown ++
      ['.']
  | .noPages => "No pages defined in page configuration.".toList
  | .pagesNotMapping => "'pages' must map page keys to page settings.".toList
  | .pageNotMapping key => aboutPage key "must be a mapping."
  | .noDirectory key => aboutPage key "is missing a directory."
  | .directoryNotText key value =>
    aboutPage key "directory must be a path string, got " ++ value.shown ++ ['.']
  | .fragmentsNotList key => aboutPage key "fragments must be a list of names."
  | .fragmentName key value =>
    aboutPage key "has an invalid fragment name " ++ value.shown ++ ['.']
  | .unknownPage key known =>
    "Unknown page '".toList ++ key ++ "'. Known pages: ".toList ++ knownText known ++ ['.']

end SiteError

end MarkdownPages
