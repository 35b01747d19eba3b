import MarkdownPages.Files
import MarkdownPages.Site
import MarkdownPages.Yaml.Value.Read

/-!
# Loading a site

The settings of a site stand in a file.
-/

namespace MarkdownPages

open Text

inductive LoadError
  /-- There is no such file of settings. -/
  | missing (path : Path)
  | file (error : FileError)
  | yaml (error : Yaml.Error)
  | site (error : SiteError)

namespace Yaml.Error

def message? : Yaml.Error → Option Text
  | .malformed => none
  | .codePoint => some "chr() arg not in range(0x110000)".toList
  | .wholeNumber base literal =>
    some ("invalid literal for int() with base ".toList ++ Text.ofNat base ++ ": ".toList ++
      quoted literal)
  | .number literal => some ("could not convert string to float: ".toList ++ quoted literal)
  | .noNumber => some "string index out of range".toList
  | .exponents => some "too many values to unpack (expected 2)".toList
  | .truth literal => some (quoted literal)
  | .calendar error => some error.message
  | .mutableKey kind => some ("unhashable type: '".toList ++ kind ++ ['\''])
  | .repeatedPair => some []
  | .version v =>
    some ('(' :: Text.ofNat v.major ++ ", ".toList ++ Text.ofNat v.minor ++ [')'])

end Yaml.Error

namespace LoadError

def message? : LoadError → Option Text
  | .missing path => some ("Configuration file '".toList ++ path.toText ++ "' not found.".toList)
  | .file error => error.message?
  | .yaml error => error.message?
  | .site error => some error.message

end LoadError

namespace Site

def ofText (s : Text) : Except LoadError Site :=
  match Yaml.read s with
  | .error e => .error (.yaml e)
  | .ok settings =>
    match ofValue settings with
    | .error e => .error (.site e)
    | .ok site => .ok site

end Site

end MarkdownPages
