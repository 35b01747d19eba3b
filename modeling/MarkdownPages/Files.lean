import MarkdownPages.Path
import MarkdownPages.Text.Quoted

/-!
# Files

What a build needs of the place where its files are: reading the text of a path and writing a text
to a path.  Either may fail, and a failure names the path.
-/

namespace MarkdownPages

open Text

inductive FileError
  | missing (path : Path)
  | denied (path : Path)
  | notDirectory (path : Path)
  | isDirectory (path : Path)
  /-- The path holds the null character, which no file name may hold. -/
  | nullInPath
  /-- The bytes of the file are not UTF-8. -/
  | notText (path : Path)
deriving DecidableEq, Repr

namespace FileError

def systemMessage (number : Nat) (reason : String) (path : Path) : Text :=
  "[Errno ".toList ++ Text.ofNat number ++ "] ".toList ++ reason.toList ++ ": ".toList ++
    quoted path.toText

def message? : FileError → Option Text
  | .missing path => some (systemMessage 2 "No such file or directory" path)
  | .denied path => some (systemMessage 13 "Permission denied" path)
  | .notDirectory path => some (systemMessage 20 "Not a directory" path)
  | .isDirectory path => some (systemMessage 21 "Is a directory" path)
  | .nullInPath => some "embedded null byte".toList
  | .notText _ => none

end FileError

/-- How files are read and written in a place whose states are `σ`. -/
structure FileAccess (σ : Type) where
  read : σ → Path → Except FileError Text
  write : σ → Path → Text → Except FileError σ

/-! ## Files in memory -/

/-- Files in memory: texts by path, and the paths that may not be written. -/
structure MemoryFiles where
  texts : List (Path × Text)
  readonly : List Path

namespace MemoryFiles

def get? (files : MemoryFiles) (path : Path) : Option Text := files.texts.lookup path

def remove (files : MemoryFiles) (path : Path) : MemoryFiles :=
  { files with texts := files.texts.filter (·.1 != path) }

/-- Sets the text of a path, whether or not it may be written. -/
def put (files : MemoryFiles) (path : Path) (text : Text) : MemoryFiles :=
  { files.remove path with texts := (path, text) :: (files.remove path).texts }

def access : FileAccess MemoryFiles where
  read files path :=
    match files.get? path with
    | some text => .ok text
    | none => .error (.missing path)
  write files path text :=
    if path ∈ files.readonly then .error (.denied path) else .ok (files.put path text)

end MemoryFiles

end MarkdownPages
