import MarkdownPages.Files
import MarkdownPages.Text.Utf8

/-!
# Disks

A disk holds directories and files of bytes.  Both are found by their location: the components from
the root.  A path leads to a location by walking through directories that are there.

Texts are files in UTF-8.  Line ends are unified when a text is read; a text is written as it is.
-/

namespace MarkdownPages

open Text

abbrev Location := List Text

structure Disk where
  files : List (Location × List Nat)
  directories : List Location
deriving Repr

namespace Disk

def empty : Disk := ⟨[], []⟩

def file? (disk : Disk) (at_ : Location) : Option (List Nat) := disk.files.lookup at_

def isDirectory (disk : Disk) (at_ : Location) : Bool :=
  at_.isEmpty || disk.directories.contains at_

inductive Obstacle
  | missing
  | file
deriving DecidableEq, Repr

/-- Walks from a directory.  The last component need not be there. -/
def walk (disk : Disk) (here : Location) : List Text → Except Obstacle Location
  | [] => .ok here
  | part :: parts =>
    if part = "..".toList then walk disk here.dropLast parts
    else
      let there := here ++ [part]
      if parts.isEmpty || disk.isDirectory there then walk disk there parts
      else if (disk.file? there).isSome then .error .file
      else .error .missing

def locate (disk : Disk) (current path : Path) : Except FileError Location :=
  if path.hasNull then .error .nullInPath
  else
    match disk.walk [] (current.join path).parts with
    | .ok there => .ok there
    | .error .missing => .error (.missing path)
    | .error .file => .error (.notDirectory path)

def isThere (disk : Disk) (current path : Path) : Bool :=
  match disk.locate current path with
  | .ok there => disk.isDirectory there || (disk.file? there).isSome
  | .error _ => false

def readBytes (disk : Disk) (current path : Path) : Except FileError (List Nat) := do
  let there ← disk.locate current path
  if disk.isDirectory there then .error (.isDirectory path)
  else
    match disk.file? there with
    | some bytes => .ok bytes
    | none => .error (.missing path)

def readText (disk : Disk) (current path : Path) : Except FileError Text := do
  let bytes ← disk.readBytes current path
  match decodeUtf8? bytes with
  | some s => .ok (normalizeNewlines s)
  | none => .error (.notText path)

def remove (disk : Disk) (at_ : Location) : Disk :=
  { disk with files := disk.files.filter (·.1 ≠ at_) }

def put (disk : Disk) (at_ : Location) (bytes : List Nat) : Disk :=
  { disk with files := (at_, bytes) :: (disk.remove at_).files }

def writeBytes (disk : Disk) (current path : Path) (bytes : List Nat) : Except FileError Disk := do
  let there ← disk.locate current path
  if disk.isDirectory there then .error (.isDirectory path) else .ok (disk.put there bytes)

def writeText (disk : Disk) (current path : Path) (s : Text) : Except FileError Disk :=
  disk.writeBytes current path (encodeUtf8 s)

def makeDirectory (disk : Disk) (at_ : Location) : Disk :=
  let all := (List.range at_.length).map fun n => at_.take (n + 1)
  { disk with directories := disk.directories ++ all.filter (!disk.isDirectory ·) }

def access (current : Path) : FileAccess Disk where
  read disk path := disk.readText current path
  write disk path s := disk.writeText current path s

end Disk

end MarkdownPages
