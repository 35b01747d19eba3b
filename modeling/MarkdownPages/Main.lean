import MarkdownPages.Program

/-!
# The command line

Runs the command that the arguments ask for.  The sources of a page are read, the page is built from
what was read, and then its events are carried out.
-/

namespace MarkdownPages

open Text

abbrev Sources := List (Path × Except FileError Text)

namespace Sources

def read (sources : Sources) (path : Path) : Except FileError Text :=
  (sources.lookup path).getD (.error (.missing path))

/-- Access to what was read; a build that writes is carried out later. -/
def access : FileAccess Sources where
  read := read
  write sources _ _ := .ok sources

def isThere (sources : Sources) (path : Path) : Bool :=
  match sources.read path with
  | .error (.missing _) | .error (.notDirectory _) | .error .nullInPath => false
  | _ => true

end Sources

def FileError.ofReport? (path : Path) : IO.Error → Option FileError
  | .noFileOrDirectory .. => some (.missing path)
  | .permissionDenied .. => some (.denied path)
  | .inappropriateType _ code _ =>
    if code = 21 then some (.isDirectory path) else some (.notDirectory path)
  | _ => none

def withFile {α : Type} (path : Path) (act : String → IO α) : IO (Except FileError α) := do
  if path.hasNull then return .error .nullInPath
  try return .ok (← act (String.ofList path.toText))
  catch e =>
    match FileError.ofReport? path e with
    | some error => return .error error
    | none => throw e

def readText (path : Path) : IO (Except FileError Text) := do
  match ← withFile path (IO.FS.readBinFile ·) with
  | .error e => return .error e
  | .ok bytes =>
    match decodeUtf8? (bytes.toList.map UInt8.toNat) with
    | some s => return .ok (normalizeNewlines s)
    | none => return .error (.notText path)

def readAll (paths : List Path) : IO Sources :=
  paths.mapM fun path => return (path, ← readText path)

def printText (s : Text) : IO Unit := IO.print (String.ofList s)

def fail (error : LoadError) : IO UInt32 := do
  IO.eprintln (String.ofList (error.message?.getD "The file cannot be read.".toList))
  return 1

/-- Carries out the events of a build, up to the first write that fails. -/
def carryOut (current : Path) : List Build.Event → IO (Option FileError)
  | [] => return none
  | .read _ :: events => carryOut current events
  | .write path text _ :: events => do
    match ← withFile path (IO.FS.writeFile · (String.ofList text)) with
    | .error e => return some e
    | .ok () => carryOut current events
  | .announce path :: events => do
    printText (Program.announcement current path)
    carryOut current events

def buildPages (current : Path) (style : LinkStyle) : List Page → IO UInt32
  | [] => return 0
  | page :: pages => do
    let sources ← readAll page.sources
    let (result, progress) := Build.run Sources.access style [page] ⟨sources, []⟩
    match ← carryOut current progress.events, result with
    | some e, _ | none, .error e => fail (.file e)
    | none, .ok _ => buildPages current style pages

def Command.carryOut (current : Path) : Command → IO UInt32
  | .slug heading => do
    printText (Anchor.ofHeading heading ++ ['\n'])
    return 0
  | .render key settings => do
    let sources ← readAll [Program.settingsPath settings]
    match Program.plan ⟨Sources.access, Sources.isThere, current⟩ sources key settings with
    | .error e => fail e
    | .ok (site, pages) => buildPages current site.style pages

def readEnvironment : IO Command.Environment := do
  let values ← ["PAGE", "CONFIG", "TEXT"].mapM fun name => do
    let variableName := Command.variableFor name
    let value ← IO.getEnv (String.ofList variableName)
    return value.map fun s => (variableName, s.toList)
  return values.filterMap id

end MarkdownPages

def main (arguments : List String) : IO UInt32 := do
  let environment ← MarkdownPages.readEnvironment
  match MarkdownPages.Command.read environment (arguments.map String.toList) with
  | .error _ =>
    IO.eprintln "usage: render [--config PATH] [--page KEY] | slug TEXT"
    return 2
  | .ok command =>
    let current := toString (← IO.currentDir)
    command.carryOut (MarkdownPages.Path.ofText current.toList)
