import MarkdownPages.Yaml.Node
import MarkdownPages.Yaml.Token.Read

/-!
# Reading nodes

The tokens of a text are read as one document.  Text that stands for nothing, as between a colon and
the next key, is an empty plain text.
-/

namespace MarkdownPages.Yaml

open Text

structure Reading where
  tokens : List Token
  /-- Why no token follows the last one. -/
  fault : Option Error
  version : Version
  /-- What the handles of tags stand for. -/
  handles : List (Text × Text)
  anchors : List (Text × Nat)
  anchored : List (Nat × Node)

abbrev NodeReader (α : Type) := StateT Reading (Except Error) α

namespace NodeReader

def peek : NodeReader Token := do
  let r ← get
  match r.tokens with
  | token :: _ => return token
  | [] => throw (r.fault.getD .malformed)

def advance : NodeReader Unit := modify fun r => { r with tokens := r.tokens.drop 1 }

def expect (token : Token) : NodeReader Unit := do
  if (← peek) = token then advance else throw .malformed

def comes (tokens : List Token) : NodeReader Bool := do
  return tokens.contains (← peek)

def plainKind (text : Text) : NodeReader Kind := do
  match Kind.ofPlain (← get).version text with
  | .ok kind => return kind
  | .error e => throw e

def empty : NodeReader Node := return .scalar (← plainKind []) []

/-! ## Anchors and tags -/

structure Properties where
  anchor : Option Text
  tag : Option Tag

def properties : NodeReader Properties := do
  match ← peek with
  | .anchor name =>
    advance
    match ← peek with
    | .tag tag => advance; return ⟨some name, some tag⟩
    | _ => return ⟨some name, none⟩
  | .tag tag =>
    advance
    match ← peek with
    | .anchor name => advance; return ⟨some name, some tag⟩
    | _ => return ⟨none, some tag⟩
  | _ => return ⟨none, none⟩

def tagKind? (tag : Option Tag) : NodeReader (Option Kind) := do
  match tag with
  | none => return none
  | some tag =>
    let start ←
      match tag.handle with
      | none => pure []
      | some handle =>
        match (← get).handles.lookup handle with
        | some start => pure start
        | none => throw .malformed
    let name := start ++ tag.suffix
    return if name = Tag.plain.suffix then none else some (Kind.ofName name)

/-- Declares an anchor, in place of an earlier one of its name, and gives it a number. -/
def declare (name : Text) : NodeReader Nat := do
  let id := (← get).anchors.length
  modify fun r => { r with anchors := (name, id) :: r.anchors }
  return id

def keep (id : Nat) (node : Node) : NodeReader Node := do
  modify fun r => { r with anchored := (id, node) :: r.anchored }
  return .shared id

def referenced (name : Text) : NodeReader Node := do
  match (← get).anchors.lookup name with
  | some id => return .shared id
  | none => throw .malformed

/-! ## Nodes -/

def blockEntryEnds : List Token := [.key, .value, .blockEnd]

inductive Place
  | flow
  | block
  /-- In a mapping of a block, where the items of a sequence need not be indented. -/
  | entry
deriving DecidableEq, Repr

mutual

def node (place : Place) : (fuel : Nat) → NodeReader Node
  | 0 => throw .malformed
  | fuel + 1 => do
    match ← peek with
    | .reference name => advance; referenced name
    | _ =>
      let p ← properties
      let kind ← tagKind? p.tag
      match p.anchor with
      | none => content place p kind fuel
      | some name =>
        let id ← declare name
        keep id (← content place p kind fuel)

def content (place : Place) (p : Properties) (kind : Option Kind) : (fuel : Nat) → NodeReader Node
  | 0 => throw .malformed
  | fuel + 1 => do
    match ← peek with
    | .item =>
      if place = .entry then return .list (kind.getD .list) (← entryItems fuel)
      else unfilled p kind
    | .scalar plain text =>
      advance
      match kind with
      | some kind => return .scalar kind text
      | none =>
        if plain || p.tag.isSome then return .scalar (← plainKind text) text
        else return .scalar .text text
    | .flowSequence => advance; return .list (kind.getD .list) (← flowItems true fuel)
    | .flowMapping => advance; return .map (kind.getD .map) (← flowEntries true fuel)
    | .blockSequence =>
      if place = .flow then unfilled p kind
      else advance; return .list (kind.getD .list) (← blockItems fuel)
    | .blockMapping =>
      if place = .flow then unfilled p kind
      else advance; return .map (kind.getD .map) (← blockEntries fuel)
    | _ => unfilled p kind

/-- A node without a text of its own: it needs an anchor or a tag. -/
def unfilled (p : Properties) (kind : Option Kind) : NodeReader Node := do
  if p.anchor.isNone && p.tag.isNone then throw .malformed
  match kind with
  | some kind => return .scalar kind []
  | none => empty

def blockItems : (fuel : Nat) → NodeReader (List Node)
  | 0 => throw .malformed
  | fuel + 1 => do
    match ← peek with
    | .item =>
      advance
      let first ← if ← comes [.item, .blockEnd] then empty else node .block fuel
      return first :: (← blockItems fuel)
    | .blockEnd => advance; return []
    | _ => throw .malformed

def entryItems : (fuel : Nat) → NodeReader (List Node)
  | 0 => throw .malformed
  | fuel + 1 => do
    match ← peek with
    | .item =>
      advance
      let first ← if ← comes (.item :: blockEntryEnds) then empty else node .block fuel
      return first :: (← entryItems fuel)
    | _ => return []

def blockEntries : (fuel : Nat) → NodeReader (List (Node × Node))
  | 0 => throw .malformed
  | fuel + 1 => do
    match ← peek with
    | .key =>
      advance
      let key ← if ← comes blockEntryEnds then empty else node .entry fuel
      let value ← blockValue fuel
      return (key, value) :: (← blockEntries fuel)
    | .value =>
      if (← get).version.isLater then
        let key ← empty
        let value ← blockValue fuel
        return (key, value) :: (← blockEntries fuel)
      else throw .malformed
    | .blockEnd => advance; return []
    | _ => throw .malformed

def blockValue : (fuel : Nat) → NodeReader Node
  | 0 => throw .malformed
  | fuel + 1 => do
    if (← peek) = .value then
      advance
      if ← comes blockEntryEnds then empty else node .entry fuel
    else empty

def flowItems (first : Bool) : (fuel : Nat) → NodeReader (List Node)
  | 0 => throw .malformed
  | fuel + 1 => do
    if ← comes [.flowSequenceEnd] then
      advance
      return []
    if !first then expect .comma
    match ← peek with
    | .flowSequenceEnd => advance; return []
    | .key =>
      advance
      let key ←
        if ← comes [.value, .comma, .flowSequenceEnd] then empty else node .flow fuel
      let value ← flowValue .flowSequenceEnd fuel
      return .map .map [(key, value)] :: (← flowItems false fuel)
    | _ =>
      let item ← node .flow fuel
      return item :: (← flowItems false fuel)

def flowValue (closing : Token) : (fuel : Nat) → NodeReader Node
  | 0 => throw .malformed
  | fuel + 1 => do
    if (← peek) = .value then
      advance
      if ← comes [.comma, closing] then empty else node .flow fuel
    else empty

def flowEntries (first : Bool) : (fuel : Nat) → NodeReader (List (Node × Node))
  | 0 => throw .malformed
  | fuel + 1 => do
    if ← comes [.flowMappingEnd] then
      advance
      return []
    if !first then expect .comma
    match ← peek with
    | .flowMappingEnd => advance; return []
    | .key =>
      advance
      let key ←
        if ← comes [.value, .comma, .flowMappingEnd] then empty else node .flow fuel
      let value ← flowValue .flowMappingEnd fuel
      return (key, value) :: (← flowEntries false fuel)
    | .value =>
      if (← get).version.isLater then
        let key ← empty
        let value ← flowValue .flowMappingEnd fuel
        return (key, value) :: (← flowEntries false fuel)
      else throw .malformed
    | _ =>
      let key ← node .flow fuel
      let value ← empty
      return (key, value) :: (← flowEntries false fuel)

end

/-! ## Documents -/

def standardHandles : List (Text × Text) :=
  [(['!'], ['!']), (['!', '!'], Kind.namespaceText)]

def applyDirectives (directives : List Directive) : NodeReader Unit := do
  let versions := directives.filterMap fun | .version v => some v | _ => none
  let handles := directives.filterMap fun | .tagHandle handle uri => some (handle, uri) | _ => none
  if versions.length > 1 || versions.any (·.major ≠ 1) then throw .malformed
  if !(handles.map Prod.fst).Nodup then throw .malformed
  modify fun r =>
    { r with version := (versions.head?).getD .current, handles := handles ++ standardHandles }

def directives : (fuel : Nat) → NodeReader (List Directive)
  | 0 => return []
  | fuel + 1 => do
    match ← peek with
    | .directive directive => advance; return directive :: (← directives fuel)
    | _ => return []

def documentStart (fuel : Nat) : NodeReader Bool := do
  match ← peek with
  | .directive _ | .documentStart =>
    applyDirectives (← directives fuel)
    expect .documentStart
    return true
  | _ => return false

def endsDocument : Token → Bool
  | .directive _ | .documentStart | .documentEnd | .streamEnd => true
  | _ => false

def documentEnd : (fuel : Nat) → NodeReader Unit
  | 0 => return
  | fuel + 1 => do
    if (← peek) = .documentEnd then
      advance
      if (← get).version = .old then documentEnd fuel

def document (fuel : Nat) : NodeReader Node := do
  if (← peek) = .streamEnd then return .scalar .null []
  let isMarked ← documentStart fuel
  let root ← if isMarked && endsDocument (← peek) then empty else node .block fuel
  documentEnd fuel
  expect .streamEnd
  return root

end NodeReader

def Document.ofText (s : Text) : Except Error Document :=
  let stream := TokenStream.ofText s
  let start : Reading :=
    ⟨stream.tokens, stream.fault, .current, NodeReader.standardHandles, [], []⟩
  match (NodeReader.document (4 * stream.tokens.length + 8)).run start with
  | .ok (root, r) => .ok ⟨r.version, root, r.anchored⟩
  | .error e => .error e

end MarkdownPages.Yaml
