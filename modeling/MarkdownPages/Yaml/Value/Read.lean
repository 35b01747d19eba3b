import MarkdownPages.Yaml.Node.Read
import MarkdownPages.Yaml.Value.Scalar

/-!
# Values of documents

A document is checked first and its value is built then.  The check goes level by level: the parts
of a collection are looked at in order, and the collections among them afterwards; keys are
checked in full at once.  So of two faults the one nearer to the root is reported, unless it
stands after the other in the same collection.
-/

namespace MarkdownPages.Yaml

open Text

mutual

def Node.size : Node → Nat
  | .scalar _ _ | .shared _ => 1
  | .list _ items => Node.sizes items + 1
  | .map _ entries => Node.entrySizes entries + 1

def Node.sizes : List Node → Nat
  | [] => 0
  | node :: nodes => Node.size node + Node.sizes nodes

def Node.entrySizes : List (Node × Node) → Nat
  | [] => 0
  | (key, value) :: entries => Node.size key + Node.size value + Node.entrySizes entries

end

namespace Document

def size (d : Document) : Nat := d.root.size + Node.sizes (d.anchored.map Prod.snd)

/-! ## Parts of collections -/

def scalarKind? (d : Document) (node : Node) : Option Kind :=
  match d.resolve node with
  | .scalar kind _ => some kind
  | _ => none

def isMerge (d : Document) (node : Node) : Bool := d.scalarKind? node = some .merge

def isSelf (d : Document) (node : Node) : Bool := d.scalarKind? node = some .self

/-- The text of a node.  A mapping has one if it has its own value. -/
def text? (d : Document) : (fuel : Nat) → Node → Option Text
  | 0, _ => none
  | fuel + 1, node =>
    match d.resolve node with
    | .scalar _ s => some s
    | .map _ entries =>
      match entries.find? (fun e => d.isSelf e.1) with
      | some (_, value) => text? d fuel value
      | none => none
    | _ => none

structure Entries where
  merged : List (Node × Node)
  own : List (Node × Node)

namespace Entries

def all (e : Entries) : List (Node × Node) := e.merged ++ e.own

end Entries

/-- A key that is a merge key only by its spelling counts as a text among entries. -/
def asKey (d : Document) (node : Node) : Node :=
  if d.isSelf node then .scalar .text ['='] else node

/-- Joins what several mappings give to a merge; the first one has the last word. -/
def joinMerges (parts : List (List (Node × Node))) : List (Node × Node) := parts.reverse.flatten

def anchor? : Node → Option Nat
  | .shared id => some id
  | _ => none

mutual

/--
The entries of a mapping.  Only one merge key may bring entries along.  `around` holds the anchors
of the mappings that are being merged.
-/
def entries (d : Document) (around : List Nat) :
    (fuel : Nat) → List (Node × Node) → Except Error Entries
  | 0, _ => .ok ⟨[], []⟩
  | _ + 1, [] => .ok ⟨[], []⟩
  | fuel + 1, (key, value) :: rest => do
    if d.isMerge key then
      let merged ←
        match d.resolve value with
        | .list _ items => do pure (joinMerges (← items.mapM (given d around fuel)))
        | _ => given d around fuel value
      let others ← entries d around fuel rest
      if !merged.isEmpty && rest.any (fun e => d.isMerge e.1) then throw .malformed
      return ⟨merged ++ others.merged, others.own⟩
    else
      let others ← entries d around fuel rest
      return { others with own := (d.asKey key, value) :: others.own }

/-- What a mapping gives to a merge; inside itself it gives the entries that are written out. -/
def given (d : Document) (around : List Nat) :
    (fuel : Nat) → Node → Except Error (List (Node × Node))
  | 0, _ => .ok []
  | fuel + 1, node =>
    match d.resolve node with
    | .map _ inner =>
      if (anchor? node).any around.contains then .ok (inner.filter (fun e => !d.isMerge e.1))
      else do return (← entries d ((anchor? node).toList ++ around) fuel inner).all
    | _ => .error .malformed

end

def entriesOf (d : Document) (list : List (Node × Node)) : Except Error Entries :=
  d.entries [] (2 * d.size + 2) list

def singleEntry? (d : Document) (node : Node) : Option (Node × Node) :=
  match d.resolve node with
  | .map _ [entry] => some entry
  | _ => none

/-! ## Building -/

def unfoldings : Nat := 6

/-- The key that a value is: a list stands for the sequence of its items. -/
def keyOf : Value → Value
  | .list _ items => .tuple items
  | value => value

def build (d : Document) : (fuel : Nat) → (around : List Nat) → Node → Value
  | 0, _, _ => .null
  | fuel + 1, around, node =>
    let name := anchor? node
    let tooDeep := name.any (fun id => around.count id ≥ unfoldings)
    let inside := build d fuel (name.toList ++ around)
    let entry := fun (e : Node × Node) => (keyOf (inside e.1), inside e.2)
    let collect := fun (list : List (Node × Node)) =>
      (list.map entry).foldl (fun entries e => Value.putEntry e.1 e.2 entries) []
    let own := fun (list : List (Node × Node)) =>
      match d.entriesOf list with
      | .ok entries => entries.all
      | .error _ => []
    match d.resolve node with
    | .list .orderedMap items =>
      .map name true (if tooDeep then [] else collect (items.filterMap d.singleEntry?))
    | .list .pairs items =>
      .list name (if tooDeep then [] else (items.filterMap d.singleEntry?).map fun e =>
        .tuple [inside e.1, inside e.2])
    | .list .list items => .list name (if tooDeep then [] else items.map inside)
    | .map .set list =>
      .set ((own list).foldl (fun members e => Value.putMember (keyOf (inside e.1)) members) [])
    | .map .map list => .map name false (if tooDeep then [] else collect (own list))
    | .shared _ => .null
    | .scalar kind _ | .list kind _ | .map kind _ =>
      ((d.text? d.size node).bind fun s => (scalarValue d.version kind s).toOption).getD .null

/-- The value of a node; the fuel lasts for the longest way down, with all unfoldings. -/
def valueOf (d : Document) (node : Node) : Value := d.build (unfoldings * (d.size + 2)) [] node

def value (d : Document) : Value := d.valueOf d.root

/-! ## Checking -/

structure Agenda where
  /-- The anchors of nodes that need no further check. -/
  seen : List Nat
  waiting : List Node

namespace Agenda

def empty (seen : List Nat) : Agenda := ⟨seen, []⟩

end Agenda

def isCollectionKind (kind : Kind) : Bool :=
  kind ∈ [.orderedMap, .pairs, .set, .list, .map]

def look (d : Document) (node : Node) (agenda : Agenda) : Except Error Agenda := do
  if (anchor? node).any agenda.seen.contains then return agenda
  let seen := (anchor? node).toList ++ agenda.seen
  match d.resolve node with
  | .shared _ => throw .malformed
  | .scalar kind _ | .list kind _ | .map kind _ =>
    if isCollectionKind kind then
      return ⟨seen, agenda.waiting ++ [d.resolve node]⟩
    else
      match d.text? d.size node with
      | none => throw .malformed
      | some s =>
        let _ ← scalarValue d.version kind s
        return { agenda with seen }

def checkKeyParts (key : Value) : Except Error Unit :=
  match key.mutableKind? with
  | some kind => .error (.mutableKey kind)
  | none => .ok ()

mutual

def checkParts (d : Document) (node : Node) (agenda : Agenda) : (fuel : Nat) → Except Error Agenda
  | 0 => .ok agenda
  | fuel + 1 =>
    match node with
    | .list .list items => items.foldlM (fun agenda item => d.look item agenda) agenda
    | .list .pairs items => checkSingles d false items [] agenda fuel
    | .list .orderedMap items => checkSingles d true items [] agenda fuel
    | .map .map list | .map .set list => do
      let entries ← d.entriesOf list
      let distinct := entries.merged.isEmpty
      let agenda ← checkEntries d distinct entries.merged [] agenda fuel
      checkEntries d distinct entries.all [] agenda fuel
    | _ => .error .malformed

/-- Checks entries in order; with `distinct` no two may have the same key. -/
def checkEntries (d : Document) (distinct : Bool) (list : List (Node × Node)) (keys : List Value)
    (agenda : Agenda) : (fuel : Nat) → Except Error Agenda
  | 0 => .ok agenda
  | fuel + 1 =>
    match list with
    | [] => .ok agenda
    | (key, value) :: list => do
      let keyAgenda ← d.look key (.empty agenda.seen)
      let seen ← checkAll d keyAgenda fuel
      let k := keyOf (d.valueOf key)
      if k.isMapOrSet then throw .malformed
      let agenda ← d.look value { agenda with seen }
      checkKeyParts k
      if distinct && keys.any (Value.sameKey k) then throw .malformed
      checkEntries d distinct list (k :: keys) agenda fuel

def checkSingles (d : Document) (distinct : Bool) (items : List Node) (keys : List Value)
    (agenda : Agenda) : (fuel : Nat) → Except Error Agenda
  | 0 => .ok agenda
  | fuel + 1 =>
    match items with
    | [] => .ok agenda
    | item :: items =>
      match d.singleEntry? item with
      | none => .error .malformed
      | some (key, value) => do
        let agenda ← d.look key agenda
        let k := d.valueOf key
        if distinct then
          checkKeyParts k
          if keys.any (Value.sameKey k) then throw .repeatedPair
        let agenda ← d.look value agenda
        checkSingles d distinct items (k :: keys) agenda fuel

/-- Works off an agenda.  The answer holds the anchors that need no further check. -/
def checkAll (d : Document) (agenda : Agenda) : (fuel : Nat) → Except Error (List Nat)
  | 0 => .ok agenda.seen
  | fuel + 1 =>
    match agenda.waiting with
    | [] => .ok agenda.seen
    | node :: waiting => do
      let agenda ← checkParts d node { agenda with waiting } fuel
      checkAll d agenda fuel

end

def check (d : Document) : Except Error Unit := do
  let agenda ← d.look d.root (.empty [])
  let _ ← d.checkAll agenda ((d.size + 2) * (d.size + 2))

end Document

def read (s : Text) : Except Error Value := do
  let d ← Document.ofText s
  d.check
  .ok d.value

end MarkdownPages.Yaml
