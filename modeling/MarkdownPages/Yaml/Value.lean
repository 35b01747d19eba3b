import MarkdownPages.Calendar
import MarkdownPages.Number.Shortest
import MarkdownPages.Text.Quoted

/-!
# Values

What a document of settings says is a value.  Settings are looked up in mappings, empty values count
as absent, and messages show values.
-/

namespace MarkdownPages

open Text

/--
A value.  A list or a mapping may be part of itself: such collections carry a name, and the parts
with the name of a collection around them are that collection again.
-/
inductive Value
  | null
  | bool (b : Bool)
  | int (n : Int)
  | float (x : Binary64)
  | text (s : Text)
  | bytes (bytes : List Nat)
  | date (d : Date)
  | moment (m : Moment)
  | list (name : Option Nat) (items : List Value)
  | tuple (items : List Value)
  /-- Keys with their values; `ordered` tells that the document wrote them as a sequence. -/
  | map (name : Option Nat) (ordered : Bool) (entries : List (Value × Value))
  | set (members : List Value)

namespace Value

def emptyList : Value := .list none []

def emptyMap : Value := .map none false []

def entries? : Value → Option (List (Value × Value))
  | .map _ _ entries => some entries
  | _ => none

def items? : Value → Option (List Value)
  | .list _ items => some items
  | _ => none

def text? : Value → Option Text
  | .text s => some s
  | _ => none

def isMapOrSet : Value → Bool
  | .map _ _ _ | .set _ => true
  | _ => false

/-- Whether a value says nothing: nulls, falsehood, zeros and everything empty. -/
def isBlank : Value → Bool
  | .null => true
  | .bool b => !b
  | .int n => n = 0
  | .float x => x.isZero
  | .text s => s.isEmpty
  | .bytes b => b.isEmpty
  | .date _ | .moment _ => false
  | .list _ items | .tuple items | .set items => items.isEmpty
  | .map _ _ entries => entries.isEmpty

def setting (name : String) (entries : List (Value × Value)) : Value :=
  match entries.find? (fun e => e.1.text? == some name.toList) with
  | some (_, value) => value
  | none => .null

def orElse (value fallback : Value) : Value := if value.isBlank then fallback else value

/-! ## Keys -/

/-- Equality of numbers; truth values count as one and zero. -/
def sameNumber (a b : Value) : Bool :=
  let number? : Value → Option (Int ⊕ Binary64)
    | .bool b => some (.inl (if b then 1 else 0))
    | .int n => some (.inl n)
    | .float x => some (.inr x)
    | _ => none
  match number? a, number? b with
  | some (.inl m), some (.inl n) => m = n
  | some (.inl n), some (.inr x) | some (.inr x), some (.inl n) => x.isInt n
  | some (.inr x), some (.inr y) => x.same y
  | _, _ => false

mutual

def sameKey : Value → Value → Bool
  | .null, .null => true
  | .text s, .text t => s = t
  | .bytes b, .bytes c => b = c
  | .date d, .date e => d = e
  | .moment m, .moment n => m = n
  | .tuple xs, .tuple ys => sameKeys xs ys
  | a, b => sameNumber a b

def sameKeys : List Value → List Value → Bool
  | [], [] => true
  | x :: xs, y :: ys => sameKey x y && sameKeys xs ys
  | _, _ => false

end

mutual

def mutableKind? : Value → Option Text
  | .list _ _ => some "list".toList
  | .map _ ordered _ => some (if ordered then "ordereddict".toList else "dict".toList)
  | .set _ => some "set".toList
  | .tuple items => mutableKinds? items
  | _ => none

def mutableKinds? : List Value → Option Text
  | [] => none
  | x :: xs =>
    match mutableKind? x with
    | some kind => some kind
    | none => mutableKinds? xs

end

def putEntry (key value : Value) : List (Value × Value) → List (Value × Value)
  | [] => [(key, value)]
  | (k, v) :: rest =>
    if sameKey k key then (k, value) :: rest else (k, v) :: putEntry key value rest

def putMember (member : Value) (members : List Value) : List Value :=
  if members.any (sameKey member) then members else members ++ [member]

/-! ## How values are shown -/

mutual

/--
A value as messages show it.  `around` holds the names of the collections that are being shown;
inside itself a collection is cut short.
-/
def shownIn (around : List Nat) : Value → Text
  | .null => "None".toList
  | .bool b => if b then "True".toList else "False".toList
  | .int n => (toString n).toList
  | .float x => x.toText
  | .text s => quoted s
  | .bytes b => quotedBytes b
  | .date d => d.shown
  | .moment m => m.shown
  | .list name items =>
    if name.any around.contains then "[...]".toList
    else '[' :: ", ".toList.intercalate (shownItems (name.toList ++ around) items) ++ [']']
  | .tuple [item] => '(' :: shownIn around item ++ ",)".toList
  | .tuple items => '(' :: ", ".toList.intercalate (shownItems around items) ++ [')']
  | .map name ordered entries =>
    if name.any around.contains then (if ordered then "...".toList else "\x7b...\x7d".toList)
    else if ordered then
      if entries.isEmpty then "ordereddict()".toList
      else "ordereddict(".toList ++ shownMap (name.toList ++ around) entries ++ [')']
    else shownMap (name.toList ++ around) entries
  | .set [] => "set()".toList
  | .set members => '\x7b' :: ", ".toList.intercalate (shownItems around members) ++ ['\x7d']

def shownItems (around : List Nat) : List Value → List Text
  | [] => []
  | item :: items => shownIn around item :: shownItems around items

def shownEntries (around : List Nat) : List (Value × Value) → List Text
  | [] => []
  | (key, value) :: entries =>
    (shownIn around key ++ ": ".toList ++ shownIn around value) :: shownEntries around entries

def shownMap (around : List Nat) (entries : List (Value × Value)) : Text :=
  '\x7b' :: ", ".toList.intercalate (shownEntries around entries) ++ ['\x7d']

end

def shown (value : Value) : Text := shownIn [] value

def toText : Value → Text
  | .text s => s
  | .date d => d.toText
  | .moment m => m.toText
  | value => value.shown

end Value

end MarkdownPages
