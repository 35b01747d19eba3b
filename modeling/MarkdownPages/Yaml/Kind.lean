import MarkdownPages.Number.Binary64
import MarkdownPages.Yaml.Basic

/-!
# Kinds of values

Each value of a document has a kind.  A tag names it; a plain text without a tag has the kind that
its spelling belongs to.
-/

namespace MarkdownPages.Yaml

open Text

inductive Kind
  | null
  | bool
  | int
  | float
  | binary
  | timestamp
  | orderedMap
  | pairs
  | set
  | text
  | list
  | map
  | merge
  | self
  /-- A kind that is not known here. -/
  | other
deriving DecidableEq, Repr

namespace Kind

def namespaceText : Text := "tag:yaml.org,2002:".toList

def names : List (String × Kind) :=
  [("null", null), ("bool", bool), ("int", int), ("float", float), ("binary", binary),
    ("timestamp", timestamp), ("omap", orderedMap), ("pairs", pairs), ("set", set), ("str", text),
    ("seq", list), ("map", map), ("merge", merge), ("value", self)]

def ofName (name : Text) : Kind :=
  match namespaceText.isPrefixOf? name with
  | some short => (names.lookup (String.ofList short)).getD .other
  | none => .other

end Kind

/-! ## Spellings -/

namespace Spelling

def isDigitOrUnderscore (c : Char) : Bool := c.isDigit || c = '_'

def unsigned (s : Text) : Text := (Binary64.readSign s).2

def allOf (p : Char → Bool) (s : Text) : Bool := !s.isEmpty && s.all p

def isAny (words : List String) (s : Text) : Bool := words.contains (String.ofList s)

def isBool (version : Version) (s : Text) : Bool :=
  isAny ["true", "True", "TRUE", "false", "False", "FALSE"] s ||
    (version = .old &&
      isAny ["y", "Y", "yes", "Yes", "YES", "n", "N", "no", "No", "NO", "on", "On", "ON", "off",
        "Off", "OFF"] s)

def isNull (s : Text) : Bool := isAny ["", "~", "null", "Null", "NULL"] s

def isExponent (signRequired : Bool) : Text → Bool
  | e :: rest =>
    (e = 'e' || e = 'E') && allOf Char.isDigit (unsigned rest) &&
      (!signRequired || (unsigned rest).length < rest.length)
  | [] => false

def isExponentOrEnd (signRequired : Bool) (s : Text) : Bool :=
  s.isEmpty || isExponent signRequired s

def isDecimal (s : Text) : Bool :=
  let rest := s.dropWhile isDigitOrUnderscore
  (s.head?.map Char.isDigit).getD false &&
    match rest with
    | '.' :: part => isExponentOrEnd false (part.dropWhile isDigitOrUnderscore)
    | _ => isExponent false rest

def isFraction : Text → Bool
  | '.' :: part =>
    (part.head?.map isDigitOrUnderscore).getD false &&
      isExponentOrEnd true (part.dropWhile isDigitOrUnderscore)
  | _ => false

/-- Groups of at most two digits, each below sixty and after a colon; `rest` has to hold of the
end. -/
def isSixties (rest : Text → Bool) : (fuel : Nat) → (seen : Bool) → Text → Bool
  | 0, _, _ => false
  | fuel + 1, _, ':' :: a :: b :: s =>
    if '0' ≤ a && a ≤ '5' && b.isDigit then isSixties rest fuel true s
    else a.isDigit && isSixties rest fuel true (b :: s)
  | fuel + 1, _, ':' :: a :: s => a.isDigit && isSixties rest fuel true s
  | _ + 1, seen, s => seen && rest s

def isPart : Text → Bool
  | '.' :: part => part.all isDigitOrUnderscore
  | _ => false

def isFloat (version : Version) (s : Text) : Bool :=
  let u := unsigned s
  isDecimal u || isAny [".inf", ".Inf", ".INF"] u || isAny [".nan", ".NaN", ".NAN"] s ||
    (if version = .old then
      isFraction s ||
        ((u.head?.map Char.isDigit).getD false &&
          isSixties isPart s.length false (u.dropWhile isDigitOrUnderscore))
    else isFraction u)

def isInt (version : Version) (s : Text) : Bool :=
  let u := unsigned s
  let isOctal := allOf (fun c => ('0' ≤ c && c ≤ '7') || c = '_')
  let isBinary := allOf (fun c => c = '0' || c = '1' || c = '_')
  let startsPositive := (u.head?.map (fun c => c.isDigit && c ≠ '0')).getD false
  (s.head?.map (fun c => c = '-' || c = '+' || c.isDigit)).getD false &&
    ((("0b".toList.isPrefixOf? u).map isBinary).getD false ||
      (("0x".toList.isPrefixOf? u).map (allOf fun c => isHexDigit c || c = '_')).getD false ||
      (if version = .old then
        isOctal u || u = ['0'] ||
          (startsPositive &&
            (u.all isDigitOrUnderscore ||
              isSixties List.isEmpty s.length false (u.dropWhile isDigitOrUnderscore)))
      else
        allOf isDigitOrUnderscore u || (("0o".toList.isPrefixOf? u).map isOctal).getD false))

end Spelling

/-! ## Timestamps -/

structure Timestamp where
  year : Text
  month : Text
  day : Text
  /-- Hour, minute and second. -/
  time : Option (Text × Text × Text)
  fraction : Text
  /-- The distance from universal time: whether it is behind, hours and minutes. -/
  offset : Option (Bool × Text × Text)
deriving DecidableEq, Repr

namespace Timestamp

def readDigits? (least most : Nat) (s : Text) : Option (Text × Text) :=
  let digits := (s.take most).takeWhile Char.isDigit
  if least ≤ digits.length then some (digits, s.drop digits.length) else none

def readChar? (c : Char) : Text → Option Text
  | [] => none
  | d :: rest => if c = d then some rest else none

def readDivider? : Text → Option Text
  | [] => none
  | c :: rest =>
    if c = 'T' ∨ c = 't' then some rest
    else if isSpaceOrTab c then some (rest.dropWhile isSpaceOrTab)
    else none

def readFraction : Text → Text × Text
  | '.' :: rest => (rest.takeWhile Char.isDigit, rest.dropWhile Char.isDigit)
  | s => ([], s)

def readOffset? (s : Text) : Option (Option (Bool × Text × Text)) :=
  match s.dropWhile isSpaceOrTab with
  | [] => if s.isEmpty then some none else none
  | ['Z'] => some none
  | sign :: rest =>
    if sign = '+' ∨ sign = '-' then do
      let (hours, rest) ← readDigits? 1 2 rest
      match rest with
      | [] => some (some (sign = '-', hours, []))
      | rest => do
        let (minutes, rest) ← (readChar? ':' rest).bind (readDigits? 2 2)
        if rest.isEmpty then some (some (sign = '-', hours, minutes)) else none
    else none

def read? (s : Text) : Option Timestamp := do
  let (year, rest) ← readDigits? 4 4 s
  let (month, rest) ← (readChar? '-' rest).bind (readDigits? 1 2)
  let (day, rest) ← (readChar? '-' rest).bind (readDigits? 1 2)
  if rest.isEmpty then some ⟨year, month, day, none, [], none⟩
  else
    let (hour, rest) ← (readDivider? rest).bind (readDigits? 1 2)
    let (minute, rest) ← (readChar? ':' rest).bind (readDigits? 2 2)
    let (second, rest) ← (readChar? ':' rest).bind (readDigits? 2 2)
    let (fraction, rest) := readFraction rest
    let offset ← readOffset? rest
    some ⟨year, month, day, some (hour, minute, second), fraction, offset⟩

/-- Whether a plain text is taken for a timestamp: a bare day has two digits for month and day. -/
def isSpelling (s : Text) : Bool :=
  match read? s with
  | some t => t.time.isSome || (t.month.length = 2 && t.day.length = 2)
  | none => false

end Timestamp

/-- A text without the line feed at its end, which does not count unless it stands alone. -/
def Spelling.ofText (s : Text) : Text := if s = ['\n'] then s else dropFinalNewline s

def Kind.ofPlain (version : Version) (s : Text) : Except Error Kind :=
  let s := Spelling.ofText s
  if version ≠ .old ∧ version ≠ .current then .error (.version version)
  else if Spelling.isBool version s then .ok .bool
  else if Spelling.isFloat version s then .ok .float
  else if Spelling.isInt version s then .ok .int
  else if s = "<<".toList then .ok .merge
  else if Spelling.isNull s then .ok .null
  else if Timestamp.isSpelling s then .ok .timestamp
  else if s = "=".toList then .ok .self
  else .ok .text

end MarkdownPages.Yaml
