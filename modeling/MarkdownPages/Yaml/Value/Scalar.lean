import MarkdownPages.Yaml.Kind
import MarkdownPages.Yaml.Value

/-!
# Values of texts

The value of a text follows from its kind.  Numbers may hold underscores; the old version of the
format also has numbers in base sixty and octal numbers that start with a zero.
-/

namespace MarkdownPages.Yaml

open Text

/-! ## Whole numbers -/

def digitIn? (base : Nat) (c : Char) : Option Nat :=
  (hexValue? c).filter (· < base)

def baseLetter : Nat → Char
  | 2 => 'b'
  | 8 => 'o'
  | _ => 'x'

def dropBaseMark (base : Nat) (s : Text) : Text :=
  match s with
  | '0' :: c :: rest => if base ≠ 10 ∧ lowerVariant c = baseLetter base then rest else s
  | _ => s

def wholeNumber? (base : Nat) (s : Text) : Option Int := do
  let (negative, digits) := Binary64.readSign (trim s)
  let digits := dropBaseMark base digits
  if digits.isEmpty then none
  else
    let values ← digits.mapM (digitIn? base)
    let n := values.foldl (fun n d => base * n + d) 0
    some (if negative then -(n : Int) else n)

def wholeNumber (base : Nat) (s : Text) : Except Error Int :=
  match wholeNumber? base s with
  | some n => .ok n
  | none => .error (.wholeNumber base s)

def wholeSixties (s : Text) : Except Error Int := do
  let groups ← (s.splitOn ':').mapM (wholeNumber 10)
  .ok (groups.foldl (fun n d => 60 * n + d) 0)

def dropUnderscores (s : Text) : Text := s.filter (· ≠ '_')

def readInt (version : Version) (s : Text) : Except Error Int := do
  let s := dropUnderscores s
  if s.isEmpty then throw .noNumber
  let (negative, u) := Binary64.readSign s
  let n ←
    match "0b".toList.isPrefixOf? u, "0x".toList.isPrefixOf? u, "0o".toList.isPrefixOf? u with
    | some digits, _, _ => wholeNumber 2 digits
    | _, some digits, _ => wholeNumber 16 digits
    | _, _, some digits => wholeNumber 8 digits
    | none, none, none =>
      if u = ['0'] then pure 0
      else if version = .old then
        match u with
        | [] => throw .noNumber
        | '0' :: _ => wholeNumber 8 u
        | _ => if ':' ∈ u then wholeSixties u else wholeNumber 10 u
      else wholeNumber 10 u
  .ok (if negative then -n else n)

/-! ## Numbers with a point -/

def decimal (s : Text) : Except Error Binary64 :=
  match Binary64.ofText? s with
  | some x => .ok x
  | none => .error (.number s)

def decimalSixties (s : Text) : Except Error Binary64 := do
  let part := (s.dropWhile (· ≠ '.')).drop 1
  let whole ← wholeSixties (s.takeWhile (· ≠ '.'))
  if part.all Char.isDigit then
    .ok (Binary64.ofDecimal false (whole.toNat * Nat.pow 10 part.length + decimalNumber part)
      (-(part.length : Int)))
  else .error (.number s)

def readFloat (version : Version) (s : Text) : Except Error Binary64 := do
  let s := lower (dropUnderscores s)
  if s.isEmpty then throw .noNumber
  let (negative, u) := Binary64.readSign s
  let x ←
    if u = ".inf".toList then pure (.infinite false)
    else if u = ".nan".toList then pure .nan
    else if version ≠ .current ∧ ':' ∈ u then decimalSixties u
    else if version ≠ .old ∧ 1 < u.count 'e' then throw .exponents
    else decimal u
  .ok (if negative then x.negate else x)

/-! ## Truth values, bytes and moments -/

def readBool (s : Text) : Except Error Bool :=
  let word := lower s
  if Spelling.isAny ["yes", "y", "true", "on"] word then .ok true
  else if Spelling.isAny ["no", "n", "false", "off"] word then .ok false
  else .error (.truth word)

def sixBits? (c : Char) : Option Nat :=
  if c.isUpper then some (c.toNat - 0x41)
  else if c.isLower then some (c.toNat - 0x61 + 26)
  else if c.isDigit then some (c.toNat - 0x30 + 52)
  else if c = '+' then some 62
  else if c = '/' then some 63
  else none

/--
The bytes that a text encodes, four characters for three bytes.  `held` counts the characters of the
group that is being read, `bits` is what they leave over, and `pads` counts the signs that fill the
group up; other characters do not count.
-/
def readBytes? (held bits pads : Nat) : Text → Option (List Nat)
  | [] => if held = 0 then some [] else none
  | c :: rest =>
    if c = '=' then
      if 2 ≤ held ∧ 4 ≤ held + pads + 1 then some []
      else readBytes? held bits (if 2 ≤ held then pads + 1 else pads) rest
    else
      match sixBits? c with
      | none => readBytes? held bits pads rest
      | some n =>
        match held with
        | 0 => readBytes? 1 n 0 rest
        | 1 => (readBytes? 2 (n % 16) 0 rest).map ((bits * 4 + n / 16) :: ·)
        | 2 => (readBytes? 3 (n % 4) 0 rest).map ((bits * 16 + n / 4) :: ·)
        | _ => (readBytes? 0 0 0 rest).map ((bits * 64 + n) :: ·)

def readBinary (s : Text) : Except Error (List Nat) :=
  if s.all (fun c => c.toNat < 0x80) then
    match readBytes? 0 0 0 s with
    | some bytes => .ok bytes
    | none => .error .malformed
  else .error .malformed

/-- The microseconds of a fraction; the seventh digit rounds. -/
def microseconds (fraction : Text) : Nat :=
  let digits := fraction.take 6
  let rounds := (fraction.drop 6).head?.any (fun c => '5' ≤ c)
  decimalNumber (digits ++ List.replicate (6 - digits.length) '0') + (if rounds then 1 else 0)

def dated {α : Type} : Except CalendarError α → Except Error α
  | .ok a => .ok a
  | .error e => .error (.calendar e)

def Timestamp.value (t : Timestamp) : Except Error Value := do
  let day := Date.of (decimalNumber t.year) (decimalNumber t.month) (decimalNumber t.day)
  match t.time with
  | none => return .date (← dated day)
  | some (hour, minute, second) =>
    let micros := microseconds t.fraction
    let moment ← dated <| do
      Moment.of (← day) (decimalNumber hour) (decimalNumber minute) (decimalNumber second)
        (micros % 1000000)
    let ahead : Int :=
      match t.offset with
      | none => 0
      | some (behind, hours, minutes) =>
        let seconds : Int := (decimalNumber hours * 60 + decimalNumber minutes) * 60
        if behind then seconds else -seconds
    return .moment (← dated (moment.addSeconds (ahead + (micros / 1000000 : Nat))))

def scalarValue (version : Version) (kind : Kind) (s : Text) : Except Error Value :=
  match kind with
  | .null => .ok .null
  | .bool => do return .bool (← readBool s)
  | .int => do return .int (← readInt version s)
  | .float => do return .float (← readFloat version s)
  | .binary => do return .bytes (← readBinary s)
  | .timestamp =>
    match Timestamp.read? (dropFinalNewline s) with
    | some t => t.value
    | none => .error .malformed
  | .text => .ok (.text s)
  | _ => .error .malformed

end MarkdownPages.Yaml
