import MarkdownPages.Html.EntityNames
import MarkdownPages.Text.Basic

/-!
# Character references

`&name;`, `&#decimal;` and `&#xhexadecimal;` stand for characters.  Markdown decodes them in
running text and in the destinations, titles and info strings of its constructs, under slightly
different rules: in running text a number has at most seven decimal or six hexadecimal digits and
an impossible number becomes the replacement character; in the other places a number may have
eight digits and an impossible one is left as it is written.
-/

namespace MarkdownPages.Html

open Text

def replacement : Char := Char.ofNat 0xFFFD

/--
Whether a number may be referred to: it is a code point, but no surrogate, no noncharacter and no
control other than the blanks of ASCII.
-/
def isReferable (n : Nat) : Bool :=
  n ≤ 0x10FFFF && !(0xD800 ≤ n && n ≤ 0xDFFF) && !(0xFDD0 ≤ n && n ≤ 0xFDEF) &&
    n % 0x10000 != 0xFFFF && n % 0x10000 != 0xFFFE && !(n ≤ 0x08) && n != 0x0B &&
    !(0x0E ≤ n && n ≤ 0x1F) && !(0x7F ≤ n && n ≤ 0x9F)

/-- The characters of an entry `rest=code+code`, if it belongs to the name that ends in `rest`. -/
def entryFor? (rest entry : Text) : Option Text :=
  let (name, codes) := entry.span (· != '=')
  if name = rest then
    some (((codes.drop 1).splitOn '+').map fun code => Char.ofNat (hexNumber code))
  else none

def named? : Text → Option Text
  | [] => none
  | first :: rest =>
    ((entityNames first).flatMap fun line => line.toList.splitOn ' ').findSome?
      (entryFor? rest)

def numberOf? (maxDecimal maxHex : Nat) : Text → Option Nat
  | [] => none
  | c :: digits =>
    if c = 'x' ∨ c = 'X' then
      if digits ≠ [] ∧ digits.length ≤ maxHex ∧ digits.all isHexDigit then some (hexNumber digits)
      else none
    else if (c :: digits).length ≤ maxDecimal ∧ (c :: digits).all Char.isDigit then
      some (decimalNumber (c :: digits))
    else none

def readBody? (s : Text) : Option (Text × Text) :=
  let body := s.takeWhile fun c => c.isAlphanum || c == '#'
  match s.drop body.length with
  | ';' :: rest => some (body, rest)
  | _ => none

def readReference? (s : Text) : Option (Text × Text) := do
  let (body, rest) ← readBody? s
  match body with
  | '#' :: digits =>
    let n ← numberOf? 7 6 digits
    some ([if isReferable n then Char.ofNat n else replacement], rest)
  | name => (named? name).map (·, rest)

/-- The reference of a destination, title or info string behind an ampersand. -/
def readStrictReference? (s : Text) : Option (Text × Text) := do
  let (body, rest) ← readBody? s
  match body with
  | '#' :: digits =>
    let n ← numberOf? 8 8 digits
    if isReferable n then some ([Char.ofNat n], rest) else none
  | name => (named? name).map (·, rest)

theorem length_of_readBody? {s body rest : Text} (h : readBody? s = some (body, rest)) :
    rest.length < s.length := by
  simp only [readBody?] at h
  split at h
  · rename_i tail heq
    simp only [Option.some.injEq, Prod.mk.injEq] at h
    obtain ⟨_, rfl⟩ := h
    have := congrArg List.length heq
    simp only [List.length_drop, List.length_cons] at this
    omega
  · simp at h

theorem length_of_readStrictReference? {s decoded rest : Text}
    (h : readStrictReference? s = some (decoded, rest)) : rest.length < s.length := by
  simp only [readStrictReference?, Option.bind_eq_bind, Option.bind_eq_some_iff, Prod.exists] at h
  obtain ⟨body, after, hbody, h⟩ := h
  have hlen := length_of_readBody? hbody
  split at h
  · simp only [Option.bind_eq_some_iff] at h
    obtain ⟨n, _, h⟩ := h
    split at h
    · simp only [Option.some.injEq, Prod.mk.injEq] at h
      exact h.2 ▸ hlen
    · simp at h
  · simp only [Option.map_eq_some_iff, Prod.mk.injEq] at h
    obtain ⟨_, _, _, rfl⟩ := h
    exact hlen

def unescape : Text → Text
  | [] => []
  | '\\' :: c :: rest =>
    if isAsciiPunctuation c then c :: unescape rest else '\\' :: unescape (c :: rest)
  | '&' :: rest =>
    match h : readStrictReference? rest with
    | some (decoded, after) =>
      have := length_of_readStrictReference? h
      decoded ++ unescape after
    | none => '&' :: unescape rest
  | c :: rest => c :: unescape rest
termination_by s => s.length
decreasing_by all_goals simp_all; try omega

end MarkdownPages.Html
