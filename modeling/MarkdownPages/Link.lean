import MarkdownPages.Text.Basic

/-!
# Links in fragments

The destination of a link in a fragment is often a template expression, which a Markdown renderer
would refuse or encode.  So a link `[text](destination)` is replaced before rendering by a
placeholder element that carries the destination verbatim, inside a marker element that keeps it
from being escaped.

Text and destination are made of *units*: a backslash with the character after it, or one character
that is neither a backslash nor the closing bracket.  A unit never holds a line feed, except that
nothing keeps a backslash pair from holding a bracket: so both parts end at their first closing
bracket that is no part of a pair, and no part is empty.
-/

namespace MarkdownPages

open Text

structure LinkStyle where
  element : Text
  hrefAttribute : Text
  marker : Text
deriving DecidableEq, Repr

namespace LinkStyle

def defaultElement : Text := "app-generated-link".toList

def defaultHrefAttribute : Text := "linkHREF".toList

def defaultMarker : Text := "html".toList

def standard : LinkStyle := ⟨defaultElement, defaultHrefAttribute, defaultMarker⟩

end LinkStyle

/-- The two parts of a link as they are written, escapes included. -/
structure Link where
  text : Text
  destination : Text
deriving DecidableEq, Repr

namespace Link

/-! ## Reading -/

/--
Reads units up to the closing bracket.  The answer holds the units and what follows the bracket;
there is none if the line ends first.
-/
def readUnits? (close : Char) : Text → Option (Text × Text)
  | [] => none
  | '\\' :: c :: rest =>
    if c = '\n' then none
    else (readUnits? close rest).map fun (units, after) => ('\\' :: c :: units, after)
  | c :: rest =>
    if c = close then some ([], rest)
    else if c = '\\' ∨ c = '\n' then none
    else (readUnits? close rest).map fun (units, after) => (c :: units, after)

theorem length_of_readUnits? {close : Char} {s units after : Text}
    (h : readUnits? close s = some (units, after)) : after.length < s.length := by
  fun_induction readUnits? close s generalizing units with
  | case1 => simp at h
  | case2 => simp at h
  | case3 c rest _ ih =>
      simp only [Option.map_eq_some_iff, Prod.mk.injEq, Prod.exists] at h
      obtain ⟨u, a, hr, _, rfl⟩ := h
      have := ih hr
      simp only [List.length_cons]
      omega
  | case4 => simp at h; simp [h.2]
  | case5 => simp at h
  | case6 c rest _ _ _ ih =>
      simp only [Option.map_eq_some_iff, Prod.mk.injEq, Prod.exists] at h
      obtain ⟨u, a, hr, _, rfl⟩ := h
      have := ih hr
      simp only [List.length_cons]
      omega

def readAfterBracket? (s : Text) : Option (Link × Text) := do
  let (text, afterText) ← readUnits? ']' s
  let inParens ← ['('].isPrefixOf? afterText
  let (destination, after) ← readUnits? ')' inParens
  if text.isEmpty || destination.isEmpty then none else some (⟨text, destination⟩, after)

theorem length_of_readAfterBracket? {s after : Text} {link : Link}
    (h : readAfterBracket? s = some (link, after)) : after.length < s.length := by
  simp only [readAfterBracket?, Option.bind_eq_bind, Option.bind_eq_some_iff, Prod.exists] at h
  obtain ⟨text, afterText, htext, inParens, hparen, destination, rest, hdest, h⟩ := h
  split at h
  · simp at h
  · simp only [Option.some.injEq, Prod.mk.injEq] at h
    obtain ⟨_, rfl⟩ := h
    have h₁ := length_of_readUnits? htext
    have h₂ := length_of_readUnits? hdest
    have h₃ := length_of_isPrefixOf? hparen
    omega

/-! ## Writing -/

def escapeQuotes (s : Text) : Text :=
  s.flatMap fun c => if c = '"' then "&quot;".toList else [c]

/-- The element of a link without its closing tag; the destination is not touched. -/
def opened (style : LinkStyle) (link : Link) : Text :=
  '<' :: style.element ++ ' ' :: style.hrefAttribute ++ ['=', '"'] ++ link.destination ++
    ['"', '>'] ++ escapeQuotes link.text

def element (style : LinkStyle) (link : Link) : Text :=
  opened style link ++ '<' :: '/' :: style.element ++ ['>']

def placeholder (style : LinkStyle) (link : Link) : Text :=
  '<' :: style.marker ++ ['>'] ++ element style link ++ '<' :: '/' :: style.marker ++ ['>']

def replaceWith (write : Link → Text) : Text → Text
  | [] => []
  | c :: rest =>
    if c = '[' then
      match h : readAfterBracket? rest with
      | some (link, after) =>
        have := length_of_readAfterBracket? h
        write link ++ replaceWith write after
      | none => c :: replaceWith write rest
    else c :: replaceWith write rest
termination_by s => s.length
decreasing_by all_goals simp_all; try omega

def replaceAll (style : LinkStyle) : Text → Text := replaceWith (placeholder style)

end Link

end MarkdownPages
