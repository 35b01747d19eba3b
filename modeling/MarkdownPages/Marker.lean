import MarkdownPages.Text.Basic

/-!
# Marker tags

The marker element only keeps placeholders from being escaped.  After rendering, its opening and
closing tags are removed and what they enclose stays.
-/

namespace MarkdownPages.Marker

open Text

def openTag (marker : Text) : Text := '<' :: marker ++ ['>']

def closeTag (marker : Text) : Text := '<' :: '/' :: marker ++ ['>']

def dropTag? (marker s : Text) : Option Text :=
  (openTag marker).isPrefixOf? s <|> (closeTag marker).isPrefixOf? s

theorem length_of_dropTag? {marker s rest : Text} (h : dropTag? marker s = some rest) :
    rest.length < s.length := by
  simp only [dropTag?, Option.orElse_eq_orElse, Option.orElse_eq_or, Option.or_eq_some_iff] at h
  rcases h with h | ⟨_, h⟩
  · simp [length_of_isPrefixOf? h, openTag]
  · simp [length_of_isPrefixOf? h, closeTag]

/-- Removes every marker tag, in one pass from left to right. -/
def strip (marker : Text) : Text → Text
  | [] => []
  | c :: rest =>
    match h : dropTag? marker (c :: rest) with
    | some after =>
      have := length_of_dropTag? h
      strip marker after
    | none => c :: strip marker rest
termination_by s => s.length
decreasing_by
  · assumption
  · simp

end MarkdownPages.Marker
