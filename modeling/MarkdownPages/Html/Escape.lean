import MarkdownPages.Text.Basic

/-!
# Escaped text

In the text of an element and in the value of an attribute, four characters are written as character
references.  The apostrophe is not one of them, since attribute values stand in double quotes.
-/

namespace MarkdownPages.Html

def escapeChar (c : Char) : Text :=
  match c with
  | '&' => "&amp;".toList
  | '<' => "&lt;".toList
  | '>' => "&gt;".toList
  | '"' => "&quot;".toList
  | c => [c]

def escape (s : Text) : Text := s.flatMap escapeChar

@[simp] theorem escape_nil : escape [] = [] := rfl

@[simp] theorem escape_cons (c : Char) (s : Text) :
    escape (c :: s) = escapeChar c ++ escape s := rfl

@[simp] theorem escape_append (s t : Text) : escape (s ++ t) = escape s ++ escape t := by
  simp [escape]

theorem lt_not_mem_escape (s : Text) : '<' ∉ escape s := by
  induction s with
  | nil => simp
  | cons c s ih =>
      simp only [escape_cons, List.mem_append, not_or, ih, not_false_eq_true, and_true]
      unfold escapeChar
      split <;> simp_all [eq_comm]

def writeAttribute (name value : Text) : Text :=
  ' ' :: escape name ++ "=\"".toList ++ escape value ++ ['"']

end MarkdownPages.Html
