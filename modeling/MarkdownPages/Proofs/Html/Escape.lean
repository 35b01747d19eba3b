import MarkdownPages.Html.Escape
import MarkdownPages.Proofs.Text.Classes

/-!
# What escaping does to a text

Escaping leaves no angle brackets, in the values of attributes too.  A text without the characters
that are escaped stays as it is.
-/

namespace MarkdownPages.Html

open Text

variable {s : Text} {c : Char}

theorem gt_notMem_escape (s : Text) : '>' ∉ escape s := by
  induction s with
  | nil => simp
  | cons c s ih =>
      simp only [escape_cons, List.mem_append, not_or, ih, not_false_eq_true, and_true]
      unfold escapeChar
      split <;> simp_all [eq_comm]

theorem escape_of_notMem (h : ∀ c ∈ s, c ≠ '&' ∧ c ≠ '<' ∧ c ≠ '>' ∧ c ≠ '"') : escape s = s := by
  induction s with
  | nil => rfl
  | cons c s ih =>
      rw [List.forall_mem_cons] at h
      obtain ⟨⟨hamp, hopen, hclose, hquote⟩, hrest⟩ := h
      have hchar : escapeChar c = [c] := by
        unfold escapeChar
        split <;> first | rfl | contradiction
      rw [escape_cons, hchar, ih hrest, List.singleton_append]

theorem notMem_writeAttribute (name value : Text) :
    '<' ∉ writeAttribute name value ∧ '>' ∉ writeAttribute name value := by
  have hmiddle : "=\"".toList = ['=', '"'] := by decide
  rw [writeAttribute, hmiddle]
  simp [lt_not_mem_escape, gt_notMem_escape]

end MarkdownPages.Html
