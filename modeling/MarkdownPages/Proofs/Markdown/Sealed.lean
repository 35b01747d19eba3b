import MarkdownPages.Proofs.Markdown.Block.Flanked
import MarkdownPages.Proofs.Markdown.Composed

/-!
# The HTML of flanked sources

Raw HTML stands as it is read, and there each marker tag has the start or the end of an element next
to it.  The tags that are written around texts are no marker tags.  So the whole HTML is sealed.
-/

namespace MarkdownPages.Markdown

open Text Link LinkStyle MarkdownPages.Marker

variable {s text content : Text}

/-! ## Raw HTML -/

theorem FlankedHtml.sealed (h : FlankedHtml s) : Sealed defaultMarker s :=
  sealed_of_barred (by decide) h.opened h.flanked.barred

theorem not_goesOn_of_openTag {before after rest : Text}
    (h : Flanked (before ++ (openTag defaultMarker ++ (after ++ rest))))
    (hend : after = [] ∨ after.getLast? = some '>') :
    ¬ GoesOn defaultMarker ('/' :: defaultMarker ++ ['>']) after := by
  rcases hend with rfl | hend
  · exact not_goesOn_nil (by decide) _
  · rcases prefix_append_cases h.starts_element with hlead | ⟨back, -, -, hcut⟩
    · exact not_goesOn_element hlead
    · -- The `>` at the end would belong to the start of the element.
      have hmem : '>' ∈ ['<', 'a'] := hcut ▸ List.mem_append_left _ (List.mem_of_getLast? hend)
      exact absurd hmem (by decide)

theorem eq_nil_of_dropRaw?_closeTag {inner after rest : Text}
    (hdrop : Html.dropRaw? (inner ++ rest) = some rest)
    (hinner : '<' :: inner = closeTag defaultMarker ++ after) : after = [] := by
  have hname : Html.IsTagName Char.isAlpha Html.isTagNameChar defaultMarker :=
    ⟨by decide, by decide, by decide⟩
  have hinside : inner = '/' :: (defaultMarker ++ '>' :: after) := by
    simpa [closeTag] using (List.cons.inj hinner).2
  rw [hinside, List.cons_append, List.append_assoc, List.cons_append,
    Html.dropRaw?_closing hname] at hdrop
  simpa using hdrop

theorem sealed_of_isRawHtmlOf (h : Flanked text) (hraw : IsRawHtmlOf text content) :
    Sealed defaultMarker content := by
  -- Raw HTML in a text ends with `>`, and it is a closing tag if it starts with one: so the
  -- neighbours of its marker tags are those in the text, or it has none.
  obtain ⟨word, rest, rfl, ⟨front, rfl⟩, hdrop⟩ := hraw
  obtain ⟨inner, hinner⟩ := Html.suffix_of_dropRaw? hdrop
  obtain rfl : word = inner ++ ['>'] :=
    List.append_cancel_right (show word ++ rest = inner ++ ['>'] ++ rest by simpa using hinner.symm)
  refine sealed_of_barred (by decide) (by simp) fun before tag after htag hword => ?_
  have hend : ('<' :: inner ++ ['>']).getLast? = some '>' := List.getLast?_concat
  rw [List.cons_append, hword, ← List.append_assoc] at hend
  have htext : front ++ '<' :: (inner ++ ['>'] ++ rest) =
      front ++ before ++ (tag ++ (after ++ rest)) := by
    rw [← List.cons_append, hword]
    simp
  rw [htext] at h
  cases htag with
  | openTag =>
      refine .inr (not_goesOn_of_openTag h ?_)
      by_cases hafter : after = []
      · exact .inl hafter
      · rw [List.getLast?_append_of_ne_nil _ hafter] at hend
        exact .inr hend
  | closeTag =>
      by_cases hbefore : before = []
      · rw [hbefore] at hword
        rw [eq_nil_of_dropRaw?_closeTag hdrop hword]
        exact .inr (not_goesOn_nil (by decide) _)
      · refine .inl ⟨'>', ?_, by decide⟩
        obtain ⟨lead, hlead⟩ := h.ends_element
        have hlast := List.getLast?_append_of_ne_nil front hbefore
        rw [← hlead] at hlast
        simpa using hlast.symm

/-! ## Documents -/

theorem composes_sealed : Composes (Sealed defaultMarker) where
  markup _ hs := sealed_of_untagged (by decide) hs.opened hs.untagged
  escaped _ hopen hclose := sealed_of_notMem (by decide) hopen hclose
  append _ _ hs ht := hs.append ht

theorem sealed_toHtml_of_flanked {source : Text} (h : Flanked (normalizeSource source)) :
    Sealed defaultMarker (toHtml source) :=
  composes_sealed.toHtml (fun _ hhtml => hhtml.sealed) (fun _ _ => sealed_of_isRawHtmlOf)
    (readDocument_flanked h)

end MarkdownPages.Markdown
