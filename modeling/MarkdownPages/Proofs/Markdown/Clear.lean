import MarkdownPages.Proofs.Markdown.Block.Clear
import MarkdownPages.Proofs.Markdown.Composed

/-!
# The HTML of clear sources

The HTML of a source lets no word in, nor does removing the marker tags in it, if the source does not:
raw HTML is a part of the source, and what is written around texts has no such words.
-/

namespace MarkdownPages.Markdown

open Text Link LinkStyle MarkdownPages.Marker

variable {word text content : Text}

theorem composes_apart (hword : IsTagWord word) : Composes (Apart defaultMarker word) where
  markup s hs := by
    have hclear : Clear defaultMarker word s := clear_of_leads hword hs.leads
    refine apart_of_clear hclear (stopped_of_last hword fun c hc => ?_)
    have hchars : ∀ c ∈ ['>', '\n'], c ∈ '>' :: sourceChars := by decide
    exact hchars c (hs.last c hc)
  escaped s hopen _ := by
    obtain ⟨rest, rfl⟩ := hword.exists_tail
    exact apart_of_notMem hopen
  append _ _ hs ht := hs.append ht

theorem apart_of_isRawHtmlOf (hword : IsTagWord word) (h : Clear defaultMarker word text)
    (hraw : IsRawHtmlOf text content) : Apart defaultMarker word content := by
  -- Raw HTML in a text ends with `>`, and so it stops any word that it begins.
  obtain ⟨inside, rest, rfl, hin, hdrop⟩ := hraw
  have hpart : '<' :: inside <:+: text :=
    (List.prefix_append ('<' :: inside) rest).isInfix.trans hin.isInfix
  obtain ⟨inner, hinner⟩ := Html.suffix_of_dropRaw? hdrop
  obtain rfl : inside = inner ++ ['>'] :=
    List.append_cancel_right (show inside ++ rest = inner ++ ['>'] ++ rest by simpa using hinner.symm)
  refine apart_of_clear (clear_of_part h hpart) (stopped_of_last hword fun c hc => ?_)
  rw [← List.cons_append, List.getLast?_concat] at hc
  exact Option.some.inj hc ▸ .head _

theorem apart_toHtml {source : Text} (hword : IsTagWord word)
    (hclear : Clear defaultMarker word (normalizeSource source))
    (hstopped : Stopped defaultMarker word (normalizeSource source)) :
    Apart defaultMarker word (toHtml source) :=
  (composes_apart hword).toHtml (fun _ hhtml => hhtml) (fun _ _ => apart_of_isRawHtmlOf hword)
    (readDocument_clear hword hclear hstopped)

end MarkdownPages.Markdown
