import MarkdownPages.Fragment
import MarkdownPages.Proofs.Link.LineEnds

/-!
# Fragments with other line ends

Rendering turns every line end into a line feed, but the links are replaced before.
-/

namespace MarkdownPages.Fragment

open Text Link Markdown LinkStyle

variable {style : LinkStyle} {ending s t : Text}

theorem html_eq_of_normalizeNewlines
    (h : normalizeNewlines (replaceAll style s) = normalizeNewlines (replaceAll style t)) :
    html style s = html style t := by
  have hsource : normalizeSource (replaceAll style s) = normalizeSource (replaceAll style t) := by
    rw [normalizeSource, h, normalizeSource]
  have hblocks : readBlocksOf (replaceAll style s) = readBlocksOf (replaceAll style t) := by
    rw [readBlocksOf, readDocument, hsource, readBlocksOf, readDocument]
  rw [html, toHtml, hblocks, html, toHtml]

section

variable (hforeign : IsForeign style '\r') (hs : '\r' ∉ s)
include hforeign hs

theorem normalizeNewlines_replaceAll_eq_iff (hending : ending = ['\r'] ∨ ending = ['\r', '\n']) :
    normalizeNewlines (replaceAll style (withLineEnds ending s)) = replaceAll style s ↔
      KeepsToLines (withLineEnds ending s) :=
  normalizeNewlines_replaceWith_eq_iff hending (fun _ => hforeign.notMem_placeholder)
    (fun _ => rfl) hs

theorem html_withLineEnds (hending : ending = ['\r'] ∨ ending = ['\r', '\n'])
    (hkeeps : KeepsToLines (withLineEnds ending s)) :
    html style (withLineEnds ending s) = html style s := by
  apply html_eq_of_normalizeNewlines
  rw [normalizeNewlines_of_notMem (hforeign.notMem_replaceAll hs)]
  exact (normalizeNewlines_replaceAll_eq_iff hforeign hs hending).mpr hkeeps

end

/--
A carriage return before each line feed changes nothing.  Carriage returns in place of the line feeds
change nothing either, unless a link reaches over one; the renderer is then given another text.
-/
theorem html_keeps_but_for_links_over_returns (hs : '\r' ∉ s) :
    html standard (withLineEnds ['\r', '\n'] s) = html standard s ∧
      (KeepsToLines (withLineEnds ['\r'] s) →
        html standard (withLineEnds ['\r'] s) = html standard s) ∧
      (normalizeNewlines (replaceAll standard (withLineEnds ['\r'] s)) = replaceAll standard s ↔
        KeepsToLines (withLineEnds ['\r'] s)) := by
  have hforeign : IsForeign standard '\r' := by decide
  refine ⟨?_, ?_, ?_⟩
  · exact html_withLineEnds hforeign hs (.inr rfl) (keepsToLines_of_newlines hs)
  · exact html_withLineEnds hforeign hs (.inl rfl)
  · exact normalizeNewlines_replaceAll_eq_iff hforeign hs (.inl rfl)

/-- A text of two lines with a link on each, and a bracket that is left open. -/
theorem html_keeps_of_two_lines :
    '\r' ∉ "see [a](b) [\nor](x) [c](d)".toList ∧
      html standard "see [a](b) [\r\nor](x) [c](d)".toList =
        html standard "see [a](b) [\nor](x) [c](d)".toList ∧
      ¬ KeepsToLines "see [a](b) [\ror](x) [c](d)".toList ∧
      '\r' ∉ "see [a](b)\nor [c](d)".toList ∧
      KeepsToLines "see [a](b)\ror [c](d)".toList ∧
      html standard "see [a](b)\ror [c](d)".toList =
        html standard "see [a](b)\nor [c](d)".toList := by
  have hopened := html_keeps_but_for_links_over_returns
    (s := "see [a](b) [\nor](x) [c](d)".toList) (by decide)
  have hkept := html_keeps_but_for_links_over_returns
    (s := "see [a](b)\nor [c](d)".toList) (by decide)
  have hlines : KeepsToLines "see [a](b)\ror [c](d)".toList := hkept.2.2.mp (by decide +kernel)
  refine ⟨by decide, hopened.1, ?_, by decide, hlines, hkept.2.1 hlines⟩
  exact mt hopened.2.2.mpr (by decide +kernel)

/-- A carriage return in the text of a link: the link is replaced, and the line feed keeps it from it. -/
theorem carriage_return_lets_link_through :
    '\r' ∉ "x [a\nb](c)".toList ∧ withLineEnds ['\r'] "x [a\nb](c)".toList = "x [a\rb](c)".toList ∧
      html standard "x [a\rb](c)".toList =
        "<p>x <app-generated-link linkHREF=\"c\">a\nb</app-generated-link></p>\n".toList ∧
      html standard "x [a\nb](c)".toList = "<p>x <a href=\"c\">a\nb</a></p>\n".toList ∧
      html standard "x [a\rb](c)".toList ≠ html standard "x [a\nb](c)".toList := by
  decide +kernel

end MarkdownPages.Fragment
