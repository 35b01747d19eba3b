import MarkdownPages.Fragment
import MarkdownPages.Proofs.Html.Escape
import MarkdownPages.Proofs.Link.Written
import MarkdownPages.Proofs.Markdown.Inline.Run
import MarkdownPages.Proofs.Markdown.OneLine
import MarkdownPages.Proofs.Marker.Placeholder

/-!
# Prose with links

In a line of prose the characters between the links stand for themselves.  There the tags of each
placeholder are raw HTML, whatever its destination, and what is left of the placeholder is its
element.
-/

namespace MarkdownPages.Fragment

open Text Link LinkStyle Markdown

variable {destination text gap rest front : Text} {link : Link} {cut : Cut} {s : Source}
variable {pos stop : Nat} {defs : Definitions} {skip : Skip} {tokens : List Token} {c : Char}

/-! ## The tags of a placeholder -/

theorem isTagName_element : Html.IsTagName Char.isAlpha Html.isTagNameChar standard.element :=
  ⟨by decide, by decide, by decide⟩

theorem isTagName_hrefAttribute :
    Html.IsTagName Html.isAttributeStart Html.isAttributeChar standard.hrefAttribute :=
  ⟨by decide, by decide, by decide⟩

theorem isTagName_marker : Html.IsTagName Char.isAlpha Html.isTagNameChar standard.marker :=
  ⟨by decide, by decide, by decide⟩

def elementStart (destination : Text) : Text := elementLead ++ (destination ++ ['"', '>'])

theorem placeholder_of_notMem (hquote : '"' ∉ text) :
    placeholder standard ⟨text, destination⟩ =
      '<' :: (markerStart ++ '<' :: (elementStart destination ++
        (text ++ '<' :: (elementEnd ++ '<' :: markerEnd)))) := by
  rw [placeholder_standard, escapeQuotes_of_notMem hquote]
  simp [elementStart]

theorem dropRaw?_elementLead {value : Text} (hvalue : '"' ∉ value) (hc : isBlank c = false)
    (rest : Text) :
    Html.dropRaw? (elementLead ++ (value ++ '"' :: c :: rest)) = Html.dropTagEnd? (c :: rest) := by
  -- The opening tag of an element is one if what follows the first quote ends it.
  have htag := Html.dropOpenTag?_value isTagName_element isTagName_hrefAttribute hvalue hc rest
  obtain ⟨first, next, helement, hfirst, -⟩ := isTagName_element.exists_cons
  rw [helement] at htag
  rw [← htag, elementLead, helement]
  simp only [List.cons_append, List.append_assoc, List.nil_append]
  exact Html.dropRaw?_letter hfirst _

theorem readAutolink?_elementLead (hdrop : s.toList.drop pos = '<' :: (elementLead ++ rest)) :
    readAutolink? s s.size pos = none := by
  -- There is a space before the next angle bracket, so the opening tag is no autolink.
  have hspace : ' ' ∈ (elementLead ++ rest).takeWhile (fun c => c != '<' && c != '>') := by
    rw [List.takeWhile_append_of_pos (by decide)]
    exact List.mem_append_left _ (by decide)
  exact readAutolink?_eq_none hdrop (isAbsoluteUrl_of_space hspace) (isMailAddress_of_space hspace)

/-! ## Prose -/

/-- Characters that stand for themselves, in Markdown as in HTML. -/
def IsPlain (s : Text) : Prop :=
  ∀ c ∈ s, endsPlain c = false ∧ c ∉ ['"', '\r', Char.ofNat 0]

instance (s : Text) : Decidable (IsPlain s) := by
  unfold IsPlain
  infer_instance

/-- A link whose text is plain; its destination only keeps the attribute whole. -/
structure IsPlainLink (link : Link) : Prop where
  valid : link.Valid
  text : IsPlain link.text
  destination : ∀ c ∈ ['"', '\r', Char.ofNat 0], c ∉ link.destination

/-- Prose: plain gaps between simple links. -/
def IsProse : Cut → Prop
  | .last gap => IsPlain gap
  | .next gap link rest => IsPlain gap ∧ IsPlainLink link ∧ IsProse rest

theorem isPlain_of_all_isAlphanum (h : gap.all Char.isAlphanum = true) : IsPlain gap := by
  intro c hc
  have halnum := List.all_eq_true.mp h c hc
  refine ⟨endsPlain_of_isAlphanum halnum, fun hmem => ?_⟩
  have hother : ∀ c ∈ ['"', '\r', Char.ofNat 0], c.isAlphanum = false := by decide
  simp [hother c hmem] at halnum

theorem IsPlain.notMem (h : IsPlain gap) (hc : endsPlain c = true ∨ c ∈ ['"', '\r', Char.ofNat 0]) :
    c ∉ gap := by
  intro hmem
  obtain ⟨hplain, hother⟩ := h c hmem
  rcases hc with hc | hc
  · simp [hplain] at hc
  · exact hother hc

theorem IsPlain.escape_eq (h : IsPlain gap) : Html.escape gap = gap := by
  refine Html.escape_of_notMem fun c hc => ?_
  obtain ⟨hplain, hother⟩ := h c hc
  refine ⟨?_, ?_, ?_, ?_⟩ <;> rintro rfl
  · exact absurd hplain (by decide)
  · exact absurd hplain (by decide)
  · exact absurd hplain (by decide)
  · exact hother (.head _)

theorem IsPlainLink.placeholder_eq (h : IsPlainLink link) :
    placeholder standard link =
      '<' :: (markerStart ++ '<' :: (elementStart link.destination ++
        (link.text ++ '<' :: (elementEnd ++ '<' :: markerEnd)))) :=
  placeholder_of_notMem (h.text.notMem (.inr (by simp)))

theorem IsProse.replaceAll_eq (style : LinkStyle) (h : IsProse cut) :
    replaceAll style cut.source = cut.fill (placeholder style) := by
  rw [replaceAll]
  induction cut with
  | last gap =>
      have hall := replaceWith_append_of_notMem (placeholder style) (h.notMem (c := '[') (.inl rfl)) []
      simpa [Cut.source, Cut.fill] using hall
  | next gap link rest ih =>
      obtain ⟨hgap, hlink, hrest⟩ := h
      have hsource : (Cut.next gap link rest).source = gap ++ (link.source ++ rest.source) := by
        simp [Cut.source, Cut.fill]
      rw [hsource, replaceWith_append_of_notMem _ (hgap.notMem (.inl rfl)),
        replaceWith_source_append _ hlink.valid, ih hrest]
      simp [Cut.fill]

theorem IsPlainLink.notMem_source (h : IsPlainLink link) (hc : c ∈ ['\n', '\r', Char.ofNat 0]) :
    c ∉ link.source := by
  have hfixed : ∀ c ∈ ['\n', '\r', Char.ofNat 0], c ∉ ['[', ']', '(', ')'] ∧
      (endsPlain c = true ∨ c ∈ ['"', '\r', Char.ofNat 0]) := by decide
  obtain ⟨hbrackets, hplain⟩ := hfixed c hc
  have hdestination : c ∉ link.destination := by
    rcases List.mem_cons.mp hc with rfl | hc
    · exact h.valid.destination_units.newline_notMem
    · exact h.destination c (List.mem_cons_of_mem _ hc)
  simp only [List.mem_cons, not_or] at hbrackets
  simp [source, h.text.notMem hplain, hdestination, hbrackets]

theorem IsProse.notMem_fill (h : IsProse cut) (hc : c ∈ ['\n', '\r', Char.ofNat 0]) :
    c ∉ cut.fill (placeholder standard) := by
  have hfixed : ∀ c ∈ ['\n', '\r', Char.ofNat 0], IsForeign standard c ∧
      (endsPlain c = true ∨ c ∈ ['"', '\r', Char.ofNat 0]) := by decide
  obtain ⟨hforeign, hplain⟩ := hfixed c hc
  induction cut with
  | last gap => exact IsPlain.notMem h hplain
  | next gap link rest ih =>
      obtain ⟨hgap, hlink, hrest⟩ := h
      simp only [Cut.fill, List.mem_append, not_or]
      exact ⟨⟨hgap.notMem hplain, hforeign.notMem_placeholder (hlink.notMem_source hc)⟩, ih hrest⟩

/-! ## Tokens -/

def gapTokens (gap : Text) : List Token := if gap.isEmpty then [] else [.plain gap]

def linkTokens (link : Link) : List Token :=
  [.html ('<' :: markerStart), .html ('<' :: elementStart link.destination), .plain link.text,
    .html ('<' :: elementEnd), .html ('<' :: markerEnd)]

def proseTokens : Cut → List Token
  | .last gap => gapTokens gap
  | .next gap link rest => gapTokens gap ++ (linkTokens link ++ proseTokens rest)

theorem readsTokens_gap (front rest : Text) (hs : s.toList = front ++ (gap ++ rest))
    (hgap : IsPlain gap) (hstop : ∀ c ∈ rest.head?, endsPlain c = true)
    (hrest : ReadsTokens s defs skip (front ++ gap).length tokens stop) :
    ReadsTokens s defs skip front.length (gapTokens gap ++ tokens) stop := by
  by_cases hne : gap = []
  · subst hne
    simpa [gapTokens] using hrest
  · have htokens : gapTokens gap = [.plain gap] := by simp [gapTokens, hne]
    rw [htokens]
    refine .plain front rest hs hne (List.all_eq_true.mpr fun c hc => ?_) hstop hrest
    simp [(hgap c hc).1]

theorem readsTokens_link (front rest : Text)
    (hs : s.toList = front ++ (placeholder standard link ++ rest)) (hlink : IsPlainLink link)
    (hrest : ReadsTokens s defs skip (front ++ placeholder standard link).length tokens stop) :
    ReadsTokens s defs skip front.length (linkTokens link ++ tokens) stop := by
  have hquote : '"' ∉ link.destination := hlink.destination '"' (.head _)
  have hplain : link.text.all (fun c => !endsPlain c) = true := by
    refine List.all_eq_true.mpr fun c hc => ?_
    simp [(hlink.text c hc).1]
  have hlength : 2 ≤ (elementStart link.destination).length := by
    have hlead : 2 ≤ elementLead.length := by decide
    rw [elementStart, List.length_append]
    omega
  -- Each of the four tags is a token, and the text between the inner two is plain.
  rw [hlink.placeholder_eq] at hs hrest
  have hs' : s.toList = front ++ ('<' :: markerStart ++ '<' :: (elementStart link.destination ++
      (link.text ++ '<' :: (elementEnd ++ '<' :: (markerEnd ++ rest))))) := by simp [hs]
  refine .html front _ hs' ?_ (by decide) (fun hdrop => ?_) ?_
  · simpa [markerStart] using Html.dropRaw?_bare isTagName_marker _
  · exact readAutolink?_word standard.marker _ (by simpa [markerStart] using hdrop) (by decide)
  refine .html _ (link.text ++ '<' :: (elementEnd ++ '<' :: (markerEnd ++ rest))) (by simp [hs'])
    ?_ hlength (fun hdrop => ?_) ?_
  · have hraw := dropRaw?_elementLead hquote (show isBlank '>' = false by decide)
      (link.text ++ '<' :: (elementEnd ++ '<' :: (markerEnd ++ rest)))
    rw [Html.dropTagEnd?_gt] at hraw
    simpa [elementStart] using hraw
  · rw [elementStart, List.cons_append, List.append_assoc] at hdrop
    exact readAutolink?_elementLead hdrop
  refine .plain _ ('<' :: (elementEnd ++ '<' :: (markerEnd ++ rest))) (by simp [hs'])
    hlink.valid.text_ne_nil hplain (by simp; decide) ?_
  refine .html _ ('<' :: (markerEnd ++ rest)) (by simp [hs']) ?_ (by decide) (fun hdrop => ?_) ?_
  · simpa [elementEnd] using Html.dropRaw?_closing isTagName_element ('<' :: (markerEnd ++ rest))
  · exact readAutolink?_word ('/' :: standard.element) _ (by simpa [elementEnd] using hdrop)
      (by decide)
  refine .html _ rest (by simp [hs']) ?_ (by decide) (fun hdrop => ?_) ?_
  · simpa [markerEnd] using Html.dropRaw?_closing isTagName_marker rest
  · exact readAutolink?_word ('/' :: standard.marker) _ (by simpa [markerEnd] using hdrop)
      (by decide)
  show ReadsTokens s defs skip _ tokens stop
  simpa only [List.append_assoc, List.cons_append] using hrest

theorem readsTokens_prose (front : Text) (hs : s.toList = front ++ cut.fill (placeholder standard))
    (h : IsProse cut) : ReadsTokens s defs skip front.length (proseTokens cut) s.size := by
  induction cut generalizing front with
  | last gap =>
      have hsize : s.size = (front ++ gap).length := by
        rw [← Array.length_toList, hs, Cut.fill]
      rw [hsize, proseTokens, ← List.append_nil (gapTokens gap)]
      exact readsTokens_gap front [] (by simpa [Cut.fill] using hs) h (by simp) (.nil _)
  | next gap link rest ih =>
      obtain ⟨hgap, hlink, hrest⟩ := h
      have hs' : s.toList = front ++ gap ++ (placeholder standard link ++
          rest.fill (placeholder standard)) := by simp [hs, Cut.fill]
      refine readsTokens_gap front _ (by rw [hs', List.append_assoc]) hgap ?_ ?_
      · rw [hlink.placeholder_eq]
        simp
        decide
      · refine readsTokens_link (front ++ gap) _ hs' hlink ?_
        exact ih _ (by rw [hs', ← List.append_assoc]) hrest

/-! ## Elements -/

def gapElements (gap : Text) : List Inline := if gap.isEmpty then [] else [.text gap]

def linkElements (link : Link) : List Inline :=
  [.html ('<' :: markerStart), .html ('<' :: elementStart link.destination), .text link.text,
    .html ('<' :: elementEnd), .html ('<' :: markerEnd)]

def proseElements : Cut → List Inline
  | .last gap => gapElements gap
  | .next gap link rest => gapElements gap ++ (linkElements link ++ proseElements rest)

section Pushed

variable (s : Source) (readText : SpanReader) (describe : Text → Text) (r : Reading)

theorem pieces_pushGap (gap : Text) (h : r.plain = []) :
    ((gapTokens gap).foldl (Reading.pushToken s readText describe) r).flush.pieces =
      (gapElements gap).reverse.map Piece.element ++ r.pieces := by
  by_cases hne : gap = []
  · subst hne
    simp [gapTokens, gapElements, Reading.flush, h]
  · simp [gapTokens, gapElements, Reading.pushToken, Reading.pushPlain, Reading.flush, h, hne]

theorem pieces_pushLink (hne : link.text ≠ []) :
    let pushed := (linkTokens link).foldl (Reading.pushToken s readText describe) r
    pushed.plain = [] ∧
      pushed.pieces = (linkElements link).reverse.map Piece.element ++ r.flush.pieces := by
  have hflushed : r.flush.plain = [] := by
    unfold Reading.flush
    split
    · rwa [List.isEmpty_iff] at *
    · rfl
  simp only [linkTokens, List.foldl_cons, List.foldl_nil, Reading.pushToken, Reading.push]
  generalize r.flush = flushed at hflushed ⊢
  obtain ⟨pieces, plain, memo⟩ := flushed
  obtain rfl : plain = [] := hflushed
  simp [Reading.flush, Reading.pushPlain, linkElements, hne]

theorem pieces_pushProse (h : IsProse cut) (hplain : r.plain = []) :
    ((proseTokens cut).foldl (Reading.pushToken s readText describe) r).flush.pieces =
      (proseElements cut).reverse.map Piece.element ++ r.pieces := by
  induction cut generalizing r with
  | last gap => exact pieces_pushGap s readText describe r gap hplain
  | next gap link rest ih =>
      obtain ⟨hgap, hlink, hrest⟩ := h
      have hpushedGap := pieces_pushGap s readText describe r gap hplain
      rw [proseTokens, List.foldl_append, List.foldl_append]
      generalize (gapTokens gap).foldl (Reading.pushToken s readText describe) r = r₁ at hpushedGap ⊢
      obtain ⟨hnone, hpushedLink⟩ :=
        pieces_pushLink s readText describe r₁ hlink.valid.text_ne_nil
      rw [ih _ hrest hnone, hpushedLink, hpushedGap]
      simp [proseElements]

end Pushed

theorem readInline_prose (defs : Definitions) (h : IsProse cut) :
    readInline defs (cut.fill (placeholder standard)) = proseElements cut := by
  have hreads : ∀ skip, ReadsTokens (cut.fill (placeholder standard)).toArray defs skip 0
      (proseTokens cut) (cut.fill (placeholder standard)).toArray.size := fun skip =>
    readsTokens_prose [] rfl h
  obtain ⟨readText, describe, hread⟩ := readInline_of_reads hreads
  rw [hread, Reading.elements, pieces_pushProse _ readText describe ⟨[], [], {}⟩ h rfl,
    List.append_nil, ← List.map_reverse, List.reverse_reverse, resolve_map_element]

theorem inlineHtml_append (es es' : List Inline) :
    inlineHtml (es ++ es') = inlineHtml es ++ inlineHtml es' := List.flatMap_append

theorem inlineHtml_gapElements (h : IsPlain gap) : inlineHtml (gapElements gap) = gap := by
  by_cases hne : gap = []
  · subst hne
    rfl
  · have helements : gapElements gap = [.text gap] := by simp [gapElements, hne]
    have hhtml : inlineHtml [.text gap] = Html.escape gap ++ [] := rfl
    rw [helements, hhtml, List.append_nil, h.escape_eq]

theorem inlineHtml_linkElements (h : IsPlainLink link) :
    inlineHtml (linkElements link) = placeholder standard link := by
  have hhtml : inlineHtml (linkElements link) =
      '<' :: (markerStart ++ '<' :: (elementStart link.destination ++ (Html.escape link.text ++
        '<' :: (elementEnd ++ '<' :: (markerEnd ++ []))))) := rfl
  rw [hhtml, h.text.escape_eq, List.append_nil, h.placeholder_eq]

theorem inlineHtml_proseElements (h : IsProse cut) :
    inlineHtml (proseElements cut) = cut.fill (placeholder standard) := by
  induction cut with
  | last gap => exact inlineHtml_gapElements h
  | next gap link rest ih =>
      obtain ⟨hgap, hlink, hrest⟩ := h
      rw [proseElements, inlineHtml_append, inlineHtml_append, inlineHtml_gapElements hgap,
        inlineHtml_linkElements hlink, ih hrest, Cut.fill, List.append_assoc]

/-! ## The line -/

/-- Prose that is a paragraph of its own: a letter starts it, and its end is no white space. -/
structure IsLine (cut : Cut) : Prop where
  prose : IsProse cut
  start : ∃ c rest, cut.source = c :: rest ∧ c.isAlpha = true
  stop : ∀ c ∈ cut.source.getLast?, isMargin c = false

theorem IsLine.exists_fill (h : IsLine cut) :
    ∃ c, c.isAlpha = true ∧ ∀ write, ∃ rest, cut.fill write = c :: rest := by
  obtain ⟨c, rest, hsource, hc⟩ := h.start
  cases cut with
  | last gap => exact ⟨c, hc, fun _ => ⟨rest, hsource⟩⟩
  | next gap link more =>
      cases gap with
      | nil =>
          obtain rfl : '[' = c := (List.cons.inj hsource).1
          exact absurd hc (by decide)
      | cons d gap =>
          obtain rfl : d = c := (List.cons.inj hsource).1
          exact ⟨d, hc, fun write => ⟨_, rfl⟩⟩

theorem notMargin_fill (h : ∀ c ∈ cut.source.getLast?, isMargin c = false) :
    ∀ c ∈ (cut.fill (placeholder standard)).getLast?, isMargin c = false := by
  induction cut with
  | last gap => exact h
  | next gap link rest ih =>
      have hrest : ∀ c ∈ rest.source.getLast?, isMargin c = false := by
        intro c hc
        have hlast : rest.source.getLast? = some c := hc
        refine h c ?_
        rw [Cut.source, Cut.fill, List.getLast?_append, ← Cut.source, hlast]
        rfl
      have hlink : (gap ++ placeholder standard link).getLast? = some '>' := by
        rw [placeholder, ← List.append_assoc, List.getLast?_concat]
      intro c hc
      rw [Cut.fill, List.getLast?_append, hlink] at hc
      cases hlast : (rest.fill (placeholder standard)).getLast? with
      | none =>
          rw [hlast] at hc
          obtain rfl : '>' = c := Option.some.inj hc
          decide
      | some d =>
          rw [hlast] at hc
          obtain rfl : d = c := Option.some.inj hc
          exact ih hrest d hlast

theorem toHtml_line (h : IsLine cut) :
    toHtml (cut.fill (placeholder standard)) =
      "<p>".toList ++ cut.fill (placeholder standard) ++ "</p>\n".toList := by
  have hnormal : normalizeSource (cut.fill (placeholder standard)) = cut.fill (placeholder standard) :=
    normalizeSource_of_notMem (h.prose.notMem_fill (by decide)) (h.prose.notMem_fill (by decide))
  have hline : '\n' ∉ cut.fill (placeholder standard) := h.prose.notMem_fill (by decide)
  have hhtml := inlineHtml_proseElements h.prose
  rw [← readInline_prose [] h.prose] at hhtml
  obtain ⟨c, hc, hfill⟩ := h.exists_fill
  obtain ⟨rest, hrest⟩ := hfill (placeholder standard)
  have hlast := notMargin_fill h.stop
  rw [hrest] at hlast
  have htrim : trimMargins (c :: rest) = c :: rest :=
    trimMargins_eq (by simpa using isMargin_of_isAlpha hc) hlast
  rw [hrest] at hnormal hline hhtml ⊢
  rw [toHtml_letter hnormal hc hline, htrim, hhtml]

theorem strip_paragraph (s : Text) :
    Marker.strip standard.marker ("<p>".toList ++ s) =
      "<p>".toList ++ Marker.strip standard.marker s := by
  have hname := plain_standard.isName_marker
  have hnone : Marker.dropTag? standard.marker ('<' :: (['p', '>'] ++ s)) = none := rfl
  have hstart := Marker.strip_cons hnone
  rw [Marker.strip_append_of_notMem hname (by decide)] at hstart
  exact hstart

theorem html_line (h : IsLine cut) (huntagged : Marker.Untagged defaultMarker cut.source) :
    html standard cut.source =
      "<p>".toList ++ cut.fill (Link.element standard) ++ "</p>\n".toList := by
  have hname := plain_standard.isName_marker
  have hend : Marker.strip standard.marker "</p>\n".toList = "</p>\n".toList :=
    Marker.Untagged.strip_eq hname (by decide)
  have hcut : Marker.strip standard.marker (cut.fill (placeholder standard) ++ "</p>\n".toList) =
      Marker.strip standard.marker (cut.fill (placeholder standard)) ++
        Marker.strip standard.marker "</p>\n".toList :=
    Marker.strip_append_cons hname (Marker.lt_notMem_tail hname) _ _
  have hfill := strip_fill plain_standard cut huntagged
  rw [(fill_remainder_eq_iff cut).mpr (.inl (by decide))] at hfill
  rw [html, h.prose.replaceAll_eq, toHtml_line h, List.append_assoc, strip_paragraph, hcut, hfill,
    hend, List.append_assoc]

/-! ## The name of the marker -/

theorem IsPlainLink.element_eq (h : IsPlainLink link) :
    Link.element standard link =
      '<' :: (standard.element ++ ' ' :: (standard.hrefAttribute ++ '=' :: '"' ::
        (link.destination ++ '"' :: '>' :: (link.text ++ '<' :: '/' :: (standard.element ++ ['>']))))) := by
  simp [Link.element, opened, escapeQuotes_of_notMem (h.text.notMem (.inr (.head _)))]

theorem marker_infix_of_fill (h : IsProse cut)
    (hin : defaultMarker <:+: cut.fill (Link.element standard)) : defaultMarker <:+: cut.source := by
  induction cut with
  | last gap => exact hin
  | next gap link rest ih =>
      obtain ⟨-, hlink, hrest⟩ := h
      have hsource : (Cut.next gap link rest).source =
          gap ++ '[' :: (link.text ++ ']' :: '(' :: (link.destination ++ ')' :: rest.source)) := by
        simp [Cut.source, Cut.fill, source]
      rw [Cut.fill, hlink.element_eq, List.append_assoc] at hin
      simp only [List.cons_append, List.append_assoc, List.nil_append] at hin
      rw [hsource]
      rcases Marker.infix_append_cons (by decide) hin with hin | hin
      · exact hin.trans (List.prefix_append _ _).isInfix
      rcases Marker.infix_append_cons (by decide) hin with hin | hin
      · exact absurd hin (by decide)
      rcases Marker.infix_append_cons (by decide) hin with hin | hin
      · exact absurd hin (by decide)
      rcases Marker.infix_append_cons (by decide) (Marker.infix_of_infix_cons (by decide) hin) with
        hin | hin
      · exact hin.trans ⟨gap ++ '[' :: (link.text ++ [']', '(']), ')' :: rest.source, by simp⟩
      rcases Marker.infix_append_cons (by decide) (Marker.infix_of_infix_cons (by decide) hin) with
        hin | hin
      · exact hin.trans ⟨gap ++ ['['], ']' :: '(' :: (link.destination ++ ')' :: rest.source), by simp⟩
      rcases Marker.infix_append_cons (by decide) (Marker.infix_of_infix_cons (by decide) hin) with
        hin | hin
      · exact absurd hin (by decide)
      · exact (ih hrest hin).trans
          ⟨gap ++ '[' :: (link.text ++ ']' :: '(' :: (link.destination ++ [')'])), [], by simp⟩

end MarkdownPages.Fragment
