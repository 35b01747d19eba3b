import MarkdownPages.Proofs.Link.Cut
import MarkdownPages.Proofs.Marker.Strip
import MarkdownPages.Proofs.Site.Markup

/-!
# Removing the markers of placeholders

Removing the marker tags from a text with placeholders leaves the elements in them, unless the
elements have the name of the marker: then their closing tags are taken for marker tags as well.
-/

namespace MarkdownPages

open Text Marker

namespace LinkStyle

variable {style : LinkStyle}

theorem Plain.isName_marker (hplain : style.Plain) : IsName style.marker := by
  constructor
  · exact notMem_of_all_isNameChar hplain.marker rfl
  · exact notMem_of_all_isNameChar hplain.marker rfl

theorem Plain.notMem_tag (hplain : style.Plain) {c : Char} (hc : isNameChar c = false)
    (hbracket : c ∉ "</>".toList) : ∀ tag, IsTag style.marker tag → c ∉ tag := by
  intro tag htag
  have hmarker := notMem_of_all_isNameChar hplain.marker hc
  simp at hbracket
  cases htag with
  | openTag => simp [openTag, hbracket, hmarker]
  | closeTag => simp [closeTag, hbracket, hmarker]

end LinkStyle

namespace Link

open LinkStyle

variable {style : LinkStyle} {s : Text} {link : Link}

/-! ## The text of a link -/

@[simp] theorem escapeQuotes_nil : escapeQuotes [] = [] := rfl

theorem escapeQuotes_quote_cons (s : Text) :
    escapeQuotes ('"' :: s) = "&quot;".toList ++ escapeQuotes s := rfl

theorem escapeQuotes_cons {c : Char} (hc : c ≠ '"') (s : Text) :
    escapeQuotes (c :: s) = c :: escapeQuotes s := by
  unfold escapeQuotes
  rw [List.flatMap_cons, if_neg hc]
  rfl

theorem prefix_of_prefix_escapeQuotes {word : Text} (hword : '&' ∉ word)
    (h : word <+: escapeQuotes s) : word <+: s := by
  induction s generalizing word with
  | nil => exact h
  | cons c s ih =>
      cases word with
      | nil => exact List.nil_prefix
      | cons d word =>
          rw [List.mem_cons, not_or] at hword
          by_cases hc : c = '"'
          · subst hc
            rw [escapeQuotes_quote_cons] at h
            exact absurd (List.cons_prefix_cons.mp h).1.symm hword.1
          · rw [escapeQuotes_cons hc, List.cons_prefix_cons] at h
            exact List.cons_prefix_cons.mpr ⟨h.1, ih hword.2 h.2⟩

theorem untagged_escapeQuotes (hplain : style.Plain) (h : Untagged style.marker s) :
    Untagged style.marker (escapeQuotes s) := by
  induction s with
  | nil => exact h
  | cons c s ih =>
      have htail : Untagged style.marker s := h.of_infix (List.suffix_cons c s).isInfix
      by_cases hc : c = '"'
      · subst hc
        exact untagged_append_of_notMem hplain.isName_marker (by decide) (ih htail)
      · intro tag htag hin
        have hamp : '&' ∉ tag := hplain.notMem_tag rfl (by decide) tag htag
        rw [escapeQuotes_cons hc, List.infix_cons_iff] at hin
        rcases hin with hlead | hin
        · rw [← escapeQuotes_cons hc] at hlead
          exact h tag htag (prefix_of_prefix_escapeQuotes hamp hlead).isInfix
        · exact ih htail tag htag hin

theorem strip_escapeQuotes (hplain : style.Plain) (h : Untagged style.marker s) :
    strip style.marker (escapeQuotes s) = escapeQuotes s :=
  (untagged_escapeQuotes hplain h).strip_eq hplain.isName_marker

/-! ## The element of a link -/

def lead (style : LinkStyle) : Text :=
  '<' :: (style.element ++ ' ' :: (style.hrefAttribute ++ ['=']))

theorem opened_eq (style : LinkStyle) (link : Link) :
    opened style link =
      lead style ++ '"' :: (link.destination ++ '"' :: '>' :: escapeQuotes link.text) := by
  simp [opened, lead]

theorem element_eq (style : LinkStyle) (link : Link) :
    element style link = opened style link ++ closeTag style.element := by
  simp [element, closeTag]

theorem placeholder_eq (style : LinkStyle) (link : Link) :
    placeholder style link =
      openTag style.marker ++ (element style link ++ closeTag style.marker) := by
  simp [placeholder, openTag, closeTag]

theorem untagged_lead (hplain : style.Plain) : Untagged style.marker (lead style) := by
  intro tag htag hin
  obtain ⟨inner, rfl, -⟩ := htag.exists_inner hplain.isName_marker
  have hmem : '>' ∈ lead style := hin.subset (by simp)
  have helement : '>' ∉ style.element := notMem_of_all_isNameChar hplain.element rfl
  have hattribute : '>' ∉ style.hrefAttribute :=
    notMem_of_all_isNameChar hplain.hrefAttribute rfl
  simp [lead, helement, hattribute] at hmem

theorem strip_opened_append (hplain : style.Plain)
    (hdestination : Untagged style.marker link.destination)
    (htext : Untagged style.marker link.text) (rest : Text) :
    strip style.marker (opened style link ++ '<' :: rest) =
      opened style link ++ strip style.marker ('<' :: rest) := by
  have hname := hplain.isName_marker
  have hquote : ∀ tag, IsTag style.marker tag → '"' ∉ tag.tail := fun tag htag hmem =>
    hplain.notMem_tag rfl (by decide) tag htag (List.mem_of_mem_tail hmem)
  -- The text is cut at the quotes of the attribute and at the next `<`.
  have hbody : strip style.marker ('"' :: '>' :: (escapeQuotes link.text ++ '<' :: rest)) =
      '"' :: '>' :: (escapeQuotes link.text ++ strip style.marker ('<' :: rest)) := by
    rw [strip_cons (dropTag?_cons_of_ne hname (by decide) _),
      strip_cons (dropTag?_cons_of_ne hname (by decide) _),
      strip_append_cons hname (lt_notMem_tail hname), strip_escapeQuotes hplain htext]
  have hvalue : strip style.marker ('"' :: link.destination) = '"' :: link.destination := by
    rw [strip_cons (dropTag?_cons_of_ne hname (by decide) _), hdestination.strip_eq hname]
  calc strip style.marker (opened style link ++ '<' :: rest)
      = strip style.marker (lead style ++ '"' ::
          (link.destination ++ '"' :: '>' :: (escapeQuotes link.text ++ '<' :: rest))) := by
        simp [opened_eq]
    _ = lead style ++ strip style.marker ('"' :: link.destination ++
          '"' :: '>' :: (escapeQuotes link.text ++ '<' :: rest)) := by
        rw [strip_append_cons hname hquote, (untagged_lead hplain).strip_eq hname,
          List.cons_append]
    _ = lead style ++ ('"' :: link.destination ++
          '"' :: '>' :: (escapeQuotes link.text ++ strip style.marker ('<' :: rest))) := by
        rw [strip_append_cons hname hquote, hvalue, hbody]
    _ = opened style link ++ strip style.marker ('<' :: rest) := by
        simp [opened_eq]

theorem strip_closeTag (hplain : style.Plain) (hne : style.element ≠ style.marker) :
    strip style.marker (closeTag style.element) = closeTag style.element := by
  have hinner : IsName ('/' :: style.element) := by
    constructor <;> simpa using notMem_of_all_isNameChar hplain.element rfl
  have hopen : '/' :: style.element ≠ style.marker := fun heq =>
    by
    have hslash : '/' ∉ style.marker := notMem_of_all_isNameChar hplain.marker rfl
    exact hslash (heq ▸ .head _)
  have hclose : '/' :: style.element ≠ '/' :: style.marker := fun heq =>
    hne (List.cons.inj heq).2
  simpa [closeTag] using strip_bracketed hplain.isName_marker hinner hopen hclose []

def remainder (style : LinkStyle) (link : Link) : Text :=
  if style.element = style.marker then opened style link else element style link

theorem strip_element (hplain : style.Plain)
    (hdestination : Untagged style.marker link.destination)
    (htext : Untagged style.marker link.text) :
    strip style.marker (element style link) = remainder style link := by
  have hopened : strip style.marker (opened style link ++ closeTag style.element) =
      opened style link ++ strip style.marker (closeTag style.element) :=
    strip_opened_append hplain hdestination htext _
  rw [element_eq, hopened]
  unfold remainder
  split
  · rename_i heq
    have hclose := strip_tag_append hplain.isName_marker .closeTag []
    rw [List.append_nil] at hclose
    rw [heq, hclose, strip_nil, List.append_nil]
  · rename_i hne
    rw [strip_closeTag hplain hne, element_eq]

theorem strip_placeholder_append (link : Link) (hplain : style.Plain)
    (hne : style.element ≠ style.marker)
    (hdestination : Untagged style.marker link.destination)
    (htext : Untagged style.marker link.text) (rest : Text) :
    strip style.marker (placeholder style link ++ rest) =
      element style link ++ strip style.marker rest := by
  have hname := hplain.isName_marker
  have helement : strip style.marker (element style link) = element style link := by
    rw [strip_element hplain hdestination htext, remainder, if_neg hne]
  rw [placeholder_eq, List.append_assoc, List.append_assoc, strip_tag_append hname .openTag,
    strip_append_tag_append hname .closeTag, helement]

/-! ## Texts with placeholders -/

theorem Cut.untagged_of_next {marker gap : Text} {rest : Cut}
    (h : Untagged marker (Cut.next gap link rest).source) :
    Untagged marker gap ∧ Untagged marker link.text ∧ Untagged marker link.destination ∧
      Untagged marker rest.source := by
  have hlink : Untagged marker link.source := h.of_infix ⟨gap, rest.source, rfl⟩
  refine ⟨?_, ?_, ?_, ?_⟩
  · exact h.of_infix ⟨[], link.source ++ rest.source, by simp [Cut.source, Cut.fill]⟩
  · exact hlink.of_infix ⟨['['], ']' :: '(' :: link.destination ++ [')'], by simp [Link.source]⟩
  · exact hlink.of_infix ⟨'[' :: link.text ++ [']', '('], [')'], by simp [Link.source]⟩
  · exact h.of_infix ⟨gap ++ link.source, [], by simp [Cut.source, Cut.fill]⟩

theorem strip_fill (hplain : style.Plain) (cut : Cut) (h : Untagged style.marker cut.source) :
    strip style.marker (cut.fill (placeholder style)) = cut.fill (remainder style) := by
  have hname := hplain.isName_marker
  induction cut with
  | last gap => exact h.strip_eq hname
  | next gap link rest ih =>
      obtain ⟨hgap, htext, hdestination, hrest⟩ := Cut.untagged_of_next h
      calc strip style.marker (Cut.fill (placeholder style) (.next gap link rest))
          = strip style.marker (gap ++ (openTag style.marker ++ (element style link ++
              (closeTag style.marker ++ rest.fill (placeholder style))))) := by
            simp [Cut.fill, placeholder_eq]
        _ = gap ++ (remainder style link ++ rest.fill (remainder style)) := by
            rw [strip_append_tag_append hname .openTag, strip_append_tag_append hname .closeTag,
              hgap.strip_eq hname, strip_element hplain hdestination htext, ih hrest]
        _ = Cut.fill (remainder style) (.next gap link rest) := by simp [Cut.fill]

theorem strip_replaceAll (hplain : style.Plain) (h : Untagged style.marker s) :
    strip style.marker (replaceAll style s) = replaceWith (remainder style) s := by
  obtain ⟨cut, -, rfl, hfill⟩ := exists_cut s
  rw [replaceAll, hfill, hfill, strip_fill hplain cut h]

theorem length_remainder_le (style : LinkStyle) (link : Link) :
    (remainder style link).length ≤ (element style link).length := by
  unfold remainder
  split
  · simp [element_eq]
  · exact Nat.le_refl _

theorem length_remainder_lt (heq : style.element = style.marker) (link : Link) :
    (remainder style link).length < (element style link).length := by
  simp [remainder, heq, element_eq, closeTag]

theorem fill_remainder_eq_iff (cut : Cut) :
    cut.fill (remainder style) = cut.fill (element style) ↔
      style.element ≠ style.marker ∨ ∃ gap, cut = .last gap := by
  constructor
  · intro heq
    by_cases hname : style.element = style.marker
    · cases cut with
      | last gap => exact .inr ⟨gap, rfl⟩
      | next gap link rest =>
          have hlink := length_remainder_lt hname link
          have hrest := rest.length_fill_le (length_remainder_le style)
          have hlength := congrArg List.length heq
          simp [Cut.fill] at hlength
          omega
    · exact .inl hname
  · rintro (hname | ⟨gap, rfl⟩)
    · have hkept : remainder style = element style := by
        funext link
        simp [remainder, hname]
      rw [hkept]
    · rfl

theorem strip_replaceAll_eq_iff (hplain : style.Plain) (h : Untagged style.marker s) :
    strip style.marker (replaceAll style s) = replaceWith (element style) s ↔
      style.element ≠ style.marker ∨ Linkless s := by
  rw [strip_replaceAll hplain h]
  obtain ⟨cut, hleftmost, rfl, hfill⟩ := exists_cut s
  rw [hfill, hfill, fill_remainder_eq_iff, hleftmost.linkless_iff]

end Link

namespace Site

/--
On a text without marker tags, a loaded site leaves the whole elements of all links if and only if
its elements do not have the name of the marker or there are no links.
-/
theorem keeps_elements_iff {settings s : Text} {site : Site} (hload : ofText settings = .ok site)
    (h : Untagged LinkStyle.defaultMarker s) :
    strip LinkStyle.defaultMarker (Link.replaceAll site.style s) =
        Link.replaceWith (Link.element site.style) s ↔
      site.element ≠ LinkStyle.defaultMarker ∨ Link.Linkless s :=
  Link.strip_replaceAll_eq_iff (plain_style_of_ofText hload) h

theorem keeps_elements_iff_anchor :
    ∃ site : Site,
      ofText "{defaults: {link_element: a}, pages: {p: {directory: d}}}".toList = .ok site ∧
      Untagged LinkStyle.defaultMarker "x [t](h)".toList ∧
      strip LinkStyle.defaultMarker (Link.replaceAll site.style "x [t](h)".toList) =
        Link.replaceWith (Link.element site.style) "x [t](h)".toList := by
  have hload : ofText "{defaults: {link_element: a}, pages: {p: {directory: d}}}".toList =
      .ok ⟨"a".toList, LinkStyle.defaultHrefAttribute,
        [⟨"p".toList, Path.ofText "d".toList, "p".toList, []⟩]⟩ := by
    rw [ofText_eq_ok_iff]
    decide +kernel
  have huntagged : Untagged LinkStyle.defaultMarker "x [t](h)".toList := by decide +kernel
  exact ⟨_, hload, huntagged, (keeps_elements_iff hload huntagged).mpr (.inl (by decide))⟩

theorem html_element_loses_closing_tag :
    ∃ site : Site,
      ofText "{defaults: {link_element: html}, pages: {p: {directory: d}}}".toList = .ok site ∧
      Untagged LinkStyle.defaultMarker "x [t](h)".toList ∧
      strip LinkStyle.defaultMarker (Link.replaceAll site.style "x [t](h)".toList) =
        "x <html linkHREF=\"h\">t".toList ∧
      Link.replaceWith (Link.element site.style) "x [t](h)".toList =
        "x <html linkHREF=\"h\">t</html>".toList := by
  have hload : ofText "{defaults: {link_element: html}, pages: {p: {directory: d}}}".toList =
      .ok ⟨"html".toList, LinkStyle.defaultHrefAttribute,
        [⟨"p".toList, Path.ofText "d".toList, "p".toList, []⟩]⟩ := by
    rw [ofText_eq_ok_iff]
    decide +kernel
  refine ⟨_, hload, ?_⟩
  decide +kernel

end Site

end MarkdownPages
