import MarkdownPages.Proofs.Link.Written
import MarkdownPages.Proofs.Marker.Placeholder
import MarkdownPages.Proofs.Markdown.OneLine
import MarkdownPages.Fragment

/-!
# Links at the start of a line

The opening tag of the marker starts a block of raw HTML.  So a line that starts with a link is no
paragraph: its links are replaced, and the rest of its Markdown is left as it stands.
-/

namespace MarkdownPages.Fragment

open Text Link LinkStyle Markdown

variable {link : Link} {markdown rest : Text}

/-! ## The block -/

theorem readName_openTag (rest : Text) :
    Html.BlockKind.readName (defaultMarker ++ '>' :: rest) = (defaultMarker, '>' :: rest) := rfl

theorem ofLine?_openTag (rest : Text) :
    Html.BlockKind.ofLine? (Marker.openTag defaultMarker ++ rest) = some .structural := by
  have hverbatim : Html.BlockKind.startsWithName Html.BlockKind.verbatimNames false
      (defaultMarker ++ '>' :: rest) = false := by
    rw [Html.BlockKind.startsWithName, readName_openTag]
    rfl
  have hstructural : Html.BlockKind.startsWithName Html.BlockKind.structuralNames true
      (defaultMarker ++ '>' :: rest) = true := by
    have hname : Html.BlockKind.structuralNames.any (·.toList == defaultMarker) = true := by
      decide
    rw [Html.BlockKind.startsWithName, readName_openTag]
    simp [hname, Html.BlockKind.endsName]
  have hopen : Marker.openTag defaultMarker ++ rest = '<' :: (defaultMarker ++ '>' :: rest) := by
    simp [Marker.openTag]
  have hinside : (['/'].isPrefixOf? (defaultMarker ++ '>' :: rest)).getD (defaultMarker ++ '>' :: rest) =
      defaultMarker ++ '>' :: rest := rfl
  have hcomment : "!--".toList.isPrefixOf (defaultMarker ++ '>' :: rest) = false := rfl
  have hcdata : "![CDATA[".toList.isPrefixOf (defaultMarker ++ '>' :: rest) = false := rfl
  rw [hopen]
  simp only [Html.BlockKind.ofLine?, hverbatim, hinside, hstructural, hcomment, hcdata]
  rfl

theorem html_of_leading_link (h : link.Valid) (hline : '\n' ∉ link.source ++ rest)
    (hreturn : '\r' ∉ link.source ++ rest) :
    html standard (link.source ++ rest) =
      Marker.strip defaultMarker (normalizeSource (replaceAll standard (link.source ++ rest))) := by
  have hforeignLine : IsForeign standard '\n' := by decide
  have hforeignReturn : IsForeign standard '\r' := by decide
  have hwritten : replaceAll standard (link.source ++ rest) =
      Marker.openTag defaultMarker ++ (element standard link ++
        (Marker.closeTag defaultMarker ++ replaceAll standard rest)) := by
    rw [replaceAll, replaceWith_source_append _ h, placeholder_eq]
    simp [standard]
  have hnormal := notMem_normalizeSource (hforeignLine.notMem_replaceAll hline)
    (hforeignReturn.notMem_replaceAll hreturn)
  rw [hwritten, normalizeSource_append (by decide) (by decide)] at hnormal
  have hsource : normalizeSource (replaceAll standard (link.source ++ rest)) =
      Marker.openTag defaultMarker ++ normalizeSource (element standard link ++
        (Marker.closeTag defaultMarker ++ replaceAll standard rest)) := by
    rw [hwritten, normalizeSource_append (by decide) (by decide)]
  rw [html, toHtml_tag hsource hnormal (ofLine?_openTag _), hsource]
  rfl

/-! ## What is left of the line -/

theorem html_leading_link {text destination rest : Text} (htext : text ≠ [])
    (htextAlnum : text.all Char.isAlphanum = true) (hdestination : destination ≠ [])
    (hdestinationAlnum : destination.all Char.isAlphanum = true) (hline : '\n' ∉ rest)
    (hreturn : '\r' ∉ rest) :
    html standard (source ⟨text, destination⟩ ++ ' ' :: rest) =
      Link.element standard ⟨text, destination⟩ ++
        ' ' :: Marker.strip standard.marker (normalizeSource (replaceAll standard rest)) := by
  have htextNot : ∀ c, c.isAlphanum = false → c ∉ text := fun c => notMem_of_all_isAlphanum htextAlnum
  have hdestinationNot : ∀ c, c.isAlphanum = false → c ∉ destination := fun c =>
    notMem_of_all_isAlphanum hdestinationAlnum
  have hvalid := valid_of_all_isAlphanum htext htextAlnum hdestination hdestinationAlnum
  have hsource : ∀ c, c.isAlphanum = false → c ∉ "[]()".toList → c ∉ source ⟨text, destination⟩ := by
    intro c hc hbrackets
    simp at hbrackets
    simp [source, htextNot c hc, hdestinationNot c hc, hbrackets]
  have hreturnPlaceholder : '\r' ∉ placeholder standard ⟨text, destination⟩ :=
    IsForeign.notMem_placeholder (by decide) (hsource _ rfl (by decide))
  have hnullPlaceholder : Char.ofNat 0 ∉ placeholder standard ⟨text, destination⟩ :=
    IsForeign.notMem_placeholder (by decide) (hsource _ rfl (by decide))
  have hreplaced : replaceAll standard (' ' :: rest) = ' ' :: replaceAll standard rest :=
    replaceWith_char _ (by decide) rest
  have hnormal : normalizeSource (' ' :: replaceAll standard rest) =
      ' ' :: normalizeSource (replaceAll standard rest) :=
    normalizeSource_append (s := [' ']) (by decide) (by decide) _
  have hlineSource : '\n' ∉ source ⟨text, destination⟩ := hsource _ rfl (by decide)
  have hreturnSource : '\r' ∉ source ⟨text, destination⟩ := hsource _ rfl (by decide)
  have hstripped := strip_placeholder_append ⟨text, destination⟩ plain_standard
    (by decide) (Marker.untagged_of_notMem (hdestinationNot _ rfl))
    (Marker.untagged_of_notMem (htextNot _ rfl))
    (' ' :: normalizeSource (replaceAll standard rest))
  have hspace := Marker.strip_cons (Marker.dropTag?_cons_of_ne plain_standard.isName_marker
    (show ' ' ≠ '<' by decide) (normalizeSource (replaceAll standard rest)))
  calc html standard (source ⟨text, destination⟩ ++ ' ' :: rest)
      = Marker.strip standard.marker (normalizeSource
          (replaceAll standard (source ⟨text, destination⟩ ++ ' ' :: rest))) :=
        html_of_leading_link hvalid (by simp [hlineSource, hline])
          (by simp [hreturnSource, hreturn])
    _ = Marker.strip standard.marker (placeholder standard ⟨text, destination⟩ ++
          ' ' :: normalizeSource (replaceAll standard rest)) := by
        rw [replaceAll, replaceWith_source_append _ hvalid, ← replaceAll, hreplaced,
          normalizeSource_append hreturnPlaceholder hnullPlaceholder, hnormal]
    _ = Link.element standard ⟨text, destination⟩ ++
          ' ' :: Marker.strip standard.marker (normalizeSource (replaceAll standard rest)) := by
        rw [hstripped, hspace]

/--
A link of letters and digits at the start of a line.  Only its element is left, and behind it the
rest of the line with its links replaced.  There is never a paragraph, and no Markdown is
interpreted.
-/
theorem html_starts_with_element (text destination rest : Text) (htext : text ≠ [])
    (htextAlnum : text.all Char.isAlphanum = true) (hdestination : destination ≠ [])
    (hdestinationAlnum : destination.all Char.isAlphanum = true) (hline : '\n' ∉ rest)
    (hreturn : '\r' ∉ rest) :
    html standard ('[' :: text ++ "](".toList ++ destination ++ ") ".toList ++ rest) =
        "<app-generated-link linkHREF=\"".toList ++ destination ++ "\">".toList ++ text ++
          "</app-generated-link> ".toList ++
          Marker.strip defaultMarker (normalizeSource (replaceAll standard rest)) ∧
      ¬ "<p>".toList <+:
        html standard ('[' :: text ++ "](".toList ++ destination ++ ") ".toList ++ rest) := by
  have hwritten : '[' :: text ++ "](".toList ++ destination ++ ") ".toList ++ rest =
      source ⟨text, destination⟩ ++ ' ' :: rest := by
    simp [source]
  have hclose : "</app-generated-link> ".toList = "</app-generated-link>".toList ++ [' '] := rfl
  rw [hwritten, html_leading_link htext htextAlnum hdestination hdestinationAlnum hline hreturn]
  constructor
  · rw [element_standard (notMem_of_all_isAlphanum htextAlnum rfl), hclose]
    simp only [List.append_assoc, List.cons_append, List.nil_append]
    rfl
  · intro hparagraph
    have hname := (List.cons_prefix_cons.mp hparagraph).2
    exact absurd (List.cons_prefix_cons.mp hname).1 (by decide)

theorem html_starts_with_element_before_stars :
    "t".toList ≠ [] ∧ "t".toList.all Char.isAlphanum = true ∧ "h".toList ≠ [] ∧
      "h".toList.all Char.isAlphanum = true ∧ '\n' ∉ "*b* [u](v)".toList ∧ '\r' ∉ "*b* [u](v)".toList ∧
      html standard "[t](h) *b* [u](v)".toList =
        ("<app-generated-link linkHREF=\"h\">t</app-generated-link> *b* " ++
          "<app-generated-link linkHREF=\"v\">u</app-generated-link>").toList := by
  have hhtml := html_starts_with_element "t".toList "h".toList "*b* [u](v)".toList (by decide)
    (by decide) (by decide) (by decide) (by decide) (by decide)
  refine ⟨by decide, by decide, by decide, by decide, by decide, by decide, hhtml.1.trans ?_⟩
  decide +kernel

/-- Behind a letter there is a paragraph, and its Markdown is interpreted. -/
theorem leading_link_has_no_paragraph :
    html standard "z *b*".toList = "<p>z <em>b</em></p>\n".toList ∧
      html standard "[t](h) *b*".toList =
        "<app-generated-link linkHREF=\"h\">t</app-generated-link> *b*".toList ∧
      html standard "[t](h) *b*".toList ≠
        ("<p><app-generated-link linkHREF=\"h\">t</app-generated-link> " ++
          "<em>b</em></p>\n").toList := by
  decide +kernel

end MarkdownPages.Fragment
