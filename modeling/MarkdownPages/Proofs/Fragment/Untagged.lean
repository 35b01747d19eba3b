import MarkdownPages.Proofs.Fragment.Prose
import MarkdownPages.Proofs.Markdown.Sealed

/-!
# Fragments without marker tags

If a fragment holds no marker tags of its own, its HTML holds none either, wherever its links stand:
in a paragraph, a heading, a list, a quote or raw HTML.  This is about tags only.  In prose nothing
else is left of the marker; but in code its tags are shown as text, and as such they are not removed.
-/

namespace MarkdownPages.Fragment

open Text Link Marker LinkStyle Markdown

variable {link : Link} {cut : Cut} {word markdown : Text}

theorem untagged_html (h : Untagged defaultMarker markdown) :
    Untagged defaultMarker (html standard markdown) := by
  have hflanked := flanked_normalizeSource_replaceAll h
  have hsealed := sealed_toHtml_of_flanked hflanked
  exact hsealed.untagged_strip (by decide)

/-! ## Placeholders in code -/

theorem readInline_code (hne : word ≠ []) (hword : '`' ∉ word) :
    readInline [] ('x' :: ' ' :: '`' :: (word ++ ['`'])) =
      [.text ['x', ' '], .code (codeContent word)] := by
  have hreads : ∀ skip, ReadsTokens ('x' :: ' ' :: '`' :: (word ++ ['`'])).toArray [] skip 0
      [.plain ['x', ' '], .code (codeContent word)]
      ('x' :: ' ' :: '`' :: (word ++ ['`'])).toArray.size := fun skip =>
    .plain [] ('`' :: (word ++ ['`'])) rfl (by decide) (by decide) (by simp; decide)
      (.code ['x', ' '] [] rfl hne hword (by simp) (.nil _))
  obtain ⟨readText, describe, hread⟩ := readInline_of_reads hreads
  rw [hread, ← resolve_map_element [.text ['x', ' '], .code (codeContent word)]]
  simp [Reading.pushToken, Reading.push, Reading.flush, Reading.pushPlain, Reading.elements]

theorem replaceAll_code (hvalid : link.Valid) :
    replaceAll standard ('x' :: ' ' :: '`' :: (link.source ++ ['`'])) =
      'x' :: ' ' :: '`' :: (placeholder standard link ++ ['`']) := by
  rw [replaceAll, replaceWith_char _ (by decide), replaceWith_char _ (by decide),
    replaceWith_char _ (by decide), replaceWith_source_append _ hvalid,
    replaceWith_char _ (by decide), replaceWith_nil]

theorem inlineHtml_code (word : Text) :
    inlineHtml [.text ['x', ' '], .code word] =
      ['x', ' ', '<', 'c', 'o', 'd', 'e', '>'] ++ (Html.escape word ++ "</code>".toList) := by
  have hhtml : inlineHtml [.text ['x', ' '], .code word] =
      ['x', ' '] ++ (['<', 'c', 'o', 'd', 'e', '>'] ++ Html.escape word ++ "</code>".toList ++ []) :=
    rfl
  rw [hhtml]
  simp only [List.append_nil, List.cons_append, List.nil_append]

def codeStart : Text := ['<', 'p', '>', 'x', ' ', '<', 'c', 'o', 'd', 'e', '>']

def codeEnd : Text := "</code></p>\n".toList

theorem toHtml_code (hne : word ≠ []) (hword : ∀ c ∈ ['\n', '`', '\r', Char.ofNat 0], c ∉ word) :
    toHtml ('x' :: ' ' :: '`' :: (word ++ ['`'])) =
      codeStart ++ (Html.escape (codeContent word) ++ codeEnd) := by
  have hnotMem : ∀ c ∈ ['\n', '\r', Char.ofNat 0], c ∉ 'x' :: ' ' :: '`' :: (word ++ ['`']) := by
    intro c hc
    have hfixed : ∀ c ∈ ['\n', '\r', Char.ofNat 0], c ∉ ['x', ' ', '`'] ∧
        c ∈ ['\n', '`', '\r', Char.ofNat 0] := by decide
    obtain ⟨hother, hmem⟩ := hfixed c hc
    simp only [List.mem_cons, not_or] at hother
    simp [hother, hword c hmem]
  have hnormal := normalizeSource_of_notMem (hnotMem '\r' (by simp)) (hnotMem (Char.ofNat 0) (by simp))
  have htrim : trimMargins ('x' :: ' ' :: '`' :: (word ++ ['`'])) =
      'x' :: ' ' :: '`' :: (word ++ ['`']) :=
    trimMargins_append (by decide) (by decide) (' ' :: '`' :: word)
  rw [toHtml_letter hnormal (by decide) (hnotMem '\n' (by simp)), htrim,
    readInline_code hne (hword '`' (by simp)), inlineHtml_code]
  simp only [List.append_assoc]
  rfl

theorem html_code (hvalid : link.Valid) (hlink : ∀ c ∈ ['`', '\r', Char.ofNat 0], c ∉ link.source) :
    html standard ('x' :: ' ' :: '`' :: (link.source ++ ['`'])) =
      codeStart ++ (Html.escape (placeholder standard link) ++ codeEnd) := by
  have hforeign : ∀ c ∈ ['\n', '`', '\r', Char.ofNat 0], IsForeign standard c := by decide
  have hplaceholder : ∀ c ∈ ['\n', '`', '\r', Char.ofNat 0], c ∉ placeholder standard link := by
    intro c hc
    refine (hforeign c hc).notMem_placeholder ?_
    rcases List.mem_cons.mp hc with rfl | hc
    · exact hvalid.newline_notMem
    · exact hlink c hc
  obtain ⟨rest, hrest⟩ : ∃ rest, placeholder standard link = '<' :: rest :=
    ⟨_, placeholder_standard link⟩
  rw [html, replaceAll_code hvalid]
  rw [hrest] at hplaceholder ⊢
  rw [toHtml_code (by simp) hplaceholder,
    codeContent_cons (by decide) (hplaceholder '\n' (by simp))]
  -- Escaped text starts with a character that no tag goes on with.
  have hname := plain_standard.isName_marker
  have hamp : ∀ tag, IsTag standard.marker tag → '&' ∉ tag.tail := by
    rintro tag (_ | _) <;> decide
  have hend : strip standard.marker codeEnd = codeEnd :=
    Untagged.strip_eq hname (by decide)
  have hstart : strip standard.marker codeStart = codeStart :=
    Untagged.strip_eq hname (by decide)
  have hescape : Html.escape ('<' :: rest) ++ codeEnd =
      '&' :: (['l', 't', ';'] ++ Html.escape rest ++ codeEnd) := rfl
  rw [hescape, strip_append_cons hname hamp, hstart, ← hescape,
    strip_append_of_notMem hname (Html.lt_not_mem_escape _), hend]

/-! ## Where the marker is hidden -/

theorem marker_notMem_html (h : IsLine cut) (huntagged : Untagged defaultMarker cut.source)
    (hsource : ¬ defaultMarker <:+: cut.source) :
    ¬ defaultMarker <:+: html standard cut.source := by
  intro hin
  have hhtml : html standard cut.source = ['<', 'p'] ++ '>' ::
      (cut.fill (Link.element standard) ++ '<' :: ['/', 'p', '>', '\n']) :=
    (html_line h huntagged).trans (List.append_assoc _ _ _)
  rw [hhtml] at hin
  rcases infix_append_cons (by decide) hin with hin | hin
  · exact absurd hin (by decide)
  rcases infix_append_cons (by decide) hin with hin | hin
  · exact hsource (marker_infix_of_fill h.prose hin)
  · exact absurd hin (by decide)

/--
The HTML of Markdown without marker tags has none.  Of prose that does not hold the name of the
marker it does not even hold the name.  A link in a code span, though, is shown as its escaped
placeholder, marker included.
-/
theorem html_hides_marker_but_in_code (markdown : Text) (huntagged : Untagged defaultMarker markdown) :
    Untagged defaultMarker (html standard markdown) ∧
      (∀ cut : Cut, IsLine cut → markdown = cut.source → ¬ defaultMarker <:+: markdown →
        ¬ defaultMarker <:+: html standard markdown) ∧
      ∀ link : Link, link.Valid → (∀ c ∈ ['`', '\r', Char.ofNat 0], c ∉ link.source) →
        markdown = "x `".toList ++ link.source ++ ['`'] →
        html standard markdown =
          "<p>x <code>".toList ++ Html.escape (placeholder standard link) ++
            "</code></p>\n".toList := by
  refine ⟨untagged_html huntagged, ?_, ?_⟩
  · rintro cut hline rfl hname
    exact marker_notMem_html hline huntagged hname
  · rintro link hvalid hlink rfl
    exact (html_code hvalid hlink).trans (List.append_assoc codeStart _ codeEnd).symm

/-- Prose with two links, and a link in code. -/
theorem html_hides_marker_of_prose :
    Untagged defaultMarker "see [a](b) or [c](d)".toList ∧
      ¬ defaultMarker <:+: "see [a](b) or [c](d)".toList ∧
      Untagged defaultMarker (html standard "see [a](b) or [c](d)".toList) ∧
      ¬ defaultMarker <:+: html standard "see [a](b) or [c](d)".toList ∧
      Untagged defaultMarker "x `[a](b)`".toList ∧
      html standard "x `[a](b)`".toList =
        ("<p>x <code>&lt;html&gt;&lt;app-generated-link linkHREF=&quot;b&quot;&gt;a" ++
          "&lt;/app-generated-link&gt;&lt;/html&gt;</code></p>\n").toList := by
  have hfirst : IsPlainLink ⟨['a'], ['b']⟩ :=
    ⟨valid_of_all_isAlphanum (by decide) (by decide) (by decide) (by decide), by decide, by decide⟩
  have hsecond : IsPlainLink ⟨['c'], ['d']⟩ :=
    ⟨valid_of_all_isAlphanum (by decide) (by decide) (by decide) (by decide), by decide, by decide⟩
  have hgaps : IsPlain "see ".toList ∧ IsPlain " or ".toList ∧ IsPlain [] := by decide
  have hline : IsLine (.next "see ".toList ⟨['a'], ['b']⟩
      (.next " or ".toList ⟨['c'], ['d']⟩ (.last []))) :=
    ⟨⟨hgaps.1, hfirst, hgaps.2.1, hsecond, hgaps.2.2⟩, ⟨'s', _, rfl, by decide⟩, by decide⟩
  have hprose := html_hides_marker_but_in_code "see [a](b) or [c](d)".toList (by decide)
  have hcode := (html_hides_marker_but_in_code "x `[a](b)`".toList (by decide)).2.2
    ⟨['a'], ['b']⟩ hfirst.valid (by decide) (by decide)
  refine ⟨by decide, by decide, hprose.1, hprose.2.1 _ hline (by decide) (by decide), by decide,
    hcode.trans ?_⟩
  decide +kernel

/-- In a code span the escaped tags of the marker are left. -/
theorem html_shows_marker_in_code :
    Untagged defaultMarker "`[a](b)`".toList ∧
      html standard "`[a](b)`".toList =
        ("<p><code>&lt;html&gt;&lt;app-generated-link linkHREF=&quot;b&quot;&gt;a" ++
          "&lt;/app-generated-link&gt;&lt;/html&gt;</code></p>\n").toList ∧
      "&lt;html&gt;".toList <:+: html standard "`[a](b)`".toList ∧
      "&lt;/html&gt;".toList <:+: html standard "`[a](b)`".toList := by
  decide +kernel

end MarkdownPages.Fragment
