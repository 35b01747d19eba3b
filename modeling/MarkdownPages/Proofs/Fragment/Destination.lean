import MarkdownPages.Proofs.Fragment.Prose

/-!
# The destination of a link

Behind a word, the tags of a placeholder are raw HTML, and so its destination is kept as it is.  A
quote in the destination ends the value of its attribute, though: unless what follows the quote may
follow a value, the placeholder has no opening tag, and is shown as text.
-/

namespace MarkdownPages.Fragment

open Text Link LinkStyle Markdown

variable {link : Link} {destination text front rest : Text} {s : Source} {pos stop : Nat}
variable {defs : Definitions} {skip : Skip} {tokens : List Token}

/-! ## The tokens of the line -/

def linkedLine (destination text : Text) : Text := 'x' :: ' ' :: source ⟨text, destination⟩

def replacedLine (destination text : Text) : Text :=
  'x' :: ' ' :: '<' :: (markerStart ++ '<' :: (elementStart destination ++
    (text ++ '<' :: (elementEnd ++ '<' :: markerEnd))))

theorem readsTokens_word (hs : s.toList = 'x' :: ' ' :: '<' :: (markerStart ++ rest))
    (hrest : ReadsTokens s defs skip ('x' :: ' ' :: '<' :: markerStart).length tokens stop) :
    ReadsTokens s defs skip 0 (.plain ['x', ' '] :: .html ('<' :: markerStart) :: tokens) stop := by
  refine ReadsTokens.plain [] ('<' :: (markerStart ++ rest)) hs (by decide)
    (by decide) (by simp; decide) ?_
  refine ReadsTokens.html ['x', ' '] rest hs ?_ (by decide) (fun hdrop => ?_)
    hrest
  · simpa [markerStart] using Html.dropRaw?_bare isTagName_marker rest
  · refine readAutolink?_word standard.marker rest ?_ (by decide)
    simpa [markerStart] using hdrop

/-! ## The document -/

/--
A destination that stands on one line and has neither escapes nor the parenthesis that would end it.
-/
structure IsSimple (destination : Text) : Prop where
  ne_nil : destination ≠ []
  notMem : ∀ c ∈ ['\n', '\r', Char.ofNat 0, '\\', ')'], c ∉ destination

theorem IsSimple.valid (h : IsSimple destination) (htext : text ≠ [])
    (htextAlnum : text.all Char.isAlphanum = true) : Valid ⟨text, destination⟩ where
  text_units := units_of_notMem (notMem_of_all_isAlphanum htextAlnum rfl)
    (notMem_of_all_isAlphanum htextAlnum rfl) (notMem_of_all_isAlphanum htextAlnum rfl)
  text_ne_nil := htext
  destination_units :=
    units_of_notMem (h.notMem _ (by simp)) (h.notMem _ (by simp)) (h.notMem _ (by simp))
  destination_ne_nil := h.ne_nil

theorem replaceAll_linkedLine (h : IsSimple destination) (htext : text ≠ [])
    (htextAlnum : text.all Char.isAlphanum = true) :
    replaceAll standard (linkedLine destination text) = replacedLine destination text := by
  have hsource := replaceWith_source_append (placeholder standard) (h.valid htext htextAlnum) []
  rw [List.append_nil, replaceWith_nil, List.append_nil] at hsource
  rw [linkedLine, replaceAll, replaceWith_char _ (by decide), replaceWith_char _ (by decide),
    hsource, placeholder_of_notMem (notMem_of_all_isAlphanum htextAlnum rfl), replacedLine]

theorem IsSimple.notMem_replacedLine (h : IsSimple destination) (htext : text ≠ [])
    (htextAlnum : text.all Char.isAlphanum = true) {c : Char} (hc : c ∈ ['\n', '\r', Char.ofNat 0]) :
    c ∉ replacedLine destination text := by
  have hall : ∀ c ∈ ['\n', '\r', Char.ofNat 0], IsForeign standard c ∧ c.isAlphanum = false ∧
      c ∉ ['x', ' ', '[', ']', '(', ')'] ∧ c ∈ ['\n', '\r', Char.ofNat 0, '\\', ')'] := by
    decide
  obtain ⟨hforeign, halnum, hfixed, hmem⟩ := hall c hc
  simp only [List.mem_cons, not_or] at hfixed
  rw [← replaceAll_linkedLine h htext htextAlnum]
  refine hforeign.notMem_replaceAll ?_
  simp [linkedLine, source, hfixed, notMem_of_all_isAlphanum htextAlnum halnum, h.notMem c hmem]

theorem html_linkedLine (h : IsSimple destination) (htext : text ≠ [])
    (htextAlnum : text.all Char.isAlphanum = true) :
    html standard (linkedLine destination text) =
      Marker.strip standard.marker ("<p>".toList ++
        inlineHtml (readInline [] (replacedLine destination text)) ++ "</p>\n".toList) := by
  have hline : '\n' ∉ replacedLine destination text :=
    h.notMem_replacedLine htext htextAlnum (.head _)
  have hreturn : '\r' ∉ replacedLine destination text :=
    h.notMem_replacedLine htext htextAlnum (.tail _ (.head _))
  have hnull : Char.ofNat 0 ∉ replacedLine destination text :=
    h.notMem_replacedLine htext htextAlnum (.tail _ (.tail _ (.head _)))
  have hnormal := normalizeSource_of_notMem hreturn hnull
  obtain ⟨inner, hinner⟩ : ∃ inner, replacedLine destination text = 'x' :: (inner ++ ['>']) :=
    ⟨' ' :: '<' :: (markerStart ++ '<' :: (elementStart destination ++
      (text ++ '<' :: (elementEnd ++ '<' :: '/' :: standard.marker)))),
      by simp [replacedLine, markerEnd]⟩
  have hparagraph : toHtml (replaceAll standard (linkedLine destination text)) =
      "<p>".toList ++ inlineHtml (readInline [] (replacedLine destination text)) ++
        "</p>\n".toList := by
    rw [hinner] at hline hnormal
    rw [replaceAll_linkedLine h htext htextAlnum, hinner,
      toHtml_letter hnormal (by decide) hline, trimMargins_append (by decide) (by decide)]
  rw [html, hparagraph]

theorem isLine_linkedLine (h : IsSimple destination) (htext : text ≠ [])
    (htextAlnum : text.all Char.isAlphanum = true) (hquote : '"' ∉ destination) :
    IsLine (.next ['x', ' '] ⟨text, destination⟩ (.last [])) where
  prose := by
    have hdestination : ∀ c ∈ ['"', '\r', Char.ofNat 0], c ∉ destination := by
      simp only [List.forall_mem_cons]
      exact ⟨hquote, h.notMem _ (by simp), h.notMem _ (by simp), by simp⟩
    have hgap : IsPlain ['x', ' '] := by decide
    have hend : IsPlain [] := by decide
    exact ⟨hgap, ⟨h.valid htext htextAlnum, isPlain_of_all_isAlphanum htextAlnum, hdestination⟩, hend⟩
  start := ⟨'x', _, rfl, by decide⟩
  stop := by
    have hlast : Cut.source (.next ['x', ' '] ⟨text, destination⟩ (.last [])) =
        'x' :: ' ' :: '[' :: text ++ ']' :: '(' :: destination ++ [')'] := by
      simp [Cut.source, Cut.fill, source]
    rw [hlast, List.getLast?_concat]
    decide

theorem html_keeps_destination (h : IsSimple destination) (htext : text ≠ [])
    (htextAlnum : text.all Char.isAlphanum = true) (hquote : '"' ∉ destination)
    (huntagged : Marker.Untagged defaultMarker destination) :
    html standard (linkedLine destination text) =
      "<p>".toList ++ ('x' :: ' ' :: Link.element standard ⟨text, destination⟩) ++
        "</p>\n".toList := by
  have hsource : Cut.source (.next ['x', ' '] ⟨text, destination⟩ (.last [])) =
      linkedLine destination text := List.append_nil _
  have hopen : '<' ∉ 'x' :: ' ' :: '[' :: text ++ [']', '('] := by
    simp [notMem_of_all_isAlphanum htextAlnum (show Char.isAlphanum '<' = false by rfl)]
  have hend : Marker.Untagged defaultMarker (destination ++ [')']) := by
    refine huntagged.append_cons (Marker.untagged_of_notMem (by simp)) ?_
    rintro tag (_ | _) <;> decide
  have hline : Marker.Untagged defaultMarker (linkedLine destination text) := by
    have hall : Marker.Untagged defaultMarker _ :=
      Marker.untagged_append_of_notMem plain_standard.isName_marker hopen hend
    simpa [linkedLine, source] using hall
  rw [← hsource] at hline ⊢
  rw [html_line (isLine_linkedLine h htext htextAlnum hquote) hline]
  simp only [Cut.fill, List.append_nil, List.cons_append, List.nil_append]

theorem strip_word_append (rest : Text) :
    Marker.strip standard.marker ('x' :: ' ' :: '<' :: (markerStart ++ rest)) =
      'x' :: ' ' :: Marker.strip standard.marker rest := by
  have hname := plain_standard.isName_marker
  have hword := Marker.strip_append_of_notMem hname (show '<' ∉ ['x', ' '] by decide)
    (Marker.openTag standard.marker ++ rest)
  rw [Marker.strip_tag_append hname .openTag] at hword
  exact hword

theorem html_shows_placeholder (h : IsSimple destination) (htext : text ≠ [])
    (htextAlnum : text.all Char.isAlphanum = true) {value rest : Text} {c : Char} (hvalue : '"' ∉ value)
    (hdestination : destination ++ ['"'] = value ++ '"' :: c :: rest) (hblank : isBlank c = false)
    (hend : c ≠ '>') (hslash : c ≠ '/') :
    "<p>x &lt;".toList <+: html standard (linkedLine destination text) := by
  -- A quote ends the value; if nothing that may follow a value is behind it, the tag is text.
  have hname := plain_standard.isName_marker
  generalize hbehind : text ++ '<' :: (elementEnd ++ '<' :: markerEnd) = behind
  have hstart : elementStart destination ++ behind =
      elementLead ++ (value ++ '"' :: c :: (rest ++ '>' :: behind)) := by
    have hassoc : elementStart destination ++ behind =
        elementLead ++ (destination ++ ['"'] ++ '>' :: behind) := by simp [elementStart]
    rw [hassoc, hdestination]
    simp
  have hline : replacedLine destination text =
      'x' :: ' ' :: '<' :: markerStart ++ '<' :: (elementStart destination ++ behind) := by
    rw [replacedLine, hbehind]
    rfl
  have hraw : Html.dropRaw? (elementStart destination ++ behind) = none := by
    rw [hstart, dropRaw?_elementLead hvalue hblank, Html.dropTagEnd?_cons hblank hend hslash]
  have hdrop : (replacedLine destination text).drop ('x' :: ' ' :: '<' :: markerStart).length =
      '<' :: (elementStart destination ++ behind) := by rw [hline, List.drop_left]
  -- The tag of the element is no raw HTML, and so its `<` begins a text.
  have hnone : ∀ skip memo, readToken (replacedLine destination text).toArray [] skip true
      (replacedLine destination text).toArray.size memo
        ('x' :: ' ' :: '<' :: markerStart).length = (none, memo) := fun skip memo =>
    readToken_eq_none hdrop hraw (readAutolink?_elementLead (hstart ▸ hdrop))
  obtain ⟨shown, more, ⟨after, rfl⟩, hread⟩ := readInline_begins
    (replacedLine destination text) [.text ['x', ' '], .html ('<' :: markerStart)]
    (fun skip => readsTokens_word hline (.nil _)) hdrop (by decide) hnone
    (fun readText describe => by
      simp [Reading.pushToken, Reading.push, Reading.flush, Reading.pushPlain])
  have helements : inlineHtml ([.text ['x', ' '], .html ('<' :: markerStart)] ++
      .text (['<'] ++ after) :: more) = 'x' :: ' ' :: '<' :: (markerStart ++
        (['&', 'l', 't', ';'] ++ (Html.escape after ++ inlineHtml more))) := rfl
  rw [html_linkedLine h htext htextAlnum, hread, helements, List.append_assoc, strip_paragraph]
  simp only [List.cons_append, List.append_assoc]
  rw [strip_word_append]
  have hshown := Marker.strip_append_of_notMem hname (show '<' ∉ ['&', 'l', 't', ';'] by decide)
    (Html.escape after ++ (inlineHtml more ++ "</p>\n".toList))
  exact ⟨_, congrArg (fun shown => "<p>x ".toList ++ shown) hshown.symm⟩

/--
The destination of a link behind a word.  Without quotes it is kept as it stands.  If it holds a
quote, counting the one that closes the attribute as well, and neither a blank nor the end of a tag
follows the first of them, then the placeholder is shown as text.
-/
theorem html_keeps_unquoted_destination (text destination : Text) (htext : text ≠ [])
    (htextAlnum : text.all Char.isAlphanum = true) (hdestination : destination ≠ [])
    (hsimple : ∀ c ∈ ['\n', '\r', Char.ofNat 0, '\\', ')'], c ∉ destination)
    (huntagged : Marker.Untagged defaultMarker destination) :
    ('"' ∉ destination →
      html standard ("x [".toList ++ text ++ "](".toList ++ destination ++ [')']) =
        "<p>x <app-generated-link linkHREF=\"".toList ++ destination ++ "\">".toList ++ text ++
          "</app-generated-link></p>\n".toList) ∧
    ∀ value c rest, destination ++ ['"'] = value ++ '"' :: c :: rest → '"' ∉ value →
      isBlank c = false → c ∉ ['>', '/'] →
      "<p>x &lt;".toList <+:
        html standard ("x [".toList ++ text ++ "](".toList ++ destination ++ [')']) := by
  have h : IsSimple destination := ⟨hdestination, hsimple⟩
  have hline : "x [".toList ++ text ++ "](".toList ++ destination ++ [')'] =
      linkedLine destination text := by simp [linkedLine, source]
  constructor
  · intro hquote
    rw [hline, html_keeps_destination h htext htextAlnum hquote huntagged,
      element_standard (notMem_of_all_isAlphanum htextAlnum rfl)]
    have hfront : "<p>x <app-generated-link linkHREF=\"".toList =
      '<' :: 'p' :: '>' :: 'x' :: ' ' :: "<app-generated-link linkHREF=\"".toList := by decide
    have hback : "</app-generated-link></p>\n".toList =
      "</app-generated-link>".toList ++ "</p>\n".toList := by decide
    rw [hfront, hback]
    simp only [List.append_assoc, List.cons_append]
    rfl
  · intro value c rest hvalue hquote hblank hend
    rw [List.mem_cons, List.mem_singleton, not_or] at hend
    rw [hline]
    exact html_shows_placeholder h htext htextAlnum hquote hvalue hblank hend.1 hend.2

theorem html_keeps_entity_and_shows_quote :
    "t".toList ≠ [] ∧ "t".toList.all Char.isAlphanum = true ∧
      ("`&amp;<b>".toList ≠ [] ∧
        (∀ c ∈ ['\n', '\r', Char.ofNat 0, '\\', ')'], c ∉ "`&amp;<b>".toList) ∧
        Marker.Untagged defaultMarker "`&amp;<b>".toList ∧ '"' ∉ "`&amp;<b>".toList ∧
        html standard "x [t](`&amp;<b>)".toList =
          "<p>x <app-generated-link linkHREF=\"`&amp;<b>\">t</app-generated-link></p>\n".toList) ∧
      ("a\"b".toList ≠ [] ∧
        (∀ c ∈ ['\n', '\r', Char.ofNat 0, '\\', ')'], c ∉ "a\"b".toList) ∧
        Marker.Untagged defaultMarker "a\"b".toList ∧
        "a\"b".toList ++ ['"'] = ['a'] ++ '"' :: 'b' :: ['"'] ∧ isBlank 'b' = false ∧
        'b' ∉ ['>', '/'] ∧ "<p>x &lt;".toList <+: html standard "x [t](a\"b)".toList) := by
  have hkept := (html_keeps_unquoted_destination "t".toList "`&amp;<b>".toList (by decide)
    (by decide) (by decide) (by decide) (by decide)).1 (by decide)
  have hshown := (html_keeps_unquoted_destination "t".toList "a\"b".toList (by decide)
    (by decide) (by decide) (by decide) (by decide)).2 ['a'] 'b' ['"']
    (by decide) (by decide) (by decide) (by decide)
  refine ⟨by decide, by decide, ⟨by decide, by decide, by decide, by decide, hkept.trans ?_⟩,
    by decide, by decide, by decide, by decide, by decide, by decide, hshown⟩
  decide

/-- A quote in a destination: its opening tag is text, and so the destination is escaped. -/
theorem quoted_destination_is_escaped :
    (∀ c ∈ ['\n', '\r', Char.ofNat 0, '\\', ')'], c ∉ "a\"b".toList) ∧
      Marker.Untagged defaultMarker "a\"b".toList ∧
      html standard "x [t](a\"b)".toList =
        ("<p>x &lt;app-generated-link linkHREF=&quot;a&quot;b&quot;&gt;t" ++
          "</app-generated-link></p>\n").toList ∧
      html standard "x [t](a\"b)".toList ≠
        "<p>x <app-generated-link linkHREF=\"a\"b\">t</app-generated-link></p>\n".toList := by
  decide +kernel

end MarkdownPages.Fragment
