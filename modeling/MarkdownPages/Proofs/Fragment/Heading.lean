import MarkdownPages.Program
import MarkdownPages.Proofs.Html.Escape
import MarkdownPages.Proofs.Link.Written
import MarkdownPages.Proofs.Markdown.Inline.Bare
import MarkdownPages.Proofs.Markdown.OneLine
import MarkdownPages.Proofs.Marker.Placeholder
import MarkdownPages.Proofs.Site.Markup

/-!
# Fragments that are a heading

A title behind a number sign is a fragment with one heading.  Its anchor is made of what the heading
shows, and the program can print an anchor for what the author wrote: both are the same as long as
the title holds no markup.
-/

namespace MarkdownPages.Fragment

open Text Markdown Anchor

variable {style : LinkStyle} {title s : Text}

/-! ## Titles and their headings -/

theorem exists_trimMargins (s : Text) :
    ∃ lead trail, lead ++ trimMargins s ++ trail = s ∧ (∀ c ∈ lead, isMargin c = true) ∧
      ∀ c ∈ trail, isMargin c = true := by
  have hsplit : trimMargins s ++ (s.dropWhile isMargin).rtakeWhile isMargin = s.dropWhile isMargin :=
    List.rdropWhile_append_rtakeWhile
  refine ⟨s.takeWhile isMargin, (s.dropWhile isMargin).rtakeWhile isMargin, ?_,
    fun c hc => List.mem_takeWhile_imp hc, fun c hc => List.mem_rtakeWhile_imp hc⟩
  rw [List.append_assoc, hsplit, List.takeWhile_append_dropWhile]

theorem exists_dropClosingMarks (s : Text) :
    ∃ dropped, dropClosingMarks s ++ dropped = s ∧ ∀ c ∈ dropped, c ∈ [' ', '\t', '#'] := by
  have hindent : ∀ c ∈ s.rtakeWhile isIndent, c ∈ [' ', '\t', '#'] := by
    intro c hc
    have hchar := List.mem_rtakeWhile_imp hc
    rw [isIndent, Bool.or_eq_true, beq_iff_eq, beq_iff_eq] at hchar
    rcases hchar with rfl | rfl <;> simp
  have hmarks : ∀ c ∈ (trimIndentEnd s).rtakeWhile (· == '#'), c ∈ [' ', '\t', '#'] := by
    intro c hc
    obtain rfl := beq_iff_eq.mp (List.mem_rtakeWhile_imp (p := (· == '#')) hc)
    simp
  have hends : trimIndentEnd s ++ s.rtakeWhile isIndent = s := List.rdropWhile_append_rtakeWhile
  unfold dropClosingMarks
  dsimp only
  split
  · split
    · refine ⟨(trimIndentEnd s).rtakeWhile (· == '#') ++ s.rtakeWhile isIndent, ?_, ?_⟩
      · have hkept : ((trimIndentEnd s).reverse.dropWhile (· == '#')).reverse ++
            (trimIndentEnd s).rtakeWhile (· == '#') = trimIndentEnd s :=
          List.rdropWhile_append_rtakeWhile
        rw [← List.append_assoc, hkept, hends]
      · exact List.forall_mem_append.mpr ⟨hmarks, hindent⟩
    · exact ⟨_, hends, hindent⟩
  · exact ⟨_, hends, hindent⟩

theorem exists_headingText (s : Text) :
    ∃ lead trail, lead ++ headingText s ++ trail = s ∧ (∀ c ∈ lead, isMargin c = true) ∧
      ∀ c ∈ trail, isMargin c = true ∨ c = '#' := by
  obtain ⟨dropped, hdrop, hdropped⟩ := exists_dropClosingMarks s
  obtain ⟨lead, trail, htrim, hlead, htrail⟩ := exists_trimMargins (dropClosingMarks s)
  have hchars : ∀ c ∈ [' ', '\t', '#'], isMargin c = true ∨ c = '#' := by decide
  refine ⟨lead, trail ++ dropped, ?_, hlead, fun c hc => ?_⟩
  · rw [headingText, ← List.append_assoc, htrim, hdrop]
  · rcases List.mem_append.mp hc with hc | hc
    · exact .inl (htrail c hc)
    · exact hchars c (hdropped c hc)

theorem ofHeading_of_margins {lead trail : Text} (hlead : ∀ c ∈ lead, isMargin c = true)
    (htrail : ∀ c ∈ trail, isMargin c = true ∨ c = '#') (s : Text) :
    ofHeading (lead ++ s ++ trail) = ofHeading s := by
  have hblank : ∀ c, isMargin c = true → isBlank c = true := by
    intro c hc
    simp only [isMargin, isWhite, Bool.or_eq_true, Bool.and_eq_true, decide_eq_true_eq,
      beq_iff_eq] at hc
    simp only [isBlank, Bool.or_eq_true, Bool.and_eq_true, decide_eq_true_eq, beq_iff_eq]
    omega
  have hgap : ∀ c ∈ trail, Anchor.IsGap c := by
    intro c hc
    rcases htrail c hc with hmargin | rfl
    · exact isGap_of_isBlank (hblank c hmargin)
    · show letters '#' = ['-']
      decide
  rw [ofHeading_append_of_isGap _ hgap, ofHeading_blank_append fun c hc => hblank c (hlead c hc)]

theorem ofHeading_headingText (s : Text) : ofHeading (headingText s) = ofHeading s := by
  obtain ⟨lead, trail, hsplit, hlead, htrail⟩ := exists_headingText s
  rw [← ofHeading_of_margins hlead htrail, hsplit]

theorem subset_headingText (s : Text) : headingText s ⊆ s := by
  obtain ⟨lead, trail, hsplit, -⟩ := exists_headingText s
  intro c hc
  rw [← hsplit]
  exact List.mem_append_left _ (List.mem_append_right _ hc)

theorem ofHeading_normalizeSource (hreturn : '\r' ∉ s) :
    ofHeading (normalizeSource s) = ofHeading s := by
  rw [normalizeSource, normalizeNewlines_of_notMem hreturn]
  have hblank : isBlank (Char.ofNat 0) = isBlank Html.replacement := by decide
  have hletters : letters (Char.ofNat 0) = letters Html.replacement := by decide
  have hzero : ∀ c : Char, c.toNat = 0 → c = Char.ofNat 0 := fun c hc => by
    rw [← hc, Char.ofNat_toNat]
  refine ofHeading_map _ (fun c => ?_) (fun c => ?_) s
  · split
    · rename_i hc
      rw [hzero c hc, hblank]
    · rfl
  · split
    · rename_i hc
      rw [hzero c hc, hletters]
    · rfl

/-! ## The heading of a title -/

def headingContent (style : LinkStyle) (title : Text) : List Inline :=
  readInline [] (headingText (' ' :: normalizeSource (Link.replaceAll style title)))

theorem ofHeading_headingContent (hreturn : '\r' ∉ title) (hbare : ∀ c ∈ title, IsBare c) :
    ofHeading (titleOf (headingContent style title)) = ofHeading title := by
  have hbracket : '[' ∉ title := fun hmem => hbare _ hmem (by decide)
  have hlinkless : Link.replaceAll style title = title := by
    have happend := Link.replaceWith_append_of_notMem (Link.placeholder style) hbracket []
    rwa [List.append_nil, Link.replaceWith_nil, List.append_nil] at happend
  have hread : ∀ c ∈ headingText (' ' :: normalizeSource title), IsBare c := by
    intro c hc
    rcases List.mem_cons.mp (subset_headingText _ hc) with rfl | hmem
    · decide
    · rw [normalizeSource, normalizeNewlines_of_notMem hreturn, List.mem_map] at hmem
      obtain ⟨d, hd, rfl⟩ := hmem
      split
      · decide
      · exact hbare d hd
  rw [headingContent, hlinkless]
  calc ofHeading (titleOf (readInline [] (headingText (' ' :: normalizeSource title))))
      = ofHeading (headingText (' ' :: normalizeSource title)) :=
        (unescaped_titleOf_readInline hread).ofHeading_eq.symm
    _ = ofHeading (' ' :: normalizeSource title) := ofHeading_headingText _
    _ = ofHeading (normalizeSource title) :=
        ofHeading_blank_append (show ∀ c ∈ [' '], isBlank c = true by decide) _
    _ = ofHeading title := ofHeading_normalizeSource hreturn

theorem isForeign_of_isNameChar (hplain : style.Plain) {c : Char} (hc : LinkStyle.isNameChar c = false)
    (htags : c ∉ Link.tagChars) : Link.IsForeign style c :=
  ⟨LinkStyle.notMem_of_all_isNameChar hplain.element hc,
    LinkStyle.notMem_of_all_isNameChar hplain.hrefAttribute hc,
    LinkStyle.notMem_of_all_isNameChar hplain.marker hc, htags⟩

theorem normalizeSource_title (hplain : style.Plain) (hforeign : Link.IsForeign style '\n')
    (hline : '\n' ∉ title) (hreturn : '\r' ∉ title) :
    normalizeSource (Link.replaceAll style ("# ".toList ++ title)) =
        '#' :: ' ' :: normalizeSource (Link.replaceAll style title) ∧
      '\n' ∉ normalizeSource (Link.replaceAll style title) := by
  have hreturn' : Link.IsForeign style '\r' := isForeign_of_isNameChar hplain (by decide) (by decide)
  constructor
  · rw [Link.replaceAll, Link.replaceWith_append_of_notMem _ (by decide),
      normalizeSource_append (by decide) (by decide)]
    rfl
  · exact notMem_normalizeSource (hforeign.notMem_replaceAll hline) (hreturn'.notMem_replaceAll hreturn)

theorem writeAttribute_anchor (heading : Text) :
    Html.writeAttribute "id".toList (ofHeading heading) =
      " id=\"".toList ++ ofHeading heading ++ ['"'] := by
  have hescape : Html.escape (ofHeading heading) = ofHeading heading := by
    refine Html.escape_of_notMem fun c hc => ?_
    have hcode := ((isAnchor_ofHeading heading).inner c hc).toNat
    refine ⟨?_, ?_, ?_, ?_⟩ <;> rintro rfl <;> exact absurd hcode (by decide)
  rw [Html.writeAttribute, hescape]
  rfl

theorem strip_headingTags (level : Nat) (anchor shown : Text) :
    Marker.strip LinkStyle.defaultMarker
        ('<' :: headingTag level ++ Html.writeAttribute "id".toList anchor ++ ['>'] ++ shown ++
          "</".toList ++ headingTag level ++ ">\n".toList) =
      '<' :: headingTag level ++ Html.writeAttribute "id".toList anchor ++ ['>'] ++
        Marker.strip LinkStyle.defaultMarker shown ++ "</".toList ++ headingTag level ++
          ">\n".toList := by
  have hname : Marker.IsName LinkStyle.defaultMarker := by decide
  have hblank : ' ' ∈ headingTag level ++ Html.writeAttribute "id".toList anchor := by
    simp [Html.writeAttribute]
  have hopen := Marker.strip_bracketed hname
    ((isName_headingTag level).append (Html.notMem_writeAttribute "id".toList anchor))
    (fun heq => absurd (heq ▸ hblank) (by decide)) (fun heq => absurd (heq ▸ hblank) (by decide))
    (shown ++ '<' :: (['/'] ++ headingTag level ++ '>' :: ['\n']))
  have hclose := Marker.strip_bracketed hname
    ((by decide : Marker.IsName ['/']).append (isName_headingTag level))
    (fun heq => absurd (List.cons.inj heq).1 (by decide))
    (fun heq => headingTag_ne_marker level (List.cons.inj heq).2) ['\n']
  have hline : Marker.strip LinkStyle.defaultMarker ['\n'] = ['\n'] :=
    Marker.Untagged.strip_eq hname (by decide)
  have htags : "</".toList = ['<', '/'] ∧ ">\n".toList = ['>', '\n'] := ⟨rfl, rfl⟩
  rw [Marker.strip_append_cons hname (Marker.lt_notMem_tail hname), hclose,
    hline] at hopen
  simpa [htags] using hopen

theorem html_of_heading {markdown : Text} {level : Nat} {heading : Markdown.Heading}
    (hmarker : style.marker = LinkStyle.defaultMarker)
    (h : readBlocksOf (Link.replaceAll style markdown) = [.heading level heading]) :
    html style markdown =
      '<' :: headingTag level ++ Html.writeAttribute "id".toList heading.anchor ++ ['>'] ++
        Marker.strip style.marker (inlineHtml heading.content) ++ "</".toList ++ headingTag level ++
          ">\n".toList := by
  rw [html, toHtml_of_heading h, hmarker, strip_headingTags]

theorem html_title (hplain : style.Plain) (hforeign : Link.IsForeign style '\n')
    (hmarker : style.marker = LinkStyle.defaultMarker) (hline : '\n' ∉ title)
    (hreturn : '\r' ∉ title) :
    html style ("# ".toList ++ title) =
      "<h1 id=\"".toList ++ ofHeading (titleOf (headingContent style title)) ++ "\">".toList ++
        Marker.strip style.marker (inlineHtml (headingContent style title)) ++ "</h1>\n".toList := by
  obtain ⟨hsource, hbehind⟩ := normalizeSource_title hplain hforeign hline hreturn
  have htag : headingTag 1 = "h1".toList := by decide
  rw [html_of_heading hmarker (readBlocksOf_heading hsource hbehind), ← headingContent, htag,
    writeAttribute_anchor]
  simp

/--
A title behind a number sign is one heading, and the anchor of what is read as its content is its
identifier.  If the title holds no character that starts markup, this is what the program prints for
the title as it is written, whatever escapes, blanks and closing number signs it holds.
-/
theorem slug_of_bare_title_is_anchor {σ : Type} (place : Place σ) (files : σ) (hplain : style.Plain)
    (hforeign : Link.IsForeign style '\n') (hmarker : style.marker = LinkStyle.defaultMarker)
    (hline : '\n' ∉ title) (hreturn : '\r' ∉ title) :
    let content := headingContent style title
    let anchor := ofHeading (titleOf content)
    headingsOf (Link.replaceAll style ("# ".toList ++ title)) = [⟨anchor, content⟩] ∧
      html style ("# ".toList ++ title) =
        "<h1 id=\"".toList ++ anchor ++ "\">".toList ++
          Marker.strip style.marker (inlineHtml content) ++ "</h1>\n".toList ∧
      ((∀ c ∈ title, c ∉ "`*_[<&".toList) →
        Program.run place files (.slug title) = ⟨files, [], anchor ++ ['\n'], none⟩) := by
  obtain ⟨hsource, hbehind⟩ := normalizeSource_title hplain hforeign hline hreturn
  refine ⟨?_, html_title hplain hforeign hmarker hline hreturn, fun hmarkup => ?_⟩
  · rw [headingsOf, readBlocksOf_heading hsource hbehind]
    rfl
  · have hbare : ∀ c ∈ title, IsBare c := by
      intro c hc hmem
      rcases List.mem_cons.mp hmem with rfl | hmem
      · exact hline hc
      · exact hmarkup c hc hmem
    rw [Program.run, ofHeading_headingContent hreturn hbare]

theorem slug_of_escaped_title :
    let place := Disk.place (.ofText "/".toList)
    let title := "1. Set-up\\! #".toList
    LinkStyle.standard.Plain ∧ Link.IsForeign LinkStyle.standard '\n' ∧
      LinkStyle.standard.marker = LinkStyle.defaultMarker ∧ '\n' ∉ title ∧ '\r' ∉ title ∧
      (∀ c ∈ title, c ∉ "`*_[<&".toList) ∧
      html LinkStyle.standard ("# ".toList ++ title) =
        "<h1 id=\"id-1-set-up\">1. Set-up!</h1>\n".toList ∧
      Program.run place ⟨[], []⟩ (.slug title) =
        ⟨⟨[], []⟩, [], "id-1-set-up\n".toList, none⟩ := by
  intro place title
  have hforeign : Link.IsForeign LinkStyle.standard '\n' := by decide
  have hmarkup : ∀ c ∈ title, c ∉ "`*_[<&".toList := by decide
  have hanchor : ofHeading (titleOf (headingContent LinkStyle.standard title)) =
      "id-1-set-up".toList := by decide +kernel
  have hshown : Marker.strip LinkStyle.standard.marker
      (inlineHtml (headingContent LinkStyle.standard title)) = "1. Set-up!".toList := by
    decide +kernel
  obtain ⟨-, hhtml, hslug⟩ := slug_of_bare_title_is_anchor place ⟨[], []⟩ LinkStyle.plain_standard
    hforeign rfl (show '\n' ∉ title by decide) (by decide)
  rw [hanchor, hshown] at hhtml
  rw [hanchor] at hslug
  exact ⟨LinkStyle.plain_standard, hforeign, rfl, by decide, by decide, hmarkup, hhtml, hslug hmarkup⟩

/--
Each character that starts markup can make a difference: what the program prints for these titles is
no identifier of their headings.
-/
theorem slug_of_markup_is_no_anchor :
    let titles := ["`a`", "*a*", "_a_", "[a](b)", "<b>a", "a&amp;b"].map String.toList
    titles.map (fun title =>
        (headingsOf (Link.replaceAll LinkStyle.standard ("# ".toList ++ title))).map Heading.anchor) =
      [["a".toList], ["a".toList], ["a".toList], ["a".toList], ["a".toList], ["a-b".toList]] ∧
    titles.map (fun title =>
        (Program.run (Disk.place (.ofText "/".toList)) ⟨[], []⟩ (.slug title)).output) =
      ["-a\n", "-a\n", "-a\n", "-a-b\n", "-b-a\n", "a-amp-b\n"].map String.toList ∧
    html LinkStyle.standard "# *a*".toList = "<h1 id=\"a\"><em>a</em></h1>\n".toList := by
  decide +kernel

end MarkdownPages.Fragment
