import MarkdownPages.Proofs.Fragment.Heading
import MarkdownPages.Proofs.Fragment.Prose

/-!
# Headings with links

A heading of prose shows its links as placeholders, but nothing of their tags and destinations gets
into its anchor.  Where the text of each link stands for the link, the anchor of the heading is that
of the line.
-/

namespace MarkdownPages.Fragment

open Text Link LinkStyle Markdown Anchor

variable {cut : Cut} {lead body trail s rest : Text} {c : Char} {level : Nat}

/-! ## Prose without its ends -/

theorem exists_of_append_eq_append_cons (hc : c ∉ lead) (h : lead ++ body = s ++ c :: rest) :
    ∃ middle, s = lead ++ middle ∧ body = middle ++ c :: rest := by
  rcases List.append_eq_append_iff.mp h with ⟨middle, hs, hbody⟩ | ⟨middle, hlead, hrest⟩
  · exact ⟨middle, hs, hbody⟩
  · cases middle with
    | nil => exact ⟨[], by simpa using hlead.symm, by simpa using hrest.symm⟩
    | cons d middle =>
        obtain rfl : c = d := (List.cons.inj hrest).1
        exact absurd (by simp [hlead]) hc

theorem exists_of_append_eq_append (hc : c ∉ trail) (h : body ++ trail = s ++ [c] ++ rest) :
    ∃ middle, rest = middle ++ trail ∧ body = s ++ [c] ++ middle := by
  have hreverse : trail.reverse ++ body.reverse = rest.reverse ++ c :: s.reverse := by
    simpa using congrArg List.reverse h
  obtain ⟨middle, hrest, hbody⟩ :=
    exists_of_append_eq_append_cons (by simpa using hc) hreverse
  exact ⟨middle.reverse, by simpa using congrArg List.reverse hrest,
    by simpa using congrArg List.reverse hbody⟩

theorem IsPlain.of_infix (h : IsPlain s) (hpart : body <:+: s) : IsPlain body :=
  fun c hc => h c (hpart.subset hc)

theorem IsProse.exists_behind (h : IsProse cut) (hlead : '<' ∉ lead)
    (heq : lead ++ body = cut.fill (placeholder standard)) :
    ∃ shown, IsProse shown ∧ ∀ write, cut.fill write = lead ++ shown.fill write := by
  cases cut with
  | last gap =>
      have hgap : IsPlain gap := h
      exact ⟨.last body, hgap.of_infix ⟨lead, [], by simpa [Cut.fill] using heq⟩, fun _ => heq.symm⟩
  | next gap link rest =>
      obtain ⟨hgap, hlink, hrest⟩ := h
      rw [Cut.fill, hlink.placeholder_eq, List.append_assoc, List.cons_append] at heq
      obtain ⟨middle, rfl, -⟩ := exists_of_append_eq_append_cons hlead heq
      exact ⟨.next middle link rest, ⟨hgap.of_infix (List.suffix_append _ _).isInfix, hlink, hrest⟩,
        fun _ => by simp [Cut.fill]⟩

theorem IsProse.exists_before (h : IsProse cut) (htrail : '>' ∉ trail)
    (heq : body ++ trail = cut.fill (placeholder standard)) :
    ∃ shown, IsProse shown ∧ ∀ write, cut.fill write = shown.fill write ++ trail := by
  induction cut generalizing body with
  | last gap =>
      have hgap : IsPlain gap := h
      exact ⟨.last body, hgap.of_infix ⟨[], trail, by simpa [Cut.fill] using heq⟩, fun _ => heq.symm⟩
  | next gap link rest ih =>
      obtain ⟨hgap, hlink, hrest⟩ := h
      rw [Cut.fill, placeholder, ← List.append_assoc gap] at heq
      obtain ⟨middle, hmiddle, -⟩ := exists_of_append_eq_append htrail heq
      obtain ⟨shown, hshown, hfill⟩ := ih hrest hmiddle.symm
      exact ⟨.next gap link shown, ⟨hgap, hlink, hshown⟩, fun write => by simp [Cut.fill, hfill]⟩

/-! ## Headings of prose -/

theorem titleOf_append (es es' : List Inline) : titleOf (es ++ es') = titleOf es ++ titleOf es' :=
  List.flatMap_append

theorem titleOf_gapElements (gap : Text) : titleOf (gapElements gap) = gap := by
  cases gap with
  | nil => rfl
  | cons c gap => simp [gapElements, titleOf, Inline.toTitle]

theorem titleOf_linkElements (link : Link) : titleOf (linkElements link) = link.text := by
  simp [linkElements, titleOf, Inline.toTitle]

theorem titleOf_proseElements (cut : Cut) : titleOf (proseElements cut) = cut.fill Link.text := by
  induction cut with
  | last gap => exact titleOf_gapElements gap
  | next gap link rest ih =>
      rw [proseElements, titleOf_append, titleOf_append, titleOf_gapElements, titleOf_linkElements,
        ih, Cut.fill, List.append_assoc]

theorem IsProse.cons_space (h : IsProse cut) : IsProse (cut.cons ' ') := by
  have hspace : endsPlain ' ' = false ∧ ' ' ∉ ['"', '\r', Char.ofNat 0] := by decide
  cases cut with
  | last gap => exact List.forall_mem_cons.mpr ⟨hspace, h⟩
  | next gap link rest => exact ⟨List.forall_mem_cons.mpr ⟨hspace, h.1⟩, h.2⟩

theorem IsProse.exists_shown (h : IsProse cut) :
    ∃ lead shown trail, IsProse shown ∧
      headingText (' ' :: cut.fill (placeholder standard)) = shown.fill (placeholder standard) ∧
      (∀ write, ' ' :: cut.fill write = lead ++ shown.fill write ++ trail) ∧
      (∀ c ∈ lead, isMargin c = true) ∧ ∀ c ∈ trail, isMargin c = true ∨ c = '#' := by
  obtain ⟨lead, trail, hsplit, hlead, htrail⟩ :=
    exists_headingText (' ' :: cut.fill (placeholder standard))
  have hopen : '<' ∉ lead := fun hmem => absurd (hlead _ hmem) (by decide)
  have hclose : '>' ∉ trail := fun hmem => absurd (htrail _ hmem) (by decide)
  rw [← Cut.fill_cons] at hsplit
  obtain ⟨first, hfirst, hbehind⟩ :=
    h.cons_space.exists_behind hopen ((List.append_assoc _ _ _).symm.trans hsplit)
  have hbody : headingText ((cut.cons ' ').fill (placeholder standard)) ++ trail =
      first.fill (placeholder standard) := by
    rwa [hbehind, List.append_assoc, List.append_cancel_left_eq, ← hbehind] at hsplit
  obtain ⟨shown, hshown, hbefore⟩ := hfirst.exists_before hclose hbody
  refine ⟨lead, shown, trail, hshown, ?_, fun write => ?_, hlead, htrail⟩
  · rw [hbefore, List.append_cancel_right_eq] at hbody
    rw [← hbody, Cut.fill_cons]
  · rw [← Cut.fill_cons, hbehind, hbefore, List.append_assoc]

theorem IsProse.readBlocksOf_headingLine (h : IsProse cut) (hlow : 1 ≤ level) (hhigh : level ≤ 6) :
    ∃ lead shown trail, IsProse shown ∧
      (∀ write, ' ' :: cut.fill write = lead ++ shown.fill write ++ trail) ∧
      (∀ c ∈ lead, isMargin c = true) ∧ (∀ c ∈ trail, isMargin c = true ∨ c = '#') ∧
      readBlocksOf (replaceAll standard (headingLine level cut.source)) =
        [.heading level ⟨ofHeading (cut.fill Link.text), proseElements shown⟩] := by
  obtain ⟨lead, shown, trail, hshown, htext, hfill, hlead, htrail⟩ := h.exists_shown
  refine ⟨lead, shown, trail, hshown, hfill, hlead, htrail, ?_⟩
  have hmarks : '[' ∉ List.replicate level '#' ++ [' '] := by simp
  have hreplaced : replaceAll standard (headingLine level cut.source) =
      headingLine level (cut.fill (placeholder standard)) := by
    have happend : replaceAll standard ((List.replicate level '#' ++ [' ']) ++ cut.source) =
        (List.replicate level '#' ++ [' ']) ++ replaceAll standard cut.source :=
      replaceWith_append_of_notMem _ hmarks _
    rw [h.replaceAll_eq] at happend
    simpa [headingLine] using happend
  have hsource : normalizeSource (headingLine level (cut.fill (placeholder standard))) =
      headingLine level (cut.fill (placeholder standard)) := by
    refine normalizeSource_of_notMem ?_ ?_
    · simp [headingLine, h.notMem_fill]
    · simp [headingLine, h.notMem_fill]
  have hanchor : ofHeading (titleOf (proseElements shown)) = ofHeading (cut.fill Link.text) :=
    calc ofHeading (titleOf (proseElements shown))
        = ofHeading (lead ++ shown.fill Link.text ++ trail) := by
          rw [titleOf_proseElements, ofHeading_of_margins hlead htrail]
      _ = ofHeading (cut.fill Link.text) := by
          rw [← hfill]
          exact ofHeading_blank_append (show ∀ c ∈ [' '], isBlank c = true by decide) _
  rw [hreplaced, Markdown.readBlocksOf_headingLine hlow hhigh hsource (h.notMem_fill (.head _)),
    htext, readInline_prose [] hshown, hanchor]

/-! ## A link between words -/

def IsWords (s : Text) : Prop := ∀ c ∈ s, c.isAlphanum = true ∨ c = ' '

instance (s : Text) : Decidable (IsWords s) := decidableForallMem s

theorem IsWords.isPlain (h : IsWords s) : IsPlain s := by
  intro c hc
  rcases h c hc with halnum | rfl
  · have hsingle : IsPlain [c] := isPlain_of_all_isAlphanum (by simp [halnum])
    exact hsingle c (.head _)
  · decide

theorem IsWords.notMem (h : IsWords s) (hc : c.isAlphanum = false) (hspace : c ≠ ' ') : c ∉ s := by
  intro hmem
  rcases h c hmem with halnum | rfl
  · simp [hc] at halnum
  · exact hspace rfl

theorem eq_space_of_isMargin (h : c.isAlphanum = true ∨ c = ' ') (hc : isMargin c = true ∨ c = '#') :
    c = ' ' := by
  refine h.resolve_left fun halnum => ?_
  rcases hc with hmargin | rfl
  · rw [isMargin_of_isAlphanum halnum] at hmargin
    cases hmargin
  · exact absurd halnum (by decide)

theorem isPlainLink_of_isWords {text destination : Text} (htext : IsWords text) (hne : text ≠ [])
    (hdestination : destination ≠ [])
    (hchars : ∀ c ∈ ['\n', '\r', Char.ofNat 0, '\\', ')', '"'], c ∉ destination) :
    IsPlainLink ⟨text, destination⟩ where
  valid :=
    { text_units := units_of_notMem (htext.notMem (by decide) (by decide))
        (htext.notMem (by decide) (by decide)) (htext.notMem (by decide) (by decide))
      text_ne_nil := hne
      destination_units :=
        units_of_notMem (hchars _ (by simp)) (hchars _ (by simp)) (hchars _ (by simp))
      destination_ne_nil := hdestination }
  text := htext.isPlain
  destination := by
    have hall : ∀ c ∈ ['"', '\r', Char.ofNat 0], c ∈ ['\n', '\r', Char.ofNat 0, '\\', ')', '"'] := by
      decide
    exact fun c hc => hchars c (hall c hc)

/--
A link between words behind one to six number signs.  The line is one heading of that level, whatever
the destination holds, and its identifier is made of the words and the text of the link alone.  It
shows what stands behind the number signs without the spaces around it.
-/
theorem destination_stays_out_of_anchor {before text destination after : Text}
    (hbefore : IsWords before) (htext : IsWords text) (hafter : IsWords after) (hne : text ≠ [])
    (hdestination : destination ≠ [])
    (hchars : ∀ c ∈ ['\n', '\r', Char.ofNat 0, '\\', ')', '"'], c ∉ destination)
    (hlow : 1 ≤ level) (hhigh : level ≤ 6) :
    let line := List.replicate level '#' ++
      ' ' :: (before ++ ('[' :: text ++ ']' :: '(' :: destination ++ [')']) ++ after)
    let anchor := ofHeading (before ++ text ++ after)
    ∃ lead content trail,
      lead ++ inlineHtml content ++ trail =
        ' ' :: (before ++ placeholder standard ⟨text, destination⟩ ++ after) ∧
      (∀ c ∈ lead ++ trail, c = ' ') ∧
      readBlocksOf (replaceAll standard line) = [.heading level ⟨anchor, content⟩] ∧
      html standard line =
        '<' :: headingTag level ++ " id=\"".toList ++ anchor ++ "\">".toList ++
          Marker.strip standard.marker (inlineHtml content) ++ "</".toList ++ headingTag level ++
            ">\n".toList := by
  intro line anchor
  have hprose : IsProse (.next before ⟨text, destination⟩ (.last after)) :=
    ⟨hbefore.isPlain, isPlainLink_of_isWords htext hne hdestination hchars, hafter.isPlain⟩
  obtain ⟨lead, shown, trail, hshown, hfill, hlead, htrail, hblocks⟩ :=
    hprose.readBlocksOf_headingLine hlow hhigh
  have hheading : readBlocksOf (replaceAll standard line) =
      [.heading level ⟨anchor, proseElements shown⟩] := hblocks
  refine ⟨lead, proseElements shown, trail, ?_, fun c hc => ?_, hheading, ?_⟩
  · rw [inlineHtml_proseElements hshown]
    exact (hfill _).symm
  · -- With nothing in the place of the link, the ends are seen to be made of the words.
    have hwords : ' ' :: (before ++ [] ++ after) = lead ++ shown.fill (fun _ => []) ++ trail :=
      hfill fun _ => []
    have hmem : c ∈ ' ' :: (before ++ [] ++ after) := by
      rw [hwords, List.append_assoc, List.mem_append, List.mem_append]
      exact (List.mem_append.mp hc).imp_right .inr
    refine eq_space_of_isMargin ?_ ?_
    · simp only [List.append_nil, List.mem_cons, List.mem_append] at hmem
      rcases hmem with rfl | hmem | hmem
      · exact .inr rfl
      · exact hbefore c hmem
      · exact hafter c hmem
    · exact (List.mem_append.mp hc).elim (fun hc => .inl (hlead c hc)) (htrail c)
  · have hattribute : Html.writeAttribute "id".toList anchor =
        " id=\"".toList ++ anchor ++ ['"'] := writeAttribute_anchor _
    have hhtml := html_of_heading rfl hheading
    rw [hattribute] at hhtml
    simpa using hhtml

/-- The destination holds a marker tag, a code span, a character reference and more brackets. -/
theorem anchor_of_heading_with_crowded_link :
    let line := "### 1 see [the  docs](a(`<html>*b*`&amp;[c]#)  ".toList
    ∃ content,
      readBlocksOf (replaceAll standard line) = [.heading 3 ⟨"id-1-see-the-docs".toList, content⟩] ∧
      html standard line =
        "<h3 id=\"id-1-see-the-docs\">".toList ++ Marker.strip standard.marker (inlineHtml content) ++
          "</h3>\n".toList := by
  intro line
  have hline : line = List.replicate 3 '#' ++ ' ' :: ("1 see ".toList ++ ('[' :: "the  docs".toList ++
      ']' :: '(' :: "a(`<html>*b*`&amp;[c]#".toList ++ [')']) ++ "  ".toList) := by
    decide
  have hanchor : ofHeading ("1 see ".toList ++ "the  docs".toList ++ "  ".toList) =
      "id-1-see-the-docs".toList := by decide +kernel
  obtain ⟨lead, content, trail, -, -, hheading, hhtml⟩ :=
    destination_stays_out_of_anchor (show IsWords "1 see ".toList by decide)
      (show IsWords "the  docs".toList by decide) (show IsWords "  ".toList by decide) (by decide)
      (show "a(`<html>*b*`&amp;[c]#".toList ≠ [] by decide) (by decide)
      (show 1 ≤ 3 by decide) (by decide)
  rw [← hline, hanchor] at hheading hhtml
  rw [show headingTag 3 = "h3".toList by decide] at hhtml
  exact ⟨content, hheading, by simpa using hhtml⟩

end MarkdownPages.Fragment
