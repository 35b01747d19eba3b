import Mathlib.Data.List.TakeWhile
import MarkdownPages.Link
import MarkdownPages.Proofs.Anchor.Shape
import MarkdownPages.Proofs.Markdown.Source
import MarkdownPages.Proofs.Marker.Strip
import MarkdownPages.Proofs.Text.Classes
import MarkdownPages.Proofs.Text.Parts

/-!
# Documents of one line

A line that starts with a letter is a paragraph, a line that starts with number signs and a space is a
heading, and a line that starts with the tag of a structural element is raw HTML, whatever follows.
-/

namespace MarkdownPages.Markdown

open Text

variable {s rest : Text} {c : Char}

/-! ## Lines -/

def flushLine (s : Text) : Line := ⟨[], s, 0, 0, false⟩

theorem lines_cons (hc : isIndent c = false) (hline : '\n' ∉ c :: rest) :
    lines (c :: rest) = [flushLine (c :: rest)] := by
  rw [lines, List.splitOn_eq_singleton hline]
  simp [lines.go, hc, Line.ofText, flushLine, advanceAll]

/-! ## Blocks -/

variable {readQuote readItem : ContainerReader}

/-- A line that starts neither with a mark nor with a digit nor with a bracket starts no block
that is found by its first character alone. -/
structure IsPlainStart (c : Char) : Prop where
  notMark : c ∉ "`~>*-_+[".toList
  notDigit : c.isDigit = false

theorem IsPlainStart.fence_eq (h : IsPlainStart c) : Fence.ofBody? (c :: rest) = none := by
  have hmark := h.notMark
  simp at hmark
  simp [Fence.ofBody?, hmark]

theorem IsPlainStart.isRule_eq (h : IsPlainStart c) : isRule (c :: rest) = false := by
  have hmark := h.notMark
  simp at hmark
  simp [isRule, hmark]

theorem IsPlainStart.marker_eq (h : IsPlainStart c) : Marker.ofBody? (c :: rest) = none := by
  have hmark := h.notMark
  simp at hmark
  simp [Marker.ofBody?, Marker.ordered?, Marker.bullet?, h.notDigit, hmark]

theorem IsPlainStart.definition_eq (h : IsPlainStart c) :
    readDefinition? (c :: rest) = none := by
  have hmark := h.notMark
  simp at hmark
  have hne : '[' ≠ c := fun heq => by simp [← heq] at hmark
  simp [readDefinition?, List.isPrefixOf?, hne]

theorem readBlock_flushLine (h : IsPlainStart c) (defs : Definitions) :
    readBlock readQuote readItem ⟨0, none⟩ defs (flushLine (c :: rest)) [] =
      match Html.BlockKind.ofLine? (c :: rest) with
      | some kind =>
        let (block, after) := readHtml ⟨0, none⟩ kind (flushLine (c :: rest)) []
        (some block, after, defs)
      | none =>
        match readHeading? (c :: rest) with
        | some (level, content) => (some (.heading level content), [], defs)
        | none =>
          let (block, after) := readParagraph ⟨0, none⟩ (flushLine (c :: rest)) []
          (some block, after, defs) := by
  have hcode : (flushLine (c :: rest)).isCode ⟨0, none⟩ = false := rfl
  have hquote : isQuote (flushLine (c :: rest)) = false := by
    have hmark := h.notMark
    simp at hmark
    simp [isQuote, flushLine, hmark]
  have hmarker : listMarker? ⟨0, none⟩ false (flushLine (c :: rest)) = none := by
    simp [listMarker?, flushLine, h.marker_eq]
  have hdefinition : readDefinitionBlock? ⟨0, none⟩ (flushLine (c :: rest)) [] = none := by
    simp [readDefinitionBlock?, definitionLines, Line.bodyWithEnd, flushLine, h.definition_eq]
  have hfence : Fence.ofBody? (flushLine (c :: rest)).body = none := h.fence_eq
  have hrule : isRule (flushLine (c :: rest)).body = false := h.isRule_eq
  simp only [readBlock, hcode, hfence, hquote, hrule, hmarker, hdefinition, Bool.false_eq_true,
    if_false]
  rfl

theorem readDocument_line {block : RawBlock} (hc : isIndent c = false) (hline : '\n' ∉ c :: rest)
    (h : ∀ readQuote readItem, readBlock readQuote readItem ⟨0, none⟩ []
      (flushLine (c :: rest)) [] = (some block, [], [])) :
    readDocument (c :: rest) = ([block], []) := by
  have hblank : [flushLine (c :: rest)].dropWhile Line.isBlank = [flushLine (c :: rest)] := rfl
  have hinside : (flushLine (c :: rest)).isOutdented ⟨0, none⟩ = false := rfl
  rw [readDocument, lines_cons hc hline, show maxDepth = 18 + 2 from rfl]
  simp only [readContents, List.length_singleton]
  rw [readBlocks]
  simp [hblank, hinside, h, readBlocks]

theorem isPlainStart_of_isAlpha (hc : c.isAlpha = true) : IsPlainStart c := by
  have hletter := hc
  rw [isAlpha_iff] at hc
  constructor
  · intro hmem
    have hmarks : ∀ d ∈ "`~>*-_+[".toList, d.isAlpha = false := by decide
    simp [hmarks c hmem] at hletter
  · rw [Bool.eq_false_iff, Ne, isDigit_iff]
    omega

theorem isIndent_of_isAlpha (hc : c.isAlpha = true) : isIndent c = false := by
  rw [isIndent, Bool.or_eq_false_iff, beq_eq_false_iff_ne, beq_eq_false_iff_ne]
  constructor <;> rintro rfl <;> exact absurd hc (by decide)

theorem dedent_flushLine (s : Text) : (flushLine s).dedent 0 = s := by
  simp [Line.dedent, Line.dropColumns, flushLine]

theorem isMargin_of_isAlphanum (hc : c.isAlphanum = true) : isMargin c = false := by
  rw [isAlphanum_iff] at hc
  simp only [isMargin, isWhite, Bool.or_eq_false_iff, Bool.and_eq_false_iff, decide_eq_false_iff_not,
    beq_eq_false_iff_ne]
  omega

theorem isMargin_of_isAlpha (hc : c.isAlpha = true) : isMargin c = false :=
  isMargin_of_isAlphanum (isAlphanum_of_isAlpha hc)

theorem trimMargins_eq {s : Text} (hfirst : ∀ c ∈ s.head?, isMargin c = false)
    (hlast : ∀ c ∈ s.getLast?, isMargin c = false) : trimMargins s = s := by
  have hkept : ∀ t : Text, (∀ c ∈ t.head?, isMargin c = false) → t.dropWhile isMargin = t := by
    intro t ht
    cases t with
    | nil => rfl
    | cons c t => simp [ht c rfl]
  rw [trimMargins, hkept s hfirst, hkept s.reverse (by simpa using hlast), List.reverse_reverse]

theorem trimMargins_append {d : Char} (hc : isMargin c = false) (hd : isMargin d = false)
    (s : Text) : trimMargins (c :: (s ++ [d])) = c :: (s ++ [d]) := by
  refine trimMargins_eq (by simpa using hc) ?_
  rw [← List.cons_append, List.getLast?_concat]
  simpa using hd

theorem readDocument_letter (hc : c.isAlpha = true) (hline : '\n' ∉ c :: rest) :
    readDocument (c :: rest) = ([.paragraph (trimMargins (c :: rest))], []) := by
  refine readDocument_line (isIndent_of_isAlpha hc) hline fun _ _ => ?_
  have htag : Html.BlockKind.ofLine? (c :: rest) = none := by
    unfold Html.BlockKind.ofLine?
    split
    · rename_i heq
      obtain ⟨rfl, -⟩ := List.cons.inj heq
      exact absurd hc (by decide)
    · rfl
  have hheading : readHeading? (c :: rest) = none := by
    have hmark : c ≠ '#' := by
      rintro rfl
      exact absurd hc (by decide)
    simp [readHeading?, hmark]
  rw [readBlock_flushLine (isPlainStart_of_isAlpha hc), htag, hheading]
  simp [readParagraph, underline?, paragraphLines, dedentBetween, dedent_flushLine]

theorem readDocument_tag {kind : Html.BlockKind} (hline : '\n' ∉ '<' :: rest)
    (hkind : Html.BlockKind.ofLine? ('<' :: rest) = some kind) :
    readDocument ('<' :: rest) = ([.html ('<' :: rest)], []) := by
  refine readDocument_line (by decide) hline fun _ _ => ?_
  rw [readBlock_flushLine ⟨by decide, by decide⟩, hkind]
  have hended : (flushLine ('<' :: rest)).ended = false := rfl
  simp [readHtml, htmlExtent, dedentAll, dedent_flushLine, hended]

def headingText (behind : Text) : Text := trimMargins (dropClosingMarks behind)

def headingLine (level : Nat) (rest : Text) : Text := List.replicate level '#' ++ ' ' :: rest

variable {level : Nat}

theorem readHeading?_headingLine (hlow : 1 ≤ level) (hhigh : level ≤ 6) (rest : Text) :
    readHeading? (headingLine level rest) = some (level, headingText (' ' :: rest)) := by
  have hmarks : ∀ c ∈ List.replicate level '#', (c == '#') = true := by simp
  have hlevel : ((headingLine level rest).takeWhile (· == '#')).length = level := by
    rw [headingLine, List.takeWhile_append_of_pos hmarks, List.takeWhile_cons_of_neg (by decide),
      List.append_nil, List.length_replicate]
  have hbehind : (headingLine level rest).drop level = ' ' :: rest :=
    List.drop_left' List.length_replicate
  simp only [readHeading?, hlevel, hbehind]
  exact if_pos ⟨hlow, hhigh, rfl⟩

theorem readDocument_headingLine (hlow : 1 ≤ level) (hhigh : level ≤ 6) (hline : '\n' ∉ rest) :
    readDocument (headingLine level rest) = ([.heading level (headingText (' ' :: rest))], []) := by
  have hread := readHeading?_headingLine hlow hhigh rest
  have hline' : '\n' ∉ headingLine level rest := by simp [headingLine, hline]
  obtain ⟨marks, rfl⟩ := Nat.exists_eq_add_of_le' hlow
  have hcons : headingLine (marks + 1) rest = '#' :: (List.replicate marks '#' ++ ' ' :: rest) := rfl
  rw [hcons] at hread hline' ⊢
  refine readDocument_line (by decide) hline' fun _ _ => ?_
  have htag : Html.BlockKind.ofLine? ('#' :: (List.replicate marks '#' ++ ' ' :: rest)) = none := rfl
  rw [readBlock_flushLine ⟨by decide, by decide⟩, htag, hread]

/-! ## HTML -/

variable {source : Text}

theorem readBlocksOf_eq {text : Text} {blocks : List RawBlock} {defs : Definitions}
    (hsource : normalizeSource source = text) (h : readDocument text = (blocks, defs)) :
    readBlocksOf source =
      (Block.mapHeadingsAll anchorHeading []
        (Block.mapAll (readInline defs) (readInline defs) blocks)).1 := by
  unfold readBlocksOf
  rw [hsource, h]

theorem blocksHtml_singleton (b : DocBlock) :
    blocksHtml false false [b] = blockHtml false false b := List.append_nil _

theorem toHtml_letter (hsource : normalizeSource source = c :: rest) (hc : c.isAlpha = true)
    (hline : '\n' ∉ c :: rest) :
    toHtml source =
      "<p>".toList ++ inlineHtml (readInline [] (trimMargins (c :: rest))) ++ "</p>\n".toList := by
  have hblocks : readBlocksOf source = [.paragraph (readInline [] (trimMargins (c :: rest)))] := by
    rw [readBlocksOf_eq hsource (readDocument_letter hc hline)]
    rfl
  rw [toHtml, hblocks, blocksHtml_singleton]
  rfl

theorem isName_headingTag (level : Nat) : MarkdownPages.Marker.IsName (headingTag level) := by
  constructor <;>
  · rw [headingTag, List.mem_cons, not_or]
    refine ⟨by decide, fun hmem => ?_⟩
    exact absurd (Anchor.isDigit_of_mem_ofNat hmem) (by decide)

theorem headingTag_ne_marker (level : Nat) : headingTag level ≠ LinkStyle.defaultMarker := by
  intro heq
  have hdigits : Text.ofNat level = ['t', 'm', 'l'] := (List.cons.inj heq).2
  have hmem : 't' ∈ Text.ofNat level := by simp [hdigits]
  exact absurd (Anchor.isDigit_of_mem_ofNat hmem) (by decide)

theorem readBlocksOf_headingLine (hlow : 1 ≤ level) (hhigh : level ≤ 6)
    (hsource : normalizeSource source = headingLine level rest) (hline : '\n' ∉ rest) :
    let content := readInline [] (headingText (' ' :: rest))
    readBlocksOf source = [.heading level ⟨Anchor.ofHeading (titleOf content), content⟩] := by
  rw [readBlocksOf_eq hsource (readDocument_headingLine hlow hhigh hline)]
  rfl

theorem toHtml_of_heading {heading : Heading} (h : readBlocksOf source = [.heading level heading]) :
    toHtml source =
      '<' :: headingTag level ++ Html.writeAttribute "id".toList heading.anchor ++ ['>'] ++
        inlineHtml heading.content ++ "</".toList ++ headingTag level ++ ">\n".toList := by
  rw [toHtml, h, blocksHtml_singleton]
  rfl

theorem readBlocksOf_heading (hsource : normalizeSource source = '#' :: ' ' :: rest)
    (hline : '\n' ∉ rest) :
    let content := readInline [] (headingText (' ' :: rest))
    readBlocksOf source = [.heading 1 ⟨Anchor.ofHeading (titleOf content), content⟩] :=
  readBlocksOf_headingLine (Nat.le_refl 1) (by decide) hsource hline

theorem toHtml_tag {kind : Html.BlockKind} (hsource : normalizeSource source = '<' :: rest)
    (hline : '\n' ∉ '<' :: rest) (hkind : Html.BlockKind.ofLine? ('<' :: rest) = some kind) :
    toHtml source = '<' :: rest := by
  have hblocks : readBlocksOf source = [.html ('<' :: rest)] := by
    rw [readBlocksOf_eq hsource (readDocument_tag hline hkind)]
    rfl
  rw [toHtml, hblocks, blocksHtml_singleton]
  rfl

end MarkdownPages.Markdown
