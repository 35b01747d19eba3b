import MarkdownPages.Proofs.Anchor.Shape
import MarkdownPages.Proofs.Html.Escape
import MarkdownPages.Proofs.Link.Clear
import MarkdownPages.Proofs.Markdown.Block.Holds
import MarkdownPages.Proofs.Markdown.Inline.RawHtml
import MarkdownPages.Proofs.Markdown.OneLine

/-!
# HTML put together

The HTML of a document is put together of escaped texts, of tags that are written around them, and of
raw HTML.  So a property of texts that may stand side by side holds of the whole if it holds of these.
-/

namespace MarkdownPages.Markdown

open Text Link LinkStyle MarkdownPages.Marker

/--
Tags that are written around texts, and what stands on their line: no marker tags, and none whose name
starts with `n`.
-/
structure IsMarkup (s : Text) : Prop where
  untagged : Untagged defaultMarker s
  leads : ∀ lead ∈ leads, ¬ lead <:+: s
  opened : '>' ∉ s.takeWhile (· != '<')
  last : ∀ c ∈ s.getLast?, c ∈ ['>', '\n']

instance (s : Text) : Decidable (IsMarkup s) :=
  decidable_of_iff (Untagged defaultMarker s ∧ (∀ lead ∈ leads, ¬ lead <:+: s) ∧
    '>' ∉ s.takeWhile (· != '<') ∧ ∀ c ∈ s.getLast?, c ∈ ['>', '\n'])
    ⟨fun ⟨h₁, h₂, h₃, h₄⟩ => ⟨h₁, h₂, h₃, h₄⟩, fun ⟨h₁, h₂, h₃, h₄⟩ => ⟨h₁, h₂, h₃, h₄⟩⟩

/-- A property of markup and of escaped texts that is kept when two texts are put together. -/
structure Composes (P : Text → Prop) : Prop where
  markup : ∀ s, IsMarkup s → P s
  escaped : ∀ s, '<' ∉ s → '>' ∉ s → P s
  append : ∀ s t, P s → P t → P (s ++ t)

variable {P : Text → Prop} {s inner text content : Text}

/-! ## Tags -/

theorem isMarkup_tag (hinner : IsName inner) (hopen : inner ≠ defaultMarker)
    (hclose : inner ≠ '/' :: defaultMarker) (hleads : ∀ lead ∈ leads, ¬ lead.tail <+: inner) :
    IsMarkup ('<' :: (inner ++ ['>'])) := by
  have hinside : '<' ∉ inner ++ ['>'] := by simpa using hinner.1
  have hstart : ∀ word, word.head? = some '<' → word <:+: '<' :: (inner ++ ['>']) →
      word.tail <+: inner ++ ['>'] := by
    intro word hhead hin
    obtain ⟨tail, rfl⟩ := List.head?_eq_some_iff.mp hhead
    rcases List.infix_cons_iff.mp hin with hlead | hin
    · exact (List.cons_prefix_cons.mp hlead).2
    · exact absurd (hin.subset (.head _)) hinside
  constructor
  · intro tag htag hin
    obtain ⟨word, rfl, -⟩ := htag.exists_inner (by decide)
    have hlead := hstart _ rfl hin
    rcases List.prefix_concat_iff.mp hlead with heq | hshort
    · obtain rfl : word = inner := List.append_cancel_right heq
      exact (htag.inner_eq).elim hopen hclose
    · exact hinner.2 (hshort.subset (by simp))
  · intro lead hmem hin
    have hchars : ∀ lead ∈ leads, lead.head? = some '<' ∧ '>' ∉ lead.tail := by decide
    obtain ⟨hhead, hnot⟩ := hchars lead hmem
    rcases List.prefix_concat_iff.mp (hstart lead hhead hin) with heq | hshort
    · exact hnot (by simp [heq])
    · exact hleads lead hmem hshort
  · simp
  · rw [← List.cons_append, List.getLast?_concat]
    exact fun c hc => Option.some.inj hc ▸ .head _

theorem isName_writeAttribute (name value : Text) : IsName (Html.writeAttribute name value) :=
  Html.notMem_writeAttribute name value

theorem blank_mem_writeAttribute (name value : Text) : ' ' ∈ Html.writeAttribute name value := by
  simp [Html.writeAttribute]

theorem isName_titleAttribute (title : Text) :
    IsName (if title.isEmpty then [] else Html.writeAttribute "title".toList title) := by
  split
  · decide
  · exact isName_writeAttribute _ title

namespace Composes

variable (h : Composes P)
include h

theorem openTag (name ending : Text) {attributes close behind : Text}
    (hclose : close = ending ++ '>' :: behind) (hname : IsName name)
    (hstart : ∀ c ∈ name.head?, c ∉ ['<', '/', 'n']) (hne : name ≠ [])
    (hattributes : IsName attributes) (hblank : ' ' ∈ attributes) (hending : IsName ending)
    (hbehind : P behind) : P ('<' :: (name ++ attributes ++ close)) := by
  have hinner : ' ' ∈ name ++ attributes ++ ending :=
    List.mem_append_left _ (List.mem_append_right _ hblank)
  have hleads : ∀ lead ∈ leads, ¬ lead.tail <+: name ++ attributes ++ ending := by
    intro lead hmem hlead
    have hheads : ∀ lead ∈ leads, ∃ c ∈ lead.tail.head?, c ∈ ['<', '/', 'n'] := by simp [leads]
    obtain ⟨c, hc, hchar⟩ := hheads lead hmem
    obtain ⟨tail, htail⟩ := List.head?_eq_some_iff.mp hc
    obtain ⟨d, name, rfl⟩ := List.exists_cons_of_ne_nil hne
    rw [htail] at hlead
    obtain rfl := (List.cons_prefix_cons.mp hlead).1
    exact hstart c rfl hchar
  have htag : P ('<' :: (name ++ attributes ++ ending ++ ['>'])) := by
    refine h.markup _ (isMarkup_tag ((hname.append hattributes).append hending) ?_ ?_ hleads) <;>
    · intro heq
      rw [heq] at hinner
      exact absurd hinner (by decide)
  simpa [hclose] using h.append _ _ htag hbehind

theorem nil : P [] := h.markup [] (by decide)

theorem escape (s : Text) : P (Html.escape s) :=
  h.escaped _ (Html.lt_not_mem_escape s) (Html.gt_notMem_escape s)

theorem flatMap {α : Type} {f : α → Text} {xs : List α} (hxs : ∀ a ∈ xs, P (f a)) :
    P (xs.flatMap f) := by
  induction xs with
  | nil => exact h.nil
  | cons a xs ih =>
      rw [List.forall_mem_cons] at hxs
      rw [List.flatMap_cons]
      exact h.append _ _ hxs.1 (ih hxs.2)

/-! ## Elements -/

theorem inline {e : Inline} (hraw : ∀ content, e = .html content → P content) : P e.toHtml := by
  cases e with
  | text content => exact h.escape content
  | code content =>
      exact h.append _ _ (h.append _ _ (h.markup _ (by decide)) (h.escape content))
        (h.markup _ (by decide))
  | softBreak => exact h.markup _ (by decide)
  | hardBreak => exact h.markup _ (by decide)
  | html content => exact hraw content rfl
  | emphasisStart strong => cases strong <;> exact h.markup _ (by decide)
  | emphasisEnd strong => cases strong <;> exact h.markup _ (by decide)
  | linkStart target =>
      have hhref := isName_writeAttribute "href".toList target.href
      have hblank := blank_mem_writeAttribute "href".toList target.href
      exact h.openTag ['a'] [] rfl (by decide) (by decide) (by decide)
        (hhref.append (isName_titleAttribute target.title)) (List.mem_append_left _ hblank)
        (by decide) h.nil
  | linkEnd => exact h.markup _ (by decide)
  | image target description =>
      have hsrc := isName_writeAttribute "src".toList target.href
      have halt := isName_writeAttribute "alt".toList description
      have hblank := blank_mem_writeAttribute "src".toList target.href
      exact h.openTag ['i', 'm', 'g'] [' ', '/'] rfl (by decide) (by decide) (by decide)
        ((hsrc.append halt).append (isName_titleAttribute target.title))
        (List.mem_append_left _ (List.mem_append_left _ hblank)) (by decide) h.nil

theorem readInline (defs : Definitions) (hraw : ∀ content, IsRawHtmlOf text content → P content) :
    P (inlineHtml (readInline defs text)) := by
  refine h.flatMap fun e he => h.inline ?_
  rintro content rfl
  exact hraw content (readInline_elements defs text _ he)

/-! ## Blocks -/

theorem startLine (afterBare : Bool) : P (blockHtml.startLine afterBare) := by
  cases afterBare <;> exact h.markup _ (by decide)

theorem containerGap (tight : Bool) (bs : List DocBlock) : P (containerGap tight bs) := by
  unfold Markdown.containerGap
  split
  · exact h.nil
  · split <;> exact h.markup _ (by decide)

theorem codeHtml (content : Text) : P (Html.escape content ++ "</code></pre>\n".toList) :=
  h.append _ _ (h.escape content) (h.markup _ (by decide))

theorem codeTag {attributes : Text} (hattributes : IsName attributes) (hblank : ' ' ∈ attributes) :
    P ("<pre><code".toList ++ attributes ++ ['>']) := by
  have hcode := h.openTag ['c', 'o', 'd', 'e'] [] rfl (by decide) (by decide) (by decide)
    hattributes hblank (by decide) h.nil
  exact h.append ['<', 'p', 'r', 'e', '>'] _ (h.markup _ (by decide)) hcode

theorem fenceHtml (info content : Text) : P (fenceHtml info content) := by
  unfold Markdown.fenceHtml
  dsimp only
  rw [List.append_assoc _ (Html.escape content)]
  refine h.append _ _ ?_ (h.codeHtml content)
  split
  · exact h.markup _ (by decide)
  · exact h.codeTag (isName_writeAttribute _ _) (blank_mem_writeAttribute _ _)

theorem listOpenTag (kind : ListKind) : P (listOpenTag kind) := by
  cases kind with
  | bullet => exact h.markup _ (by decide)
  | ordered start =>
      unfold Markdown.listOpenTag
      dsimp only
      split
      · exact h.markup _ (by decide)
      · exact h.openTag ['o', 'l'] [] rfl (by decide) (by decide) (by decide)
          (isName_writeAttribute _ _) (blank_mem_writeAttribute _ _) (by decide)
          (h.markup _ (by decide))

theorem listCloseTag (kind : ListKind) : P (listCloseTag kind) := by
  cases kind with
  | bullet => exact h.markup _ (by decide)
  | ordered start => exact h.markup ['<', '/', 'o', 'l', '>', '\n'] (by decide)

theorem closeHeading (level : Nat) : P ('<' :: ('/' :: headingTag level ++ ['>'])) := by
  refine h.markup _ (isMarkup_tag ((by decide : IsName ['/']).append (isName_headingTag level)) ?_ ?_ ?_)
  · exact fun heq => absurd (List.cons.inj heq).1 (by decide)
  · exact fun heq => headingTag_ne_marker level (List.cons.inj heq).2
  · simp [leads, headingTag, List.cons_prefix_cons]

theorem headingHtml (tight afterBare : Bool) (level : Nat) (heading : Heading)
    (hcontent : P (inlineHtml heading.content)) :
    P (blockHtml tight afterBare (.heading level heading)) := by
  have hopen :
      P ('<' :: (headingTag level ++ Html.writeAttribute "id".toList heading.anchor ++ ['>'])) :=
    h.openTag (headingTag level) [] rfl (isName_headingTag level)
      (fun c hc => Option.some.inj hc ▸ by decide) (by simp [headingTag])
      (isName_writeAttribute _ _) (blank_mem_writeAttribute _ _) (by decide) h.nil
  have hhtml : blockHtml tight afterBare (.heading level heading) =
      blockHtml.startLine afterBare ++ ('<' :: (headingTag level ++
        Html.writeAttribute "id".toList heading.anchor ++ ['>'])) ++ inlineHtml heading.content ++
        ('<' :: ('/' :: headingTag level ++ ['>'])) ++ ['\n'] := by
    show blockHtml.startLine afterBare ++ ['<'] ++ headingTag level ++
      Html.writeAttribute "id".toList heading.anchor ++ ['>'] ++ inlineHtml heading.content ++
        ['<', '/'] ++ headingTag level ++ ['>', '\n'] = _
    simp only [List.append_assoc, List.cons_append, List.nil_append]
  rw [hhtml]
  exact h.append _ _ (h.append _ _ (h.append _ _ (h.append _ _ (h.startLine afterBare) hopen) hcontent)
    (h.closeHeading level)) (h.markup _ (by decide))

theorem paragraphHtml (tight afterBare : Bool) (content : List Inline)
    (hcontent : P (inlineHtml content)) : P (blockHtml tight afterBare (.paragraph content)) := by
  cases tight with
  | true => exact hcontent
  | false =>
      have hopen : P ['<', 'p', '>'] := h.markup _ (by decide)
      have hclose : P ['<', '/', 'p', '>', '\n'] := h.markup _ (by decide)
      exact h.append _ _ (h.append _ _ hopen hcontent) hclose

theorem contained {opening closing inside : Text} (tight : Bool) (bs : List DocBlock)
    (hopening : P opening) (hinside : P inside) (hclosing : P closing) :
    P (opening ++ Markdown.containerGap tight bs ++ inside ++ closing) :=
  h.append _ _ (h.append _ _ (h.append _ _ hopening (h.containerGap tight bs)) hinside) hclosing

end Composes

/-! ## Documents -/

abbrev OfInline (P : Text → Prop) (content : List Inline) : Prop := P (inlineHtml content)

abbrev OfHeading (P : Text → Prop) (heading : Heading) : Prop := P (inlineHtml heading.content)

mutual

theorem Composes.blockHtml (h : Composes P) (tight afterBare : Bool) : (b : DocBlock) →
    Block.Holds P (OfHeading P) (OfInline P) b → P (blockHtml tight afterBare b)
  | .paragraph content, hb => h.paragraphHtml tight afterBare content hb
  | .heading level heading, hb => h.headingHtml tight afterBare level heading hb
  | .rule, _ => h.append _ _ (h.startLine afterBare) (h.markup _ (by decide))
  | .code content, _ => by
      show P ("<pre><code>".toList ++ Html.escape content ++ "</code></pre>\n".toList)
      rw [List.append_assoc]
      exact h.append _ _ (h.markup _ (by decide)) (h.codeHtml content)
  | .fence info content, _ => h.fenceHtml info content
  | .html _, hb => hb
  | .quote children, hb =>
    h.contained false children (h.append _ _ (h.startLine afterBare) (h.markup _ (by decide)))
      (Composes.blocksHtml h false false children hb) (h.markup _ (by decide))
  | .list kind tight items, hb =>
    h.append _ _ (h.append _ _ (h.append _ _ (h.startLine afterBare) (h.listOpenTag kind))
      (Composes.itemsHtml h tight items hb)) (h.listCloseTag kind)

theorem Composes.blocksHtml (h : Composes P) (tight afterBare : Bool) : (bs : List DocBlock) →
    Block.HoldsAll P (OfHeading P) (OfInline P) bs → P (blocksHtml tight afterBare bs)
  | [], _ => h.nil
  | b :: bs, hbs =>
    h.append _ _ (Composes.blockHtml h tight afterBare b hbs.1) (Composes.blocksHtml h tight _ bs hbs.2)

theorem Composes.itemsHtml (h : Composes P) (tight : Bool) : (items : List (List DocBlock)) →
    Block.HoldsItems P (OfHeading P) (OfInline P) items → P (itemsHtml tight items)
  | [], _ => h.nil
  | item :: items, hitems =>
    h.append _ _ (h.contained tight item (h.markup _ (by decide))
      (Composes.blocksHtml h tight false item hitems.1) (h.markup _ (by decide)))
      (Composes.itemsHtml h tight items hitems.2)

end

theorem Composes.toHtml (h : Composes P) {onHtml onText : Text → Prop} {source : Text}
    (hhtml : ∀ s, onHtml s → P s)
    (hraw : ∀ text content, onText text → IsRawHtmlOf text content → P content)
    (hread : Block.HoldsAll onHtml onText onText (readDocument (normalizeSource source)).1) :
    P (toHtml source) := by
  obtain ⟨blocks, defs, hdocument⟩ : ∃ blocks defs,
      readDocument (normalizeSource source) = (blocks, defs) := ⟨_, _, rfl⟩
  rw [hdocument] at hread
  have htexts : ∀ text, onText text → OfInline P (Markdown.readInline defs text) := fun text htext =>
    h.readInline defs fun content => hraw text content htext
  have hinline : Block.HoldsAll P (OfInline P) (OfInline P)
      (Block.mapAll (Markdown.readInline defs) (Markdown.readInline defs) blocks) :=
    hread.mapAll hhtml htexts htexts blocks
  have hanchored : ∀ used content, OfInline P content → OfHeading P (anchorHeading used content).1 :=
    fun _ _ hcontent => hcontent
  have hblocks : Block.HoldsAll P (OfHeading P) (OfInline P) (readBlocksOf source) := by
    rw [readBlocksOf_eq rfl hdocument]
    exact hinline.mapHeadingsAll hanchored [] _
  exact h.blocksHtml false false _ hblocks

end MarkdownPages.Markdown
