import MarkdownPages.Fragment
import MarkdownPages.Proofs.Markdown.Clear
import MarkdownPages.Proofs.Site.Names

/-!
# The named blocks of a document

A document names its blocks in the tags that open them.  Where the HTML of its fragments and its
template have no such tags, the tags of the document are those of its fragments, in order.  A fragment
has such tags in its HTML only if it writes them, as raw HTML.
-/

namespace MarkdownPages.Fragment

open Text

variable {s t word : Text} {style : LinkStyle} {fragments : List Fragment}

/-! ## The tags of blocks -/

def opening : Text := "<ng-template #".toList

def closing : Text := "</ng-template>".toList

def blockWords : List Text := [opening, closing]

inductive BlockTag
  | opening (name : Text)
  | closing
deriving DecidableEq, Repr

/-- The tag at the start of a text.  A name ends where its tag does. -/
def tagAt? (s : Text) : Option BlockTag :=
  match opening.isPrefixOf? s with
  | some name => some (.opening (name.takeWhile (· != '>')))
  | none => if closing.isPrefixOf s then some .closing else none

def blockTags : Text → List BlockTag
  | [] => []
  | c :: s => (tagAt? (c :: s)).toList ++ blockTags s

theorem isPrefixOf?_eq_none_iff : word.isPrefixOf? s = none ↔ ¬ word <+: s := by
  rw [← Option.not_isSome_iff_eq_none, List.isSome_isPrefixOf?_eq_isPrefixOf,
    List.isPrefixOf_iff_prefix]

theorem tagAt?_eq_none_iff : tagAt? s = none ↔ ∀ word ∈ blockWords, ¬ word <+: s := by
  simp only [blockWords, List.forall_mem_cons]
  unfold tagAt?
  split
  · rename_i hopening
    simp [← isPrefixOf?_eq_none_iff, hopening]
  · rename_i hopening
    simp [isPrefixOf?_eq_none_iff.mp hopening]

theorem tagAt?_cons_of_ne {c : Char} (hc : c ≠ '<') (s : Text) : tagAt? (c :: s) = none := by
  rw [tagAt?_eq_none_iff]
  intro word hword hlead
  have hhead : ∀ word ∈ blockWords, word.head? = some '<' := by decide
  obtain ⟨rest, rfl⟩ := List.head?_eq_some_iff.mp (hhead word hword)
  exact hc (List.cons_prefix_cons.mp hlead).1.symm

theorem blockTags_eq_nil_iff : blockTags s = [] ↔ ∀ word ∈ blockWords, ¬ word <:+: s := by
  induction s with
  | nil => exact iff_of_true rfl (by decide)
  | cons c s ih =>
      rw [blockTags, List.append_eq_nil_iff, ih, Option.toList_eq_nil_iff, tagAt?_eq_none_iff,
        ← forall₂_and]
      simp only [List.infix_cons_iff, not_or]

theorem blockTags_append_of_notMem (h : '<' ∉ s) (t : Text) : blockTags (s ++ t) = blockTags t := by
  induction s with
  | nil => rfl
  | cons c s ih =>
      rw [List.mem_cons, not_or] at h
      rw [List.cons_append, blockTags, tagAt?_cons_of_ne (Ne.symm h.1), ih h.2]
      rfl

/-! ## Tags on lines of their own -/

theorem tagAt?_append_newline : tagAt? (s ++ '\n' :: t) = none ↔ tagAt? s = none := by
  -- No tag reaches over a line end.
  rw [tagAt?_eq_none_iff, tagAt?_eq_none_iff]
  refine forall₂_congr fun word hword => not_congr ?_
  have hline : ∀ word ∈ blockWords, '\n' ∉ word := by decide
  constructor
  · intro hlead
    have hcut : s ++ ['\n'] <+: s ++ '\n' :: t := ⟨t, by simp⟩
    rcases List.prefix_or_prefix_of_prefix hlead hcut with hlead | hlonger
    · rcases List.prefix_concat_iff.mp hlead with rfl | hlead
      · exact absurd (by simp) (hline _ hword)
      · exact hlead
    · exact absurd (hlonger.subset (by simp)) (hline _ hword)
  · exact fun hlead => hlead.trans (List.prefix_append _ _)

theorem length_blockTags_append (s t : Text) :
    (blockTags (s ++ '\n' :: t)).length = (blockTags s).length + (blockTags t).length := by
  induction s with
  | nil =>
      have hline := blockTags_append_of_notMem (s := ['\n']) (by decide) t
      rw [List.nil_append, ← List.singleton_append, hline, blockTags]
      simp
  | cons c s ih =>
      have hsame : (tagAt? (c :: (s ++ '\n' :: t))).isSome = (tagAt? (c :: s)).isSome := by
        rw [Bool.eq_iff_iff, Option.isSome_iff_ne_none, Option.isSome_iff_ne_none, ← List.cons_append]
        exact not_congr tagAt?_append_newline
      rw [List.cons_append, blockTags, blockTags, List.length_append, List.length_append, ih,
        Option.length_toList, Option.length_toList, hsame]
      omega

theorem blockTags_append_newline (h : blockTags s = []) (t : Text) :
    blockTags (s ++ '\n' :: t) = blockTags t := by
  induction s with
  | nil => exact blockTags_append_of_notMem (s := ['\n']) (by decide) t
  | cons c s ih =>
      rw [blockTags, List.append_eq_nil_iff, Option.toList_eq_nil_iff] at h
      have hnone : tagAt? (c :: s ++ '\n' :: t) = none := tagAt?_append_newline.mpr h.1
      rw [List.cons_append] at hnone ⊢
      rw [blockTags, hnone, ih h.2]
      rfl

/-! ## Trimmed HTML -/

theorem infix_dropWhile_iff {p : Char → Bool} (hword : ∀ c ∈ word.head?, p c = false)
    (hne : word ≠ []) : word <:+: s.dropWhile p ↔ word <:+: s := by
  induction s with
  | nil => rfl
  | cons c s ih =>
      rw [List.dropWhile_cons]
      split
      · rename_i hc
        rw [ih, List.infix_cons_iff]
        refine (or_iff_right ?_).symm
        rintro ⟨rest, hlead⟩
        obtain ⟨d, word, rfl⟩ := List.exists_cons_of_ne_nil hne
        obtain rfl : d = c := (List.cons.inj hlead).1
        simp [hc] at hword
      · rfl

theorem infix_trim_iff (hhead : ∀ c ∈ word.head?, isBlank c = false)
    (hlast : ∀ c ∈ word.getLast?, isBlank c = false) (hne : word ≠ []) :
    word <:+: trim s ↔ word <:+: s := by
  rw [trim, trimEnd, trimStart, ← List.reverse_infix, List.reverse_reverse, infix_dropWhile_iff,
    List.reverse_infix, infix_dropWhile_iff hhead hne]
  · simpa using hlast
  · simpa using hne

theorem blockTags_trim_eq_nil_iff : blockTags (trim s) = [] ↔ blockTags s = [] := by
  rw [blockTags_eq_nil_iff, blockTags_eq_nil_iff]
  refine forall₂_congr fun word hword => not_congr ?_
  have hwords : ∀ word ∈ blockWords, (∀ c ∈ word.head?, isBlank c = false) ∧
      (∀ c ∈ word.getLast?, isBlank c = false) ∧ word ≠ [] := by decide
  obtain ⟨hhead, hlast, hne⟩ := hwords word hword
  exact infix_trim_iff hhead hlast hne

/-! ## Documents -/

theorem blockTags_newline_cons (s : Text) : blockTags ('\n' :: s) = blockTags s :=
  blockTags_append_of_notMem (s := ['\n']) (by decide) s

theorem tagAt?_opening {name : Text} (hname : '>' ∉ name) (rest : Text) :
    tagAt? (opening ++ (name ++ '>' :: rest)) = some (.opening name) := by
  have hkept : (name ++ '>' :: rest).takeWhile (· != '>') = name := by
    rw [List.takeWhile_append_of_pos]
    · simp
    · intro c hc
      rw [bne_iff_ne]
      rintro rfl
      exact hname hc
  rw [tagAt?, List.isPrefixOf?_eq_some_iff_append_eq.mpr rfl]
  exact congrArg (some ∘ BlockTag.opening) hkept

theorem blockTags_opening {name : Text} (hname : Site.IsIdentifier name) (rest : Text) :
    blockTags (opening ++ (name ++ '>' :: rest)) = .opening name :: blockTags rest := by
  have hopen : '<' ∉ name := hname.notMem (by decide) (by decide)
  have htag := tagAt?_opening (hname.notMem (by decide) (by decide)) rest
  have htail : '<' ∉ opening.tail ++ (name ++ ['>']) := by
    simp only [List.mem_append, not_or]
    exact ⟨by decide, hopen, by decide⟩
  have hbehind := blockTags_append_of_notMem htail rest
  simp only [List.append_assoc, List.singleton_append] at hbehind
  rw [show opening = '<' :: opening.tail from rfl, List.cons_append] at htag ⊢
  rw [blockTags, htag, hbehind]
  rfl

theorem blockTags_closing (rest : Text) :
    blockTags (closing ++ rest) = .closing :: blockTags rest := by
  have hbehind := blockTags_append_of_notMem (s := closing.tail) (by decide) rest
  have htag : tagAt? ('<' :: (closing.tail ++ rest)) = some .closing := rfl
  rw [show closing = '<' :: closing.tail from rfl, List.cons_append, blockTags, htag, hbehind]
  rfl

def ownTags (f : Fragment) : List BlockTag := [.opening f.name, .closing]

theorem block_append (style : LinkStyle) (f : Fragment) (rest : Text) :
    block style f ++ rest = opening ++ (f.name ++ '>' :: '\n' :: (trim (html style f.markdown) ++
      '\n' :: (closing ++ '\n' :: '\n' :: rest))) := by
  have hname : ">\n".toList = ['>', '\n'] := rfl
  have hend : "\n</ng-template>\n\n".toList = '\n' :: ("</ng-template>".toList ++ ['\n', '\n']) :=
    rfl
  unfold block opening closing
  generalize trim (html style f.markdown) = content
  simp only [hname, hend, List.append_assoc, List.cons_append, List.nil_append]

theorem length_blockTags_block_append {f : Fragment} (hname : Site.IsIdentifier f.name) (rest : Text) :
    (blockTags (block style f ++ rest)).length =
      2 + (blockTags (trim (html style f.markdown))).length + (blockTags rest).length := by
  rw [block_append, blockTags_opening hname, blockTags_newline_cons, List.length_cons,
    length_blockTags_append, blockTags_closing, blockTags_newline_cons, blockTags_newline_cons,
    List.length_cons]
  omega

theorem blockTags_block_append {f : Fragment} (hname : Site.IsIdentifier f.name)
    (h : blockTags (html style f.markdown) = []) (rest : Text) :
    blockTags (block style f ++ rest) = ownTags f ++ blockTags rest := by
  rw [block_append, blockTags_opening hname, blockTags_newline_cons,
    blockTags_append_newline (blockTags_trim_eq_nil_iff.mpr h), blockTags_closing,
    blockTags_newline_cons, blockTags_newline_cons]
  rfl

theorem assemble_cons (style : LinkStyle) (f : Fragment) (fragments : List Fragment) (base : Text) :
    assemble style (f :: fragments) base = block style f ++ assemble style fragments base := by
  rw [assemble, List.flatMap_cons, List.append_assoc, ← assemble]

theorem length_blockTags_assemble {base : Text}
    (hnames : ∀ f ∈ fragments, Site.IsIdentifier f.name) :
    (blockTags (assemble style fragments base)).length =
      (fragments.flatMap ownTags).length +
        (fragments.flatMap fun f => blockTags (trim (html style f.markdown))).length +
        (blockTags base).length := by
  induction fragments with
  | nil => simp [assemble]
  | cons f fragments ih =>
      rw [List.forall_mem_cons] at hnames
      have hown : (ownTags f).length = 2 := rfl
      rw [assemble_cons, length_blockTags_block_append hnames.1, ih hnames.2, List.flatMap_cons,
        List.length_append, hown, List.flatMap_cons, List.length_append]
      omega

theorem blockTags_assemble_eq_iff {base : Text} (hbase : blockTags base = [])
    (hnames : ∀ f ∈ fragments, Site.IsIdentifier f.name) :
    blockTags (assemble style fragments base) = fragments.flatMap ownTags ↔
      ∀ f ∈ fragments, blockTags (html style f.markdown) = [] := by
  constructor
  · intro htags f hf
    have hlength := congrArg List.length htags
    rw [length_blockTags_assemble hnames, hbase] at hlength
    have hzero : (fragments.flatMap fun f => blockTags (trim (html style f.markdown))).length = 0 := by
      rw [List.length_nil] at hlength
      omega
    have hnone := List.flatMap_eq_nil_iff.mp (List.length_eq_zero_iff.mp hzero) f hf
    exact blockTags_trim_eq_nil_iff.mp hnone
  · intro hnone
    induction fragments with
    | nil => exact hbase
    | cons f fragments ih =>
        rw [List.forall_mem_cons] at hnames hnone
        rw [assemble_cons, blockTags_block_append hnames.1 hnone.1, ih hnames.2 hnone.2,
          List.flatMap_cons]

theorem blockTags_eq_nil_of_template {base : Text} (h : ¬ "ng-template".toList <:+: base) :
    blockTags base = [] := by
  have hwords : ∀ word ∈ blockWords, "ng-template".toList <:+: word := by decide
  exact blockTags_eq_nil_iff.mpr fun word hword hin => h ((hwords word hword).trans hin)

/-! ## Markdown that writes no tags of blocks -/

theorem isTagWord_of_mem (h : word ∈ blockWords) : Link.IsTagWord word := by
  have hall : ∀ word ∈ blockWords, Link.IsTagWord word := by decide
  exact hall word h

/-- Markdown without marker tags and tags of blocks, also of such as a link or the end breaks off. -/
structure OpensNone (markdown : Text) : Prop where
  untagged : Marker.Untagged LinkStyle.defaultMarker markdown
  words : ∀ word ∈ blockWords, ¬ word <:+: markdown
  unbroken : ∀ word ∈ blockWords, Link.Unbroken word markdown

theorem OpensNone.html {markdown : Text} (h : OpensNone markdown) :
    ∀ word ∈ blockWords, ¬ word <:+: html LinkStyle.standard markdown := by
  intro word hmem
  have hword := isTagWord_of_mem hmem
  obtain ⟨hclear, hstopped⟩ :=
    Link.clear_replaceAll hword h.untagged (h.words word hmem) (h.unbroken word hmem)
  obtain ⟨rest, hrest⟩ := hword.exists_tail
  have hapart := Markdown.apart_toHtml hword hclear hstopped
  exact hapart.not_infix_strip (by simp [hrest])

/--
The blocks of a document are those of its listed fragments, in order, if and only if the HTML of none
of them has a tag of a block.  The HTML of Markdown that holds neither such tags nor marker tags has
none, wherever they might come together.
-/
theorem blocks_are_listed_iff {base : Text} (hbase : ¬ "ng-template".toList <:+: base)
    (hnames : ∀ f ∈ fragments, Site.IsIdentifier f.name) :
    (∀ style : LinkStyle,
        blockTags (assemble style fragments base) = fragments.flatMap ownTags ↔
          ∀ f ∈ fragments, ∀ word ∈ blockWords, ¬ word <:+: html style f.markdown) ∧
      ((∀ f ∈ fragments, OpensNone f.markdown) →
        blockTags (assemble LinkStyle.standard fragments base) = fragments.flatMap ownTags) := by
  have htags : ∀ style : LinkStyle,
      blockTags (assemble style fragments base) = fragments.flatMap ownTags ↔
        ∀ f ∈ fragments, ∀ word ∈ blockWords, ¬ word <:+: html style f.markdown := by
    intro style
    rw [blockTags_assemble_eq_iff (blockTags_eq_nil_of_template hbase) hnames]
    exact forall₂_congr fun f _ => blockTags_eq_nil_iff
  refine ⟨htags, fun hnone => (htags LinkStyle.standard).mpr fun f hf => ?_⟩
  exact (hnone f hf).html

theorem blocks_are_listed_of_two :
    let listed : List Fragment := [⟨"intro".toList, "see [a](b)".toList⟩, ⟨"more".toList, "*c*".toList⟩]
    let shown : List Fragment := [⟨"code".toList, "`<ng-template #x>`".toList⟩]
    let base := "<p>end</p>".toList
    ¬ "ng-template".toList <:+: base ∧ (∀ f ∈ listed ++ shown, Site.IsIdentifier f.name) ∧
      (∀ f ∈ listed, OpensNone f.markdown) ∧
      blockTags (assemble LinkStyle.standard listed base) =
        [.opening "intro".toList, .closing, .opening "more".toList, .closing] ∧
      blockTags (assemble LinkStyle.standard shown base) = [.opening "code".toList, .closing] := by
  intro listed shown base
  have hbase : ¬ "ng-template".toList <:+: base := by decide
  have hnames : ∀ f ∈ listed ++ shown, Site.IsIdentifier f.name := by decide
  obtain ⟨hlistedNames, hshownNames⟩ := List.forall_mem_append.mp hnames
  have hnone : ∀ f ∈ listed, OpensNone f.markdown := by
    have hplain : ∀ f ∈ listed, Marker.Untagged LinkStyle.defaultMarker f.markdown ∧
        (∀ word ∈ blockWords, ¬ word <:+: f.markdown) ∧ '<' ∉ f.markdown := by decide
    intro f hf
    obtain ⟨huntagged, hwords, hnot⟩ := hplain f hf
    exact ⟨huntagged, hwords, fun word hword =>
      Link.unbroken_of_notMem (isTagWord_of_mem hword) hnot⟩
  have hshown : ∀ f ∈ shown, ∀ word ∈ blockWords, ¬ word <:+: html LinkStyle.standard f.markdown := by
    decide +kernel
  have hlisted := (blocks_are_listed_iff hbase hlistedNames).2 hnone
  have hshownTags := (blocks_are_listed_iff hbase hshownNames).1 LinkStyle.standard |>.mpr hshown
  exact ⟨hbase, hnames, hnone, hlisted, hshownTags⟩

/-- Raw HTML in a fragment can open a block that is not listed. -/
theorem unlisted_block_is_opened :
    let fragment : Fragment := ⟨"a".toList, "<div><ng-template #b></ng-template></div>".toList⟩
    Site.IsIdentifier fragment.name ∧ ¬ "ng-template".toList <:+: ([] : Text) ∧
      assemble LinkStyle.standard [fragment] [] =
        ("<ng-template #a>\n<div><ng-template #b></ng-template></div>\n" ++
          "</ng-template>\n\n").toList ∧
      blockTags (assemble LinkStyle.standard [fragment] []) =
        [.opening ['a'], .opening ['b'], .closing, .closing] ∧
      blockTags (assemble LinkStyle.standard [fragment] []) ≠ [fragment].flatMap ownTags := by
  decide +kernel

end MarkdownPages.Fragment
