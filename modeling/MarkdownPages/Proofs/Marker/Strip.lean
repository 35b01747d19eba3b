import Mathlib.Data.List.Infix
import MarkdownPages.Marker

/-!
# Removing marker tags

A marker tag opens with its only `<` and closes with its only `>`.  So tags never overlap, and a
text may be cut before any character that is no inner character of a tag: its parts are stripped
one by one.
-/

namespace MarkdownPages.Marker

open Text

def IsName (marker : Text) : Prop := '<' ∉ marker ∧ '>' ∉ marker

instance (marker : Text) : Decidable (IsName marker) := by
  unfold IsName
  infer_instance

theorem IsName.append {s t : Text} (hs : IsName s) (ht : IsName t) : IsName (s ++ t) := by
  simp [IsName, hs.1, hs.2, ht.1, ht.2]

inductive IsTag (marker : Text) : Text → Prop
  | openTag : IsTag marker (openTag marker)
  | closeTag : IsTag marker (closeTag marker)

variable {marker tag s rest : Text}

theorem IsTag.exists_inner (htag : IsTag marker tag) (hname : IsName marker) :
    ∃ inner, tag = '<' :: (inner ++ ['>']) ∧ IsName inner := by
  cases htag with
  | openTag => exact ⟨marker, rfl, hname⟩
  | closeTag => exact ⟨'/' :: marker, rfl, by simpa [IsName] using hname⟩

theorem IsTag.inner_eq {inner : Text} (htag : IsTag marker ('<' :: (inner ++ ['>']))) :
    inner = marker ∨ inner = '/' :: marker := by
  generalize heq : '<' :: (inner ++ ['>']) = tag at htag
  cases htag with
  | openTag => exact .inl (List.append_cancel_right (List.cons.inj heq).2)
  | closeTag => exact .inr (List.append_cancel_right (List.cons.inj heq).2)

theorem isTag_of_dropTag? (h : dropTag? marker s = some rest) :
    ∃ tag, IsTag marker tag ∧ s = tag ++ rest := by
  simp only [dropTag?, Option.orElse_eq_orElse, Option.orElse_eq_or, Option.or_eq_some_iff] at h
  rcases h with h | ⟨_, h⟩
  · exact ⟨_, .openTag, (List.append_eq_of_isPrefixOf?_eq_some h).symm⟩
  · exact ⟨_, .closeTag, (List.append_eq_of_isPrefixOf?_eq_some h).symm⟩

theorem eq_of_append_cons_eq {c : Char} {first second after after' : Text}
    (hfirst : c ∉ first) (hsecond : c ∉ second)
    (h : first ++ c :: after = second ++ c :: after') : first = second ∧ after = after' := by
  rcases List.append_eq_append_iff.mp h with ⟨middle, rfl, hrest⟩ | ⟨middle, rfl, hrest⟩
  · cases middle with
    | nil => simpa using hrest
    | cons d middle =>
        obtain rfl : c = d := (List.cons.inj hrest).1
        exact absurd hsecond (by simp)
  · cases middle with
    | nil => simpa using hrest.symm
    | cons d middle =>
        obtain rfl : c = d := (List.cons.inj hrest).1
        exact absurd hfirst (by simp)

theorem IsTag.eq_of_append_eq (hname : IsName marker) {other rest' : Text} (htag : IsTag marker tag)
    (hother : IsTag marker other) (h : tag ++ rest = other ++ rest') :
    tag = other ∧ rest = rest' := by
  obtain ⟨inner, rfl, hinner⟩ := htag.exists_inner hname
  obtain ⟨inner', rfl, hinner'⟩ := hother.exists_inner hname
  have htail : inner ++ '>' :: rest = inner' ++ '>' :: rest' := by simpa using h
  obtain ⟨rfl, rfl⟩ := eq_of_append_cons_eq hinner.2 hinner'.2 htail
  exact ⟨rfl, rfl⟩

theorem dropTag?_append (hname : IsName marker) (htag : IsTag marker tag) (rest : Text) :
    dropTag? marker (tag ++ rest) = some rest := by
  have hsome : (dropTag? marker (tag ++ rest)).isSome = true := by
    cases htag <;> simp [dropTag?]
  obtain ⟨rest', hdrop⟩ := Option.isSome_iff_exists.mp hsome
  obtain ⟨other, hother, heq⟩ := isTag_of_dropTag? hdrop
  rw [hdrop, (htag.eq_of_append_eq hname hother heq).2]

theorem dropTag?_eq_none_iff (hname : IsName marker) :
    dropTag? marker s = none ↔ ∀ tag, IsTag marker tag → ¬ tag <+: s := by
  constructor
  · rintro hnone tag htag ⟨rest, rfl⟩
    simp [dropTag?_append hname htag] at hnone
  · intro h
    rw [Option.eq_none_iff_forall_ne_some]
    intro rest hdrop
    obtain ⟨tag, htag, rfl⟩ := isTag_of_dropTag? hdrop
    exact h tag htag (List.prefix_append _ _)

/-! ## Equations -/

@[simp] theorem strip_nil : strip marker [] = [] := by simp [strip]

theorem strip_of_dropTag? (h : dropTag? marker s = some rest) :
    strip marker s = strip marker rest := by
  cases s with
  | nil => simpa using length_of_dropTag? h
  | cons c s =>
      rw [strip]
      split <;> simp_all

theorem strip_cons {c : Char} (h : dropTag? marker (c :: s) = none) :
    strip marker (c :: s) = c :: strip marker s := by
  rw [strip]
  split <;> simp_all

theorem strip_tag_append (hname : IsName marker) (htag : IsTag marker tag) (rest : Text) :
    strip marker (tag ++ rest) = strip marker rest :=
  strip_of_dropTag? (dropTag?_append hname htag rest)

theorem dropTag?_cons_of_ne {c : Char} (hname : IsName marker) (hc : c ≠ '<') (s : Text) :
    dropTag? marker (c :: s) = none := by
  rw [dropTag?_eq_none_iff hname]
  rintro tag htag ⟨rest, heq⟩
  obtain ⟨inner, rfl, -⟩ := htag.exists_inner hname
  exact hc (List.cons.inj heq).1.symm

theorem strip_append_of_notMem (hname : IsName marker) {text : Text} (h : '<' ∉ text) (s : Text) :
    strip marker (text ++ s) = text ++ strip marker s := by
  induction text with
  | nil => rfl
  | cons c text ih =>
      rw [List.mem_cons, not_or] at h
      rw [List.cons_append, strip_cons (dropTag?_cons_of_ne hname (Ne.symm h.1) _), ih h.2,
        List.cons_append]

theorem dropTag?_append_cons (hname : IsName marker) {c : Char}
    (hc : ∀ tag, IsTag marker tag → c ∉ tag.tail) {d : Char}
    (h : dropTag? marker (d :: s) = none) (rest : Text) :
    dropTag? marker (d :: s ++ c :: rest) = none := by
  rw [dropTag?_eq_none_iff hname] at h ⊢
  rintro tag htag ⟨after, heq⟩
  rcases List.append_eq_append_iff.mp heq with ⟨middle, hs, -⟩ | ⟨middle, htagEq, hrest⟩
  · exact h tag htag ⟨middle, hs.symm⟩
  · cases middle with
    | nil => exact h tag htag ⟨[], by simpa using htagEq⟩
    | cons c' middle =>
        obtain rfl : c' = c := (List.cons.inj hrest).1.symm
        exact hc tag htag (by simp [htagEq])

theorem strip_append_cons (hname : IsName marker) {c : Char}
    (hc : ∀ tag, IsTag marker tag → c ∉ tag.tail) (s rest : Text) :
    strip marker (s ++ c :: rest) = strip marker s ++ strip marker (c :: rest) := by
  -- A text may be cut before a character that is no inner character of a tag.
  fun_induction strip marker s with
  | case1 => simp
  | case2 d s after hdrop _ ih =>
      obtain ⟨tag, htag, heq⟩ := isTag_of_dropTag? hdrop
      rw [heq, List.append_assoc, strip_tag_append hname htag, ih]
  | case3 d s hdrop ih =>
      have hcut := dropTag?_append_cons hname hc hdrop rest
      rw [List.cons_append] at hcut ⊢
      rw [strip_cons hcut, ih, List.cons_append]

theorem lt_notMem_tail (hname : IsName marker) : ∀ tag, IsTag marker tag → '<' ∉ tag.tail := by
  intro tag htag
  obtain ⟨inner, rfl, hinner⟩ := htag.exists_inner hname
  simpa using hinner.1

theorem strip_append_tag_append (hname : IsName marker) (htag : IsTag marker tag)
    (s rest : Text) : strip marker (s ++ (tag ++ rest)) = strip marker s ++ strip marker rest := by
  obtain ⟨inner, htagEq, -⟩ := htag.exists_inner hname
  rw [← strip_tag_append hname htag rest, htagEq]
  exact strip_append_cons hname (lt_notMem_tail hname) s _

/-! ## Other tags -/

theorem dropTag?_bracketed (hname : IsName marker) {inner : Text} (hinner : '>' ∉ inner)
    (hopen : inner ≠ marker) (hclose : inner ≠ '/' :: marker) (rest : Text) :
    dropTag? marker ('<' :: (inner ++ '>' :: rest)) = none := by
  rw [dropTag?_eq_none_iff hname]
  rintro tag htag ⟨after, heq⟩
  obtain ⟨word, rfl, hword⟩ := htag.exists_inner hname
  have hwords : word ++ '>' :: after = inner ++ '>' :: rest := by simpa using heq
  obtain ⟨rfl, -⟩ := eq_of_append_cons_eq hword.2 hinner hwords
  rcases htag.inner_eq with rfl | rfl
  · exact hopen rfl
  · exact hclose rfl

theorem strip_bracketed (hname : IsName marker) {inner : Text} (hinner : IsName inner)
    (hopen : inner ≠ marker) (hclose : inner ≠ '/' :: marker) (rest : Text) :
    strip marker ('<' :: (inner ++ '>' :: rest)) = '<' :: (inner ++ '>' :: strip marker rest) := by
  rw [strip_cons (dropTag?_bracketed hname hinner.2 hopen hclose rest),
    strip_append_of_notMem hname hinner.1, strip_cons (dropTag?_cons_of_ne hname (by decide) _)]

/-! ## Texts without tags -/

theorem suffix_append_cases {s t u : Text} (h : u <:+ s ++ t) :
    u <:+ t ∨ ∃ u', u' ≠ [] ∧ u' <:+ s ∧ u = u' ++ t := by
  obtain ⟨front, heq⟩ := h
  rcases List.append_eq_append_iff.mp heq with ⟨u', rfl, rfl⟩ | ⟨front', -, rfl⟩
  · by_cases hu' : u' = []
    · subst hu'
      exact .inl (List.suffix_refl _)
    · exact .inr ⟨u', hu', List.suffix_append _ _, rfl⟩
  · exact .inl (List.suffix_append _ _)

theorem prefix_append_cases {s t u : Text} (h : u <+: s ++ t) :
    u <+: s ∨ ∃ u', u' ≠ [] ∧ u' <+: t ∧ u = s ++ u' := by
  obtain ⟨back, heq⟩ := h
  rcases List.append_eq_append_iff.mp heq with ⟨back', rfl, -⟩ | ⟨u', rfl, ht⟩
  · exact .inl (List.prefix_append _ _)
  · by_cases hu' : u' = []
    · subst hu'
      exact .inl (by simp)
    · exact .inr ⟨u', hu', ⟨back, ht.symm⟩, rfl⟩

theorem infix_append_cons {word : Text} {c : Char} (hc : c ∉ word) (h : word <:+: s ++ c :: rest) :
    word <:+: s ∨ word <:+: rest := by
  have hlead : ∀ part, part <+: c :: rest → c ∉ part → part = [] := by
    intro part hpart hnot
    rcases List.prefix_cons_iff.mp hpart with rfl | ⟨tail, rfl, -⟩
    · rfl
    · exact absurd (.head _) hnot
  rcases List.infix_append_iff_ne_nil.mp h with hs | hrest | ⟨front, back, -, hne, rfl, -, hback⟩
  · exact .inl hs
  · rcases List.infix_cons_iff.mp hrest with hfirst | hrest
    · exact .inl (hlead word hfirst hc ▸ List.nil_infix)
    · exact .inr hrest
  · exact absurd (hlead back hback fun hmem => hc (List.mem_append_right _ hmem)) hne

def Untagged (marker s : Text) : Prop := ∀ tag, IsTag marker tag → ¬ tag <:+: s

theorem untagged_iff :
    Untagged marker s ↔ ¬ openTag marker <:+: s ∧ ¬ closeTag marker <:+: s := by
  constructor
  · intro h
    exact ⟨h _ .openTag, h _ .closeTag⟩
  · rintro ⟨hopen, hclose⟩ tag htag
    cases htag with
    | openTag => exact hopen
    | closeTag => exact hclose

instance (marker s : Text) : Decidable (Untagged marker s) := decidable_of_iff' _ untagged_iff

theorem untagged_of_notMem (h : '<' ∉ s) : Untagged marker s := by
  rintro tag htag hin
  cases htag with
  | openTag => exact h (hin.subset (by simp [openTag]))
  | closeTag => exact h (hin.subset (by simp [closeTag]))

theorem untagged_append_of_notMem (hname : IsName marker) {text : Text} (hopen : '<' ∉ text)
    (h : Untagged marker s) : Untagged marker (text ++ s) := by
  induction text with
  | nil => exact h
  | cons c text ih =>
      rw [List.mem_cons, not_or] at hopen
      intro tag htag hin
      rcases List.infix_cons_iff.mp hin with hlead | hin
      · obtain ⟨inner, rfl, -⟩ := htag.exists_inner hname
        exact hopen.1 (List.cons_prefix_cons.mp hlead).1
      · exact ih hopen.2 tag htag hin

theorem infix_of_infix_cons {word : Text} {c : Char} (hc : c ∉ word) (h : word <:+: c :: s) :
    word <:+: s := by
  rcases infix_append_cons (s := []) hc h with hin | hin
  · rw [List.infix_nil.mp hin]
    exact List.nil_infix
  · exact hin

theorem Untagged.append_cons {c : Char} (hs : Untagged marker s) (hrest : Untagged marker rest)
    (hc : ∀ tag, IsTag marker tag → c ∉ tag) : Untagged marker (s ++ c :: rest) := by
  intro tag htag hin
  rcases infix_append_cons (hc tag htag) hin with hin | hin
  · exact hs tag htag hin
  · exact hrest tag htag hin

theorem Untagged.of_infix {part : Text} (h : Untagged marker s) (hpart : part <:+: s) :
    Untagged marker part := by
  intro tag htag hin
  exact h tag htag (hin.trans hpart)

theorem Untagged.dropTag?_eq_none (hname : IsName marker) (h : Untagged marker s) :
    dropTag? marker s = none :=
  (dropTag?_eq_none_iff hname).mpr fun tag htag hlead => h tag htag hlead.isInfix

theorem Untagged.strip_eq (hname : IsName marker) (h : Untagged marker s) :
    strip marker s = s := by
  induction s with
  | nil => simp
  | cons c s ih =>
      have htail : Untagged marker s := h.of_infix (List.suffix_cons c s).isInfix
      rw [strip_cons (h.dropTag?_eq_none hname), ih htail]

/-! ## Texts with tags -/

theorem strip_sublist (marker s : Text) : (strip marker s).Sublist s := by
  fun_induction strip marker s with
  | case1 => exact List.Sublist.refl []
  | case2 c s after hdrop _ ih =>
      obtain ⟨tag, -, heq⟩ := isTag_of_dropTag? hdrop
      rw [heq]
      exact ih.trans (List.sublist_append_right tag after)
  | case3 c s _ ih => exact ih.cons_cons c

theorem strip_eq_self_iff (hname : IsName marker) : strip marker s = s ↔ Untagged marker s := by
  constructor
  · rintro hself tag htag ⟨before, after, rfl⟩
    have hcut := strip_append_tag_append hname htag before after
    rw [← List.append_assoc, hself] at hcut
    have hbefore := (strip_sublist marker before).length_le
    have hafter := (strip_sublist marker after).length_le
    obtain ⟨inner, rfl, -⟩ := htag.exists_inner hname
    have hlength := congrArg List.length hcut
    simp only [List.length_append, List.length_cons] at hlength
    omega
  · exact fun h => h.strip_eq hname

theorem Untagged.cons {c : Char} (h : Untagged marker s) (hname : IsName marker)
    (hdrop : dropTag? marker (c :: s ++ rest) = none) : Untagged marker (c :: s) := by
  intro tag htag hin
  rcases List.infix_cons_iff.mp hin with hlead | hin
  · have hstart : tag <+: c :: s ++ rest := hlead.trans (List.prefix_append _ rest)
    exact (dropTag?_eq_none_iff hname).mp hdrop tag htag hstart
  · exact h tag htag hin

theorem exists_pieces (hname : IsName marker) (s : Text) :
    ∃ (gap : Text) (pieces : List (Text × Text)),
      s = gap ++ pieces.flatMap (fun piece => piece.1 ++ piece.2) ∧ Untagged marker gap ∧
        (∀ piece ∈ pieces, IsTag marker piece.1 ∧ Untagged marker piece.2) ∧
        strip marker s = gap ++ pieces.flatMap Prod.snd := by
  fun_induction strip marker s with
  | case1 => exact ⟨[], [], rfl, untagged_of_notMem (by simp), by simp, rfl⟩
  | case2 c s after hdrop _ ih =>
      obtain ⟨gap, pieces, rfl, hgap, hpieces, hstrip⟩ := ih
      obtain ⟨tag, htag, heq⟩ := isTag_of_dropTag? hdrop
      refine ⟨[], (tag, gap) :: pieces, ?_, untagged_of_notMem (by simp), ?_, ?_⟩
      · rw [heq, List.nil_append, List.flatMap_cons, List.append_assoc]
      · exact List.forall_mem_cons.mpr ⟨⟨htag, hgap⟩, hpieces⟩
      · rw [hstrip, List.nil_append, List.flatMap_cons]
  | case3 c s hdrop ih =>
      obtain ⟨gap, pieces, rfl, hgap, hpieces, hstrip⟩ := ih
      exact ⟨c :: gap, pieces, rfl, hgap.cons hname hdrop, hpieces, by rw [hstrip, List.cons_append]⟩

/--
A text with a marker tag in it is what stands before the tag and what stands behind it, each without
its own tags.  Just the texts without marker tags stay as they are; any other one is left with what
stands between its tags.
-/
theorem strip_removes_all_tags (hname : IsName marker) :
    (∀ before after : Text,
      strip marker (before ++ openTag marker ++ after) = strip marker before ++ strip marker after) ∧
    (∀ before after : Text,
      strip marker (before ++ closeTag marker ++ after) = strip marker before ++ strip marker after) ∧
    (∀ s : Text, strip marker s = s ↔ ¬ openTag marker <:+: s ∧ ¬ closeTag marker <:+: s) ∧
    ∀ s : Text, ∃ (gap : Text) (pieces : List (Text × Text)),
      s = gap ++ pieces.flatMap (fun piece => piece.1 ++ piece.2) ∧ Untagged marker gap ∧
        (∀ piece ∈ pieces, IsTag marker piece.1 ∧ Untagged marker piece.2) ∧
        strip marker s = gap ++ pieces.flatMap Prod.snd := by
  refine ⟨fun before after => ?_, fun before after => ?_, fun s => ?_, exists_pieces hname⟩
  · rw [List.append_assoc, strip_append_tag_append hname .openTag]
  · rw [List.append_assoc, strip_append_tag_append hname .closeTag]
  · rw [strip_eq_self_iff hname, untagged_iff]

/-- A name that would mean something else in a pattern, between the two parts of such a tag. -/
theorem strip_removes_all_tags_of_pattern :
    IsName ".*".toList ∧ strip ".*".toList "<.<.*>*></.".toList = "<.*></.".toList ∧
      strip ".*".toList "<html></.*".toList = "<html></.*".toList := by
  have hname : IsName ".*".toList := by decide
  obtain ⟨hopen, -, hself, -⟩ := strip_removes_all_tags hname
  have hbefore : strip ".*".toList "<.".toList = "<.".toList := (hself _).mpr (by decide)
  have hafter : strip ".*".toList "*></.".toList = "*></.".toList := (hself _).mpr (by decide)
  refine ⟨hname, ?_, (hself _).mpr (by decide)⟩
  calc strip ".*".toList "<.<.*>*></.".toList
      = strip ".*".toList ("<.".toList ++ openTag ".*".toList ++ "*></.".toList) := rfl
    _ = "<.*></.".toList := by
      rw [hopen, hbefore, hafter]
      rfl

end MarkdownPages.Marker
