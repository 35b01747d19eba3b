import MarkdownPages.Fragment
import MarkdownPages.Proofs.Marker.Strip

/-!
# Tags that removal puts together

Tags are removed in one pass.  So the pieces of a tag that is cut by other tags come together when
these are removed, and stay.  This is the only way in which a tag is left over.
-/

namespace MarkdownPages.Marker

open Text

inductive Tags (marker : Text) : Text → Prop
  | nil : Tags marker []
  | cons {tag rest : Text} (htag : IsTag marker tag) (hrest : Tags marker rest) :
      Tags marker (tag ++ rest)

/-- The second text is the first one with marker tags put between its characters. -/
inductive Laced (marker : Text) : Text → Text → Prop
  | single (c : Char) : Laced marker [c] [c]
  | cons (c : Char) {tags word s : Text} (htags : Tags marker tags) (hrest : Laced marker word s) :
      Laced marker (c :: word) (c :: (tags ++ s))

variable {marker tag s : Text}

theorem Tags.strip_append (hname : IsName marker) {tags : Text} (h : Tags marker tags)
    (rest : Text) : strip marker (tags ++ rest) = strip marker rest := by
  induction h with
  | nil => rfl
  | cons htag _ ih => rw [List.append_assoc, strip_tag_append hname htag, ih]

theorem Tags.head?_eq (hname : IsName marker) {tags : Text} (h : Tags marker tags)
    (hne : tags ≠ []) : ∃ rest, tags = '<' :: rest := by
  cases h with
  | nil => exact absurd rfl hne
  | cons htag _ =>
      obtain ⟨inner, rfl, -⟩ := htag.exists_inner hname
      exact ⟨_, rfl⟩

/-! ## What was there before tags were removed -/

theorem exists_of_strip_eq_cons {c : Char} {out : Text} (h : strip marker s = c :: out) :
    ∃ tags rest, Tags marker tags ∧ s = tags ++ c :: rest ∧ dropTag? marker (c :: rest) = none ∧
      strip marker rest = out := by
  fun_induction strip marker s with
  | case1 => simp at h
  | case2 d s after hdrop _ ih =>
      obtain ⟨tags, rest, htags, rfl, hnone, hrest⟩ := ih h
      obtain ⟨tag, htag, heq⟩ := isTag_of_dropTag? hdrop
      exact ⟨tag ++ tags, rest, .cons htag htags, by rw [heq, List.append_assoc], hnone, hrest⟩
  | case3 d s hdrop ih =>
      obtain ⟨rfl, hrest⟩ := List.cons.inj h
      exact ⟨[], s, .nil, rfl, hdrop, hrest⟩

theorem exists_laced_of_strip_eq_append {word out : Text} (hne : word ≠ [])
    (h : strip marker s = word ++ out) :
    ∃ tags w rest, Tags marker tags ∧ s = tags ++ (w ++ rest) ∧ Laced marker word w ∧
      dropTag? marker (w ++ rest) = none := by
  induction word generalizing s with
  | nil => exact absurd rfl hne
  | cons c word ih =>
      obtain ⟨tags, rest, htags, rfl, hnone, hrest⟩ := exists_of_strip_eq_cons h
      by_cases hword : word = []
      · subst hword
        exact ⟨tags, [c], rest, htags, rfl, .single c, hnone⟩
      · obtain ⟨tags', w, rest', htags', rfl, hlaced, -⟩ := ih hword hrest
        exact ⟨tags, c :: (tags' ++ w), rest', htags, by simp, .cons c htags' hlaced,
          by simpa using hnone⟩

theorem exists_laced_of_infix_strip {word : Text} (hne : word ≠ [])
    (h : word <:+: strip marker s) :
    ∃ w rest, w ++ rest <:+ s ∧ Laced marker word w ∧ dropTag? marker (w ++ rest) = none := by
  fun_induction strip marker s with
  | case1 => exact absurd (List.infix_nil.mp h) hne
  | case2 d s after hdrop _ ih =>
      obtain ⟨w, rest, hsuffix, hlaced, hnone⟩ := ih h
      obtain ⟨tag, -, heq⟩ := isTag_of_dropTag? hdrop
      exact ⟨w, rest, heq ▸ hsuffix.trans (List.suffix_append _ _), hlaced, hnone⟩
  | case3 d s hdrop ih =>
      rcases List.infix_cons_iff.mp h with ⟨out, hlead⟩ | hin
      · have hstrip : strip marker (d :: s) = word ++ out := by
          rw [strip_cons hdrop, hlead]
        obtain ⟨tags, w, rest, -, hs, hlaced, hnone⟩ := exists_laced_of_strip_eq_append hne hstrip
        exact ⟨w, rest, hs ▸ List.suffix_append _ _, hlaced, hnone⟩
      · obtain ⟨w, rest, hsuffix, hlaced, hnone⟩ := ih hin
        exact ⟨w, rest, hsuffix.trans (List.suffix_cons _ _), hlaced, hnone⟩

/-! ## What is left when tags are removed -/

theorem Laced.strip_append (hname : IsName marker) {word w : Text} (h : Laced marker word w)
    (hword : '<' ∉ word) (rest : Text) :
    strip marker (w ++ rest) = word ++ strip marker rest := by
  induction h with
  | single c => exact strip_append_of_notMem hname hword rest
  | cons c htags _ ih =>
      rw [List.mem_cons, not_or] at hword
      rw [List.cons_append, strip_cons (dropTag?_cons_of_ne hname (Ne.symm hword.1) _),
        List.append_assoc, htags.strip_append hname, ih hword.2, List.cons_append]

theorem Laced.eq_or_exists (hname : IsName marker) {word w : Text} (h : Laced marker word w) :
    w = word ∨ ∃ lead next rest rest', word = lead ++ next :: rest ∧ lead ≠ [] ∧
      w = lead ++ '<' :: rest' := by
  -- A laced word is the word itself, or goes along with it up to the first tag.
  induction h with
  | single c => exact .inl rfl
  | @cons c tags word s htags hrest ih =>
      by_cases htagsNil : tags = []
      · subst htagsNil
        rcases ih with rfl | ⟨lead, next, rest, rest', rfl, -, rfl⟩
        · exact .inl rfl
        · exact .inr ⟨c :: lead, next, rest, rest', rfl, by simp, rfl⟩
      · obtain ⟨rest', rfl⟩ := htags.head?_eq hname htagsNil
        obtain ⟨next, rest, rfl⟩ : ∃ next rest, word = next :: rest := by
          cases hrest <;> exact ⟨_, _, rfl⟩
        exact .inr ⟨[c], next, rest, rest' ++ s, rfl, by simp, rfl⟩

theorem Laced.dropTag?_eq_none (hname : IsName marker) {w : Text} (htag : IsTag marker tag)
    (h : Laced marker tag w) (hne : w ≠ tag) (rest : Text) :
    dropTag? marker (w ++ rest) = none := by
  -- A tag that other tags are laced into is no tag any more.
  obtain hw | ⟨lead, next, tail, tail', htagEq, hlead, rfl⟩ := h.eq_or_exists hname
  · exact absurd hw hne
  · -- A part of a tag is no tag, and `<` does not go on with it.
    have hlone : dropTag? marker lead = none := by
      rw [dropTag?_eq_none_iff hname]
      rintro other hother ⟨after, rfl⟩
      have heq : other ++ (after ++ next :: tail) = tag ++ [] := by simp [htagEq]
      simpa using (hother.eq_of_append_eq hname htag heq).2
    cases lead with
    | nil => exact absurd rfl hlead
    | cons d lead =>
        simpa using dropTag?_append_cons hname (lt_notMem_tail hname) hlone (tail' ++ rest)

theorem infix_strip_iff (hname : IsName marker) (htag : IsTag marker tag) :
    tag <:+: strip marker s ↔ ∃ w, Laced marker tag w ∧ w ≠ tag ∧ w <:+: s := by
  obtain ⟨inner, htagEq, hinner⟩ := htag.exists_inner hname
  have htagNe : tag ≠ [] := by simp [htagEq]
  constructor
  · intro h
    obtain ⟨w, rest, hsuffix, hlaced, hnone⟩ := exists_laced_of_infix_strip htagNe h
    refine ⟨w, hlaced, ?_, (List.prefix_append w rest).isInfix.trans hsuffix.isInfix⟩
    rintro rfl
    rw [dropTag?_append hname htag] at hnone
    exact absurd hnone (by simp)
  · rintro ⟨w, hlaced, hne, before, after, rfl⟩
    -- The `<` of the cut tag stays, as it starts no tag; what is laced in behind it goes.
    have hnone := hlaced.dropTag?_eq_none hname htag hne after
    cases hlaced with
    | single c =>
        have hlength := congrArg List.length htagEq
        simp at hlength
    | @cons c tags word s htags hrest =>
        obtain ⟨rfl, rfl⟩ := List.cons.inj htagEq
        have hword : '<' ∉ inner ++ ['>'] := by simpa using hinner.1
        rw [List.cons_append, List.append_assoc] at hnone
        have hstrip : strip marker (before ++ '<' :: (tags ++ s) ++ after) =
            strip marker before ++ '<' :: (inner ++ ['>']) ++ strip marker after := by
          rw [List.append_assoc, List.cons_append, List.append_assoc,
            strip_append_cons hname (lt_notMem_tail hname), strip_cons hnone,
            htags.strip_append hname, hrest.strip_append hname hword]
          simp
        exact ⟨strip marker before, strip marker after, hstrip.symm⟩

theorem untagged_strip_iff (hname : IsName marker) :
    Untagged marker (strip marker s) ↔
      ∀ tag w, IsTag marker tag → Laced marker tag w → w <:+: s → w = tag := by
  constructor
  · intro h tag w htag hlaced hin
    by_contra hne
    exact h tag htag ((infix_strip_iff hname htag).mpr ⟨w, hlaced, hne, hin⟩)
  · intro h tag htag hleft
    obtain ⟨w, hlaced, hne, hin⟩ := (infix_strip_iff hname htag).mp hleft
    exact hne (h tag w htag hlaced hin)

end MarkdownPages.Marker

namespace MarkdownPages.Fragment

open Text Marker

/--
The HTML of a fragment has no marker tags if and only if no marker tag in the rendered text is cut
by other marker tags.
-/
theorem html_untagged_iff (markdown : Text) :
    Untagged LinkStyle.defaultMarker (html LinkStyle.standard markdown) ↔
      ∀ tag w, IsTag LinkStyle.defaultMarker tag → Laced LinkStyle.defaultMarker tag w →
        w <:+: Markdown.toHtml (Link.replaceAll LinkStyle.standard markdown) → w = tag :=
  untagged_strip_iff (by decide)

/-- A closing tag inside an opening tag goes, and the opening tag stays. -/
theorem html_keeps_cut_tag :
    html LinkStyle.standard "<div><</html>html>".toList = "<div><html>".toList ∧
      ¬ Untagged LinkStyle.defaultMarker
        (html LinkStyle.standard "<div><</html>html>".toList) := by
  decide +kernel

end MarkdownPages.Fragment
