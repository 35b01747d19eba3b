import Mathlib.Data.List.Infix
import Mathlib.Data.List.TakeWhile
import MarkdownPages.Html.Tag
import MarkdownPages.Proofs.Text.Classes

/-!
# Reading raw HTML

Raw HTML ends with `>`, whatever its kind.  A tag with one quoted attribute is read up to its own
end, however its value looks, unless the value holds a quote.
-/

namespace MarkdownPages.Html

open Text

variable {s rest value : Text} {c : Char}

/-! ## Where raw HTML ends -/

theorem suffix_of_isPrefixOf? {lead : Text} (h : lead.isPrefixOf? s = some rest) : rest <:+ s :=
  ⟨lead, List.append_eq_of_isPrefixOf?_eq_some h⟩

theorem suffix_of_dropThrough? {stop : Text} (h : dropThrough? stop s = some rest) :
    stop ++ rest <:+ s := by
  induction s with
  | nil =>
      rw [dropThrough?] at h
      rw [List.append_eq_of_isPrefixOf?_eq_some h]
  | cons c s ih =>
      simp only [dropThrough?, Option.orElse_eq_orElse, Option.orElse_eq_or,
        Option.or_eq_some_iff] at h
      rcases h with h | ⟨-, h⟩
      · rw [List.append_eq_of_isPrefixOf?_eq_some h]
      · exact (ih h).trans (List.suffix_cons c s)

theorem suffix_of_mem_afterRuns {p : Char → Bool} {least : Nat} (h : rest ∈ afterRuns p least s) :
    rest <:+ s := by
  obtain ⟨n, -, rfl⟩ := List.mem_map.mp h
  exact List.drop_suffix _ s

theorem suffix_of_mem_afterValue (h : rest ∈ afterValue s) : rest <:+ s := by
  unfold afterValue at h
  split at h
  · rename_i inside
    have hstop := suffix_of_dropThrough? (Option.mem_toList.mp h)
    exact (List.suffix_append _ _).trans (hstop.trans (List.suffix_cons _ _))
  · rename_i inside
    have hstop := suffix_of_dropThrough? (Option.mem_toList.mp h)
    exact (List.suffix_append _ _).trans (hstop.trans (List.suffix_cons _ _))
  · exact suffix_of_mem_afterRuns h

theorem suffix_of_mem_afterAssignment (h : rest ∈ afterAssignment s) : rest <:+ s := by
  unfold afterAssignment at h
  split at h
  · rename_i behind heq
    obtain ⟨start, hstart, hrest⟩ := List.mem_flatMap.mp h
    have hsign : '=' :: behind <:+ s := heq ▸ List.dropWhile_suffix _
    exact (suffix_of_mem_afterValue hrest).trans
      ((suffix_of_mem_afterRuns hstart).trans ((List.suffix_cons _ _).trans hsign))
  · simp at h

theorem suffix_of_mem_afterAttribute (h : rest ∈ afterAttribute s) : rest <:+ s := by
  unfold afterAttribute at h
  split at h
  · rename_i c inside _ heq
    have hname : c :: inside <:+ s := heq ▸ List.dropWhile_suffix _
    have hafter : inside.dropWhile isAttributeChar <:+ s :=
      (List.dropWhile_suffix _).trans ((List.suffix_cons _ _).trans hname)
    split at h
    · rcases List.mem_append.mp h with h | h
      · exact (suffix_of_mem_afterAssignment h).trans hafter
      · rw [List.mem_singleton.mp h]
        exact hafter
    · simp at h
  · simp at h

theorem suffix_of_dropTagEnd? (h : dropTagEnd? s = some rest) : '>' :: rest <:+ s := by
  have htrim : trimStart s <:+ s := List.dropWhile_suffix _
  unfold dropTagEnd? at h
  split at h
  · rename_i heq
    cases h
    exact (List.suffix_cons _ _).trans (heq ▸ htrim)
  · rename_i heq
    cases h
    exact heq ▸ htrim
  · cases h

theorem suffix_of_dropAttributes? {fuel : Nat} (h : dropAttributes? fuel s = some rest) :
    '>' :: rest <:+ s := by
  induction fuel generalizing s with
  | zero => exact suffix_of_dropTagEnd? h
  | succ fuel ih =>
      simp only [dropAttributes?, Option.orElse_eq_orElse, Option.orElse_eq_or,
        Option.or_eq_some_iff] at h
      rcases h with h | ⟨-, h⟩
      · obtain ⟨after, hafter, hrest⟩ := List.exists_of_findSome?_eq_some h
        exact (ih hrest).trans (suffix_of_mem_afterAttribute hafter)
      · exact suffix_of_dropTagEnd? h

theorem suffix_of_dropOpenTag? (h : dropOpenTag? s = some rest) : '>' :: rest <:+ s := by
  unfold dropOpenTag? at h
  split at h
  · split at h
    · exact (suffix_of_dropAttributes? h).trans
        ((List.dropWhile_suffix _).trans (List.suffix_cons _ _))
    · cases h
  · cases h

theorem suffix_of_dropCloseTag? (h : dropCloseTag? s = some rest) : '>' :: rest <:+ s := by
  unfold dropCloseTag? at h
  split at h
  · rename_i c inside
    split at h
    · split at h
      · rename_i heq
        cases h
        have hend : '>' :: rest <:+ inside.dropWhile isTagNameChar :=
          heq ▸ List.dropWhile_suffix _
        exact hend.trans ((List.dropWhile_suffix _).trans
          ((List.suffix_cons _ _).trans (List.suffix_cons _ _)))
      · cases h
    · cases h
  · cases h

theorem suffix_of_dropCommentBody? (h : dropCommentBody? s = some rest) : '>' :: rest <:+ s := by
  fun_induction dropCommentBody? s with
  | case1 inside =>
      cases h
      exact (List.suffix_cons _ _).trans (List.suffix_cons _ _)
  | case2 _ inside _ ih =>
      exact (ih h).trans ((List.suffix_cons _ _).trans
        ((List.suffix_cons _ _).trans (List.suffix_cons _ _)))
  | case3 => cases h
  | case4 c inside _ _ _ ih =>
      exact (ih h).trans ((List.suffix_cons _ _).trans (List.suffix_cons _ _))
  | case5 => cases h
  | case6 c inside _ _ _ _ ih => exact (ih h).trans (List.suffix_cons _ _)
  | case7 => cases h

theorem suffix_of_dropComment? (h : dropComment? s = some rest) : '>' :: rest <:+ s := by
  simp only [dropComment?, Option.bind_eq_bind, Option.bind_eq_some_iff] at h
  obtain ⟨body, hbody, h⟩ := h
  refine List.IsSuffix.trans ?_ (suffix_of_isPrefixOf? hbody)
  split at h
  · cases h
    exact List.suffix_rfl
  · cases h
    exact List.suffix_cons _ _
  · exact suffix_of_dropCommentBody? h

theorem suffix_of_dropDeclaration? (h : dropDeclaration? s = some rest) : '>' :: rest <:+ s := by
  unfold dropDeclaration? at h
  split at h
  · split at h
    · exact (suffix_of_dropThrough? h).trans
        ((List.suffix_cons _ _).trans (List.suffix_cons _ _))
    · cases h
  · cases h

private theorem suffix_of_dropThrough?_gt (stop : Text) {lead after : Text}
    (hlead : lead.isPrefixOf? s = some after) (h : dropThrough? (stop ++ ['>']) after = some rest) :
    '>' :: rest <:+ s := by
  have hstop := (suffix_of_dropThrough? h).trans (suffix_of_isPrefixOf? hlead)
  rw [List.append_assoc] at hstop
  exact (List.suffix_append _ _).trans hstop

theorem suffix_of_dropRaw? (h : dropRaw? s = some rest) : '>' :: rest <:+ s := by
  simp only [dropRaw?, Option.orElse_eq_orElse, Option.orElse_eq_or, Option.or_eq_some_iff] at h
  rcases h with h | ⟨-, h | ⟨-, h | ⟨-, h | ⟨-, h | ⟨-, h⟩⟩⟩⟩⟩
  · exact suffix_of_dropOpenTag? h
  · exact suffix_of_dropCloseTag? h
  · exact suffix_of_dropComment? h
  · simp only [dropInstruction?, Option.bind_eq_bind, Option.bind_eq_some_iff] at h
    obtain ⟨after, hlead, h⟩ := h
    exact suffix_of_dropThrough?_gt ['?'] hlead h
  · exact suffix_of_dropDeclaration? h
  · simp only [dropCdata?, Option.bind_eq_bind, Option.bind_eq_some_iff] at h
    obtain ⟨after, hlead, h⟩ := h
    exact suffix_of_dropThrough?_gt [']', ']'] hlead h

/-! ## Tags of a given form -/

theorem dropThrough?_append {stop : Char} (h : stop ∉ s) (rest : Text) :
    dropThrough? [stop] (s ++ stop :: rest) = some rest := by
  induction s with
  | nil => simp [dropThrough?, List.isPrefixOf?]
  | cons c s ih =>
      rw [List.mem_cons, not_or] at h
      simp [dropThrough?, List.isPrefixOf?, h.1, ih h.2]

theorem trimStart_cons (hc : isBlank c = false) (s : Text) : trimStart (c :: s) = c :: s := by
  simp [trimStart, hc]

theorem afterAttribute_cons (hc : isBlank c = false) (s : Text) : afterAttribute (c :: s) = [] := by
  simp [afterAttribute, hc]

theorem dropAttributes?_cons (hc : isBlank c = false) (fuel : Nat) (s : Text) :
    dropAttributes? fuel (c :: s) = dropTagEnd? (c :: s) := by
  cases fuel <;> simp [dropAttributes?, afterAttribute_cons hc]

theorem dropTagEnd?_gt (rest : Text) : dropTagEnd? ('>' :: rest) = some rest := by
  simp [dropTagEnd?, trimStart_cons (show isBlank '>' = false by decide)]

theorem dropTagEnd?_cons (hc : isBlank c = false) (hend : c ≠ '>') (hslash : c ≠ '/') (s : Text) :
    dropTagEnd? (c :: s) = none := by
  simp [dropTagEnd?, trimStart_cons hc, hend, hslash]

structure IsTagName (isFirst isNext : Char → Bool) (name : Text) : Prop where
  ne_nil : name ≠ []
  first : ∀ c ∈ name.head?, isFirst c = true
  next : name.tail.all isNext = true

theorem IsTagName.exists_cons {isFirst isNext : Char → Bool} {name : Text}
    (h : IsTagName isFirst isNext name) :
    ∃ first next, name = first :: next ∧ isFirst first = true ∧ next.all isNext = true := by
  cases name with
  | nil => exact absurd rfl h.ne_nil
  | cons first next => exact ⟨first, next, rfl, h.first first rfl, h.next⟩

theorem dropWhile_append_cons {p : Char → Bool} (hs : s.all p = true) (hc : p c = false)
    (rest : Text) : (s ++ c :: rest).dropWhile p = c :: rest := by
  rw [List.dropWhile_append_of_pos fun d hd => List.all_eq_true.mp hs d hd]
  simp [hc]

theorem dropOpenTag?_bare {name : Text} (hname : IsTagName Char.isAlpha isTagNameChar name)
    (rest : Text) : dropOpenTag? (name ++ '>' :: rest) = some rest := by
  obtain ⟨first, next, rfl, hfirst, hnext⟩ := hname.exists_cons
  have hafter : (next ++ '>' :: rest).dropWhile isTagNameChar = '>' :: rest :=
    dropWhile_append_cons hnext (by decide) rest
  rw [List.cons_append, dropOpenTag?, if_pos hfirst, hafter]
  rw [dropAttributes?_cons (by decide), dropTagEnd?_gt]

theorem dropCloseTag?_bare {name : Text} (hname : IsTagName Char.isAlpha isTagNameChar name)
    (rest : Text) : dropCloseTag? ('/' :: name ++ '>' :: rest) = some rest := by
  obtain ⟨first, next, rfl, hfirst, hnext⟩ := hname.exists_cons
  have hafter : (next ++ '>' :: rest).dropWhile isTagNameChar = '>' :: rest :=
    dropWhile_append_cons hnext (by decide) rest
  simp [dropCloseTag?, hfirst, hafter, trimStart_cons (show isBlank '>' = false by decide)]

theorem isAttributeStart_cases (hc : isAttributeStart c = true) :
    isBlank c = false ∧ c ≠ '>' ∧ c ≠ '/' := by
  have hcode : (0x41 ≤ c.toNat ∧ c.toNat ≤ 0x5A) ∨ (0x61 ≤ c.toNat ∧ c.toNat ≤ 0x7A) ∨
      c.toNat = 0x5F ∨ c.toNat = 0x3A := by
    simp only [isAttributeStart, Bool.or_eq_true, isAlpha_iff, beq_iff_eq] at hc
    rcases hc with ((hc | hc) | rfl) | rfl
    · omega
    · omega
    · exact .inr (.inr (.inl rfl))
    · exact .inr (.inr (.inr rfl))
  refine ⟨?_, ?_, ?_⟩
  · simp only [isBlank, Bool.or_eq_false_iff, Bool.and_eq_false_iff, decide_eq_false_iff_not,
      beq_eq_false_iff_ne]
    omega
  · rintro rfl
    simp at hcode
  · rintro rfl
    simp at hcode

theorem dropRaw?_letter (hc : c.isAlpha = true) (s : Text) :
    dropRaw? (c :: s) = dropOpenTag? (c :: s) := by
  have hne : ∀ d, d.isAlpha = false → d ≠ c := fun d hd heq => by simp [heq, hc] at hd
  have hslash := hne '/' rfl
  have hmark := hne '!' rfl
  have hquestion := hne '?' rfl
  simp [dropRaw?, dropCloseTag?, dropComment?, dropInstruction?, dropDeclaration?, dropCdata?,
    List.isPrefixOf?, hslash.symm, hmark, hmark.symm, hquestion]

theorem dropRaw?_bare {name : Text} (hname : IsTagName Char.isAlpha isTagNameChar name)
    (rest : Text) : dropRaw? (name ++ '>' :: rest) = some rest := by
  simp [dropRaw?, dropOpenTag?_bare hname rest]

theorem dropRaw?_closing {name : Text} (hname : IsTagName Char.isAlpha isTagNameChar name)
    (rest : Text) : dropRaw? ('/' :: (name ++ '>' :: rest)) = some rest := by
  have hclose : dropCloseTag? ('/' :: (name ++ '>' :: rest)) = some rest :=
    dropCloseTag?_bare hname rest
  have hopen : dropOpenTag? ('/' :: (name ++ '>' :: rest)) = none := rfl
  simp [dropRaw?, hclose, hopen]

theorem dropOpenTag?_value {name attr : Text} (hname : IsTagName Char.isAlpha isTagNameChar name)
    (hattr : IsTagName isAttributeStart isAttributeChar attr) (hvalue : '"' ∉ value)
    (hc : isBlank c = false) (rest : Text) :
    dropOpenTag? (name ++ ' ' :: (attr ++ '=' :: '"' :: (value ++ '"' :: c :: rest))) =
      dropTagEnd? (c :: rest) := by
  -- An open tag with one quoted attribute ends behind its value or not at all: the second quote
  -- ends the value, and nothing but a blank may stand between two attributes.
  obtain ⟨first, next, rfl, hfirst, hnext⟩ := hname.exists_cons
  obtain ⟨start, more, rfl, hstart, hmore⟩ := hattr.exists_cons
  obtain ⟨hblank, hend, hslash⟩ := isAttributeStart_cases hstart
  generalize hassigned : '=' :: '"' :: (value ++ '"' :: c :: rest) = assigned
  have hafterName : (next ++ ' ' :: (start :: more ++ assigned)).dropWhile isTagNameChar =
      ' ' :: (start :: more ++ assigned) :=
    dropWhile_append_cons hnext (by decide) _
  have hafterAttr : (more ++ assigned).dropWhile isAttributeChar = assigned := by
    rw [← hassigned]
    exact dropWhile_append_cons hmore (by decide) _
  have hassignment : afterAssignment assigned = [c :: rest] := by
    rw [← hassigned]
    simp [afterAssignment, trimStart_cons (show isBlank '=' = false by decide), afterRuns,
      show isBlank '"' = false by decide, afterValue, dropThrough?_append hvalue]
  have hattribute : afterAttribute (' ' :: (start :: more ++ assigned)) =
      [c :: rest, assigned] := by
    simp [afterAttribute, show isBlank ' ' = true by decide, hblank, hstart, hafterAttr,
      hassignment]
  -- An attribute without its value would leave the `=`, where no tag goes on.
  have hassignedEnd : ∀ fuel, dropAttributes? fuel assigned = none := by
    intro fuel
    rw [← hassigned, dropAttributes?_cons (by decide),
      dropTagEnd?_cons (by decide) (by decide) (by decide)]
  have hnameEnd : dropTagEnd? (' ' :: (start :: more ++ assigned)) = none := by
    have htrim : trimStart (' ' :: (start :: more ++ assigned)) = start :: (more ++ assigned) := by
      simp [trimStart, show isBlank ' ' = true by decide, hblank]
    rw [dropTagEnd?, htrim]
    simp [hend, hslash]
  rw [List.cons_append, dropOpenTag?, if_pos hfirst, hafterName]
  show dropAttributes? (' ' :: (start :: more ++ assigned)).length _ = _
  rw [List.length_cons, dropAttributes?, hattribute, hnameEnd]
  simp only [List.findSome?_cons, dropAttributes?_cons hc, hassignedEnd]
  cases dropTagEnd? (c :: rest) <;> rfl

end MarkdownPages.Html
