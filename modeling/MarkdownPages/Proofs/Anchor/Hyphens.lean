import Mathlib.Data.List.DropRight
import MarkdownPages.Proofs.Anchor.Shape

/-!
# What leaves no trace in an anchor

A run of characters that are no letters or digits is one hyphen in an anchor, however long it is,
and nothing at the end.  So blanks around a heading do not matter, nor do such characters behind
it, nor a backslash before another such character.
-/

namespace MarkdownPages.Anchor

open Text

variable {s t lead rest : Text} {c : Char}

/-! ## Runs of hyphens -/

theorem squeezeHyphens_squeezeHyphens (s : Text) :
    squeezeHyphens (squeezeHyphens s) = squeezeHyphens s :=
  squeezeHyphens_of_isChain (isChain_squeezeHyphens s)

theorem squeezeHyphens_append_right (s t : Text) :
    squeezeHyphens (s ++ squeezeHyphens t) = squeezeHyphens (s ++ t) := by
  induction s with
  | nil => exact squeezeHyphens_squeezeHyphens t
  | cons c s ih =>
      have hhead : (s ++ squeezeHyphens t).head? = (s ++ t).head? := by
        rw [List.head?_append, List.head?_append, head?_squeezeHyphens]
      rw [List.cons_append, List.cons_append, squeezeHyphens, squeezeHyphens, hhead, ih]

theorem squeezeHyphens_concat_hyphen (s : Text) :
    squeezeHyphens (s ++ ['-']) =
      if s.getLast? = some '-' then squeezeHyphens s else squeezeHyphens s ++ ['-'] := by
  induction s with
  | nil => rfl
  | cons c s ih =>
      cases s with
      | nil => by_cases hc : c = '-' <;> simp [squeezeHyphens, hc]
      | cons d s =>
          have hhead : (d :: s ++ ['-']).head? = (d :: s).head? := rfl
          rw [List.cons_append, squeezeHyphens, hhead, ih, List.getLast?_cons_cons,
            squeezeHyphens.eq_def (c :: d :: s)]
          dsimp only
          split <;> split <;> rfl

theorem getLast?_squeezeHyphens (s : Text) : (squeezeHyphens s).getLast? = s.getLast? := by
  fun_induction squeezeHyphens s with
  | case1 => rfl
  | case2 c rest h ih =>
      cases rest with
      | nil => cases h.2
      | cons d rest => rw [ih, List.getLast?_cons_cons]
  | case3 c rest h ih => rw [List.getLast?_cons, List.getLast?_cons, ih]

theorem dropLastHyphen_squeezeHyphens_append (s : Text) (ht : ∀ c ∈ t, c = '-') :
    dropLastHyphen (squeezeHyphens (s ++ t)) = dropLastHyphen (squeezeHyphens s) := by
  induction t using List.reverseRecOn with
  | nil => rw [List.append_nil]
  | append_singleton t c ih =>
      obtain rfl : c = '-' := ht c (by simp)
      have htail := ih fun d hd => ht d (by simp [hd])
      rw [← htail, ← List.append_assoc, squeezeHyphens_concat_hyphen]
      split
      · rfl
      · rename_i hlast
        have hlast' : (squeezeHyphens (s ++ t)).getLast? ≠ some '-' := by
          rwa [getLast?_squeezeHyphens]
        rw [dropLastHyphen, if_pos List.getLast?_concat, List.dropLast_concat, dropLastHyphen,
          if_neg hlast']

/-! ## Texts in an anchor -/

def letters (c : Char) : Text := (lowerChar c).map hyphenate

def fold (s : Text) : Text := squeezeHyphens (s.flatMap letters)

theorem map_hyphenate_lower (s : Text) : (lower s).map hyphenate = s.flatMap letters := by
  rw [lower, List.map_flatMap]
  rfl

theorem fold_cons (c : Char) (s : Text) :
    fold (c :: s) = squeezeHyphens (letters c ++ fold s) := by
  rw [fold, fold, squeezeHyphens_append_right, List.flatMap_cons]

def IsGap (c : Char) : Prop := letters c = ['-']

theorem isGap_of_not_isAlphanum (h : c.isAlphanum = false) (hk : c.toNat ≠ 0x212A)
    (hi : c.toNat ≠ 0x130) : IsGap c := by
  obtain ⟨hletter, hdigit⟩ : c.isAlpha = false ∧ c.isDigit = false := Bool.or_eq_false_iff.mp h
  obtain ⟨hupper, hlower⟩ : c.isUpper = false ∧ c.isLower = false := Bool.or_eq_false_iff.mp hletter
  simp [IsGap, letters, lowerChar, hyphenate, isAnchorChar, hupper, hlower, hdigit, hk, hi]

theorem isGap_of_isBlank (h : isBlank c = true) : IsGap c := by
  simp only [isBlank, Bool.or_eq_true, Bool.and_eq_true, decide_eq_true_eq, beq_iff_eq] at h
  refine isGap_of_not_isAlphanum ?_ (by omega) (by omega)
  rw [Bool.eq_false_iff, Ne, isAlphanum_iff]
  omega

theorem isGap_of_isAsciiPunctuation (h : isAsciiPunctuation c = true) : IsGap c := by
  simp only [isAsciiPunctuation, Bool.or_eq_true, Bool.and_eq_true, decide_eq_true_eq] at h
  refine isGap_of_not_isAlphanum ?_ (by omega) (by omega)
  rw [Bool.eq_false_iff, Ne, isAlphanum_iff]
  omega

theorem isBlank_of_isAsciiPunctuation (h : isAsciiPunctuation c = true) : isBlank c = false := by
  simp only [isAsciiPunctuation, Bool.or_eq_true, Bool.and_eq_true, decide_eq_true_eq] at h
  simp only [isBlank, Bool.or_eq_false_iff, Bool.and_eq_false_iff, decide_eq_false_iff_not,
    beq_eq_false_iff_ne]
  omega

theorem dropLastHyphen_fold_append (s : Text) (ht : ∀ c ∈ t, IsGap c) :
    dropLastHyphen (fold (s ++ t)) = dropLastHyphen (fold s) := by
  rw [fold, List.flatMap_append, fold]
  refine dropLastHyphen_squeezeHyphens_append _ fun c hc => ?_
  obtain ⟨d, hd, hmem⟩ := List.mem_flatMap.mp hc
  rw [ht d hd] at hmem
  exact List.mem_singleton.mp hmem

/-! ## Ends of headings -/

theorem ofHeading_eq (s : Text) :
    ofHeading s = guardDigit (dropLastHyphen (fold (trimStart s))) := by
  have hblank : ∀ c ∈ (trimStart s).rtakeWhile isBlank, IsGap c := fun c hc =>
    isGap_of_isBlank (List.mem_rtakeWhile_imp hc)
  have hsplit : trim s ++ (trimStart s).rtakeWhile isBlank = trimStart s :=
    List.rdropWhile_append_rtakeWhile
  rw [ofHeading, map_hyphenate_lower, ← fold, ← hsplit, dropLastHyphen_fold_append _ hblank]

theorem trimStart_of_blank (h : ∀ c ∈ lead, isBlank c = true) (s : Text) :
    trimStart (lead ++ s) = trimStart s :=
  List.dropWhile_append_of_pos h

theorem ofHeading_blank_append (h : ∀ c ∈ lead, isBlank c = true) (s : Text) :
    ofHeading (lead ++ s) = ofHeading s := by
  rw [ofHeading_eq, ofHeading_eq, trimStart_of_blank h]

theorem ofHeading_append_of_isGap (s : Text) (ht : ∀ c ∈ t, IsGap c) :
    ofHeading (s ++ t) = ofHeading s := by
  have hrest : ∀ c ∈ trimStart t, IsGap c := fun c hc =>
    ht c ((List.dropWhile_suffix isBlank).subset hc)
  rw [ofHeading_eq, ofHeading_eq, trimStart, List.dropWhile_append, ← trimStart, ← trimStart]
  split
  · rename_i hempty
    rw [List.isEmpty_iff.mp hempty, ← List.nil_append (trimStart t),
      dropLastHyphen_fold_append [] hrest]
  · rw [dropLastHyphen_fold_append _ ht]

/-! ## Changes of a text -/

theorem ofHeading_map (f : Char → Char) (hblank : ∀ c, isBlank (f c) = isBlank c)
    (hletters : ∀ c, letters (f c) = letters c) (s : Text) : ofHeading (s.map f) = ofHeading s := by
  -- Characters may be replaced by others that are blank and become letters as they do.
  have htrim : trimStart (s.map f) = (trimStart s).map f := by
    rw [trimStart, List.dropWhile_map, trimStart]
    congr 1
    exact congrArg (List.dropWhile · s) (funext hblank)
  rw [ofHeading_eq, ofHeading_eq, htrim, fold, List.flatMap_map, fold]
  simp only [hletters]

/-- A text from which some backslashes before punctuation are left out. -/
inductive Unescaped : Text → Text → Prop
  | nil : Unescaped [] []
  | char (c : Char) {s t : Text} (h : Unescaped s t) : Unescaped (c :: s) (c :: t)
  | escape {c : Char} {s t : Text} (hc : isAsciiPunctuation c = true) (h : Unescaped s t) :
      Unescaped ('\\' :: c :: s) (c :: t)

theorem Unescaped.append_left (h : Unescaped s t) (word : Text) :
    Unescaped (word ++ s) (word ++ t) := by
  induction word with
  | nil => exact h
  | cons c word ih => exact ih.char c

theorem Unescaped.fold_eq (h : Unescaped s t) : fold s = fold t := by
  induction h with
  | nil => rfl
  | char c h ih => rw [fold_cons, fold_cons, ih]
  | @escape c s t hc h ih =>
      have hgap : letters c = ['-'] := isGap_of_isAsciiPunctuation hc
      have hbackslash : letters '\\' = ['-'] := by decide
      rw [fold_cons, fold_cons, fold_cons, ih, hbackslash, hgap, squeezeHyphens_append_right]
      rfl

theorem Unescaped.ofHeading_eq (h : Unescaped s t) : ofHeading s = ofHeading t := by
  have hfold : fold (trimStart s) = fold (trimStart t) := by
    induction h with
    | nil => rfl
    | char c h ih =>
        by_cases hc : isBlank c = true
        · simpa [trimStart, hc] using ih
        · simpa [trimStart, hc] using (h.char c).fold_eq
    | @escape c s t hc h ih =>
        have hpunctuation := isBlank_of_isAsciiPunctuation hc
        have hbackslash : isBlank '\\' = false := by decide
        simpa [trimStart, hpunctuation, hbackslash] using (h.escape hc).fold_eq
  rw [Anchor.ofHeading_eq, Anchor.ofHeading_eq, hfold]

end MarkdownPages.Anchor
