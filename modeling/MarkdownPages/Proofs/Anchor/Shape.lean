import Mathlib.Data.List.Chain
import Mathlib.Data.List.TakeWhile
import MarkdownPages.Anchor
import MarkdownPages.Proofs.Text.Classes

/-!
# The shape of anchors

An anchor holds letters, digits and single hyphens, and neither starts with a digit nor ends with a
hyphen.  Making an anchor gives a text of this shape and leaves such a text alone; numbering keeps
the shape.
-/

namespace MarkdownPages.Anchor

open Text

def IsInner (c : Char) : Prop := isAnchorChar c = true ∨ c = '-'

def Apart (c d : Char) : Prop := ¬(c = '-' ∧ d = '-')

structure IsAnchor (s : Text) : Prop where
  inner : ∀ c ∈ s, IsInner c
  apart : s.IsChain Apart
  last : s.getLast? ≠ some '-'
  head : ∀ c ∈ s.head?, c.isDigit = false

/-! ## Characters -/

theorem IsInner.toNat {c : Char} (h : IsInner c) :
    c.toNat = 0x2D ∨ (0x30 ≤ c.toNat ∧ c.toNat ≤ 0x39) ∨ (0x61 ≤ c.toNat ∧ c.toNat ≤ 0x7A) := by
  rcases h with h | rfl
  · rw [isAnchorChar, Bool.or_eq_true, isLower_iff, isDigit_iff] at h
    omega
  · exact .inl rfl

theorem IsInner.isBlank_eq {c : Char} (h : IsInner c) : isBlank c = false := by
  have hcode := h.toNat
  simp only [isBlank, Bool.or_eq_false_iff, Bool.and_eq_false_iff, decide_eq_false_iff_not,
    beq_eq_false_iff_ne]
  omega

theorem IsInner.lowerChar_eq {c : Char} (h : IsInner c) : lowerChar c = [c] := by
  have hcode := h.toNat
  have hupper : c.isUpper = false := by
    rw [Bool.eq_false_iff, Ne, isUpper_iff]
    omega
  rw [lowerChar, if_neg (by simp [hupper]), if_neg (by omega), if_neg (by omega)]

theorem IsInner.hyphenate_eq {c : Char} (h : IsInner c) : hyphenate c = c := by
  unfold hyphenate
  split
  · rfl
  · rename_i hchar
    exact (h.resolve_left hchar).symm

theorem isInner_hyphenate (c : Char) : IsInner (hyphenate c) := by
  unfold hyphenate
  split
  · rename_i hchar
    exact .inl hchar
  · exact .inr rfl

/-! ## The steps -/

theorem trim_of_isInner {s : Text} (h : ∀ c ∈ s, IsInner c) : trim s = s := by
  have hkept : ∀ t : Text, (∀ c ∈ t, IsInner c) → t.dropWhile isBlank = t := by
    intro t ht
    rw [List.dropWhile_eq_self_iff]
    intro hlength
    simp [(ht _ (List.getElem_mem hlength)).isBlank_eq]
  have hreverse : s.reverse.dropWhile isBlank = s.reverse :=
    hkept _ fun c hc => h c (List.mem_reverse.mp hc)
  rw [trim, trimStart, trimEnd, hkept s h, hreverse, List.reverse_reverse]

theorem lower_of_isInner {s : Text} (h : ∀ c ∈ s, IsInner c) : lower s = s := by
  induction s with
  | nil => rfl
  | cons c s ih =>
      rw [List.forall_mem_cons] at h
      have htail : lower s = s := ih h.2
      rw [lower, List.flatMap_cons, h.1.lowerChar_eq, ← lower, htail]
      rfl

theorem map_hyphenate_of_isInner {s : Text} (h : ∀ c ∈ s, IsInner c) : s.map hyphenate = s := by
  rw [List.map_congr_left fun c hc => (h c hc).hyphenate_eq, List.map_id']

theorem head?_squeezeHyphens (s : Text) : (squeezeHyphens s).head? = s.head? := by
  fun_induction squeezeHyphens s with
  | case1 => rfl
  | case2 c rest h ih => rw [ih, h.2, h.1, List.head?_cons]
  | case3 => rfl

theorem mem_of_mem_squeezeHyphens {s : Text} {c : Char} (h : c ∈ squeezeHyphens s) : c ∈ s := by
  fun_induction squeezeHyphens s with
  | case1 => exact h
  | case2 d rest _ ih => exact List.mem_cons_of_mem d (ih h)
  | case3 d rest _ ih =>
      rcases List.mem_cons.mp h with rfl | h
      · exact List.mem_cons_self
      · exact List.mem_cons_of_mem d (ih h)

theorem isChain_squeezeHyphens (s : Text) : (squeezeHyphens s).IsChain Apart := by
  fun_induction squeezeHyphens s with
  | case1 => exact .nil
  | case2 _ _ _ ih => exact ih
  | case3 c rest h ih =>
      refine List.isChain_cons.mpr ⟨?_, ih⟩
      rintro d hd ⟨rfl, rfl⟩
      rw [head?_squeezeHyphens] at hd
      exact h ⟨rfl, hd⟩

theorem squeezeHyphens_of_isChain {s : Text} (h : s.IsChain Apart) : squeezeHyphens s = s := by
  induction s with
  | nil => rfl
  | cons c rest ih =>
      have hfirst := (List.isChain_cons.mp h).1
      have hkeep : ¬(c = '-' ∧ rest.head? = some '-') := by
        rintro ⟨rfl, hhead⟩
        exact hfirst '-' hhead ⟨rfl, rfl⟩
      rw [squeezeHyphens, if_neg hkeep, ih h.tail]

theorem getLast?_dropLastHyphen {s : Text} (h : s.IsChain Apart) :
    (dropLastHyphen s).getLast? ≠ some '-' := by
  unfold dropLastHyphen
  split
  · rename_i hlast
    intro hbefore
    have hsplit := List.dropLast_append_getLast? _ hlast
    rw [← hsplit] at h
    exact (List.isChain_append.mp h).2.2 '-' hbefore '-' rfl ⟨rfl, rfl⟩
  · rename_i hlast
    exact hlast

theorem prefix_dropLastHyphen (s : Text) : dropLastHyphen s <+: s := by
  unfold dropLastHyphen
  split
  · exact List.dropLast_prefix s
  · exact List.prefix_rfl

/-! ## Anchors -/

theorem isAnchor_guardDigit {s : Text} (hinner : ∀ c ∈ s, IsInner c) (hapart : s.IsChain Apart)
    (hlast : s.getLast? ≠ some '-') : IsAnchor (guardDigit s) := by
  -- Everything but a digit at the start is settled before the last step.
  unfold guardDigit
  split
  · exact ⟨hinner, hapart, hlast, by simp⟩
  · rename_i c rest
    split
    · rename_i hdigit
      have hne : c ≠ '-' := by
        rintro rfl
        exact absurd hdigit (by decide)
      refine ⟨?_, ?_, ?_, ?_⟩
      · intro d hd
        simp only [List.mem_cons] at hd
        rcases hd with rfl | rfl | rfl | hd
        · exact .inl (by decide)
        · exact .inl (by decide)
        · exact .inr rfl
        · exact hinner d (List.mem_cons.mpr hd)
      · simp [List.isChain_cons_cons, Apart, hne, hapart]
      · simpa [List.getLast?_cons_cons] using hlast
      · simp [Char.isDigit]
    · rename_i hdigit
      refine ⟨hinner, hapart, hlast, ?_⟩
      simpa using hdigit

theorem isAnchor_ofHeading (heading : Text) : IsAnchor (ofHeading heading) := by
  unfold ofHeading
  have hsqueezed := isChain_squeezeHyphens ((lower (trim heading)).map hyphenate)
  have hlead := prefix_dropLastHyphen (squeezeHyphens ((lower (trim heading)).map hyphenate))
  apply isAnchor_guardDigit
  · intro c hc
    have hmem := mem_of_mem_squeezeHyphens (hlead.subset hc)
    obtain ⟨d, -, rfl⟩ := List.mem_map.mp hmem
    exact isInner_hyphenate d
  · exact hsqueezed.prefix hlead
  · exact getLast?_dropLastHyphen hsqueezed

theorem guardDigit_of_head {s : Text} (h : ∀ c ∈ s.head?, c.isDigit = false) :
    guardDigit s = s := by
  cases s with
  | nil => rfl
  | cons c rest => simp [guardDigit, h c rfl]

theorem ofHeading_of_isAnchor {s : Text} (h : IsAnchor s) : ofHeading s = s := by
  rw [ofHeading, trim_of_isInner h.inner, lower_of_isInner h.inner,
    map_hyphenate_of_isInner h.inner, squeezeHyphens_of_isChain h.apart, dropLastHyphen,
    if_neg h.last, guardDigit_of_head h.head]

/-! ## Numbers -/

theorem isDigit_of_mem_ofNat {n : Nat} {c : Char} (h : c ∈ Text.ofNat n) : c.isDigit = true :=
  Nat.isDigit_of_mem_toDigits (by decide) (by decide) h

theorem ofNat_ne_nil (n : Nat) : Text.ofNat n ≠ [] := Nat.toDigits_ne_nil

theorem ofNat_injective : Function.Injective Text.ofNat := by
  intro n m h
  have hnumbers := congrArg (fun digits => Nat.ofDigitChars 10 digits 0) h
  simpa [Text.ofNat] using hnumbers

theorem IsAnchor.numbered {anchor : Text} (h : IsAnchor anchor) (n : Nat) :
    IsAnchor (numbered anchor n) := by
  cases n with
  | zero => exact h
  | succ n =>
      have hdigits : ∀ c ∈ Text.ofNat (n + 1), c.isDigit = true := fun c => isDigit_of_mem_ofNat
      have hhyphen : ∀ c ∈ Text.ofNat (n + 1), c ≠ '-' := by
        rintro c hc rfl
        exact absurd (hdigits _ hc) (by decide)
      have hinnerDigits : ∀ c ∈ Text.ofNat (n + 1), IsInner c := fun c hc =>
        .inl (by simp [isAnchorChar, hdigits c hc])
      have hapartDigits : (Text.ofNat (n + 1)).IsChain Apart := by
        apply List.Pairwise.isChain
        exact List.pairwise_of_forall_mem_list fun c hc d _ happart => hhyphen c hc happart.1
      unfold Anchor.numbered
      refine ⟨?_, ?_, ?_, ?_⟩
      · intro c hc
        simp only [List.mem_append, List.mem_cons] at hc
        rcases hc with hc | rfl | hc
        · exact h.inner c hc
        · exact .inr rfl
        · exact hinnerDigits c hc
      · refine h.apart.append (List.isChain_cons.mpr ⟨?_, hapartDigits⟩) ?_
        · exact fun c hc happart => hhyphen c (List.mem_of_mem_head? hc) happart.2
        · rintro c hc d hd ⟨rfl, -⟩
          exact h.last hc
      · intro hlast
        rw [List.getLast?_append_of_ne_nil _ (by simp),
          List.getLast?_cons_of_ne_nil (ofNat_ne_nil _)] at hlast
        exact hhyphen '-' (List.mem_of_getLast? hlast) rfl
      · intro c hc
        cases anchor with
        | nil =>
            obtain rfl : c = '-' := by simpa using hc.symm
            decide
        | cons d anchor =>
            exact h.head c (by simpa using hc)

end MarkdownPages.Anchor
