import Mathlib.Data.List.Infix
import MarkdownPages.Markdown.Document

/-!
# Sources

What becomes of a text when it is made the source of a document: its line ends are line feeds, and
its nulls are replaced.  Everything else is kept, and so no new words come up within a line.
-/

namespace MarkdownPages.Markdown

open Text

variable {s word : Text} {c : Char}

/-! ## Texts without carriage returns -/

theorem normalizeNewlines_of_notMem (h : '\r' ∉ s) : normalizeNewlines s = s := by
  induction s with
  | nil => rfl
  | cons c s ih =>
      rw [List.mem_cons, not_or] at h
      rw [normalizeNewlines, ih h.2]
      · rintro _ rfl
        exact absurd rfl h.1
      · rintro rfl
        exact absurd rfl h.1

theorem normalizeNewlines_append (h : '\r' ∉ s) (rest : Text) :
    normalizeNewlines (s ++ rest) = s ++ normalizeNewlines rest := by
  induction s with
  | nil => rfl
  | cons c s ih =>
      rw [List.mem_cons, not_or] at h
      rw [List.cons_append, normalizeNewlines, ih h.2, List.cons_append]
      · rintro _ rfl
        exact absurd rfl h.1
      · rintro rfl
        exact absurd rfl h.1

theorem normalizeSource_append (hreturn : '\r' ∉ s) (hnull : Char.ofNat 0 ∉ s) (rest : Text) :
    normalizeSource (s ++ rest) = s ++ normalizeSource rest := by
  have hkept : s.map (fun c => if c.toNat = 0 then Html.replacement else c) = s := by
    refine (List.map_congr_left fun c hc => if_neg fun hzero => hnull ?_).trans (List.map_id' s)
    rwa [← hzero, Char.ofNat_toNat]
  rw [normalizeSource, normalizeNewlines_append hreturn, List.map_append, hkept]
  rfl

theorem normalizeSource_of_notMem (hreturn : '\r' ∉ s) (hnull : Char.ofNat 0 ∉ s) :
    normalizeSource s = s := by
  have happend := normalizeSource_append hreturn hnull []
  rwa [List.append_nil, show normalizeSource [] = [] from rfl, List.append_nil] at happend

theorem notMem_normalizeSource (hline : '\n' ∉ s) (hreturn : '\r' ∉ s) :
    '\n' ∉ normalizeSource s := by
  rw [normalizeSource, normalizeNewlines_of_notMem hreturn, List.mem_map]
  rintro ⟨c, hc, heq⟩
  split at heq
  · exact absurd heq (by decide)
  · exact hline (heq ▸ hc)

/-! ## Other texts -/

theorem normalizeNewlines_append_cons (hc : c ≠ '\n') (s rest : Text) :
    normalizeNewlines (s ++ c :: rest) = normalizeNewlines s ++ normalizeNewlines (c :: rest) := by
  fun_induction normalizeNewlines s with
  | case1 => rfl
  | case2 s ih => simp [normalizeNewlines, ih]
  | case3 s hnext ih =>
      rw [List.cons_append, normalizeNewlines, ih, List.cons_append]
      intro after heq
      cases s with
      | nil => exact hc (List.cons.inj heq).1
      | cons d s =>
          obtain ⟨rfl, -⟩ := List.cons.inj heq
          exact hnext s rfl
  | case4 d s hpair hreturn ih =>
      rw [List.cons_append, normalizeNewlines, ih, List.cons_append]
      · exact fun _ hd => absurd hd hreturn
      · exact hreturn

theorem normalizeSource_append_cons (hc : c ≠ '\n') (s rest : Text) :
    normalizeSource (s ++ c :: rest) = normalizeSource s ++ normalizeSource (c :: rest) := by
  rw [normalizeSource, normalizeNewlines_append_cons hc, List.map_append]
  rfl

theorem prefix_of_prefix_normalizeSource (hline : '\n' ∉ word) (hnull : Html.replacement ∉ word)
    (h : word <+: normalizeSource s) : word <+: s := by
  rw [normalizeSource] at h
  fun_induction normalizeNewlines s generalizing word with
  | case1 => exact h
  | case2 s ih =>
      cases word with
      | nil => exact List.nil_prefix
      | cons d word => exact absurd (.head _) ((List.cons_prefix_cons.mp h).1 ▸ hline)
  | case3 s hnext ih =>
      cases word with
      | nil => exact List.nil_prefix
      | cons d word => exact absurd (.head _) ((List.cons_prefix_cons.mp h).1 ▸ hline)
  | case4 c s hpair hreturn ih =>
      cases word with
      | nil => exact List.nil_prefix
      | cons d word =>
          rw [List.mem_cons, not_or] at hline hnull
          obtain ⟨hd, hrest⟩ := List.cons_prefix_cons.mp h
          dsimp only at hd
          split at hd
          · exact absurd hd.symm hnull.1
          · exact List.cons_prefix_cons.mpr ⟨hd, ih hline.2 hnull.2 hrest⟩

theorem exists_of_suffix_normalizeSource {t : Text} (h : t <:+ normalizeSource s) :
    ∃ u, u <:+ s ∧ t = normalizeSource u := by
  unfold normalizeSource at h ⊢
  fun_induction normalizeNewlines s with
  | case1 => exact ⟨[], List.suffix_refl _, List.suffix_nil.mp h⟩
  | case2 s ih =>
      rcases List.suffix_cons_iff.mp h with rfl | h
      · exact ⟨_, List.suffix_refl _, rfl⟩
      · obtain ⟨u, hu, rfl⟩ := ih h
        exact ⟨u, hu.trans ((List.suffix_cons _ _).trans (List.suffix_cons _ _)), rfl⟩
  | case3 s hnext ih =>
      rcases List.suffix_cons_iff.mp h with rfl | h
      · exact ⟨_, List.suffix_refl _, by simp [normalizeNewlines]⟩
      · obtain ⟨u, hu, rfl⟩ := ih h
        exact ⟨u, hu.trans (List.suffix_cons _ _), rfl⟩
  | case4 c s hpair hreturn ih =>
      rcases List.suffix_cons_iff.mp h with rfl | h
      · exact ⟨_, List.suffix_refl _, by simp [normalizeNewlines]⟩
      · obtain ⟨u, hu, rfl⟩ := ih h
        exact ⟨u, hu.trans (List.suffix_cons _ _), rfl⟩

theorem infix_of_infix_normalizeSource (hline : '\n' ∉ word) (hnull : Html.replacement ∉ word)
    (h : word <:+: normalizeSource s) : word <:+: s := by
  obtain ⟨t, hlead, hsuffix⟩ := List.infix_iff_prefix_suffix.mp h
  obtain ⟨u, hu, rfl⟩ := exists_of_suffix_normalizeSource hsuffix
  exact (prefix_of_prefix_normalizeSource hline hnull hlead).isInfix.trans hu.isInfix

end MarkdownPages.Markdown
