import Mathlib.Data.List.Infix
import MarkdownPages.Text.Basic

/-!
# Texts in parts

What the parts of a text hold, and where they stand in it: a text is cut by `List.splitOnP` and
`List.splitOn`, and put together by `List.intercalate`.
-/

namespace MarkdownPages.Text

variable {isSep : Char → Bool} {s part sep : Text} {parts : List Text} {c : Char}

/-! ## Cutting -/

theorem exists_mem_splitOnP (isSep : Char → Bool) (hc : isSep c = false) (h : c ∈ s) :
    ∃ part ∈ s.splitOnP isSep, c ∈ part := by
  induction s with
  | nil => simp at h
  | cons d s ih =>
      rw [List.splitOnP_cons_eq_if_modifyHead]
      obtain ⟨first, parts, hparts⟩ := List.exists_cons_of_ne_nil (List.splitOnP_ne_nil isSep s)
      rw [hparts] at ih ⊢
      split
      · rename_i hd
        have hmem : c ∈ s := by
          rcases List.mem_cons.mp h with rfl | h
          · simp [hc] at hd
          · exact h
        obtain ⟨part, hpart, hin⟩ := ih hmem
        exact ⟨part, List.mem_cons_of_mem _ hpart, hin⟩
      · rcases List.mem_cons.mp h with rfl | h
        · simp
        · obtain ⟨part, hpart, hin⟩ := ih h
          rcases List.mem_cons.mp hpart with rfl | hpart
          · exact ⟨d :: part, List.mem_cons_self, List.mem_cons_of_mem d hin⟩
          · exact ⟨part, List.mem_cons_of_mem _ hpart, hin⟩

theorem not_isSep_of_mem_splitOnP (h : part ∈ s.splitOnP isSep) : ∀ c ∈ part, isSep c = false := by
  induction s generalizing part with
  | nil => simp [List.mem_singleton.mp (List.splitOnP_nil ▸ h)]
  | cons d s ih =>
      rw [List.splitOnP_cons_eq_if_modifyHead] at h
      obtain ⟨first, parts, hparts⟩ := List.exists_cons_of_ne_nil (List.splitOnP_ne_nil isSep s)
      rw [hparts] at ih h
      split at h
      · rcases List.mem_cons.mp h with rfl | h
        · simp
        · exact ih h
      · rename_i hd
        rw [Bool.not_eq_true] at hd
        rcases List.mem_cons.mp h with rfl | h
        · exact List.forall_mem_cons.mpr ⟨hd, ih List.mem_cons_self⟩
        · exact ih (List.mem_cons_of_mem first h)

theorem exists_splitOn_append (sep : Char) (s : Text) :
    ∃ parts name, ∀ ending : Text, sep ∉ ending →
      (s ++ ending).splitOn sep = parts ++ [name ++ ending] := by
  induction s with
  | nil => exact ⟨[], [], fun ending h => List.splitOn_eq_singleton h⟩
  | cons c s ih =>
      obtain ⟨parts, name, hsplit⟩ := ih
      by_cases hc : (c == sep) = true
      · refine ⟨[] :: parts, name, fun ending h => ?_⟩
        simp [List.splitOn_cons_eq_if_modifyHead, hc, hsplit ending h]
      · cases parts with
        | nil =>
            refine ⟨[], c :: name, fun ending h => ?_⟩
            simp [List.splitOn_cons_eq_if_modifyHead, hc, hsplit ending h]
        | cons part parts =>
            refine ⟨(c :: part) :: parts, name, fun ending h => ?_⟩
            simp [List.splitOn_cons_eq_if_modifyHead, hc, hsplit ending h]

/-! ## Joining -/

theorem mem_intercalate (h : c ∈ sep.intercalate parts) : c ∈ sep ∨ ∃ part ∈ parts, c ∈ part := by
  induction parts with
  | nil => cases h
  | cons part parts ih =>
      cases parts with
      | nil =>
          rw [List.intercalate_singleton] at h
          exact .inr ⟨part, List.mem_cons_self, h⟩
      | cons next parts =>
          rw [List.intercalate_cons_cons, List.mem_append, List.mem_append] at h
          rcases h with (h | h) | h
          · exact .inr ⟨part, List.mem_cons_self, h⟩
          · exact .inl h
          · apply (ih h).imp_right
            rintro ⟨found, hfound, hc⟩
            exact ⟨found, List.mem_cons_of_mem part hfound, hc⟩

theorem infix_intercalate (h : part ∈ parts) : part <:+: sep.intercalate parts := by
  induction parts with
  | nil => cases h
  | cons first parts ih =>
      cases parts with
      | nil =>
          rw [List.mem_singleton.mp h, List.intercalate_singleton]
      | cons next parts =>
          rw [List.intercalate_cons_cons, List.append_assoc]
          rcases List.mem_cons.mp h with rfl | h
          · exact (List.prefix_append _ _).isInfix
          · exact (ih h).trans (((List.suffix_append sep _).trans (List.suffix_append first _)).isInfix)

theorem suffix_intercalate (h : part ∈ parts.getLast?) : part <:+ sep.intercalate parts := by
  induction parts with
  | nil => cases h
  | cons first parts ih =>
      cases parts with
      | nil => exact List.intercalate_singleton ▸ Option.some.inj h ▸ List.suffix_refl _
      | cons next parts =>
          rw [List.intercalate_cons_cons, List.append_assoc]
          rw [List.getLast?_cons_cons] at h
          exact (ih h).trans ((List.suffix_append sep _).trans (List.suffix_append first _))

end MarkdownPages.Text
