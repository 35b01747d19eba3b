import MarkdownPages.Path
import MarkdownPages.Proofs.Text.Parts

/-!
# The normal form of paths

Reading a text as a path leaves no component that is empty, that is `.`, or that holds a slash.  The
paths of this form are written so that reading gives them back, and so two of them are written alike
only if they are equal.
-/

namespace MarkdownPages.Path

open Text

variable {p q : Path} {s : Text} {parts : List Text}

/-- A component that counts and cannot be cut further. -/
def IsComponent (part : Text) : Prop := isPart part = true ∧ '/' ∉ part

instance (part : Text) : Decidable (IsComponent part) :=
  inferInstanceAs (Decidable (isPart part = true ∧ '/' ∉ part))

def IsNormal (p : Path) : Prop := ∀ part ∈ p.parts, IsComponent part

instance (p : Path) : Decidable p.IsNormal := List.decidableBAll IsComponent p.parts

theorem isNormal_ofText (s : Text) : (ofText s).IsNormal := by
  intro part hpart
  obtain ⟨hmem, hcounts⟩ := List.mem_filter.mp hpart
  refine ⟨hcounts, fun hslash => ?_⟩
  exact absurd (not_isSep_of_mem_splitOnP hmem '/' hslash) (by simp)

theorem IsNormal.join (hp : p.IsNormal) (hq : q.IsNormal) : (p.join q).IsNormal := by
  unfold Path.join
  split
  · exact List.forall_mem_append.mpr ⟨hp, hq⟩
  · exact hq

/-! ## Writing and reading -/

theorem rootOf_text_append (root : Root) (h : s.head? ≠ some '/') :
    rootOf (root.text ++ s) = root := by
  cases s with
  | nil => cases root <;> rfl
  | cons c s =>
      have hc : c ≠ '/' := fun heq => h (congrArg some heq)
      cases root <;> simp [Root.text, rootOf, hc]

theorem filter_splitOn_text_append (root : Root) (s : Text) :
    ((root.text ++ s).splitOn '/').filter isPart = (s.splitOn '/').filter isPart := by
  cases root <;> rfl

theorem head?_intercalate_ne (h : ∀ part ∈ parts, IsComponent part) :
    (['/'].intercalate parts).head? ≠ some '/' := by
  cases parts with
  | nil => simp
  | cons part parts =>
      obtain ⟨hcounts, hslash⟩ := h part List.mem_cons_self
      cases part with
      | nil => simp [isPart] at hcounts
      | cons c part =>
          rw [List.intercalate_cons_cons_left, List.head?_cons]
          rintro ⟨⟩
          exact hslash List.mem_cons_self

theorem filter_splitOn_intercalate (h : ∀ part ∈ parts, IsComponent part) :
    ((['/'].intercalate parts).splitOn '/').filter isPart = parts := by
  by_cases hempty : parts = []
  · rw [hempty]
    rfl
  · rw [List.splitOn_intercalate '/' (fun part hpart => (h part hpart).2) hempty]
    exact List.filter_eq_self.mpr fun part hpart => (h part hpart).1

theorem ofText_toText (h : p.IsNormal) : ofText p.toText = p := by
  obtain ⟨root, parts⟩ := p
  rw [toText]
  split
  · rename_i hempty
    obtain ⟨rfl, rfl⟩ := hempty
    rfl
  · rw [ofText, rootOf_text_append root (head?_intercalate_ne h), filter_splitOn_text_append,
      filter_splitOn_intercalate h]

end MarkdownPages.Path
