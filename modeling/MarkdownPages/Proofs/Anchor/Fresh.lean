import Mathlib.Data.List.Nodup
import Mathlib.Data.List.Perm.Subperm
import MarkdownPages.Proofs.Anchor.Shape

/-!
# Free anchors

The forms of an anchor are pairwise distinct, so the search among them ends: a list of used anchors
cannot hold more forms than it is long.  The form found is the first one that is not used.
-/

namespace MarkdownPages.Anchor

open Text

variable {used : List Text} {anchor : Text}

def IsFirstFree (used : List Text) (anchor form : Text) : Prop :=
  ∃ n, form = numbered anchor n ∧ numbered anchor n ∉ used ∧ ∀ m < n, numbered anchor m ∈ used

theorem numbered_injective (anchor : Text) : Function.Injective (numbered anchor) := by
  intro n m h
  cases n with
  | zero =>
      cases m with
      | zero => rfl
      | succ m => simp [numbered] at h
  | succ n =>
      cases m with
      | zero => simp [numbered] at h
      | succ m =>
          have htails := List.append_cancel_left h
          exact ofNat_injective (List.cons.inj htails).2

theorem length_le_of_numbered_mem (used : List Text) (anchor : Text) (n : Nat)
    (h : ∀ m < n, numbered anchor m ∈ used) :
    n ≤ used.length := by
  have hnodup : ((List.range n).map (numbered anchor)).Nodup :=
    List.nodup_range.map (numbered_injective anchor)
  have hsubset : (List.range n).map (numbered anchor) ⊆ used := by
    intro form hform
    obtain ⟨m, hm, rfl⟩ := List.mem_map.mp hform
    exact h m (List.mem_range.mp hm)
  simpa using (hnodup.subperm hsubset).length_le

theorem search_eq (used : List Text) (anchor : Text) (budget n : Nat) :
    ∃ m, fresh.search used anchor budget n = numbered anchor m ∧ n ≤ m ∧
      (∀ k, n ≤ k → k < m → numbered anchor k ∈ used) ∧
      (numbered anchor m ∉ used ∨ m = n + budget) := by
  induction budget generalizing n with
  | zero => exact ⟨n, rfl, Nat.le_refl n, fun k hk hk' => by omega, .inr rfl⟩
  | succ budget ih =>
      rw [fresh.search]
      split
      · rename_i hused
        obtain ⟨m, hsearch, hle, hbefore, hstop⟩ := ih (n + 1)
        refine ⟨m, hsearch, by omega, ?_, hstop.imp_right fun hm => by omega⟩
        intro k hk hkm
        by_cases hkn : k = n
        · rw [hkn]
          exact List.contains_iff_mem.mp hused
        · exact hbefore k (by omega) hkm
      · rename_i hfree
        refine ⟨n, rfl, Nat.le_refl n, fun k hk hk' => by omega, .inl ?_⟩
        rwa [List.contains_iff_mem] at hfree

theorem isFirstFree_fresh (used : List Text) (anchor : Text) :
    IsFirstFree used anchor (fresh used anchor) := by
  obtain ⟨m, hsearch, -, hbefore, hstop⟩ := search_eq used anchor used.length 0
  have hbefore' : ∀ k < m, numbered anchor k ∈ used := fun k => hbefore k (Nat.zero_le k)
  refine ⟨m, hsearch, ?_, hbefore'⟩
  rcases hstop with hfree | hm
  · exact hfree
  · -- If the last form tried were used as well, there would be more forms than used anchors.
    intro hused
    have hlength := length_le_of_numbered_mem used anchor (m + 1) <| by
      intro k hk
      rcases Nat.lt_succ_iff_lt_or_eq.mp hk with hk | rfl
      · exact hbefore' k hk
      · exact hused
    omega

theorem IsFirstFree.notMem {form : Text} (h : IsFirstFree used anchor form) : form ∉ used := by
  obtain ⟨n, rfl, hfree, -⟩ := h
  exact hfree

theorem IsFirstFree.isAnchor {form : Text} (h : IsFirstFree used anchor form)
    (hanchor : IsAnchor anchor) : IsAnchor form := by
  obtain ⟨n, rfl, -, -⟩ := h
  exact hanchor.numbered n

/-! ## The anchors of a document -/

theorem IsFirstFree.congr {used' : List Text} {form : Text} (h : IsFirstFree used anchor form)
    (hsame : ∀ other, other ∈ used ↔ other ∈ used') : IsFirstFree used' anchor form := by
  obtain ⟨n, hform, hfree, hbefore⟩ := h
  exact ⟨n, hform, fun hused => hfree ((hsame _).mpr hused),
    fun m hm => (hsame _).mp (hbefore m hm)⟩

@[simp] theorem length_assign (used headings : List Text) :
    (assign used headings).length = headings.length := by
  induction headings generalizing used with
  | nil => rfl
  | cons heading headings ih => simp [assign, ih]

theorem isFirstFree_assign (used headings : List Text) (i : Nat) (h : i < headings.length) :
    IsFirstFree ((assign used headings).take i ++ used) (ofHeading headings[i])
      ((assign used headings).get ⟨i, by simpa using h⟩) := by
  induction headings generalizing used i with
  | nil => simp at h
  | cons heading headings ih =>
      cases i with
      | zero => exact isFirstFree_fresh used (ofHeading heading)
      | succ i =>
          have hrest := ih (fresh used (ofHeading heading) :: used) i (Nat.lt_of_succ_lt_succ h)
          refine hrest.congr fun other => ?_
          simp only [assign, List.take_succ_cons, List.mem_append, List.mem_cons]
          tauto

end MarkdownPages.Anchor
