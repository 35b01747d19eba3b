import MarkdownPages.Proofs.Path.Normal

/-!
# Shown paths

What is shown of a path depends only on where it leads from the current directory: on the joined path,
without the directory if that stands before it.  Reading what is shown and joining it again gives the
same path.  So a shown path leads where the path leads, and paths are shown alike exactly if they lead
to the same path.
-/

namespace MarkdownPages.Path

open Text

variable {base current p q rest : Path}

/-! ## Paths below a directory -/

theorem join_of_relative (h : p.root = .relative) (base : Path) :
    base.join p = ⟨base.root, base.parts ++ p.parts⟩ := if_pos h

theorem join_of_absolute (h : p.root ≠ .relative) (base : Path) : base.join p = p := if_neg h

theorem relativeTo?_eq_some_iff :
    relativeTo? base p = some rest ↔ rest.root = .relative ∧ base.join rest = p := by
  constructor
  · intro h
    unfold relativeTo? at h
    split at h
    · rename_i hroot
      obtain ⟨tail, htail, rfl⟩ := Option.map_eq_some_iff.mp h
      rw [dropParts?, List.isPrefixOf?_eq_some_iff_append_eq] at htail
      refine ⟨rfl, ?_⟩
      rw [join_of_relative rfl, hroot, htail]
    · cases h
  · rintro ⟨hrest, rfl⟩
    have htail : dropParts? base.parts (base.parts ++ rest.parts) = some rest.parts :=
      List.isPrefixOf?_eq_some_iff_append_eq.mpr rfl
    rw [join_of_relative hrest, relativeTo?, if_pos rfl, htail, ← hrest]
    rfl

def shortenedFrom (current p : Path) : Path := (relativeTo? current p).getD p

theorem IsNormal.shortenedFrom (h : p.IsNormal) (current : Path) :
    (shortenedFrom current p).IsNormal := by
  unfold Path.shortenedFrom
  cases hrest : relativeTo? current p with
  | none => exact h
  | some rest =>
      obtain ⟨hroot, rfl⟩ := relativeTo?_eq_some_iff.mp hrest
      rw [join_of_relative hroot] at h
      exact fun part hpart => h part (List.mem_append_right _ hpart)

theorem shortenedFrom_join_of_relative (h : p.root = .relative) (current : Path) :
    shortenedFrom current (current.join p) = p := by
  rw [shortenedFrom, relativeTo?_eq_some_iff.mpr ⟨h, rfl⟩, Option.getD_some]

theorem join_shortenedFrom_join (current p : Path) :
    current.join (shortenedFrom current (current.join p)) = current.join p := by
  by_cases hroot : p.root = .relative
  · rw [shortenedFrom_join_of_relative hroot]
  · rw [join_of_absolute hroot, shortenedFrom]
    cases hrest : relativeTo? current p with
    | none => exact join_of_absolute hroot current
    | some rest => exact (relativeTo?_eq_some_iff.mp hrest).2

/-! ## What is shown -/

theorem shownFrom_eq (current p : Path) :
    shownFrom current p = (shortenedFrom current (current.join p)).toText := by
  by_cases hroot : p.root = .relative
  · have hrelative : ¬p.isAbsolute = true := by simp [isAbsolute, hroot]
    rw [shownFrom, if_neg hrelative, shortenedFrom_join_of_relative hroot]
  · have habsolute : p.isAbsolute = true := by simp [isAbsolute, hroot]
    rw [shownFrom, if_pos habsolute, join_of_absolute hroot, shortenedFrom]

theorem ofText_shownFrom (h : p.IsNormal) (current : Path) :
    ofText (shownFrom current p) = shortenedFrom current (current.join p) := by
  rw [shownFrom_eq]
  apply ofText_toText
  -- The joined path need not be in normal form, as the directory need not be.
  by_cases hroot : p.root = .relative
  · rwa [shortenedFrom_join_of_relative hroot]
  · rw [join_of_absolute hroot]
    exact h.shortenedFrom current

theorem join_ofText_shownFrom (h : p.IsNormal) (current : Path) :
    current.join (ofText (shownFrom current p)) = current.join p := by
  rw [ofText_shownFrom h, join_shortenedFrom_join]

/--
What is shown of a path, for any current directory, and for any paths in normal form: inside the
directory, outside of it or relative to it, with any root.  Read and joined to the directory it gives
the same path as the path itself, and two paths are shown alike if and only if they are joined to the
same path.
-/
theorem shown_paths_lead_back (current : Path) {p q : Path} (hp : p.IsNormal) (hq : q.IsNormal) :
    current.join (ofText (shownFrom current p)) = current.join p ∧
      (shownFrom current p = shownFrom current q ↔ current.join p = current.join q) := by
  refine ⟨join_ofText_shownFrom hp current, ?_, ?_⟩
  · intro hshown
    calc current.join p
        = current.join (ofText (shownFrom current p)) := (join_ofText_shownFrom hp current).symm
      _ = current.join (ofText (shownFrom current q)) := by rw [hshown]
      _ = current.join q := join_ofText_shownFrom hq current
  · intro hjoin
    rw [shownFrom_eq, shownFrom_eq, hjoin]

/-- An absolute path and a relative one to the same file above the directory, and a path that has the
same components below another root. -/
theorem shown_paths_lead_back_above_directory :
    let current := ofText "/w/d".toList
    let p := ofText "/w/d/../x".toList
    let q := ofText "..//x/".toList
    let other := ofText "//w/d/../x".toList
    p.IsNormal ∧ q.IsNormal ∧ other.IsNormal ∧ shownFrom current p = "../x".toList ∧
      shownFrom current other = "//w/d/../x".toList ∧ current.join (ofText "../x".toList) = p ∧
      shownFrom current p = shownFrom current q ∧ current.join p ≠ current.join other := by
  intro current p q other
  have hp : p.IsNormal := by decide
  have hq : q.IsNormal := by decide
  have hother : other.IsNormal := by decide
  have hshown : shownFrom current p = "../x".toList := by decide
  have hwhole : shownFrom current other = "//w/d/../x".toList := by decide
  obtain ⟨hback, hsame⟩ := shown_paths_lead_back current hp hq
  obtain ⟨-, hapart⟩ := shown_paths_lead_back current hp hother
  refine ⟨hp, hq, hother, hshown, hwhole, ?_, hsame.mpr (by decide), fun hjoin => ?_⟩
  · rw [← hshown, hback]
    decide
  · exact absurd (hapart.mpr hjoin) (by rw [hshown, hwhole]; decide)

end MarkdownPages.Path
