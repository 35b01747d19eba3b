import Mathlib.Data.List.Basic
import MarkdownPages.Files

/-!
# Writes to files in memory

A write changes the text of its path and of no other one.  So writing the same again changes
nothing, and writes to different paths may be made in any order.
-/

namespace MarkdownPages

open Text

theorem lookup_filter_of_ne {κ β : Type} [BEq κ] [LawfulBEq κ] {key other : κ} (h : other ≠ key)
    (entries : List (κ × β)) : (entries.filter (·.1 != key)).lookup other = entries.lookup other := by
  induction entries with
  | nil => rfl
  | cons entry entries ih =>
      obtain ⟨first, value⟩ := entry
      by_cases hfirst : first = key
      · subst hfirst
        have hother : (other == first) = false := by simpa using h
        simp [List.lookup_cons, hother, ih]
      · simp [List.lookup_cons, hfirst, ih]

namespace MemoryFiles

variable {files other : MemoryFiles} {writes reordered : List (Path × Text)}

/-! ## One write -/

theorem get?_put_self (files : MemoryFiles) (path : Path) (text : Text) :
    (files.put path text).get? path = some text := by
  simp [get?, put]

theorem get?_put_of_ne (files : MemoryFiles) {path other : Path} (h : other ≠ path) (text : Text) :
    (files.put path text).get? other = files.get? other := by
  have hother : (other == path) = false := by simpa using h
  simp [get?, put, remove, List.lookup_cons, hother, lookup_filter_of_ne h]

@[simp] theorem readonly_put (files : MemoryFiles) (path : Path) (text : Text) :
    (files.put path text).readonly = files.readonly := rfl

/-! ## Several writes -/

def putAll (files : MemoryFiles) (writes : List (Path × Text)) : MemoryFiles :=
  writes.foldl (fun files write => files.put write.1 write.2) files

@[simp] theorem putAll_nil (files : MemoryFiles) : files.putAll [] = files := rfl

@[simp] theorem putAll_cons (files : MemoryFiles) (write : Path × Text)
    (writes : List (Path × Text)) :
    files.putAll (write :: writes) = (files.put write.1 write.2).putAll writes := rfl

theorem readonly_putAll (files : MemoryFiles) (writes : List (Path × Text)) :
    (files.putAll writes).readonly = files.readonly := by
  induction writes generalizing files with
  | nil => rfl
  | cons write writes ih => rw [putAll_cons, ih, readonly_put]

/-! ## What the writes leave alone -/

def entriesBeside (files : MemoryFiles) (paths : List Path) : List (Path × Text) :=
  files.texts.filter fun entry => entry.1 ∉ paths

theorem entriesBeside_put (files : MemoryFiles) (path : Path) (text : Text) {paths : List Path}
    (hpath : path ∈ paths) : (files.put path text).entriesBeside paths = files.entriesBeside paths := by
  rw [entriesBeside, put, List.filter_cons_of_neg (by simpa using hpath), remove, List.filter_filter]
  refine List.filter_congr fun entry _ => ?_
  by_cases hentry : entry.1 = path <;> simp [hentry, hpath]

theorem entriesBeside_putAll (files : MemoryFiles) {paths : List Path}
    (hpaths : ∀ write ∈ writes, write.1 ∈ paths) :
    (files.putAll writes).entriesBeside paths = files.entriesBeside paths := by
  induction writes generalizing files with
  | nil => rfl
  | cons write writes ih =>
      rw [List.forall_mem_cons] at hpaths
      rw [putAll_cons, ih _ hpaths.2, entriesBeside_put files _ _ hpaths.1]

theorem putAll_congr (hreadonly : files.readonly = other.readonly)
    (hentries : files.entriesBeside (writes.map Prod.fst) =
      other.entriesBeside (writes.map Prod.fst)) :
    files.putAll writes = other.putAll writes := by
  induction writes generalizing files other with
  | nil =>
      obtain ⟨texts, readonly⟩ := files
      obtain ⟨texts', readonly'⟩ := other
      obtain rfl : readonly = readonly' := hreadonly
      obtain rfl : texts = texts' := by simpa [entriesBeside] using hentries
      rfl
  | cons write writes ih =>
      refine ih hreadonly ?_
      have hbehind : ∀ files : MemoryFiles,
          (files.remove write.1).entriesBeside (writes.map Prod.fst) =
            files.entriesBeside ((write :: writes).map Prod.fst) := by
        intro files
        rw [entriesBeside, remove, List.filter_filter]
        refine List.filter_congr fun entry _ => ?_
        rw [Bool.eq_iff_iff, Bool.and_eq_true, bne_iff_ne, decide_eq_true_iff, decide_eq_true_iff,
          List.map_cons, List.mem_cons, not_or, and_comm]
      have hfront : ∀ files : MemoryFiles,
          (files.put write.1 write.2).entriesBeside (writes.map Prod.fst) =
            [write].filter (fun entry => entry.1 ∉ writes.map Prod.fst) ++
              (files.remove write.1).entriesBeside (writes.map Prod.fst) := fun files =>
        List.filter_append [write] _
      rw [hfront, hfront, hbehind, hbehind, hentries]

theorem putAll_putAll (files : MemoryFiles) (writes : List (Path × Text)) :
    (files.putAll writes).putAll writes = files.putAll writes := by
  refine putAll_congr (readonly_putAll files writes) ?_
  exact entriesBeside_putAll files fun write hwrite => List.mem_map_of_mem hwrite

/-! ## Writes to different paths -/

theorem get?_putAll_of_notMem (files : MemoryFiles) {path : Path}
    (hpath : path ∉ writes.map Prod.fst) : (files.putAll writes).get? path = files.get? path := by
  induction writes generalizing files with
  | nil => rfl
  | cons write writes ih =>
      rw [List.map_cons, List.mem_cons, not_or] at hpath
      rw [putAll_cons, ih _ hpath.2, get?_put_of_ne files hpath.1]

theorem get?_putAll_of_mem (files : MemoryFiles) (hpaths : (writes.map Prod.fst).Nodup)
    {write : Path × Text} (hwrite : write ∈ writes) :
    (files.putAll writes).get? write.1 = some write.2 := by
  induction writes generalizing files with
  | nil => simp at hwrite
  | cons first writes ih =>
      rw [List.map_cons, List.nodup_cons] at hpaths
      rcases List.mem_cons.mp hwrite with rfl | hwrite
      · rw [putAll_cons, get?_putAll_of_notMem _ hpaths.1, get?_put_self]
      · exact ih _ hpaths.2 hwrite

theorem get?_putAll_of_perm (files : MemoryFiles) (hperm : writes.Perm reordered)
    (hpaths : (writes.map Prod.fst).Nodup) (path : Path) :
    (files.putAll writes).get? path = (files.putAll reordered).get? path := by
  have hpaths' : (reordered.map Prod.fst).Nodup := (hperm.map Prod.fst).nodup_iff.mp hpaths
  by_cases hpath : path ∈ writes.map Prod.fst
  · obtain ⟨write, hwrite, rfl⟩ := List.mem_map.mp hpath
    rw [get?_putAll_of_mem files hpaths hwrite,
      get?_putAll_of_mem files hpaths' (hperm.mem_iff.mp hwrite)]
  · have hpath' : path ∉ reordered.map Prod.fst := fun hmem =>
      hpath ((hperm.map Prod.fst).mem_iff.mpr hmem)
    rw [get?_putAll_of_notMem files hpath, get?_putAll_of_notMem files hpath']

end MemoryFiles

end MarkdownPages
