import Mathlib.Data.List.TakeWhile
import Mathlib.Logic.Equiv.Fin.Basic
import Mathlib.Data.List.FinRange
import MarkdownPages.Proofs.Build.Memory

/-!
# Building again, and in another order

No document is a source, so what a build does is settled by the sources alone.  A second build finds
the sources of the first one and does the same again, even if the first one has failed.  Pages that
write to different paths may be built in any order.
-/

namespace MarkdownPages

open Text

namespace Build

variable (style : LinkStyle) (files : MemoryFiles) (pages : List Page)

def documents : List (Path × Text) :=
  pages.map fun page => (page.renderedPath, document style files page)

theorem writeDocuments_eq (now : MemoryFiles) :
    writeDocuments style files pages now = now.putAll (documents style files pages) := by
  rw [writeDocuments, MemoryFiles.putAll, documents, List.foldl_map]

theorem map_fst_documents :
    (documents style files pages).map Prod.fst = pages.map Page.renderedPath := by
  simp [documents, Function.comp_def]

/-! ## Building again -/

theorem SameSources.writeDocuments {files now : MemoryFiles} (h : SameSources files now) :
    SameSources files (Build.writeDocuments style files pages now) := by
  induction pages generalizing now with
  | nil => exact h
  | cons page pages ih => exact ih (h.put page _)

/--
A build of the files that a build has left.  It asks for the same files, writes the same documents,
gives the same answer and leaves the same files, whether or not it comes to its end.
-/
theorem run_again :
    run MemoryFiles.access style pages
        ⟨(run MemoryFiles.access style pages ⟨files, []⟩).2.files, []⟩ =
      run MemoryFiles.access style pages ⟨files, []⟩ := by
  have hsources : SameSources files
      (writeDocuments style files (pages.takeWhile (canBuild files)) files) :=
    (SameSources.refl files).writeDocuments style _
  rw [run_memory style files pages, run_memory_of_sameSources style files pages hsources]
  simp only [writeDocuments_eq, MemoryFiles.putAll_putAll, List.nil_append]

/-! ## Building in another order -/

variable {pages} {reordered : List Page} {written : List Path}

theorem runAnswer_eq_ok_iff :
    runAnswer files pages = .ok written ↔
      (∀ page ∈ pages, canBuild files page = true) ∧ written = pages.map Page.renderedPath := by
  rw [← List.dropWhile_eq_nil_iff, runAnswer]
  cases pages.dropWhile (canBuild files) with
  | nil => simp [eq_comm]
  | cons page rest => simp

theorem run_eq_ok_iff :
    (run MemoryFiles.access style pages ⟨files, []⟩).1 = .ok written ↔
      (∀ page ∈ pages, canBuild files page = true) ∧ written = pages.map Page.renderedPath := by
  rw [run_memory, runAnswer_eq_ok_iff]

theorem files_run_of_ok (h : ∀ page ∈ pages, canBuild files page = true) :
    (run MemoryFiles.access style pages ⟨files, []⟩).2.files =
      files.putAll (documents style files pages) := by
  rw [run_memory, List.takeWhile_eq_self_iff.mpr h, writeDocuments_eq]

theorem notices_run_of_ok (h : ∀ page ∈ pages, canBuild files page = true) (listening : Bool) :
    notices listening (run MemoryFiles.access style pages ⟨files, []⟩).2.events =
      if listening then pages.map Page.renderedPath else [] := by
  rw [run_memory, notices, announced_runEvents, List.takeWhile_eq_self_iff.mpr h]

theorem get?_files_run_of_perm (hperm : reordered.Perm pages)
    (hpaths : (pages.map Page.renderedPath).Nodup)
    (h : ∀ page ∈ pages, canBuild files page = true) (path : Path) :
    (run MemoryFiles.access style reordered ⟨files, []⟩).2.files.get? path =
      (run MemoryFiles.access style pages ⟨files, []⟩).2.files.get? path := by
  have h' : ∀ page ∈ reordered, canBuild files page = true := fun page hpage =>
    h page (hperm.mem_iff.mp hpage)
  rw [files_run_of_ok style files h, files_run_of_ok style files h']
  have hwrites : (documents style files pages).Perm (documents style files reordered) :=
    hperm.symm.map _
  rw [MemoryFiles.get?_putAll_of_perm files hwrites (by rwa [map_fst_documents])]

/--
Pages that write to different paths, and the same pages in another order.  If one of the two builds
comes to its end, so does the other.  Then they leave the same files, and the paths that they answer
and announce are in the order of their pages.
-/
theorem run_permuted (pages : List Page) (σ : Equiv.Perm (Fin pages.length))
    (hpaths : (pages.map Page.renderedPath).Nodup) (listening : Bool) :
    let reordered := List.ofFn fun i => pages[σ i]
    let first := run MemoryFiles.access style pages ⟨files, []⟩
    let second := run MemoryFiles.access style reordered ⟨files, []⟩
    ((∃ written, first.1 = .ok written) ↔ ∃ written, second.1 = .ok written) ∧
      ∀ written written', first.1 = .ok written → second.1 = .ok written' →
        (∀ path, second.2.files.get? path = first.2.files.get? path) ∧
        second.2.files.readonly = first.2.files.readonly ∧
        written'.map some = List.ofFn (fun i => written[(σ i : ℕ)]?) ∧
        notices listening first.2.events = (if listening then written else []) ∧
        notices listening second.2.events = if listening then written' else [] := by
  intro reordered first second
  have hperm : reordered.Perm pages := by
    have hsame := Equiv.Perm.ofFn_comp_perm σ pages.get
    rwa [List.ofFn_get] at hsame
  have hall : (∀ page ∈ pages, canBuild files page = true) ↔
      ∀ page ∈ reordered, canBuild files page = true :=
    forall_congr' fun page => by rw [hperm.mem_iff]
  refine ⟨?_, fun written written' hfirst hsecond => ?_⟩
  · simp only [first, second, run_eq_ok_iff, exists_and_left, exists_eq, and_true, hall]
  · obtain ⟨hpages, rfl⟩ := (run_eq_ok_iff style files).mp hfirst
    obtain ⟨hreordered, rfl⟩ := (run_eq_ok_iff style files).mp hsecond
    refine ⟨get?_files_run_of_perm style files hperm hpaths hpages, ?_, ?_,
      notices_run_of_ok style files hpages listening,
      notices_run_of_ok style files hreordered listening⟩
    · simp only [first, second, files_run_of_ok style files hpages,
        files_run_of_ok style files hreordered, MemoryFiles.readonly_putAll]
    · simp [reordered, List.map_ofFn, Function.comp_def]

/-- Two pages with the same stem in different directories, one with a fragment. -/
theorem run_swapped :
    let files : MemoryFiles :=
      ⟨[(.ofText "a/x.template.html".toList, "A".toList), (.ofText "a/x.f.md".toList, "*f*".toList),
        (.ofText "b/x.template.html".toList, "B".toList)], []⟩
    let first : Page := ⟨"a".toList, .ofText "a".toList, "x".toList, ["f".toList]⟩
    let second : Page := ⟨"b".toList, .ofText "b".toList, "x".toList, []⟩
    let reordered := List.ofFn fun i => [first, second][Equiv.swap 0 1 i]
    let build := fun pages => run MemoryFiles.access .standard pages ⟨files, []⟩
    reordered = [second, first] ∧ ([first, second].map Page.renderedPath).Nodup ∧
      (build [first, second]).1 = .ok [first.renderedPath, second.renderedPath] ∧
      (build reordered).1 = .ok [second.renderedPath, first.renderedPath] ∧
      notices true (build reordered).2.events = [second.renderedPath, first.renderedPath] ∧
      ∀ path, (build reordered).2.files.get? path = (build [first, second]).2.files.get? path := by
  intro files first second reordered build
  have hfirst : (build [first, second]).1 = .ok [first.renderedPath, second.renderedPath] := by
    decide +kernel
  have hreordered : (build reordered).1 = .ok [second.renderedPath, first.renderedPath] := by
    decide +kernel
  have hswapped := run_permuted .standard files [first, second] (Equiv.swap 0 1)
    (by decide +kernel) true
  obtain ⟨hfiles, -, -, -, hnotices⟩ := hswapped.2 _ _ hfirst hreordered
  refine ⟨rfl, by decide +kernel, hfirst, hreordered, ?_, ?_⟩
  · simpa only [build, reordered, if_true] using hnotices
  · simpa only [build, reordered] using hfiles

end Build

end MarkdownPages
