import Mathlib.Data.List.Find
import Mathlib.Data.List.Infix
import MarkdownPages.Build
import MarkdownPages.Proofs.Files.Memory
import MarkdownPages.Proofs.Page.FileNames

/-!
# Builds on files in memory

A build on files in memory is determined by the files that are there before it: the leading pages
whose sources are all there and whose documents may be written are built from those files, and the
first other page ends the build.  What has been written meanwhile never matters, since no document
of a page is a source of a page.
-/

namespace MarkdownPages

open Text

namespace MemoryFiles

variable (files : MemoryFiles)

def has (path : Path) : Bool := (files.get? path).isSome

def textAt (path : Path) : Text := (files.get? path).getD []

end MemoryFiles

namespace Build

variable (style : LinkStyle) (files : MemoryFiles) (page : Page)

/-! ## Building one page -/

def canBuild : Bool :=
  page.sources.all files.has && decide (page.renderedPath ∉ files.readonly)

def document : Text :=
  (page.fragments.flatMap fun name =>
    Fragment.block style ⟨name, files.textAt (page.fragmentPath name)⟩) ++
    files.textAt page.templatePath

def absentSource? : Option Path := page.sources.find? fun path => !files.has path

def fault : FileError :=
  match absentSource? files page with
  | some path => .missing path
  | none => .denied page.renderedPath

def pageEvents : List Event :=
  page.sources.map .read ++
    [.write page.renderedPath (document style files page) true, .announce page.renderedPath]

def faultEvents : List Event :=
  match absentSource? files page with
  | some path => (page.sources.takeWhile files.has ++ [path]).map .read
  | none =>
      page.sources.map .read ++ [.write page.renderedPath (document style files page) false]

private theorem readFile_memory (path : Path) (p : Progress MemoryFiles) :
    readFile MemoryFiles.access path p =
      (if p.files.has path then .ok (p.files.textAt path) else .error (.missing path),
        ⟨p.files, p.events ++ [.read path]⟩) := by
  cases h : p.files.get? path <;>
    simp [readFile, MemoryFiles.access, MemoryFiles.has, MemoryFiles.textAt, h]

private theorem readFragments_memory (names : List Text) (p : Progress MemoryFiles) :
    readFragments MemoryFiles.access page names p =
      match (names.map page.fragmentPath).find? (fun path => !p.files.has path) with
      | none =>
          (.ok (names.map fun name => ⟨name, p.files.textAt (page.fragmentPath name)⟩),
            ⟨p.files, p.events ++ (names.map page.fragmentPath).map .read⟩)
      | some path =>
          (.error (.missing path),
            ⟨p.files, p.events ++
              ((names.map page.fragmentPath).takeWhile p.files.has ++ [path]).map .read⟩) := by
  induction names generalizing p with
  | nil => simp [readFragments]
  | cons name names ih =>
      simp only [readFragments, readFile_memory]
      by_cases hname : p.files.has (page.fragmentPath name) = true
      · simp only [hname, if_true, ih, List.map_cons, List.find?_cons, Bool.not_true,
          List.takeWhile_cons]
        cases (names.map page.fragmentPath).find? fun path => !p.files.has path <;> simp
      · simp [hname]

private theorem renderPage_memory (p : Progress MemoryFiles) :
    renderPage MemoryFiles.access style page p =
      match absentSource? p.files page with
      | none =>
          (.ok (document style p.files page), ⟨p.files, p.events ++ page.sources.map .read⟩)
      | some path =>
          (.error (.missing path),
            ⟨p.files, p.events ++ (page.sources.takeWhile p.files.has ++ [path]).map .read⟩) := by
  simp only [renderPage, readFile_memory, absentSource?, Page.sources]
  by_cases htemplate : p.files.has page.templatePath = true
  · simp only [htemplate, if_true, readFragments_memory, List.find?_cons, Bool.not_true,
      List.takeWhile_cons]
    cases (page.fragments.map page.fragmentPath).find? fun path => !p.files.has path with
    | none => simp [Fragment.assemble, document, List.flatMap_map]
    | some path => simp
  · simp [htemplate]

theorem absentSource?_eq_none_iff :
    absentSource? files page = none ↔ page.sources.all files.has = true := by
  simp [absentSource?]

theorem buildPage_memory (p : Progress MemoryFiles) :
    buildPage MemoryFiles.access style page p =
      if canBuild p.files page then
        (.ok (), ⟨p.files.put page.renderedPath (document style p.files page),
          p.events ++ pageEvents style p.files page⟩)
      else
        (.error (fault p.files page), ⟨p.files, p.events ++ faultEvents style p.files page⟩) := by
  simp only [buildPage, renderPage_memory, canBuild, fault, faultEvents, pageEvents]
  cases habsent : absentSource? p.files page with
  | some path =>
      have hsources : page.sources.all p.files.has = false := by
        rw [← Bool.not_eq_true, ← absentSource?_eq_none_iff, habsent]
        simp
      simp [hsources]
  | none =>
      have hsources := (absentSource?_eq_none_iff p.files page).mp habsent
      by_cases hreadonly : page.renderedPath ∈ p.files.readonly
      · simp [hsources, hreadonly, writeFile, MemoryFiles.access]
      · simp [hsources, hreadonly, writeFile, MemoryFiles.access]

/-! ## Files that differ in documents only -/

/--
The invariant of a build: the sources of pages are what they were at first, and the same paths may
be written.
-/
structure SameSources (files now : MemoryFiles) : Prop where
  readonly : now.readonly = files.readonly
  get? : ∀ (page : Page), ∀ path ∈ page.sources, now.get? path = files.get? path

namespace SameSources

variable {files} {now : MemoryFiles}

theorem refl (files : MemoryFiles) : SameSources files files :=
  ⟨rfl, fun _ _ _ => rfl⟩

theorem put (h : SameSources files now) (page : Page) (text : Text) :
    SameSources files (now.put page.renderedPath text) where
  readonly := h.readonly
  get? := by
    intro other path hpath
    have hne : path ≠ page.renderedPath := fun heq =>
      page.renderedPath_not_mem_sources other (heq ▸ hpath)
    rw [now.get?_put_of_ne hne, h.get? other path hpath]

private theorem takeWhile_congr {α : Type} {p q : α → Bool} {items : List α}
    (h : ∀ item ∈ items, p item = q item) : items.takeWhile p = items.takeWhile q := by
  induction items with
  | nil => rfl
  | cons item items ih =>
      simp [List.takeWhile_cons, h item (by simp), ih fun other hother => h other (by simp [hother])]

theorem has_eq (h : SameSources files now) {path : Path} (hpath : path ∈ page.sources) :
    now.has path = files.has path := by
  simp [MemoryFiles.has, h.get? page path hpath]

theorem textAt_eq (h : SameSources files now) {path : Path} (hpath : path ∈ page.sources) :
    now.textAt path = files.textAt path := by
  simp [MemoryFiles.textAt, h.get? page path hpath]

theorem canBuild_eq (h : SameSources files now) : canBuild now page = canBuild files page := by
  have hsources : page.sources.all now.has = page.sources.all files.has := by
    rw [Bool.eq_iff_iff, List.all_eq_true, List.all_eq_true]
    exact forall₂_congr fun path hpath => by rw [h.has_eq page hpath]
  simp [canBuild, hsources, h.readonly]

theorem document_eq (h : SameSources files now) :
    document style now page = document style files page := by
  have hbase : now.textAt page.templatePath = files.textAt page.templatePath :=
    h.textAt_eq page (by simp [Page.sources])
  have hfragment : ∀ name ∈ page.fragments,
      now.textAt (page.fragmentPath name) = files.textAt (page.fragmentPath name) :=
    fun name hname => h.textAt_eq page
      (List.mem_cons_of_mem _ (List.mem_map_of_mem (f := page.fragmentPath) hname))
  simp only [document, hbase, List.append_cancel_right_eq]
  exact List.flatMap_congr fun name hname => by rw [hfragment name hname]

theorem absentSource?_eq (h : SameSources files now) :
    absentSource? now page = absentSource? files page :=
  List.find?_congr fun path hpath => by rw [h.has_eq page hpath]

theorem fault_eq (h : SameSources files now) : fault now page = fault files page := by
  simp [fault, h.absentSource?_eq page]

theorem pageEvents_eq (h : SameSources files now) :
    pageEvents style now page = pageEvents style files page := by
  simp [pageEvents, h.document_eq style page]

theorem faultEvents_eq (h : SameSources files now) :
    faultEvents style now page = faultEvents style files page := by
  have hread : page.sources.takeWhile now.has = page.sources.takeWhile files.has :=
    takeWhile_congr fun path hpath => h.has_eq page hpath
  simp [faultEvents, h.absentSource?_eq page, h.document_eq style page, hread]

end SameSources

/-! ## Building pages in order -/

/-- Files with the documents of pages written, as the sources in `files` determine them. -/
def writeDocuments (pages : List Page) (now : MemoryFiles) : MemoryFiles :=
  pages.foldl (fun now page => now.put page.renderedPath (document style files page)) now

def runEvents : List Page → List Event
  | [] => []
  | page :: pages =>
    if canBuild files page then pageEvents style files page ++ runEvents pages
    else faultEvents style files page

def runAnswer (pages : List Page) : Except FileError (List Path) :=
  match pages.dropWhile (canBuild files) with
  | [] => .ok (pages.map Page.renderedPath)
  | page :: _ => .error (fault files page)

/-- A build never depends on what it has written itself. -/
theorem run_memory_of_sameSources (pages : List Page) {now : MemoryFiles} {events : List Event}
    (h : SameSources files now) :
    run MemoryFiles.access style pages ⟨now, events⟩ =
      (runAnswer files pages,
        ⟨writeDocuments style files (pages.takeWhile (canBuild files)) now,
          events ++ runEvents style files pages⟩) := by
  induction pages generalizing now events with
  | nil => simp [run, runAnswer, writeDocuments, runEvents]
  | cons page pages ih =>
      rw [run, buildPage_memory]
      simp only [h.canBuild_eq page, h.document_eq style page, h.fault_eq page,
        h.pageEvents_eq style page, h.faultEvents_eq style page]
      by_cases hpage : canBuild files page = true
      · simp only [hpage, if_true, ih (h.put page _), runEvents, List.takeWhile_cons,
          List.append_assoc]
        cases hrest : pages.dropWhile (canBuild files) <;>
          simp [runAnswer, hpage, hrest, writeDocuments]
      · simp [hpage, runAnswer, runEvents, writeDocuments]

theorem run_memory (pages : List Page) :
    run MemoryFiles.access style pages ⟨files, []⟩ =
      (runAnswer files pages,
        ⟨writeDocuments style files (pages.takeWhile (canBuild files)) files,
          runEvents style files pages⟩) := by
  rw [run_memory_of_sameSources style files pages (.refl files), List.nil_append]

/-! ## What a build has done -/

@[simp] theorem reads_append (first second : List Event) :
    reads (first ++ second) = reads first ++ reads second := List.filterMap_append ..

@[simp] theorem writes_append (first second : List Event) :
    writes (first ++ second) = writes first ++ writes second := List.filterMap_append ..

@[simp] theorem changes_append (first second : List Event) :
    changes (first ++ second) = changes first ++ changes second := List.filterMap_append ..

@[simp] theorem announced_append (first second : List Event) :
    announced (first ++ second) = announced first ++ announced second :=
  List.filterMap_append ..

@[simp] theorem reads_map_read (paths : List Path) : reads (paths.map .read) = paths := by
  simp [reads]

@[simp] theorem writes_map_read (paths : List Path) : writes (paths.map .read) = [] := by
  simp [writes]

@[simp] theorem changes_map_read (paths : List Path) : changes (paths.map .read) = [] := by
  simp [changes]

@[simp] theorem announced_map_read (paths : List Path) : announced (paths.map .read) = [] := by
  simp [announced]

theorem reads_pageEvents : reads (pageEvents style files page) = page.sources := by
  rw [pageEvents, reads_append, reads_map_read]
  simp [reads]

theorem writes_pageEvents : writes (pageEvents style files page) = [page.renderedPath] := by
  rw [pageEvents, writes_append, writes_map_read]
  simp [writes]

theorem changes_pageEvents :
    changes (pageEvents style files page) =
      [(page.renderedPath, document style files page)] := by
  rw [pageEvents, changes_append, changes_map_read]
  simp [changes]

theorem announced_pageEvents :
    announced (pageEvents style files page) = [page.renderedPath] := by
  rw [pageEvents, announced_append, announced_map_read]
  simp [announced]

theorem changes_faultEvents : changes (faultEvents style files page) = [] := by
  unfold faultEvents
  split
  · exact changes_map_read _
  · rw [changes_append, changes_map_read]
    simp [changes]

theorem announced_faultEvents : announced (faultEvents style files page) = [] := by
  unfold faultEvents
  split
  · exact announced_map_read _
  · rw [announced_append, announced_map_read]
    simp [announced]

theorem writes_faultEvents :
    writes (faultEvents style files page) =
      if (absentSource? files page).isSome then [] else [page.renderedPath] := by
  unfold faultEvents
  split
  · rename_i habsent
    rw [writes_map_read]
    simp [habsent]
  · rename_i habsent
    rw [writes_append, writes_map_read]
    simp [habsent, writes]

theorem reads_faultEvents :
    reads (faultEvents style files page) =
      match absentSource? files page with
      | some path => page.sources.takeWhile files.has ++ [path]
      | none => page.sources := by
  unfold faultEvents
  split
  · exact reads_map_read _
  · rw [reads_append, reads_map_read]
    simp [reads]

theorem runEvents_eq (pages : List Page) :
    runEvents style files pages =
      (pages.takeWhile (canBuild files)).flatMap (pageEvents style files) ++
        match pages.dropWhile (canBuild files) with
        | [] => []
        | page :: _ => faultEvents style files page := by
  induction pages with
  | nil => rfl
  | cons page pages ih =>
      by_cases hpage : canBuild files page = true
      · simp [runEvents, hpage, ih]
      · simp [runEvents, hpage]

private theorem filterMap_runEvents {α : Type} (f : Event → Option α) (pages : List Page) :
    (runEvents style files pages).filterMap f =
      (pages.takeWhile (canBuild files)).flatMap
          (fun page => (pageEvents style files page).filterMap f) ++
        match pages.dropWhile (canBuild files) with
        | [] => []
        | page :: _ => (faultEvents style files page).filterMap f := by
  rw [runEvents_eq, List.filterMap_append, List.filterMap_flatMap]
  cases pages.dropWhile (canBuild files) with
  | nil => rfl
  | cons page rest => rfl

theorem changes_runEvents (pages : List Page) :
    changes (runEvents style files pages) =
      (pages.takeWhile (canBuild files)).map fun page =>
        (page.renderedPath, document style files page) := by
  have hpage := changes_pageEvents style files
  have hfault := changes_faultEvents style files
  unfold changes at hpage hfault ⊢
  rw [filterMap_runEvents, List.map_eq_flatMap]
  cases pages.dropWhile (canBuild files) with
  | nil => simp [hpage]
  | cons page rest => simp [hpage, hfault]

theorem announced_runEvents (pages : List Page) :
    announced (runEvents style files pages) =
      (pages.takeWhile (canBuild files)).map Page.renderedPath := by
  have hpage := announced_pageEvents style files
  have hfault := announced_faultEvents style files
  unfold announced at hpage hfault ⊢
  rw [filterMap_runEvents, List.map_eq_flatMap]
  cases pages.dropWhile (canBuild files) with
  | nil => simp [hpage]
  | cons page rest => simp [hpage, hfault]

theorem reads_runEvents (pages : List Page) :
    reads (runEvents style files pages) =
      (pages.takeWhile (canBuild files)).flatMap Page.sources ++
        match pages.dropWhile (canBuild files) with
        | [] => []
        | page :: _ => reads (faultEvents style files page) := by
  have hpage := reads_pageEvents style files
  unfold reads at hpage ⊢
  simp [filterMap_runEvents, hpage]

theorem writes_runEvents (pages : List Page) :
    writes (runEvents style files pages) =
      (pages.takeWhile (canBuild files)).map Page.renderedPath ++
        match pages.dropWhile (canBuild files) with
        | [] => []
        | page :: _ => writes (faultEvents style files page) := by
  have hpage := writes_pageEvents style files
  unfold writes at hpage ⊢
  simp [filterMap_runEvents, hpage, List.map_eq_flatMap]

/--
A build writes and announces the leading pages that can be built, as the files before it determine
them.  If there is another page, it ends the build: with its first absent source, behind which
nothing is asked for, or with the document that may not be written.
-/
theorem run_builds_leading_pages (pages : List Page) (listening : Bool) :
    ∃ answer now events,
      run MemoryFiles.access style pages ⟨files, []⟩ = (answer, ⟨now, events⟩) ∧
      changes events = (pages.takeWhile (canBuild files)).map (fun page =>
        (page.renderedPath, document style files page)) ∧
      now = writeDocuments style files (pages.takeWhile (canBuild files)) files ∧
      notices listening events =
        (if listening then (pages.takeWhile (canBuild files)).map Page.renderedPath else []) ∧
      match pages.dropWhile (canBuild files) with
      | [] =>
          answer = .ok (pages.map Page.renderedPath) ∧
          reads events = pages.flatMap Page.sources ∧
          writes events = pages.map Page.renderedPath
      | page :: _ =>
          match absentSource? files page with
          | some path =>
              answer = .error (.missing path) ∧
              reads events = (pages.takeWhile (canBuild files)).flatMap Page.sources ++
                (page.sources.takeWhile files.has ++ [path]) ∧
              writes events = (pages.takeWhile (canBuild files)).map Page.renderedPath
          | none =>
              answer = .error (.denied page.renderedPath) ∧
              reads events =
                (pages.takeWhile (canBuild files)).flatMap Page.sources ++ page.sources ∧
              writes events =
                (pages.takeWhile (canBuild files)).map Page.renderedPath ++ [page.renderedPath] := by
  refine ⟨_, _, _, run_memory style files pages, changes_runEvents style files pages, rfl, ?_, ?_⟩
  · simp only [notices, announced_runEvents]
  · rw [reads_runEvents, writes_runEvents]
    cases hrest : pages.dropWhile (canBuild files) with
    | nil =>
        have hall : pages.takeWhile (canBuild files) = pages := by
          simpa [hrest] using List.takeWhile_append_dropWhile (p := canBuild files) (l := pages)
        simp [runAnswer, hrest, hall]
    | cons page rest =>
        cases habsent : absentSource? files page with
        | none =>
            simp [runAnswer, hrest, fault, reads_faultEvents, writes_faultEvents, habsent]
        | some path =>
            simp [runAnswer, hrest, fault, reads_faultEvents, writes_faultEvents, habsent]

end Build

end MarkdownPages
