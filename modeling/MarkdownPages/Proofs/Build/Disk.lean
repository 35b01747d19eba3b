import MarkdownPages.Proofs.Build.Memory
import MarkdownPages.Proofs.Disk.Location

/-!
# Builds on a disk

A build on a disk that comes to its end has built every page from the files that were there before
it.  What becomes of a single page depends on few locations: those of its sources, and those on the
way of its paths.
-/

namespace MarkdownPages

open Text

/-! ## Locations of documents -/

namespace Disk

variable {current path : Path} {at_ : Location}

theorem getLast?_goal {parts : List Text} {name : Text} (here : Location)
    (hlast : parts.getLast? = some name) (hup : name ≠ "..".toList) :
    (goal here parts).getLast? = some name := by
  induction parts generalizing here with
  | nil => cases hlast
  | cons part parts ih =>
      cases parts with
      | nil =>
          obtain rfl : part = name := by simpa using hlast
          rw [goal, if_neg hup]
          exact List.getLast?_concat
      | cons next parts =>
          rw [List.getLast?_cons_cons] at hlast
          rw [goal]
          split
          · exact ih _ hlast
          · exact ih _ hlast

theorem endsWith_location (current : Path) {ending : Text} (h : path.EndsWith ending)
    (hup : ¬ ending <:+ "..".toList) : (Path.mk .slash (location current path)).EndsWith ending := by
  obtain ⟨name, hname, hending⟩ := h.join current
  exact ⟨name, getLast?_goal [] hname fun heq => hup (heq ▸ hending), hending⟩

def IsDocument (at_ : Location) : Prop :=
  (Path.mk .slash at_).EndsWith ".rendered.html".toList

theorem isDocument_location (current : Path) (page : Page) :
    IsDocument (location current page.renderedPath) :=
  endsWith_location current page.renderedPath_endsWith (by decide)

theorem not_isDocument_location (current : Path) {page : Page} (hpath : path ∈ page.sources) :
    ¬ IsDocument (location current path) := by
  intro hdocument
  rcases List.mem_cons.mp hpath with rfl | hpath
  · have hends := endsWith_location current page.templatePath_endsWith (by decide)
    exact absurd (hends.suffix_or_suffix hdocument) (by decide)
  · obtain ⟨fragment, -, rfl⟩ := List.mem_map.mp hpath
    have hends := endsWith_location current (page.fragmentPath_endsWith fragment) (by decide)
    exact absurd (hends.suffix_or_suffix hdocument) (by decide)

end Disk

namespace Build

variable {σ : Type} {access : FileAccess σ} {style : LinkStyle} {page : Page} {pages : List Page}
variable {files other : σ} {names : List Text} {events : List Event}

/-! ## Rendering only reads -/

theorem readFragments_congr
    (h : ∀ name ∈ names,
      access.read files (page.fragmentPath name) = access.read other (page.fragmentPath name))
    (events : List Event) :
    readFragments access page names ⟨other, events⟩ =
      ((readFragments access page names ⟨files, []⟩).1,
        ⟨other, events ++ (readFragments access page names ⟨files, []⟩).2.events⟩) := by
  induction names generalizing files other events with
  | nil => simp [readFragments]
  | cons name names ih =>
      rw [List.forall_mem_cons] at h
      simp only [readFragments, readFile, ← h.1]
      cases access.read files (page.fragmentPath name) with
      | error e => rfl
      | ok markdown =>
          have hself := @ih files files (fun _ _ => rfl) ([] ++ [.read (page.fragmentPath name)])
          simp only [ih h.2, hself]
          cases (readFragments access page names ⟨files, []⟩).1 <;> simp

theorem readFragments_eq (access : FileAccess σ) (page : Page) (names : List Text) (files : σ)
    (events : List Event) :
    readFragments access page names ⟨files, events⟩ =
      ((readFragments access page names ⟨files, []⟩).1,
        ⟨files, events ++ (readFragments access page names ⟨files, []⟩).2.events⟩) :=
  readFragments_congr (fun _ _ => rfl) events

theorem renderPage_congr
    (h : ∀ path ∈ page.sources, access.read files path = access.read other path)
    (events : List Event) :
    renderPage access style page ⟨other, events⟩ =
      ((renderPage access style page ⟨files, []⟩).1,
        ⟨other, events ++ (renderPage access style page ⟨files, []⟩).2.events⟩) := by
  have hfragments : ∀ name ∈ page.fragments,
      access.read files (page.fragmentPath name) = access.read other (page.fragmentPath name) :=
    fun name hname => h _ (List.mem_cons_of_mem _ (List.mem_map_of_mem hname))
  simp only [renderPage, readFile, ← h page.templatePath (by simp [Page.sources])]
  cases access.read files page.templatePath with
  | error e => rfl
  | ok base =>
      simp only [readFragments_congr hfragments,
        readFragments_eq access page page.fragments files ([] ++ [.read page.templatePath])]
      cases (readFragments access page page.fragments ⟨files, []⟩).1 <;> simp

def documentOf (access : FileAccess σ) (style : LinkStyle) (files : σ) (page : Page) :
    Except FileError Text :=
  (renderPage access style page ⟨files, []⟩).1

def readings (access : FileAccess σ) (style : LinkStyle) (files : σ) (page : Page) : List Event :=
  (renderPage access style page ⟨files, []⟩).2.events

theorem renderPage_eq (files : σ) (events : List Event) :
    renderPage access style page ⟨files, events⟩ =
      (documentOf access style files page, ⟨files, events ++ readings access style files page⟩) :=
  renderPage_congr (fun _ _ => rfl) events

theorem documentOf_congr (h : ∀ path ∈ page.sources, access.read files path = access.read other path) :
    documentOf access style other page = documentOf access style files page := by
  rw [documentOf, renderPage_congr h, documentOf]

theorem readings_congr (h : ∀ path ∈ page.sources, access.read files path = access.read other path) :
    readings access style other page = readings access style files page := by
  rw [readings, renderPage_congr h, readings, List.nil_append]

theorem readFragments_cons (files : σ) (name : Text) (names : List Text) :
    readFragments access page (name :: names) ⟨files, []⟩ =
      match access.read files (page.fragmentPath name) with
      | .error e => (.error e, ⟨files, [.read (page.fragmentPath name)]⟩)
      | .ok markdown =>
        ((readFragments access page names ⟨files, []⟩).1.map (⟨name, markdown⟩ :: ·),
          ⟨files, .read (page.fragmentPath name) ::
            (readFragments access page names ⟨files, []⟩).2.events⟩) := by
  simp only [readFragments, readFile, List.nil_append]
  cases access.read files (page.fragmentPath name) with
  | error e => rfl
  | ok markdown =>
      simp only [readFragments_eq access page names files [.read (page.fragmentPath name)]]
      cases (readFragments access page names ⟨files, []⟩).1 <;> rfl

theorem read_of_readFragments {fragments : List Fragment}
    (h : (readFragments access page names ⟨files, []⟩).1 = .ok fragments) :
    ∀ name ∈ names, ∃ s, access.read files (page.fragmentPath name) = .ok s := by
  induction names generalizing fragments with
  | nil => simp
  | cons name names ih =>
      rw [readFragments_cons] at h
      cases hread : access.read files (page.fragmentPath name) with
      | error e => simp [hread] at h
      | ok markdown =>
          simp only [hread] at h
          cases hrest : (readFragments access page names ⟨files, []⟩).1 with
          | error e => simp [hrest, Except.map] at h
          | ok rest => exact List.forall_mem_cons.mpr ⟨⟨markdown, hread⟩, ih hrest⟩

theorem exists_of_documentOf {text : Text} (h : documentOf access style files page = .ok text) :
    ∃ base fragments, access.read files page.templatePath = .ok base ∧
      (readFragments access page page.fragments ⟨files, []⟩).1 = .ok fragments ∧
      text = Fragment.assemble style fragments base := by
  simp only [documentOf, renderPage, readFile, List.nil_append] at h
  cases hread : access.read files page.templatePath with
  | error e => simp [hread] at h
  | ok base =>
      simp only [hread,
        readFragments_eq access page page.fragments files [.read page.templatePath]] at h
      cases hfragments : (readFragments access page page.fragments ⟨files, []⟩).1 with
      | error e => simp [hfragments] at h
      | ok fragments =>
          simp only [hfragments, Except.ok.injEq] at h
          exact ⟨base, fragments, rfl, rfl, h.symm⟩

theorem read_of_documentOf {text : Text} (h : documentOf access style files page = .ok text) :
    ∀ path ∈ page.sources, ∃ s, access.read files path = .ok s := by
  obtain ⟨base, fragments, hread, hfragments, -⟩ := exists_of_documentOf h
  refine List.forall_mem_cons.mpr ⟨⟨base, hread⟩, fun path hpath => ?_⟩
  obtain ⟨name, hname, rfl⟩ := List.mem_map.mp hpath
  exact read_of_readFragments hfragments name hname

theorem exists_readFragments_events (access : FileAccess σ) (files : σ) (page : Page)
    (names : List Text) :
    ∃ paths : List Path,
      (readFragments access page names ⟨files, []⟩).2.events = paths.map .read := by
  induction names with
  | nil => exact ⟨[], rfl⟩
  | cons name names ih =>
      obtain ⟨paths, hpaths⟩ := ih
      rw [readFragments_cons]
      cases access.read files (page.fragmentPath name) with
      | error e => exact ⟨[page.fragmentPath name], rfl⟩
      | ok markdown => exact ⟨page.fragmentPath name :: paths, by simp [hpaths]⟩

theorem exists_readings_eq (access : FileAccess σ) (style : LinkStyle) (files : σ) (page : Page) :
    ∃ paths : List Path, readings access style files page = paths.map .read := by
  obtain ⟨paths, hpaths⟩ := exists_readFragments_events access files page page.fragments
  simp only [readings, renderPage, readFile, List.nil_append]
  cases access.read files page.templatePath with
  | error e => exact ⟨[page.templatePath], rfl⟩
  | ok base =>
      refine ⟨page.templatePath :: paths, ?_⟩
      simp only [readFragments_eq access page page.fragments files [.read page.templatePath], hpaths]
      cases (readFragments access page page.fragments ⟨files, []⟩).1 <;> rfl

@[simp] theorem changes_readings (files : σ) (page : Page) :
    changes (readings access style files page) = [] := by
  obtain ⟨paths, hpaths⟩ := exists_readings_eq access style files page
  rw [hpaths, changes_map_read]

@[simp] theorem announced_readings (files : σ) (page : Page) :
    announced (readings access style files page) = [] := by
  obtain ⟨paths, hpaths⟩ := exists_readings_eq access style files page
  rw [hpaths, announced_map_read]

/-! ## Pages that are built -/

theorem buildPage_eq (files : σ) (events : List Event) :
    buildPage access style page ⟨files, events⟩ =
      match documentOf access style files page with
      | .error e => (.error e, ⟨files, events ++ readings access style files page⟩)
      | .ok text =>
        match access.write files page.renderedPath text with
        | .error e =>
          (.error e, ⟨files, events ++ readings access style files page ++
            [.write page.renderedPath text false]⟩)
        | .ok next =>
          (.ok (), ⟨next, events ++ readings access style files page ++
            [.write page.renderedPath text true] ++ [.announce page.renderedPath]⟩) := by
  rw [buildPage, renderPage_eq]
  cases documentOf access style files page with
  | error e => rfl
  | ok text =>
      simp only [writeFile]
      cases access.write files page.renderedPath text <;> rfl

theorem run_cons_eq_ok {written : List Path} {last : Progress σ}
    (h : run access style (page :: pages) ⟨files, events⟩ = (.ok written, last)) :
    ∃ text next rest,
      documentOf access style files page = .ok text ∧
      access.write files page.renderedPath text = .ok next ∧
      run access style pages ⟨next, events ++ readings access style files page ++
        [.write page.renderedPath text true] ++ [.announce page.renderedPath]⟩ =
          (.ok rest, last) := by
  rw [run, buildPage_eq] at h
  cases hdocument : documentOf access style files page with
  | error e => simp [hdocument] at h
  | ok text =>
      simp only [hdocument] at h
      cases hwrite : access.write files page.renderedPath text with
      | error e => simp [hwrite] at h
      | ok next =>
          simp only [hwrite] at h
          split at h
          · simp at h
          · rename_i rest after hrun
            obtain ⟨-, rfl⟩ := Prod.mk.inj h
            exact ⟨text, next, rest, rfl, hwrite, hrun⟩

/-! ## Disks that differ in documents only -/

open Disk

variable {current : Path} {disk now : Disk}

/-- The invariant of a build on a disk: besides documents, everything is as it was at first. -/
structure SameBesideDocuments (disk now : Disk) : Prop where
  directories : now.directories = disk.directories
  file? : ∀ at_, ¬ IsDocument at_ → now.file? at_ = disk.file? at_

namespace SameBesideDocuments

theorem refl (disk : Disk) : SameBesideDocuments disk disk := ⟨rfl, fun _ _ => rfl⟩

theorem put (h : SameBesideDocuments disk now) (current : Path) (page : Page) (bytes : List Nat) :
    SameBesideDocuments disk (now.put (location current page.renderedPath) bytes) where
  directories := h.directories
  file? := by
    intro at_ hat
    have hne : at_ ≠ location current page.renderedPath := by
      rintro rfl
      exact hat (isDocument_location current page)
    rw [file?_put_of_ne hne, h.file? at_ hat]

theorem documentOf_eq (h : SameBesideDocuments disk now) {text : Text}
    (hnow : documentOf (Disk.access current) style now page = .ok text) :
    documentOf (Disk.access current) style disk page = .ok text := by
  -- Sources that can be read now could be read before, with the same text.
  rw [← hnow]
  refine documentOf_congr fun path hpath => ?_
  obtain ⟨s, hs⟩ := read_of_documentOf hnow path hpath
  have hdisk : disk.readText current path = .ok s :=
    readText_of_ok h.directories (h.file? _ (not_isDocument_location current hpath)) hs
  exact Eq.trans hs hdisk.symm

end SameBesideDocuments

/-! ## Runs that come to their end -/

structure CanBuildOn (current : Path) (style : LinkStyle) (disk : Disk) (page : Page) : Prop where
  document : ∃ text, documentOf (Disk.access current) style disk page = .ok text
  locate : disk.locate current page.renderedPath = .ok (location current page.renderedPath)
  noDirectory : disk.isDirectory (location current page.renderedPath) = false

def documentText (current : Path) (style : LinkStyle) (disk : Disk) (page : Page) : Text :=
  (documentOf (Disk.access current) style disk page).toOption.getD []

theorem documentText_eq {text : Text}
    (h : documentOf (Disk.access current) style disk page = .ok text) :
    documentText current style disk page = text := by
  rw [documentText, h]
  rfl

def documentsOn (current : Path) (style : LinkStyle) (disk : Disk) (pages : List Page) :
    List (Location × List Nat) :=
  pages.map fun page =>
    (location current page.renderedPath, encodeUtf8 (documentText current style disk page))

theorem run_disk_of_ok {written : List Path} {last : Progress Disk}
    (h : SameBesideDocuments disk now)
    (hrun : run (Disk.access current) style pages ⟨now, events⟩ = (.ok written, last)) :
    (∀ page ∈ pages, CanBuildOn current style disk page) ∧
      last.files = now.putAll (documentsOn current style disk pages) ∧
      changes last.events = changes events ++
        pages.map fun page => (page.renderedPath, documentText current style disk page) := by
  induction pages generalizing now events written with
  | nil =>
      obtain ⟨-, rfl⟩ := Prod.mk.inj hrun
      simp [documentsOn]
  | cons page pages ih =>
      obtain ⟨text, next, rest, hdocument, hwrite, hrest⟩ := run_cons_eq_ok hrun
      obtain ⟨hlocate, hnoDirectory, rfl⟩ := writeText_eq_ok_iff.mp hwrite
      have hbefore := h.documentOf_eq hdocument
      obtain ⟨hpages, hfiles, hchanges⟩ := ih (h.put current page _) hrest
      refine ⟨List.forall_mem_cons.mpr ⟨⟨⟨text, hbefore⟩, ?_, ?_⟩, hpages⟩, ?_, ?_⟩
      · exact locate_of_isDirectory (isDirectory_congr h.directories) hlocate
      · rw [← isDirectory_congr h.directories, hnoDirectory]
      · rw [hfiles, documentsOn, documentsOn, List.map_cons, putAll_cons, documentText_eq hbefore]
      · have hpage : changes (events ++ readings (Disk.access current) style now page ++
            [.write page.renderedPath text true] ++ [.announce page.renderedPath]) =
            changes events ++ [(page.renderedPath, text)] := by
          simp only [changes_append, changes_readings, List.append_assoc]
          rfl
        rw [hchanges, hpage, List.map_cons, documentText_eq hbefore, List.append_assoc]
        rfl

/-! ## A single page -/

theorem run_page_of_canBuildOn (h : CanBuildOn current style disk page) :
    run (Disk.access current) style [page] ⟨disk, []⟩ =
      (.ok [page.renderedPath],
        ⟨disk.put (location current page.renderedPath)
            (encodeUtf8 (documentText current style disk page)),
          readings (Disk.access current) style disk page ++
            [.write page.renderedPath (documentText current style disk page) true,
              .announce page.renderedPath]⟩) := by
  obtain ⟨text, hdocument⟩ := h.document
  have hwrite : (Disk.access current).write disk page.renderedPath text =
      .ok (disk.put (location current page.renderedPath) (encodeUtf8 text)) :=
    writeText_eq_ok_iff.mpr ⟨h.locate, h.noDirectory, rfl⟩
  rw [run, buildPage_eq, hdocument, documentText_eq hdocument]
  simp [hwrite, run]

end Build

/-- The locations that a page depends on: those on the way of its paths, and those of its
sources. -/
def Page.locations (current : Path) (page : Page) : List Location :=
  (page.renderedPath :: page.sources).flatMap (Disk.trail current) ++
    page.sources.map (Disk.location current)

namespace Build

open Disk

variable {style : LinkStyle} {page : Page} {current : Path} {disk other : Disk}

theorem run_page_congr (style : LinkStyle) (hdirectories : disk.directories = other.directories)
    (hfiles : ∀ at_ ∈ page.locations current, disk.file? at_ = other.file? at_) :
    ∃ answer events writes,
      run (Disk.access current) style [page] ⟨disk, []⟩ =
        (answer, ⟨disk.putAll writes, events⟩) ∧
      run (Disk.access current) style [page] ⟨other, []⟩ =
        (answer, ⟨other.putAll writes, events⟩) := by
  have htrail : ∀ path ∈ page.renderedPath :: page.sources, ∀ at_ ∈ trail current path,
      disk.file? at_ = other.file? at_ := fun path hpath at_ hat =>
    hfiles at_ (List.mem_append_left _ (List.mem_flatMap.mpr ⟨path, hpath, hat⟩))
  rw [List.forall_mem_cons] at htrail
  have hread : ∀ path ∈ page.sources,
      (Disk.access current).read disk path = (Disk.access current).read other path := by
    intro path hpath
    refine readText_congr hdirectories (htrail.2 path hpath) ?_
    exact hfiles _ (List.mem_append_right _ (List.mem_map_of_mem hpath))
  have hwrite : ∀ text, (Disk.access current).write other page.renderedPath text =
      ((Disk.access current).write disk page.renderedPath text).map fun _ =>
        other.put (location current page.renderedPath) (encodeUtf8 text) := fun text =>
    writeText_congr text hdirectories htrail.1
  simp only [run, buildPage_eq, documentOf_congr hread, readings_congr hread, hwrite]
  cases documentOf (Disk.access current) style disk page with
  | error e => exact ⟨_, _, [], rfl, rfl⟩
  | ok text =>
      dsimp only
      cases hnext : (Disk.access current).write disk page.renderedPath text with
      | error e => exact ⟨_, _, [], rfl, rfl⟩
      | ok next =>
          obtain ⟨-, -, rfl⟩ := writeText_eq_ok_iff.mp hnext
          exact ⟨_, _, [(location current page.renderedPath, encodeUtf8 text)], rfl, rfl⟩

end Build

end MarkdownPages
