import MarkdownPages.Proofs.Build.Disk
import MarkdownPages.Proofs.Site.Keys

/-!
# Rendering one page

A page that is rendered alone is rendered as it is with its site, and nothing else is touched.  What
becomes of it depends on the settings and on its own locations only.

Two paths may lead to one location, and a file of one page may be in the way of another page.  So
it is locations, not paths, that keep pages apart.
-/

namespace MarkdownPages.Program

open Text Disk

variable {σ : Type} {place : Place σ} {files : σ} {key settings : Option Text} {site : Site}
variable {page : Page} {pages : List Page} {current : Path} {disk other : Disk}

/-! ## Commands -/

theorem loadSite_of_read {path : Path} {s : Text} (hthere : place.isThere files path = true)
    (hread : place.access.read files path = .ok s) :
    loadSite place files path = Site.ofText s := by
  rw [loadSite, if_pos hthere, hread]

/-- What the answer of a build is to the program: a failure is its error. -/
def failure? : Except FileError (List Path) → Option LoadError
  | .ok _ => none
  | .error e => some (.file e)

theorem run_render_of_load (hload : loadSite place files (settingsPath settings) = .ok site)
    (hchosen : chosen site key = .ok pages) :
    run place files (.render key settings) =
      let (answer, progress) := Build.run place.access site.style pages ⟨files, []⟩
      ⟨progress.files, progress.events, output place.current progress.events, failure? answer⟩ := by
  rw [run, plan, hload]
  simp only [bind, Except.bind, hchosen]
  rfl

theorem chosen_key (hkeys : (site.pages.map Page.key).Nodup) (hpage : page ∈ site.pages)
    (hkey : page.key ≠ []) : chosen site (some page.key) = .ok [page] := by
  obtain ⟨c, rest, hcons⟩ := List.exists_cons_of_ne_nil hkey
  have hfound := Site.page_key_eq hkeys hpage
  rw [hcons] at hfound ⊢
  rw [chosen, hfound]
  · rfl
  · simp

theorem chosen_all (hall : key = none ∨ key = some []) : chosen site key = .ok site.pages := by
  rcases hall with rfl | rfl <;> rfl

theorem exists_run_of_error_eq_none
    (hload : loadSite place files (settingsPath settings) = .ok site)
    (hchosen : chosen site key = .ok pages)
    (hnone : (run place files (.render key settings)).error = none) :
    ∃ written last, Build.run place.access site.style pages ⟨files, []⟩ = (.ok written, last) ∧
      run place files (.render key settings) =
        ⟨last.files, last.events, output place.current last.events, none⟩ := by
  rw [run_render_of_load hload hchosen] at hnone ⊢
  cases hrun : Build.run place.access site.style pages ⟨files, []⟩ with
  | mk answer last =>
      cases answer with
      | error e => simp [hrun, failure?] at hnone
      | ok written => exact ⟨written, last, rfl, rfl⟩

/-! ## One page and all pages -/

theorem render_page_of_canBuildOn
    (hload : loadSite (Disk.place current) disk (settingsPath settings) = .ok site)
    (hpage : page ∈ site.pages) (hkey : page.key ≠ [])
    (hbuild : Build.CanBuildOn current site.style disk page) :
    run (Disk.place current) disk (.render (some page.key) settings) =
      ⟨disk.put (location current page.renderedPath)
          (encodeUtf8 (Build.documentText current site.style disk page)),
        Build.readings (Disk.access current) site.style disk page ++
          [.write page.renderedPath (Build.documentText current site.style disk page) true,
            .announce page.renderedPath],
        announcement current page.renderedPath, none⟩ := by
  rw [run_render_of_load hload (chosen_key (Site.nodup_keys_of_loadSite hload) hpage hkey)]
  have hannounced : Build.announced (Build.readings (Disk.access current) site.style disk page ++
      [.write page.renderedPath (Build.documentText current site.style disk page) true,
        .announce page.renderedPath]) = [page.renderedPath] := by
    rw [Build.announced_append, Build.announced_readings]
    rfl
  simp only [Disk.place, Build.run_page_of_canBuildOn hbuild, output, hannounced, failure?,
    List.flatMap_singleton]

theorem file?_putAll_documentsOn (hkeys : (site.pages.map Page.key).Nodup)
    (hpage : page ∈ site.pages)
    (halone : ∀ other ∈ site.pages, other.key ≠ page.key →
      location current other.renderedPath ≠ location current page.renderedPath) :
    (disk.putAll (Build.documentsOn current site.style disk site.pages)).file?
        (location current page.renderedPath) =
      some (encodeUtf8 (Build.documentText current site.style disk page)) := by
  refine file?_putAll ?_ (.inr ?_)
  · intro write hwrite hsame
    obtain ⟨other, hother, rfl⟩ := List.mem_map.mp hwrite
    by_cases hkey : other.key = page.key
    · rw [Site.eq_of_key_eq hkeys hpage hother hkey]
    · exact absurd hsame (halone other hother hkey)
  · rw [Build.documentsOn, List.map_map]
    exact List.mem_map.mpr ⟨page, hpage, rfl⟩

theorem filter_documents (hkeys : (site.pages.map Page.key).Nodup) (hpage : page ∈ site.pages)
    (halone : ∀ other ∈ site.pages, other.key ≠ page.key →
      other.renderedPath ≠ page.renderedPath) (text : Page → Text) :
    (site.pages.map fun page => (page.renderedPath, text page)).filter
        (·.1 = page.renderedPath) = [(page.renderedPath, text page)] := by
  have hcount : site.pages.count page = 1 := List.count_eq_one_of_mem hkeys.of_map hpage
  have hfilter : site.pages.filter (fun other => other.renderedPath = page.renderedPath) =
      site.pages.filter (· == page) := by
    refine List.filter_congr fun other hother => ?_
    by_cases hkey : other.key = page.key
    · simp [Site.eq_of_key_eq hkeys hpage hother hkey]
    · have hne : other ≠ page := fun heq => hkey (heq ▸ rfl)
      simp [halone other hother hkey, hne]
  rw [List.filter_map]
  show (site.pages.filter fun other => other.renderedPath = page.renderedPath).map _ = _
  rw [hfilter, List.filter_beq, hcount]
  rfl

theorem render_page_congr
    (hload : loadSite (Disk.place current) disk (settingsPath settings) = .ok site)
    (hload' : loadSite (Disk.place current) other (settingsPath settings) = .ok site)
    (hpage : page ∈ site.pages) (hkey : page.key ≠ [])
    (hdirectories : other.directories = disk.directories)
    (hfiles : ∀ at_ ∈ page.locations current, other.file? at_ = disk.file? at_) :
    let first := run (Disk.place current) disk (.render (some page.key) settings)
    let second := run (Disk.place current) other (.render (some page.key) settings)
    second.error = first.error ∧ second.events = first.events ∧ second.output = first.output ∧
      ∃ writes, first.files = disk.putAll writes ∧ second.files = other.putAll writes := by
  intro first second
  have hchosen := chosen_key (Site.nodup_keys_of_loadSite hload) hpage hkey
  obtain ⟨answer, events, writes, hfirst, hsecond⟩ :=
    Build.run_page_congr site.style hdirectories.symm
      fun at_ hat => (hfiles at_ hat).symm
  have hone : first = _ := run_render_of_load hload hchosen
  have htwo : second = _ := run_render_of_load hload' hchosen
  simp only [Disk.place, hfirst] at hone
  simp only [Disk.place, hsecond] at htwo
  rw [hone, htwo]
  exact ⟨rfl, rfl, rfl, writes, rfl, rfl⟩

theorem render_page_of_render_all
    (hload : loadSite (Disk.place current) disk (settingsPath settings) = .ok site)
    (hpage : page ∈ site.pages) (hkey : page.key ≠ []) (hall : key = none ∨ key = some [])
    (hnone : (run (Disk.place current) disk (.render key settings)).error = none) :
    let all := run (Disk.place current) disk (.render key settings)
    let one := run (Disk.place current) disk (.render (some page.key) settings)
    one.error = none ∧ Build.announced one.events = [page.renderedPath] ∧
      one.output = announcement current page.renderedPath ∧
      disk.locate current page.renderedPath = .ok (location current page.renderedPath) ∧
      one.files.directories = disk.directories ∧
      (∀ at_ ≠ location current page.renderedPath, one.files.file? at_ = disk.file? at_) ∧
      ((∀ other ∈ site.pages, other.key ≠ page.key →
          location current other.renderedPath ≠ location current page.renderedPath) →
        one.files.file? (location current page.renderedPath) =
          all.files.file? (location current page.renderedPath)) ∧
      ((∀ other ∈ site.pages, other.key ≠ page.key → other.renderedPath ≠ page.renderedPath) →
        Build.changes one.events =
          (Build.changes all.events).filter (·.1 = page.renderedPath)) := by
  intro all one
  have hkeys := Site.nodup_keys_of_loadSite hload
  obtain ⟨written, last, hrun, hallEq⟩ :=
    exists_run_of_error_eq_none hload (chosen_all hall) hnone
  obtain ⟨hbuild, hfiles, hchanges⟩ := Build.run_disk_of_ok (.refl disk) hrun
  have hone : one = _ := render_page_of_canBuildOn hload hpage hkey (hbuild page hpage)
  have hallFiles : all.files = last.files := congrArg Outcome.files hallEq
  have hallEvents : all.events = last.events := congrArg Outcome.events hallEq
  rw [hone, hallFiles, hallEvents, hfiles, hchanges]
  refine ⟨rfl, ?_, rfl, (hbuild page hpage).locate, rfl, ?_, ?_, ?_⟩
  · rw [Build.announced_append, Build.announced_readings]
    rfl
  · exact fun at_ hat => file?_put_of_ne hat disk _
  · intro halone
    rw [file?_put_self, file?_putAll_documentsOn hkeys hpage halone]
  · intro halone
    simp only [Build.changes_append, Build.changes_readings]
    exact (filter_documents hkeys hpage halone _).symm

/--
A page of a loaded site, asked for by its key.  If the whole site can be rendered, then so can the
page: it is announced, no other file is changed, and its document is what the site leaves at the
same location, unless another page leads there too.  And what becomes of the page does not depend on
files at other locations than its own.
-/
theorem render_page_agrees_with_site {settings : Option Text} {site : Site} {current : Path}
    {disk : Disk} (hload : loadSite (Disk.place current) disk (settingsPath settings) = .ok site)
    {page : Page} (hpage : page ∈ site.pages) (hkey : page.key ≠ []) :
    let render := fun (disk : Disk) key => run (Disk.place current) disk (.render key settings)
    let there := location current page.renderedPath
    let one := render disk (some page.key)
    (∀ key, key = none ∨ key = some [] → (render disk key).error = none →
      one.error = none ∧ Build.announced one.events = [page.renderedPath] ∧
        one.output = announcement current page.renderedPath ∧
        disk.locate current page.renderedPath = .ok there ∧
        one.files.directories = disk.directories ∧
        (∀ at_ ≠ there, one.files.file? at_ = disk.file? at_) ∧
        ((∀ other ∈ site.pages, other.key ≠ page.key →
            location current other.renderedPath ≠ there) →
          one.files.file? there = (render disk key).files.file? there) ∧
        ((∀ other ∈ site.pages, other.key ≠ page.key → other.renderedPath ≠ page.renderedPath) →
          Build.changes one.events =
            (Build.changes (render disk key).events).filter (·.1 = page.renderedPath))) ∧
      ∀ other : Disk,
        loadSite (Disk.place current) other (settingsPath settings) = .ok site →
        other.directories = disk.directories →
        (∀ at_ ∈ page.locations current, other.file? at_ = disk.file? at_) →
        (render other (some page.key)).error = one.error ∧
          (render other (some page.key)).events = one.events ∧
          (render other (some page.key)).output = one.output ∧
          ∃ writes, one.files = disk.putAll writes ∧
            (render other (some page.key)).files = other.putAll writes := by
  refine ⟨fun key hall hnone => render_page_of_render_all hload hpage hkey hall hnone, ?_⟩
  exact fun other hload' hdirectories hfiles =>
    render_page_congr hload hload' hpage hkey hdirectories hfiles

/-- A page with a fragment beside a page without; files that belong to neither do not matter. -/
theorem render_second_page :
    let text := "pages:\n  a:\n    directory: d\n  b:\n    directory: d\n    fragments: [f]\n".toList
    let disk : Disk := ⟨[(["s.yaml".toList], encodeUtf8 text),
      (["d".toList, "a.template.html".toList], encodeUtf8 "A".toList),
      (["d".toList, "b.template.html".toList], encodeUtf8 "B".toList),
      (["d".toList, "b.f.md".toList], encodeUtf8 "*f*".toList)], [["d".toList]]⟩
    let other := disk.put ["d".toList, "a.template.html".toList] []
    let first : Page := ⟨"a".toList, .ofText "d".toList, "a".toList, []⟩
    let second : Page := ⟨"b".toList, .ofText "d".toList, "b".toList, ["f".toList]⟩
    let site : Site := ⟨LinkStyle.defaultElement, LinkStyle.defaultHrefAttribute, [first, second]⟩
    let place := Disk.place (.ofText "/".toList)
    let settings := some "s.yaml".toList
    loadSite place disk (settingsPath settings) = .ok site ∧ second ∈ site.pages ∧
      second.key ≠ [] ∧ (run place disk (.render none settings)).error = none ∧
      (run place disk (.render (some second.key) settings)).output =
        "rendered d/b.rendered.html\n".toList ∧
      (run place disk (.render (some second.key) settings)).files.file?
          ["d".toList, "b.rendered.html".toList] =
        (run place disk (.render none settings)).files.file?
          ["d".toList, "b.rendered.html".toList] ∧
      loadSite place other (settingsPath settings) = .ok site ∧
      (run place other (.render (some second.key) settings)).output =
        (run place disk (.render (some second.key) settings)).output := by
  intro text disk other first second site place settings
  have hsite : Site.ofText text = .ok site := by
    rw [Site.ofText_eq_ok_iff]
    decide +kernel
  have hload : loadSite place disk (settingsPath settings) = .ok site := by
    rw [loadSite_of_read (s := text) (by decide +kernel) (by decide +kernel), hsite]
  have hload' : loadSite place other (settingsPath settings) = .ok site := by
    rw [loadSite_of_read (s := text) (by decide +kernel) (by decide +kernel), hsite]
  have hpage : second ∈ site.pages := by decide +kernel
  have hnone : (run place disk (.render none settings)).error = none := by
    rw [← Option.isNone_iff_eq_none]
    decide +kernel
  have hagrees := render_page_agrees_with_site hload hpage (by decide +kernel)
  obtain ⟨-, -, houtput, -, -, -, hfile, -⟩ := hagrees.1 none (.inl rfl) hnone
  obtain ⟨-, -, hsame, -⟩ := hagrees.2 other hload' rfl (by decide +kernel)
  exact ⟨hload, hpage, by decide +kernel, hnone, houtput, hfile (by decide +kernel), hload', hsame⟩

/--
What a path leads to is not told by the path alone.  Two pages with different paths may share a
document, and then the site leaves the later one.  And the fragment of one page may stand where the
path of another page wants a directory, which changes the error.
-/
theorem paths_do_not_keep_pages_apart :
    let shared : Disk := ⟨[(["s.yaml".toList], encodeUtf8 ("pages:\n  a:\n    directory: d\n" ++
        "    prefix: x\n  b:\n    directory: d/../d\n    prefix: x\n    fragments: [f]\n").toList),
      (["d".toList, "x.template.html".toList], encodeUtf8 "T".toList),
      (["d".toList, "x.f.md".toList], encodeUtf8 "F".toList)], [["d".toList]]⟩
    let blocked : Disk := ⟨[(["s.yaml".toList], encodeUtf8
        "pages:\n  k:\n    directory: q.f.md\n  q:\n    directory: .\n    fragments: [f]\n".toList),
      (["q.f.md".toList], encodeUtf8 "F".toList)], []⟩
    let place := Disk.place (.ofText "/".toList)
    let render := fun (disk : Disk) key => run place disk (.render key (some "s.yaml".toList))
    (render shared none).error.isNone = true ∧
      Build.announced (render shared none).events =
        [.ofText "d/x.rendered.html".toList, .ofText "d/../d/x.rendered.html".toList] ∧
      (render shared (some ['a'])).files.file? ["d".toList, "x.rendered.html".toList] =
        some (encodeUtf8 "T".toList) ∧
      (render shared none).files.file? ["d".toList, "x.rendered.html".toList] =
        some (encodeUtf8 "<ng-template #f>\n<p>F</p>\n</ng-template>\n\nT".toList) ∧
      (render blocked (some ['k'])).error.bind LoadError.message? =
        some "[Errno 20] Not a directory: 'q.f.md/k.template.html'".toList ∧
      (render (blocked.remove ["q.f.md".toList]) (some ['k'])).error.bind LoadError.message? =
        some "[Errno 2] No such file or directory: 'q.f.md/k.template.html'".toList := by
  decide +kernel

end MarkdownPages.Program
