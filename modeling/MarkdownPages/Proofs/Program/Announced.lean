import MarkdownPages.Proofs.Path.Shown
import MarkdownPages.Proofs.Program.OnePage
import MarkdownPages.Proofs.Site.Names
import MarkdownPages.Proofs.Site.Pages

/-!
# What a run announces

A document is announced exactly if it has been written, and in the same order, also in a run that
fails later on.  The directories of a loaded site are in normal form, and so are the paths of its
documents.  Hence each line of the output of a run tells where a document was written.
-/

namespace MarkdownPages

open Text

/-! ## Builds -/

namespace Build

variable {σ : Type} {access : FileAccess σ} {style : LinkStyle} {page : Page} {pages : List Page}
variable {paths others : List Path} {first second : List Event}

/-- The paths are written and announced, in this order. -/
structure Announces (paths : List Path) (events : List Event) : Prop where
  announced : announced events = paths
  written : (changes events).map Prod.fst = paths

theorem Announces.append (hfirst : Announces paths first) (hsecond : Announces others second) :
    Announces (paths ++ others) (first ++ second) where
  announced := by rw [announced_append, hfirst.announced, hsecond.announced]
  written := by rw [changes_append, List.map_append, hfirst.written, hsecond.written]

theorem announces_readings (access : FileAccess σ) (style : LinkStyle) (files : σ) (page : Page) :
    Announces [] (readings access style files page) where
  announced := announced_readings files page
  written := by rw [changes_readings, List.map_nil]

theorem buildPage_announces (access : FileAccess σ) (style : LinkStyle) (page : Page)
    (p : Progress σ) :
    ∃ next events,
      (∃ e, buildPage access style page p = (.error e, ⟨next, p.events ++ events⟩) ∧
        Announces [] events) ∨
      (buildPage access style page p = (.ok (), ⟨next, p.events ++ events⟩) ∧
        Announces [page.renderedPath] events) := by
  obtain ⟨files, before⟩ := p
  have hreadings := announces_readings access style files page
  rw [buildPage_eq]
  cases documentOf access style files page with
  | error e => exact ⟨files, _, .inl ⟨e, rfl, hreadings⟩⟩
  | ok text =>
      dsimp only
      cases access.write files page.renderedPath text with
      | error e =>
          have hfailed : Announces [] [.write page.renderedPath text false] := ⟨rfl, rfl⟩
          refine ⟨files, _, .inl ⟨e, ?_, hreadings.append hfailed⟩⟩
          rw [List.append_assoc]
      | ok next =>
          have hwritten : Announces [page.renderedPath]
              [.write page.renderedPath text true, .announce page.renderedPath] := ⟨rfl, rfl⟩
          refine ⟨next, _, .inr ⟨?_, hreadings.append hwritten⟩⟩
          simp only [List.append_assoc, List.singleton_append]

theorem run_announces (access : FileAccess σ) (style : LinkStyle) (pages : List Page)
    (p : Progress σ) :
    ∃ paths events, (run access style pages p).2.events = p.events ++ events ∧
      Announces paths events ∧ paths <+: pages.map Page.renderedPath := by
  -- By induction on the pages: what a page announces stands behind what was announced before it, and
  -- a page that fails adds nothing and ends the run.
  induction pages generalizing p with
  | nil => exact ⟨[], [], (List.append_nil _).symm, ⟨rfl, rfl⟩, List.nil_prefix⟩
  | cons page pages ih =>
      obtain ⟨next, first, ⟨e, hpage, hfirst⟩ | ⟨hpage, hfirst⟩⟩ :=
        buildPage_announces access style page p
      · rw [run, hpage]
        exact ⟨[], first, rfl, hfirst, List.nil_prefix⟩
      · obtain ⟨paths, rest, hevents, hrest, hleading⟩ := ih ⟨next, p.events ++ first⟩
        refine ⟨page.renderedPath :: paths, first ++ rest, ?_, hfirst.append hrest,
          (List.prefix_cons_inj _).mpr hleading⟩
        rw [run, hpage, ← List.append_assoc, ← hevents]
        dsimp only
        cases run access style pages ⟨next, p.events ++ first⟩ with
        | mk answer last => cases answer <;> rfl

end Build

/-! ## Paths of documents -/

namespace Site

variable {page : Page} {site : Site}

theorem isNormal_directory_of_pageOf {key : Text} {settings : Value}
    (h : pageOf key settings = .ok page) : page.directory.IsNormal := by
  unfold pageOf at h
  split at h
  · cases h
  · obtain ⟨directory, hdirectory, h⟩ := bind_eq_ok_iff.mp h
    obtain ⟨names, -, h⟩ := bind_eq_ok_iff.mp h
    cases h
    obtain ⟨s, -, -, rfl⟩ := directory_eq_ok_iff.mp hdirectory
    exact Path.isNormal_ofText s

theorem isNormal_renderedPath_of_ofText {settings : Text} (h : ofText settings = .ok site) :
    ∀ page ∈ site.pages, page.renderedPath.IsNormal := by
  obtain ⟨settings, -, hvalue⟩ := exists_of_ofText h
  obtain ⟨defaults, entries, -, -, hpages⟩ := exists_of_ofValue hvalue
  refine forall_mem_pagesOf (fun _ _ _ hpage => ?_) hpages
  exact (isNormal_directory_of_pageOf hpage).join (Path.isNormal_ofText _)

end Site

namespace Program

variable {σ : Type} {place : Place σ} {files : σ} {key settings : Option Text} {site : Site}
variable {pages : List Page}

theorem mem_of_mem_chosen (h : chosen site key = .ok pages) : ∀ page ∈ pages, page ∈ site.pages := by
  unfold chosen at h
  split at h
  · cases h
    exact fun _ hpage => hpage
  · cases h
    exact fun _ hpage => hpage
  · obtain ⟨found, hfound, h⟩ := Site.bind_eq_ok_iff.mp h
    cases h
    rw [List.forall_mem_singleton]
    unfold Site.page at hfound
    split at hfound
    · rename_i hsome
      cases hfound
      exact List.mem_of_find?_eq_some hsome
    · cases hfound

theorem of_plan_eq_ok (h : plan place files key settings = .ok (site, pages)) :
    loadSite place files (settingsPath settings) = .ok site ∧ chosen site key = .ok pages := by
  obtain ⟨loaded, hload, h⟩ := Site.bind_eq_ok_iff.mp h
  split at h
  · rename_i hchosen
    cases h
    exact ⟨hload, hchosen⟩
  · cases h

/--
The output of a run, also of one that fails: it has a line for each document that was written, in
order, and no other line.  What a line shows leads from the current directory where the document was
written.
-/
theorem output_names_written_files (place : Place σ) (files : σ) (key settings : Option Text) :
    let outcome := run place files (.render key settings)
    let written := (Build.changes outcome.events).map Prod.fst
    outcome.output = written.flatMap (announcement place.current) ∧
      ∀ path ∈ written, place.current.join (.ofText (Path.shownFrom place.current path)) =
        place.current.join path := by
  intro outcome written
  cases hplan : plan place files key settings with
  | error e =>
      have houtcome : outcome = ⟨files, [], [], some e⟩ := by simp only [outcome, run, hplan]
      simp [written, houtcome, Build.changes]
  | ok found =>
      obtain ⟨site, pages⟩ := found
      obtain ⟨hload, hchosen⟩ := of_plan_eq_ok hplan
      obtain ⟨paths, events, hevents, hannounces, hleading⟩ :=
        Build.run_announces place.access site.style pages ⟨files, []⟩
      rw [List.nil_append] at hevents
      have houtcome : outcome = _ := run_render_of_load hload hchosen
      have hwritten : written = paths := by
        simp only [written, houtcome, hevents, hannounces.written]
      rw [hwritten]
      constructor
      · simp only [houtcome, output, hevents, hannounces.announced]
      · intro path hpath
        obtain ⟨page, hpage, rfl⟩ := List.mem_map.mp (hleading.subset hpath)
        obtain ⟨s, hsite⟩ := Site.exists_ofText_of_loadSite hload
        refine Path.join_ofText_shownFrom ?_ place.current
        exact Site.isNormal_renderedPath_of_ofText hsite page (mem_of_mem_chosen hchosen page hpage)

end Program

end MarkdownPages
