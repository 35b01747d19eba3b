import Mathlib.Data.List.Forall2
import MarkdownPages.Proofs.Site.Entries

/-!
# Settings and what they describe

The settings of a site are read in two parts, its markup and its pages.  An entry describes a page:
its key is spelled out, and its settings name the directory, the stem and the fragments.
-/

namespace MarkdownPages

open Text

namespace Site

variable {page : Page} {pages read : List Page} {list : List (Value × Value)}
variable {key name : Text} {names : List Text} {value : Value} {entry : Value × Value}

/-! ## The page of an entry -/

structure Describes (settings : List (Value × Value)) (page : Page) : Prop where
  directory : ∃ s, s ≠ [] ∧ Value.setting "directory" settings = .text s ∧
    page.directory = Path.ofText s
  stem : page.stem = ((Value.setting "prefix" settings).orElse (.text page.key)).toText
  fragments : ((Value.setting "fragments" settings).orElse .emptyList).items? =
    some (page.fragments.map .text)
  names : ∀ name ∈ page.fragments, isFragmentName name = true

/-- The page that an entry describes under its key. -/
def IsPageOf (entry : Value × Value) (page : Page) : Prop :=
  page.key = entry.1.toText ∧ ∃ settings, entry.2.entries? = some settings ∧ Describes settings page

theorem mapM_eq_ok_iff {ε α β : Type} {f : α → Except ε β} {as : List α} {bs : List β} :
    as.mapM f = .ok bs ↔ List.Forall₂ (fun a b => f a = .ok b) as bs := by
  induction as generalizing bs with
  | nil =>
      rw [List.forall₂_nil_left_iff]
      exact ⟨fun h => (Except.ok.inj h).symm, fun h => h ▸ rfl⟩
  | cons a as ih =>
      rw [List.mapM_cons, bind_eq_ok_iff, List.forall₂_cons_left_iff]
      simp only [bind_eq_ok_iff, ih]
      constructor
      · rintro ⟨b, hb, bs', hbs, h⟩
        exact ⟨b, bs', hb, hbs, (Except.ok.inj h).symm⟩
      · rintro ⟨b, bs', hb, hbs, rfl⟩
        exact ⟨b, hb, bs', hbs, rfl⟩

theorem exists_of_toOption_bind {ε α β : Type} {x : Except ε α} {f : α → Option β} {b : β}
    (h : x.toOption.bind f = some b) : ∃ a, x = .ok a ∧ f a = some b := by
  cases x with
  | error e => cases h
  | ok a => exact ⟨a, rfl, h⟩

theorem directory_eq_ok_iff {path : Path} :
    directory key value = .ok path ↔ ∃ s, s ≠ [] ∧ value = .text s ∧ path = Path.ofText s := by
  unfold directory
  constructor
  · intro h
    split at h
    · cases h
    · rename_i hblank
      split at h
      · rename_i s
        cases h
        refine ⟨s, ?_, rfl, rfl⟩
        rintro rfl
        exact hblank rfl
      · cases h
  · rintro ⟨s, hne, rfl, rfl⟩
    rw [if_neg]
    intro hblank
    exact hne (List.isEmpty_iff.mp hblank)

theorem fragmentName_eq_ok_iff :
    fragmentName key value = .ok name ↔ value = .text name ∧ isFragmentName name = true := by
  constructor
  · intro h
    unfold fragmentName at h
    split at h
    · split at h
      · rename_i hname
        cases h
        exact ⟨rfl, hname⟩
      · cases h
    · cases h
  · rintro ⟨rfl, hname⟩
    rw [fragmentName, if_pos hname]

theorem mapM_fragmentName_eq_ok_iff {items : List Value} :
    items.mapM (fragmentName key) = .ok names ↔
      items = names.map .text ∧ ∀ name ∈ names, isFragmentName name = true := by
  rw [mapM_eq_ok_iff]
  simp only [fragmentName_eq_ok_iff]
  constructor
  · intro h
    induction h with
    | nil => exact ⟨rfl, by simp⟩
    | cons hfirst _ ih =>
        refine ⟨?_, List.forall_mem_cons.mpr ⟨hfirst.2, ih.2⟩⟩
        rw [List.map_cons, hfirst.1, ih.1]
  · rintro ⟨rfl, hnames⟩
    apply List.forall₂_map_left_iff.mpr
    apply List.forall₂_same.mpr
    intro name hname
    exact ⟨rfl, hnames name hname⟩

theorem fragments_eq_ok_iff : fragments key value = .ok names ↔
    (value.orElse .emptyList).items? = some (names.map .text) ∧
      ∀ name ∈ names, isFragmentName name = true := by
  unfold fragments
  split
  · rename_i items hitems
    rw [mapM_fragmentName_eq_ok_iff, hitems, Option.some.injEq]
  · rename_i hnone
    simp [hnone]

theorem entryPage_eq_ok_iff : entryPage entry = .ok page ↔ IsPageOf entry page := by
  unfold entryPage pageOf IsPageOf
  cases hentries : entry.2.entries? with
  | none => simp
  | some settings =>
      dsimp only
      simp only [bind_eq_ok_iff, directory_eq_ok_iff, fragments_eq_ok_iff]
      constructor
      · rintro ⟨path, ⟨s, hne, hdirectory, rfl⟩, names, ⟨hitems, hnames⟩, h⟩
        cases h
        exact ⟨rfl, settings, rfl, ⟨s, hne, hdirectory, rfl⟩, rfl, hitems, hnames⟩
      · rintro ⟨hkey, settings', hsettings, ⟨s, hne, hdirectory, hpath⟩, hstem, hitems, hnames⟩
        cases hsettings
        refine ⟨_, ⟨s, hne, hdirectory, rfl⟩, page.fragments, ⟨hitems, hnames⟩, ?_⟩
        obtain ⟨key, path, stem, names⟩ := page
        dsimp only at hkey hpath hstem
        subst hkey hpath hstem
        rfl

/-! ## Settings by their parts -/

def pagesFrom (settings : List (Value × Value)) : Except SiteError (List Page) :=
  let pages := Value.setting "pages" settings
  if pages.isBlank then .error .noPages
  else
    match pages.entries? with
    | none => .error .pagesNotMapping
    | some list => pagesOf [] list

theorem orElse_of_not_isBlank {fallback : Value} (h : value.isBlank = false) :
    value.orElse fallback = value := by
  rw [Value.orElse, h]
  rfl

theorem orElse_of_isBlank {fallback : Value} (h : value.isBlank = true) :
    value.orElse fallback = fallback := by
  rw [Value.orElse, if_pos h]

theorem isBlank_of_entries? (h : value.entries? = some list) : value.isBlank = list.isEmpty := by
  cases value <;> cases h
  rfl

theorem orElse_emptyMap_of_entries? (h : value.entries? = some list) :
    (value.orElse .emptyMap).entries? = some list := by
  rw [Value.orElse, isBlank_of_entries? h]
  cases list with
  | nil => rfl
  | cons entry list => exact h

theorem ofValue_of_entries? {settings : List (Value × Value)} (h : value.entries? = some settings) :
    ofValue value = (do
      let names ← markupOf settings
      let pages ← pagesFrom settings
      .ok ⟨names.1, names.2, pages⟩) := by
  unfold ofValue markupOf pagesFrom
  rw [orElse_emptyMap_of_entries? h]
  dsimp only
  generalize ((Value.setting "defaults" settings).orElse .emptyMap).entries? = defaults?
  cases defaults? with
  | none => rfl
  | some defaults =>
      dsimp only
      cases markupName "link_element" LinkStyle.defaultElement defaults with
      | error e => rfl
      | ok element =>
          cases markupName "link_href_attribute" LinkStyle.defaultHrefAttribute defaults with
          | error e => rfl
          | ok hrefAttribute =>
              dsimp only [bind, Except.bind]
              split
              · rfl
              · cases (Value.setting "pages" settings).entries? <;> rfl

theorem ofText_of_read {s : Text} {site : Site} (hread : Yaml.read s = .ok value)
    (hvalue : ofValue value = .ok site) : ofText s = .ok site := by
  rw [ofText, hread]
  dsimp only
  rw [hvalue]

theorem ofValue_of_isBlank (h : value.isBlank = true) : ofValue value = .error .noPages := by
  unfold ofValue
  rw [orElse_of_isBlank h]
  rfl

theorem ofValue_of_not_mapping (hblank : value.isBlank = false) (h : value.entries? = none) :
    ofValue value = .error .notMapping := by
  unfold ofValue
  rw [orElse_of_not_isBlank hblank, h]

theorem pagesFrom_eq_ok_iff {settings : List (Value × Value)} :
    pagesFrom settings = .ok pages ↔
      ∃ list read, (Value.setting "pages" settings).entries? = some list ∧ list ≠ [] ∧
        List.Forall₂ IsPageOf list read ∧ putPages [] read = pages := by
  unfold pagesFrom
  dsimp only
  cases hlist : (Value.setting "pages" settings).entries? with
  | none =>
      split <;> simp
  | some list =>
      rw [isBlank_of_entries? hlist]
      cases list with
      | nil => simp
      | cons entry list =>
          dsimp only [List.isEmpty_cons]
          rw [if_neg Bool.false_ne_true, pagesOf_eq_mapM, map_eq_ok_iff]
          simp only [mapM_eq_ok_iff, entryPage_eq_ok_iff]
          constructor
          · rintro ⟨read, hread, hpages⟩
            exact ⟨_, read, rfl, List.cons_ne_nil _ _, hread, hpages⟩
          · rintro ⟨_, read, hlist, -, hread, hpages⟩
            cases hlist
            exact ⟨read, hread, hpages⟩

theorem ofValue_eq_ok_iff {site : Site} :
    ofValue value = .ok site ↔ ∃ settings, value.entries? = some settings ∧
      markupOf settings = .ok (site.element, site.hrefAttribute) ∧
      pagesFrom settings = .ok site.pages := by
  cases hentries : value.entries? with
  | none =>
      cases hblank : value.isBlank with
      | false => simp [ofValue_of_not_mapping hblank hentries]
      | true => simp [ofValue_of_isBlank hblank]
  | some settings =>
      rw [ofValue_of_entries? hentries]
      simp only [bind_eq_ok_iff]
      constructor
      · rintro ⟨names, hmarkup, pages, hpages, h⟩
        cases h
        exact ⟨settings, rfl, hmarkup, hpages⟩
      · rintro ⟨_, hsettings, hmarkup, hpages⟩
        cases hsettings
        exact ⟨_, hmarkup, _, hpages, rfl⟩

end Site

end MarkdownPages
