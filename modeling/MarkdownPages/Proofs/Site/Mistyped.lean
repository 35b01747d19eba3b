import MarkdownPages.Proofs.Site.Pages

/-!
# Values of the wrong type

Settings hold values of a certain type in certain places: mappings, a directory that is a text, a
list of texts.  A value of another type is refused, with one exception: the defaults and the
fragments of a page may be absent, and every value that says nothing counts as absent there, be it
of the wrong type.  Settings as a whole that say nothing count as an empty mapping, so that they
have no pages.
-/

namespace MarkdownPages

open Text

namespace Site

variable {value : Value}

/-! ## Types of settings -/

/-- Something in the settings of a page has the wrong type.  What `absent` holds of is not there. -/
inductive PageMistyped (absent : Value → Prop) (page : Value) : Prop
  | notMapping (h : page.entries? = none)
  | directory {settings : List (Value × Value)} (hpage : page.entries? = some settings)
      (h : ∀ s, s ≠ [] → Value.setting "directory" settings ≠ .text s)
  | fragments {settings : List (Value × Value)} (hpage : page.entries? = some settings)
      (hpresent : ¬ absent (Value.setting "fragments" settings))
      (h : (Value.setting "fragments" settings).items? = none)
  | fragment {settings : List (Value × Value)} (hpage : page.entries? = some settings)
      {items : List Value} (hitems : (Value.setting "fragments" settings).items? = some items)
      {item : Value} (hitem : item ∈ items) (h : item.text? = none)

/-- Something in the settings of a site has the wrong type. -/
inductive Mistyped (absent : Value → Prop) (settings : List (Value × Value)) : Prop
  | defaults (hpresent : ¬ absent (Value.setting "defaults" settings))
      (h : (Value.setting "defaults" settings).entries? = none)
  | pages (h : ∀ list, list ≠ [] → (Value.setting "pages" settings).entries? ≠ some list)
  | page {list : List (Value × Value)}
      (hlist : (Value.setting "pages" settings).entries? = some list)
      {entry : Value × Value} (hentry : entry ∈ list) (h : PageMistyped absent entry.2)

/-- A default that names markup is absent, or has the shape of such names. -/
def IsNamed (setting : String) (defaults : List (Value × Value)) : Prop :=
  Value.setting setting defaults = .null ∨
    ∃ s, Value.setting setting defaults = .text s ∧ isMarkupName s = true

def PageNamed (page : Value) : Prop :=
  ∀ settings items, page.entries? = some settings →
    (Value.setting "fragments" settings).items? = some items →
      ∀ name, .text name ∈ items → isFragmentName name = true

structure WellNamed (settings : List (Value × Value)) : Prop where
  markup : ∀ defaults, (Value.setting "defaults" settings).entries? = some defaults →
    IsNamed "link_element" defaults ∧ IsNamed "link_href_attribute" defaults
  fragments : ∀ list, (Value.setting "pages" settings).entries? = some list →
    ∀ entry ∈ list, PageNamed entry.2

/-! ## Pages -/

section Pages

variable {entry : Value × Value} {items : List Value}

theorem orElse_emptyList_of_items? (h : value.items? = some items) :
    (value.orElse .emptyList).items? = some items := by
  cases value <;> cases h
  cases items <;> rfl

theorem eq_text_of_text? {s : Text} (h : value.text? = some s) : value = .text s := by
  cases value <;> cases h
  rfl

theorem exists_map_text (h : ∀ item ∈ items, item.text? ≠ none) :
    ∃ names : List Text, items = names.map .text := by
  induction items with
  | nil => exact ⟨[], rfl⟩
  | cons item items ih =>
      rw [List.forall_mem_cons] at h
      obtain ⟨names, hnames⟩ := ih h.2
      cases item with
      | text s => exact ⟨s :: names, by rw [hnames, List.map_cons]⟩
      | _ => exact absurd rfl h.1

variable {page : Page} {settings : List (Value × Value)}

theorem Describes.items_eq (h : Describes settings page)
    (hitems : (Value.setting "fragments" settings).items? = some items) :
    items = page.fragments.map .text := by
  have hfragments := h.fragments
  rw [orElse_emptyList_of_items? hitems] at hfragments
  exact Option.some.inj hfragments

theorem IsPageOf.not_pageMistyped (h : IsPageOf entry page) :
    ¬ PageMistyped (·.isBlank = true) entry.2 := by
  obtain ⟨-, settings, hsettings, hpage⟩ := h
  intro hmistyped
  cases hmistyped with
  | notMapping hnone => cases hsettings.symm.trans hnone
  | directory hsettings' hdirectory =>
      cases hsettings.symm.trans hsettings'
      obtain ⟨s, hne, hs, -⟩ := hpage.directory
      exact hdirectory s hne hs
  | fragments hsettings' hpresent hitems =>
      cases hsettings.symm.trans hsettings'
      have hfragments := hpage.fragments
      rw [orElse_of_not_isBlank (by simpa using hpresent), hitems] at hfragments
      cases hfragments
  | fragment hsettings' hitems hitem htext =>
      cases hsettings.symm.trans hsettings'
      rw [hpage.items_eq hitems] at hitem
      obtain ⟨name, -, rfl⟩ := List.mem_map.mp hitem
      cases htext

theorem IsPageOf.pageNamed (h : IsPageOf entry page) : PageNamed entry.2 := by
  obtain ⟨-, settings, hsettings, hpage⟩ := h
  intro settings' items hsettings' hitems name hname
  cases hsettings.symm.trans hsettings'
  rw [hpage.items_eq hitems] at hname
  obtain ⟨name', hmem, heq⟩ := List.mem_map.mp hname
  obtain rfl := Value.text.inj heq
  exact hpage.names _ hmem

theorem exists_fragments (hsettings : value.entries? = some settings)
    (htyped : ¬ PageMistyped (·.isBlank = true) value) (hnamed : PageNamed value) :
    ∃ names : List Text,
      ((Value.setting "fragments" settings).orElse .emptyList).items? = some (names.map .text) ∧
        ∀ name ∈ names, isFragmentName name = true := by
  cases hitems : (Value.setting "fragments" settings).items? with
  | none =>
      have hblank : (Value.setting "fragments" settings).isBlank = true := by
        by_contra hpresent
        exact htyped (.fragments hsettings hpresent hitems)
      rw [orElse_of_isBlank hblank]
      exact ⟨[], rfl, by simp⟩
  | some items =>
      have htexts : ∀ item ∈ items, item.text? ≠ none := fun item hitem hnone =>
        htyped (.fragment hsettings hitems hitem hnone)
      obtain ⟨names, rfl⟩ := exists_map_text htexts
      refine ⟨names, orElse_emptyList_of_items? hitems, fun name hname => ?_⟩
      exact hnamed settings _ hsettings hitems name (List.mem_map_of_mem hname)

theorem exists_isPageOf_iff : (∃ page, IsPageOf entry page) ↔
    ¬ PageMistyped (·.isBlank = true) entry.2 ∧ PageNamed entry.2 := by
  constructor
  · rintro ⟨page, hpage⟩
    exact ⟨hpage.not_pageMistyped, hpage.pageNamed⟩
  · rintro ⟨htyped, hnamed⟩
    cases hsettings : entry.2.entries? with
    | none => exact absurd (.notMapping hsettings) htyped
    | some settings =>
        have hdirectory : ∃ s, s ≠ [] ∧ Value.setting "directory" settings = .text s := by
          by_contra hnone
          push Not at hnone
          exact htyped (.directory hsettings hnone)
        obtain ⟨s, hne, hdirectory⟩ := hdirectory
        obtain ⟨names, hitems, hnames⟩ := exists_fragments hsettings htyped hnamed
        let stem := ((Value.setting "prefix" settings).orElse (.text entry.1.toText)).toText
        exact ⟨⟨entry.1.toText, Path.ofText s, stem, names⟩, rfl, settings, hsettings,
          ⟨s, hne, hdirectory, rfl⟩, rfl, hitems, hnames⟩

end Pages

/-! ## Sites -/

section Sites

variable {settings : List (Value × Value)}

theorem exists_markupName_iff {setting : String} {fallback : Text}
    {defaults : List (Value × Value)} :
    (∃ s, markupName setting fallback defaults = .ok s) ↔ IsNamed setting defaults := by
  unfold markupName IsNamed
  cases Value.setting setting defaults with
  | null => simp
  | text s =>
      dsimp only
      split <;> rename_i hname <;> simp [hname]
  | _ => simp

theorem exists_markupOf_iff : (∃ names, markupOf settings = .ok names) ↔
    ((Value.setting "defaults" settings).entries? = none →
      (Value.setting "defaults" settings).isBlank = true) ∧
    ∀ defaults, (Value.setting "defaults" settings).entries? = some defaults →
      IsNamed "link_element" defaults ∧ IsNamed "link_href_attribute" defaults := by
  have hnames : ∀ defaults : List (Value × Value), (∃ names : Text × Text,
      (do
        let element ← markupName "link_element" LinkStyle.defaultElement defaults
        let hrefAttribute ← markupName "link_href_attribute" LinkStyle.defaultHrefAttribute defaults
        .ok (element, hrefAttribute)) = Except.ok names) ↔
      IsNamed "link_element" defaults ∧ IsNamed "link_href_attribute" defaults := by
    intro defaults
    rw [← @exists_markupName_iff _ LinkStyle.defaultElement,
      ← @exists_markupName_iff _ LinkStyle.defaultHrefAttribute]
    simp only [bind_eq_ok_iff]
    constructor
    · rintro ⟨-, element, helement, hrefAttribute, hattribute, -⟩
      exact ⟨⟨element, helement⟩, hrefAttribute, hattribute⟩
    · rintro ⟨⟨element, helement⟩, hrefAttribute, hattribute⟩
      exact ⟨_, element, helement, hrefAttribute, hattribute, rfl⟩
  unfold markupOf
  cases hdefaults : (Value.setting "defaults" settings).entries? with
  | none =>
      cases hblank : (Value.setting "defaults" settings).isBlank with
      | false => simp [orElse_of_not_isBlank hblank, hdefaults]
      | true =>
          rw [orElse_of_isBlank hblank]
          exact iff_of_true ⟨_, rfl⟩ (by simp)
  | some defaults =>
      rw [orElse_emptyMap_of_entries? hdefaults]
      dsimp only
      rw [hnames]
      simp

theorem exists_pagesFrom_iff : (∃ pages, pagesFrom settings = .ok pages) ↔
    ∃ list, list ≠ [] ∧ (Value.setting "pages" settings).entries? = some list ∧
      ∀ entry ∈ list, ∃ page, IsPageOf entry page := by
  simp only [pagesFrom_eq_ok_iff]
  have hread : ∀ list : List (Value × Value), (∃ read, List.Forall₂ IsPageOf list read) ↔
      ∀ entry ∈ list, ∃ page, IsPageOf entry page := by
    intro list
    have hlist := @exists_mapM_eq_ok_iff _ _ _ entryPage list
    simpa only [mapM_eq_ok_iff, entryPage_eq_ok_iff] using hlist
  constructor
  · rintro ⟨pages, list, read, hlist, hne, hpages, -⟩
    exact ⟨list, hne, hlist, (hread list).mp ⟨read, hpages⟩⟩
  · rintro ⟨list, hne, hlist, hpages⟩
    obtain ⟨read, hpages⟩ := (hread list).mpr hpages
    exact ⟨_, list, read, hlist, hne, hpages, rfl⟩

theorem exists_ofValue_iff_parts (h : value.entries? = some settings) :
    (∃ site, ofValue value = .ok site) ↔
      (∃ names, markupOf settings = .ok names) ∧ ∃ pages, pagesFrom settings = .ok pages := by
  rw [ofValue_of_entries? h]
  simp only [bind_eq_ok_iff]
  constructor
  · rintro ⟨-, names, hmarkup, pages, hpages, -⟩
    exact ⟨⟨names, hmarkup⟩, pages, hpages⟩
  · rintro ⟨⟨names, hmarkup⟩, pages, hpages⟩
    exact ⟨_, names, hmarkup, pages, hpages, rfl⟩

theorem exists_ofValue_iff (h : value.entries? = some settings) :
    (∃ site, ofValue value = .ok site) ↔
      ¬ Mistyped (·.isBlank = true) settings ∧ WellNamed settings := by
  rw [exists_ofValue_iff_parts h, exists_markupOf_iff, exists_pagesFrom_iff]
  simp only [exists_isPageOf_iff]
  constructor
  · rintro ⟨⟨hdefaults, hmarkup⟩, list, hne, hlist, hpages⟩
    refine ⟨fun hmistyped => ?_, hmarkup, fun list' hlist' entry hentry => ?_⟩
    · -- one case for each place where something may have the wrong type
      cases hmistyped with
      | defaults hpresent hnone => exact hpresent (hdefaults hnone)
      | pages hnone => exact hnone list hne hlist
      | page hlist' hentry hpage =>
          cases hlist.symm.trans hlist'
          exact (hpages _ hentry).1 hpage
    · cases hlist.symm.trans hlist'
      exact (hpages entry hentry).2
  · rintro ⟨htyped, hnamed⟩
    have hlist : ∃ list, list ≠ [] ∧ (Value.setting "pages" settings).entries? = some list := by
      by_contra hnone
      push Not at hnone
      exact htyped (.pages hnone)
    obtain ⟨list, hne, hlist⟩ := hlist
    refine ⟨⟨fun hnone => ?_, hnamed.markup⟩, list, hne, hlist, fun entry hentry => ?_⟩
    · by_contra hpresent
      exact htyped (.defaults hpresent hnone)
    · exact ⟨fun hpage => htyped (.page hlist hentry hpage),
        hnamed.fragments list hlist entry hentry⟩

/-! ## Faults -/

theorem bind_ne_error {α β : Type} {x : Except SiteError α} {f : α → Except SiteError β}
    {e : SiteError}
    (hx : x ≠ .error e) (hf : ∀ a, f a ≠ .error e) : x >>= f ≠ .error e := by
  cases x with
  | error e' =>
      intro h
      cases h
      exact hx rfl
  | ok a => exact hf a

theorem markupName_ne_notMapping (setting : String) (fallback : Text)
    (defaults : List (Value × Value)) :
    markupName setting fallback defaults ≠ .error .notMapping := by
  unfold markupName
  split
  · simp
  · split <;> simp
  · simp

theorem fragmentName_ne_notMapping (key : Text) (value : Value) :
    fragmentName key value ≠ .error .notMapping := by
  unfold fragmentName
  split
  · split <;> simp
  · simp

theorem entryPage_ne_notMapping (entry : Value × Value) : entryPage entry ≠ .error .notMapping := by
  unfold entryPage pageOf
  split
  · simp
  · rename_i settings _
    apply bind_ne_error
    · unfold directory
      split
      · simp
      · split <;> simp
    · intro path
      apply bind_ne_error
      · unfold fragments
        split
        · intro h
          obtain ⟨_, item, _, _, _, hitem⟩ := mapM_eq_error_iff.mp h
          exact fragmentName_ne_notMapping _ _ hitem
        · simp
      · simp

theorem markupOf_ne_notMapping (settings : List (Value × Value)) :
    markupOf settings ≠ .error .notMapping := by
  unfold markupOf
  split
  · simp
  · apply bind_ne_error (markupName_ne_notMapping _ _ _)
    intro element
    apply bind_ne_error (markupName_ne_notMapping _ _ _)
    simp

theorem pagesFrom_ne_notMapping (settings : List (Value × Value)) :
    pagesFrom settings ≠ .error .notMapping := by
  unfold pagesFrom
  dsimp only
  split
  · simp
  · split
    · simp
    · rw [pagesOf_eq_mapM, Ne, map_eq_error_iff]
      intro h
      obtain ⟨_, entry, _, _, _, hentry⟩ := mapM_eq_error_iff.mp h
      exact entryPage_ne_notMapping _ hentry

theorem ofValue_ne_notMapping (h : value.entries? = some settings) :
    ofValue value ≠ .error .notMapping := by
  rw [ofValue_of_entries? h]
  apply bind_ne_error (markupOf_ne_notMapping settings)
  intro names
  apply bind_ne_error (pagesFrom_ne_notMapping settings)
  simp

theorem ofValue_eq_notMapping_iff :
    ofValue value = .error .notMapping ↔ value.isBlank = false ∧ value.entries? = none := by
  constructor
  · intro h
    cases hblank : value.isBlank with
    | true =>
        rw [ofValue_of_isBlank hblank] at h
        cases h
    | false =>
        refine ⟨rfl, ?_⟩
        rw [Option.eq_none_iff_forall_ne_some]
        intro settings hsettings
        exact ofValue_ne_notMapping hsettings h
  · rintro ⟨hblank, hnone⟩
    exact ofValue_of_not_mapping hblank hnone

/--
Settings of the wrong type.  They are no mapping, as the error says, unless they say nothing: then
they have no pages.  Settings that are a mapping describe a site if and only if nothing in them has
the wrong type, where values that say nothing count as absent, and all names have their shape.
Otherwise they are refused for something in them.
-/
theorem mistyped_values_are_refused_unless_blank (value : Value) :
    (ofValue value = .error .notMapping ↔ value.isBlank = false ∧ value.entries? = none) ∧
      (value.isBlank = true → ofValue value = .error .noPages) ∧
      ∀ settings, value.entries? = some settings →
        (Mistyped (·.isBlank = true) settings → ∃ e, e ≠ .notMapping ∧ ofValue value = .error e) ∧
        ((∃ site, ofValue value = .ok site) ↔
          ¬ Mistyped (·.isBlank = true) settings ∧ WellNamed settings) := by
  refine ⟨ofValue_eq_notMapping_iff, ofValue_of_isBlank, fun settings hsettings => ⟨?_, ?_⟩⟩
  · intro hmistyped
    cases hsite : ofValue value with
    | ok site => exact absurd hmistyped ((exists_ofValue_iff hsettings).mp ⟨site, hsite⟩).1
    | error e =>
        refine ⟨e, ?_, rfl⟩
        rintro rfl
        exact ofValue_ne_notMapping hsettings hsite
  · exact exists_ofValue_iff hsettings

/-- A date in the place of a list is refused, but a zero is not. -/
theorem mistyped_fragments_are_refused_unless_zero :
    let settings := fun fragments =>
      [(Value.text "pages".toList, Value.map none false [(.text ['p'], .map none false
        [(.text "directory".toList, .text ['d']), (.text "fragments".toList, fragments)])])]
    (∃ e, e ≠ .notMapping ∧ ofValue (.map none false (settings (.date ⟨2020, 1, 2⟩))) = .error e) ∧
      (∃ site, ofValue (.map none false (settings (.int 0))) = .ok site) ∧
      ¬ Mistyped (·.isBlank = true) (settings (.int 0)) := by
  intro settings
  have hloads : ∃ site, ofValue (.map none false (settings (.int 0))) = .ok site := ⟨_, rfl⟩
  have hmistyped : Mistyped (·.isBlank = true) (settings (.date ⟨2020, 1, 2⟩)) :=
    .page rfl List.mem_cons_self (.fragments rfl Bool.false_ne_true rfl)
  refine ⟨?_, hloads, ?_⟩
  · exact ((mistyped_values_are_refused_unless_blank _).2.2 _ rfl).1 hmistyped
  · exact (((mistyped_values_are_refused_unless_blank _).2.2 _ rfl).2.mp hloads).1

/-- An empty list in the place of all settings, and an empty text in that of the defaults. -/
theorem blank_values_are_ignored :
    (∃ name, Yaml.read "[]".toList = .ok (.list name []) ∧
        ofText "[]".toList = .error (.site .noPages)) ∧
      let s := "defaults: ''\npages: \x7bp: \x7bdirectory: d\x7d\x7d\n".toList
      ∃ value settings site, Yaml.read s = .ok value ∧ value.entries? = some settings ∧
        Mistyped (· = .null) settings ∧ ofText s = .ok site := by
  have hitems : ((Yaml.read "[]".toList).toOption.bind fun value =>
      value.items?.map List.isEmpty) = some true := by
    decide +kernel
  obtain ⟨value, hempty, hitems⟩ := exists_of_toOption_bind hitems
  obtain ⟨name, rfl⟩ : ∃ name, value = .list name [] := by
    cases value with
    | list name items =>
        obtain rfl := List.isEmpty_iff.mp (Option.some.inj hitems)
        exact ⟨name, rfl⟩
    | _ => cases hitems
  refine ⟨⟨name, hempty, by rw [ofText, hempty]; rfl⟩, ?_⟩
  intro s
  let site : Site := ⟨LinkStyle.defaultElement, LinkStyle.defaultHrefAttribute,
    [⟨['p'], Path.ofText ['d'], ['p'], []⟩]⟩
  have hread : ((Yaml.read s).toOption.bind fun value => (ofValue value).toOption.bind fun site =>
      value.entries?.map fun settings => (site, (Value.setting "defaults" settings).text?)) =
        some (site, some []) := by
    decide +kernel
  obtain ⟨value, hvalue, hread⟩ := exists_of_toOption_bind hread
  obtain ⟨_, hsite, hread⟩ := exists_of_toOption_bind hread
  obtain ⟨settings, hsettings, hread⟩ := Option.map_eq_some_iff.mp hread
  obtain ⟨rfl, hdefaults⟩ := Prod.mk.inj hread
  have hempty := eq_text_of_text? hdefaults
  refine ⟨value, settings, site, hvalue, hsettings, .defaults ?_ ?_, ofText_of_read hvalue hsite⟩
  · rw [hempty]
    exact Value.noConfusion
  · rw [hempty]
    rfl

end Sites

end Site

end MarkdownPages
