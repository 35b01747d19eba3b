import Mathlib.Data.List.Induction
import MarkdownPages.Proofs.Site.Keys

/-!
# The entries of a site

Each entry of the settings is read by itself: what becomes of it depends neither on the entries around
it nor on what has been read before.  The pages are put together afterwards, where the last entry of a
key counts and the first one gives its place.
-/

namespace MarkdownPages

open Text

namespace Site

variable {page : Page} {pages read loaded : List Page} {entries list : List (Value × Value)}
variable {e : SiteError} {key : Text}

/-! ## Reading entries -/

def entryPage (entry : Value × Value) : Except SiteError Page := pageOf entry.1.toText entry.2

def putPages (pages read : List Page) : List Page :=
  read.foldl (fun pages page => putPage page pages) pages

theorem pagesOf_eq_mapM (pages : List Page) (entries : List (Value × Value)) :
    pagesOf pages entries = (entries.mapM entryPage).map (putPages pages) := by
  induction entries generalizing pages with
  | nil => rfl
  | cons entry entries ih =>
      rw [List.mapM_cons, pagesOf]
      change (entryPage entry >>= fun page => pagesOf (putPage page pages) entries) = _
      cases entryPage entry with
      | error e => rfl
      | ok page =>
          have hrest : pagesOf (putPage page pages) entries = _ := ih (putPage page pages)
          change pagesOf (putPage page pages) entries = _
          rw [hrest]
          cases entries.mapM entryPage <;> rfl

theorem exists_mapM_eq_ok_iff {ε α β : Type} {f : α → Except ε β} {as : List α} :
    (∃ bs, as.mapM f = .ok bs) ↔ ∀ a ∈ as, ∃ b, f a = .ok b := by
  induction as with
  | nil => exact iff_of_true ⟨[], rfl⟩ (by simp)
  | cons a as ih =>
      rw [List.forall_mem_cons, ← ih, List.mapM_cons]
      constructor
      · rintro ⟨bs, h⟩
        obtain ⟨b, hb, h⟩ := bind_eq_ok_iff.mp h
        obtain ⟨bs', hbs, -⟩ := bind_eq_ok_iff.mp h
        exact ⟨⟨b, hb⟩, bs', hbs⟩
      · rintro ⟨⟨b, hb⟩, bs, hbs⟩
        exact ⟨b :: bs, bind_eq_ok_iff.mpr ⟨b, hb, bind_eq_ok_iff.mpr ⟨bs, hbs, rfl⟩⟩⟩

theorem mapM_eq_error_iff {ε α β : Type} {f : α → Except ε β} {as : List α} {e : ε} :
    as.mapM f = .error e ↔ ∃ before a after, as = before ++ a :: after ∧
      (∀ b ∈ before, ∃ c, f b = .ok c) ∧ f a = .error e := by
  induction as with
  | nil => simp [pure, Except.pure]
  | cons a as ih =>
      rw [List.mapM_cons]
      constructor
      · intro h
        cases ha : f a with
        | error e' =>
            rw [ha] at h
            obtain rfl : e' = e := Except.error.inj h
            exact ⟨[], a, as, rfl, by simp, ha⟩
        | ok b =>
            have hrest : as.mapM f = .error e := by
              rw [ha] at h
              cases hbs : as.mapM f with
              | error e' =>
                  rw [hbs] at h
                  exact h
              | ok bs =>
                  rw [hbs] at h
                  cases h
            obtain ⟨before, a', after, rfl, hbefore, hfails⟩ := ih.mp hrest
            exact ⟨a :: before, a', after, rfl, List.forall_mem_cons.mpr ⟨⟨b, ha⟩, hbefore⟩, hfails⟩
      · rintro ⟨before, a', after, heq, hbefore, hfails⟩
        cases before with
        | nil =>
            obtain ⟨rfl, -⟩ := List.cons.inj heq
            rw [hfails]
            rfl
        | cons b before =>
            obtain ⟨rfl, rfl⟩ := List.cons.inj heq
            obtain ⟨⟨c, hc⟩, hbefore⟩ := List.forall_mem_cons.mp hbefore
            rw [hc, ih.mpr ⟨before, a', after, rfl, hbefore, hfails⟩]
            rfl

/-! ## Pages put together -/

theorem putPages_concat (pages read : List Page) (page : Page) :
    putPages pages (read ++ [page]) = putPage page (putPages pages read) := by
  simp [putPages]

theorem eraseDups_concat (keys : List Text) (key : Text) :
    (keys ++ [key]).eraseDups = if key ∈ keys then keys.eraseDups else keys.eraseDups ++ [key] := by
  rw [List.eraseDups_append]
  by_cases hmem : key ∈ keys
  · simp [hmem, List.removeAll]
  · simp [hmem, List.removeAll, List.eraseDups_cons]

theorem map_key_putPages (read : List Page) :
    (putPages [] read).map Page.key = (read.map Page.key).eraseDups := by
  induction read using List.reverseRecOn with
  | nil => rfl
  | append_singleton read page ih =>
      rw [putPages_concat, map_key_putPage, ih, List.map_append, List.map_singleton,
        eraseDups_concat]
      simp only [List.mem_eraseDups]

theorem find?_putPage (page : Page) (pages : List Page) (key : Text) :
    (putPage page pages).find? (·.key = key) =
      if page.key = key then some page else pages.find? (·.key = key) := by
  induction pages with
  | nil =>
      rw [putPage, List.find?_singleton]
      simp
  | cons first pages ih =>
      rw [putPage]
      by_cases hfirst : first.key = page.key
      · rw [if_pos hfirst, List.find?_cons, List.find?_cons, hfirst]
        by_cases hpage : page.key = key <;> simp [hpage]
      · rw [if_neg hfirst, List.find?_cons, ih, List.find?_cons]
        by_cases hkey : first.key = key
        · have hpage : page.key ≠ key := fun heq => hfirst (hkey.trans heq.symm)
          simp [hkey, hpage]
        · simp [hkey]

theorem find?_putPages (read : List Page) (key : Text) :
    (putPages [] read).find? (·.key = key) = (read.filter (·.key = key)).getLast? := by
  induction read using List.reverseRecOn with
  | nil => rfl
  | append_singleton read page ih =>
      rw [putPages_concat, find?_putPage, ih, List.filter_append]
      by_cases hkey : page.key = key <;> simp [hkey]

theorem key_of_pageOf {settings : Value} (h : pageOf key settings = .ok page) : page.key = key := by
  unfold pageOf at h
  split at h
  · cases h
  · obtain ⟨directory, -, h⟩ := bind_eq_ok_iff.mp h
    obtain ⟨names, -, h⟩ := bind_eq_ok_iff.mp h
    cases h
    rfl

theorem map_key_of_mapM (h : entries.mapM entryPage = .ok read) :
    read.map Page.key = entries.map fun entry => entry.1.toText := by
  induction entries generalizing read with
  | nil =>
      cases h
      rfl
  | cons entry entries ih =>
      rw [List.mapM_cons] at h
      obtain ⟨page, hpage, h⟩ := bind_eq_ok_iff.mp h
      obtain ⟨more, hmore, h⟩ := bind_eq_ok_iff.mp h
      cases h
      rw [List.map_cons, List.map_cons, key_of_pageOf hpage, ih hmore]

theorem getLast?_filter_of_mapM (h : entries.mapM entryPage = .ok read) (key : Text) :
    (entries.filter fun entry => entry.1.toText = key).getLast?.map entryPage =
      (read.filter (·.key = key)).getLast?.map .ok := by
  induction entries generalizing read with
  | nil =>
      cases h
      rfl
  | cons entry entries ih =>
      rw [List.mapM_cons] at h
      obtain ⟨page, hpage, h⟩ := bind_eq_ok_iff.mp h
      obtain ⟨more, hmore, h⟩ := bind_eq_ok_iff.mp h
      cases h
      have hrest := ih hmore
      have hkey : page.key = entry.1.toText := key_of_pageOf hpage
      by_cases heq : entry.1.toText = key
      · have hread : page.key = key := hkey.trans heq
        rw [List.filter_cons_of_pos (by simpa using heq), List.filter_cons_of_pos (by simpa using hread),
          List.getLast?_cons, List.getLast?_cons]
        generalize (entries.filter fun entry => entry.1.toText = key).getLast? = last at hrest ⊢
        generalize (more.filter (·.key = key)).getLast? = last' at hrest ⊢
        cases last <;> cases last' <;> simp_all
      · have hread : page.key ≠ key := fun hpageKey => heq (hkey.symm.trans hpageKey)
        rw [List.filter_cons_of_neg (by simpa using heq), List.filter_cons_of_neg (by simpa using hread),
          hrest]

/-! ## Settings -/

def markupOf (settings : List (Value × Value)) : Except SiteError (Text × Text) :=
  match ((Value.setting "defaults" settings).orElse .emptyMap).entries? with
  | none => .error .defaultsNotMapping
  | some defaults => do
    let element ← markupName "link_element" LinkStyle.defaultElement defaults
    let hrefAttribute ← markupName "link_href_attribute" LinkStyle.defaultHrefAttribute defaults
    .ok (element, hrefAttribute)

def withPages (pages : Value) (settings : List (Value × Value)) : List (Value × Value) :=
  settings.map fun entry => if entry.1.text? = some "pages".toList then (entry.1, pages) else entry

theorem find?_withPages (name : String) (pages : Value) (settings : List (Value × Value)) :
    (withPages pages settings).find? (fun e => e.1.text? == some name.toList) =
      (settings.find? fun e => e.1.text? == some name.toList).map fun entry =>
        if entry.1.text? = some "pages".toList then (entry.1, pages) else entry := by
  have hsame : (fun e : Value × Value => e.1.text? == some name.toList) ∘
      (fun entry => if entry.1.text? = some "pages".toList then (entry.1, pages) else entry) =
      fun e => e.1.text? == some name.toList := by
    funext entry
    simp only [Function.comp_apply]
    split <;> rfl
  rw [withPages, List.find?_map, hsame]

theorem setting_withPages_of_ne {name : String} (hname : name.toList ≠ "pages".toList) (pages : Value)
    (settings : List (Value × Value)) :
    Value.setting name (withPages pages settings) = Value.setting name settings := by
  rw [Value.setting, find?_withPages, Value.setting]
  cases hfound : settings.find? fun e => e.1.text? == some name.toList with
  | none => rfl
  | some entry =>
      have hkey : entry.1.text? = some name.toList := by simpa using List.find?_some hfound
      rw [Option.map_some, if_neg (by simpa [hkey] using hname)]

theorem setting_withPages {settings : List (Value × Value)} (pages : Value)
    (h : Value.setting "pages" settings ≠ .null) :
    Value.setting "pages" (withPages pages settings) = pages := by
  rw [Value.setting, find?_withPages]
  rw [Value.setting] at h
  cases hfound : settings.find? fun e => e.1.text? == some "pages".toList with
  | none =>
      rw [hfound] at h
      exact absurd rfl h
  | some entry =>
      have hkey : entry.1.text? = some "pages".toList := by simpa using List.find?_some hfound
      rw [Option.map_some, if_pos hkey]

theorem markupOf_withPages (pages : Value) (settings : List (Value × Value)) :
    markupOf (withPages pages settings) = markupOf settings := by
  rw [markupOf, setting_withPages_of_ne (by decide), markupOf]

variable {name pagesName : Option Nat} {ordered pagesOrdered : Bool}
variable {settings : List (Value × Value)} {element hrefAttribute : Text}

theorem ofValue_eq (hmarkup : markupOf settings = .ok (element, hrefAttribute))
    (hpages : Value.setting "pages" settings = .map pagesName pagesOrdered list) (hne : list ≠ []) :
    ofValue (.map name ordered settings) =
      (list.mapM entryPage).map fun read => ⟨element, hrefAttribute, putPages [] read⟩ := by
  have hsettings : ((Value.map name ordered settings).orElse .emptyMap).entries? = some settings := by
    cases settings with
    | nil => cases hpages
    | cons entry settings => rfl
  have hlist : (Value.map pagesName pagesOrdered list).isBlank = false := by
    cases list with
    | nil => exact absurd rfl hne
    | cons entry list => rfl
  unfold markupOf at hmarkup
  split at hmarkup
  · cases hmarkup
  · rename_i defaults hdefaults
    obtain ⟨element', helement, hmarkup⟩ := bind_eq_ok_iff.mp hmarkup
    obtain ⟨hrefAttribute', hattribute, hmarkup⟩ := bind_eq_ok_iff.mp hmarkup
    obtain ⟨rfl, rfl⟩ := Prod.mk.inj (Except.ok.inj hmarkup)
    unfold ofValue
    rw [hsettings]
    dsimp only
    rw [hdefaults]
    dsimp only
    rw [helement, hattribute, hpages, hlist]
    change (pagesOf [] list >>= fun pages => Except.ok _) = _
    rw [pagesOf_eq_mapM]
    cases list.mapM entryPage <;> rfl

theorem ofValue_withPages (hmarkup : markupOf settings = .ok (element, hrefAttribute))
    (hpages : Value.setting "pages" settings = .map pagesName pagesOrdered list)
    (entry : Value × Value) :
    ofValue (.map name ordered (withPages (.map pagesName pagesOrdered [entry]) settings)) =
      (entryPage entry).map fun page => ⟨element, hrefAttribute, [page]⟩ := by
  have hfound : Value.setting "pages" settings ≠ .null := by
    rw [hpages]
    exact Value.noConfusion
  rw [ofValue_eq ((markupOf_withPages _ _).trans hmarkup) (setting_withPages _ hfound) (by simp)]
  rw [List.mapM_cons, List.mapM_nil]
  cases entryPage entry <;> rfl

theorem map_eq_ok_iff {ε α β : Type} {x : Except ε α} {f : α → β} {b : β} :
    x.map f = .ok b ↔ ∃ a, x = .ok a ∧ f a = b := by
  cases x <;> simp [Except.map]

theorem map_eq_error_iff {ε α β : Type} {x : Except ε α} {f : α → β} {e : ε} :
    x.map f = .error e ↔ x = .error e := by
  cases x <;> simp [Except.map]

theorem page_putPages (h : list.mapM entryPage = .ok read) (key : Text) :
    (∀ entry, (list.filter fun entry => entry.1.toText = key).getLast? = some entry →
      ∃ page, entryPage entry = .ok page ∧ page.key = key ∧
        Site.page ⟨element, hrefAttribute, putPages [] read⟩ key = .ok page) ∧
    ((list.filter fun entry => entry.1.toText = key).getLast? = none →
      Site.page ⟨element, hrefAttribute, putPages [] read⟩ key =
        .error (.unknownPage key ((putPages [] read).map Page.key))) := by
  have hlast := getLast?_filter_of_mapM h key
  have hfind := find?_putPages read key
  generalize (read.filter (·.key = key)).getLast? = found at hlast hfind
  constructor
  · intro entry hentry
    rw [hentry] at hlast
    cases found with
    | none => cases hlast
    | some page =>
        have hpage : entryPage entry = .ok page := Option.some.inj hlast
        have hkey : page.key = key := by simpa using List.find?_some hfind
        refine ⟨page, hpage, hkey, ?_⟩
        rw [Site.page, hfind]
  · intro hnone
    rw [hnone] at hlast
    cases found with
    | some page => cases hlast
    | none => rw [Site.page, hfind]

/--
Settings whose markup is accepted describe a site if each of their entries does, alone in the place of
all pages.  The keys of the site are those of its entries in the order in which they come up first.  To
each of them belongs the page that its last entry describes alone, and it is found by that key; other
keys have no page.  Settings that describe no site have the fault of their first entry that describes
none.
-/
theorem entries_are_read_one_by_one (hmarkup : markupOf settings = .ok (element, hrefAttribute))
    (hpages : Value.setting "pages" settings = .map pagesName pagesOrdered list) (hne : list ≠ []) :
    let all := ofValue (.map name ordered settings)
    let alone := fun entry =>
      ofValue (.map name ordered (withPages (.map pagesName pagesOrdered [entry]) settings))
    ((∃ site, all = .ok site) ↔ ∀ entry ∈ list, ∃ site, alone entry = .ok site) ∧
      (∀ site, all = .ok site →
        site.pages.map Page.key = (list.map fun entry => entry.1.toText).eraseDups ∧
        (∀ key ∈ site.pages.map Page.key, ∃ entry page,
          (list.filter fun entry => entry.1.toText = key).getLast? = some entry ∧
          alone entry = .ok { site with pages := [page] } ∧
          site.page key = .ok page ∧ page.key = key) ∧
        ∀ key ∉ site.pages.map Page.key,
          site.page key = .error (.unknownPage key (site.pages.map Page.key))) ∧
      ∀ e, all = .error e ↔ ∃ before entry after, list = before ++ entry :: after ∧
        (∀ other ∈ before, ∃ site, alone other = .ok site) ∧ alone entry = .error e := by
  intro all alone
  have hall : all = (list.mapM entryPage).map fun read => ⟨element, hrefAttribute, putPages [] read⟩ :=
    ofValue_eq hmarkup hpages hne
  have halone : ∀ entry, alone entry =
      (entryPage entry).map fun page => ⟨element, hrefAttribute, [page]⟩ :=
    fun entry => ofValue_withPages hmarkup hpages entry
  have hread : ∀ entry, (∃ site, alone entry = .ok site) ↔ ∃ page, entryPage entry = .ok page := by
    intro entry
    simp only [halone, map_eq_ok_iff]
    exact ⟨fun ⟨_, page, hpage, _⟩ => ⟨page, hpage⟩, fun ⟨page, hpage⟩ => ⟨_, page, hpage, rfl⟩⟩
  refine ⟨?_, ?_, ?_⟩
  · simp only [hread, ← exists_mapM_eq_ok_iff, hall, map_eq_ok_iff]
    exact ⟨fun ⟨_, read, hlist, _⟩ => ⟨read, hlist⟩, fun ⟨read, hlist⟩ => ⟨_, read, hlist, rfl⟩⟩
  · intro site hsite
    rw [hall, map_eq_ok_iff] at hsite
    obtain ⟨read, hlist, rfl⟩ := hsite
    have hkeys : (putPages [] read).map Page.key = (list.map fun entry => entry.1.toText).eraseDups := by
      rw [map_key_putPages, map_key_of_mapM hlist]
    have hmem : ∀ key, key ∈ (putPages [] read).map Page.key ↔
        (list.filter fun entry => entry.1.toText = key) ≠ [] := by
      intro key
      rw [hkeys, List.mem_eraseDups]
      simp [List.filter_eq_nil_iff]
    refine ⟨hkeys, fun key hkey => ?_, fun key hkey => ?_⟩
    · have hsome := List.getLast?_isSome.mpr ((hmem key).mp hkey)
      obtain ⟨entry, hentry⟩ := Option.isSome_iff_exists.mp hsome
      obtain ⟨page, hpage, hpageKey, hfound⟩ := (page_putPages hlist key).1 entry hentry
      refine ⟨entry, page, hentry, ?_, hfound, hpageKey⟩
      rw [halone, hpage]
      rfl
    · rw [hmem, not_ne_iff] at hkey
      exact (page_putPages hlist key).2 (by rw [hkey, List.getLast?_nil])
  · intro e
    simp only [hread]
    rw [hall, map_eq_error_iff, mapM_eq_error_iff]
    simp only [halone, map_eq_error_iff, entryPage]

/-- Two of three entries share a key, which a number and a text spell alike. -/
theorem entries_of_shared_key :
    let page := fun directory => Value.map none false [(.text "directory".toList, .text directory)]
    let list := [(.int 1, page ['a']), (.text ['b'], page ['c']), (.text ['1'], page ['d'])]
    let settings := [(.text "pages".toList, .map none false list)]
    markupOf settings = .ok (LinkStyle.defaultElement, LinkStyle.defaultHrefAttribute) ∧
      ∃ site, ofValue (.map none false settings) = .ok site ∧
        site.pages.map Page.key = [['1'], ['b']] ∧
        (∃ page, site.page ['1'] = .ok page ∧ page.key = ['1'] ∧ page.directory = Path.ofText ['d']) ∧
        site.page ['c'] = .error (.unknownPage ['c'] [['1'], ['b']]) := by
  intro page list settings
  have hmarkup : markupOf settings =
      .ok (LinkStyle.defaultElement, LinkStyle.defaultHrefAttribute) := rfl
  obtain ⟨hloads, hsite, -⟩ :=
    @entries_are_read_one_by_one list none none false false settings _ _ hmarkup rfl (by simp [list])
  obtain ⟨site, hload⟩ := hloads.mpr (by
    simp only [list, List.forall_mem_cons]
    exact ⟨⟨_, rfl⟩, ⟨_, rfl⟩, ⟨_, rfl⟩, by simp⟩)
  obtain ⟨hkeys, hlast, hother⟩ := hsite site hload
  have hnumber : (Value.int 1).shown = ['1'] := by
    rw [Value.shown, Value.shownIn]
    rfl
  have hnames : site.pages.map Page.key = [['1'], ['b']] := by
    rw [hkeys]
    simp [list, hnumber, Value.toText, List.eraseDups_cons]
  obtain ⟨entry, found, hentry, halone, hpage, hkey⟩ := hlast ['1'] (by simp [hnames])
  have hlist : (list.filter fun entry => entry.1.toText = ['1']).getLast? =
      some (.text ['1'], page ['d']) := by
    simp [list, hnumber, Value.toText]
  obtain rfl : (.text ['1'], page ['d']) = entry := Option.some.inj (hlist.symm.trans hentry)
  refine ⟨hmarkup, site, hload, hnames, ⟨found, hpage, hkey, ?_⟩, ?_⟩
  · have hfound := congrArg (Except.map Site.pages) halone
    obtain rfl : found = ⟨['1'], Path.ofText ['d'], ['1'], []⟩ :=
      (List.cons.inj (Except.ok.inj hfound)).1.symm
    rfl
  · rw [hother ['c'] (by simp [hnames]), hnames]

end Site

end MarkdownPages
