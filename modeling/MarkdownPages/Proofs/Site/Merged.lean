import Mathlib.Data.List.Dedup
import MarkdownPages.Proofs.Site.Pages
import MarkdownPages.Proofs.Yaml.Keys

/-!
# Pages with keys that are spelled alike

The keys of a mapping are different values, and different values may be spelled alike: a date and
the text that spells it, a number and its digits.  The page of such a key takes the place of the page
that is there already, which is lost.  So the pages of a site are those of its entries, one by one,
if and only if all keys are spelled differently.  Texts always are.
-/

namespace MarkdownPages

open Text

namespace Site

variable {page : Page} {pages read : List Page} {list : List (Value × Value)} {value : Value}
variable {s : Text} {site : Site}

/-! ## Entries in a document -/

def pagesIn (value : Value) : Option (List (Value × Value)) :=
  value.entries?.bind fun settings => (Value.setting "pages" settings).entries?

def spellings (list : List (Value × Value)) : List Text := list.map fun entry => entry.1.toText

theorem exists_pagesIn (h : ofValue value = .ok site) :
    ∃ list read, pagesIn value = some list ∧ List.Forall₂ IsPageOf list read ∧
      putPages [] read = site.pages := by
  obtain ⟨settings, hsettings, -, hpages⟩ := ofValue_eq_ok_iff.mp h
  obtain ⟨list, read, hlist, -, hread, hsite⟩ := pagesFrom_eq_ok_iff.mp hpages
  refine ⟨list, read, ?_, hread, hsite⟩
  rw [pagesIn, hsettings, Option.bind_some, hlist]

theorem keysDiffer_pagesIn (h : Yaml.read s = .ok value) (hlist : pagesIn value = some list) :
    Value.KeysDiffer list := by
  obtain ⟨d, hbuilt⟩ := Yaml.isBuilt_of_read h
  obtain ⟨settings, hsettings, hlist⟩ := Option.bind_eq_some_iff.mp hlist
  exact (hbuilt.setting hsettings hlist).1

theorem pairwise_of_keysDiffer (h : Value.KeysDiffer list) :
    list.Pairwise fun e f => e.1.toText = f.1.toText → e.1.text? = none ∨ f.1.text? = none := by
  -- Of two keys that are spelled alike one is no text.
  apply (List.pairwise_map.mp h).imp
  rintro ⟨k, v⟩ ⟨l, w⟩ hdiffer hspelled
  cases k with
  | text s =>
      cases l with
      | text t =>
          obtain rfl : s = t := hspelled
          simp [Value.sameKey] at hdiffer
      | _ => exact .inr rfl
  | _ => exact .inl rfl

/-! ## Places of pages -/

theorem putPage_of_notMem (h : page.key ∉ pages.map Page.key) :
    putPage page pages = pages ++ [page] := by
  induction pages with
  | nil => rfl
  | cons first pages ih =>
      rw [List.map_cons, List.mem_cons, not_or] at h
      rw [putPage, if_neg (Ne.symm h.1), ih h.2, List.cons_append]

theorem putPages_of_nodup (h : (read.map Page.key).Nodup) : putPages [] read = read := by
  induction read using List.reverseRecOn with
  | nil => rfl
  | append_singleton read page ih =>
      rw [List.map_append, List.map_singleton, List.nodup_append'] at h
      obtain ⟨hread, -, hapart⟩ := h
      rw [putPages_concat, ih hread, putPage_of_notMem]
      intro hmem
      exact hapart hmem (List.mem_singleton_self _)

theorem map_key_of_forall₂ (h : List.Forall₂ IsPageOf list read) :
    read.map Page.key = spellings list := by
  induction h with
  | nil => rfl
  | cons hfirst _ ih => rw [List.map_cons, ih, hfirst.1, spellings, spellings, List.map_cons]

theorem nodup_of_length_eq {keys names : List Text} (hkeys : keys.Nodup)
    (hsame : ∀ name, name ∈ keys ↔ name ∈ names) (hlength : keys.length = names.length) :
    names.Nodup := by
  have hperm : keys.Perm names.dedup := by
    apply (List.perm_ext_iff_of_nodup hkeys (List.nodup_dedup names)).mpr
    intro name
    rw [hsame, List.mem_dedup]
  have hdedup : names.dedup = names :=
    (List.dedup_sublist names).eq_of_length (hperm.length_eq.symm.trans hlength)
  exact List.dedup_eq_self.mp hdedup

theorem isPageOf_last (hkeys : (site.pages.map Page.key).Nodup)
    (hread : List.Forall₂ IsPageOf list read) (hsite : putPages [] read = site.pages)
    (hpage : page ∈ site.pages) :
    ∃ entry, (list.filter fun entry => entry.1.toText = page.key).getLast? = some entry ∧
      IsPageOf entry page := by
  have hfound : site.page page.key = .ok page := page_key_eq hkeys hpage
  have hentries : list.mapM entryPage = .ok read := by
    rw [mapM_eq_ok_iff]
    simpa only [entryPage_eq_ok_iff] using hread
  obtain ⟨element, hrefAttribute, pages⟩ := site
  dsimp only at hsite
  subst hsite
  obtain ⟨hlast, hnone⟩ := @page_putPages read list element hrefAttribute hentries page.key
  cases hentry : (list.filter fun entry => entry.1.toText = page.key).getLast? with
  | none =>
      rw [hnone hentry] at hfound
      cases hfound
  | some entry =>
      obtain ⟨last, hlastPage, -, hlastFound⟩ := hlast entry hentry
      rw [hfound] at hlastFound
      cases hlastFound
      exact ⟨entry, rfl, entryPage_eq_ok_iff.mp hlastPage⟩

/-! ## Loaded sites -/

/--
The pages of a loaded site are those of the entries in the document, one by one and in their order,
if and only if the keys of the entries are spelled differently, and so is their number that of the
entries.  In any case the site has one page for each spelling, in the order in which they come up
first, and it is the one that the last entry with this spelling describes.  Two keys that are spelled
alike are not both texts.
-/
theorem pages_are_kept_iff_keys_are_spelled_apart (h : ofText s = .ok site) :
    ∃ value list, Yaml.read s = .ok value ∧ pagesIn value = some list ∧
      (List.Forall₂ IsPageOf list site.pages ↔ (spellings list).Nodup) ∧
      (site.pages.length = list.length ↔ (spellings list).Nodup) ∧
      site.pages.map Page.key = (spellings list).eraseDups ∧
      (∀ page ∈ site.pages, ∃ entry,
        (list.filter fun entry => entry.1.toText = page.key).getLast? = some entry ∧
          IsPageOf entry page) ∧
      list.Pairwise fun e f => e.1.toText = f.1.toText → e.1.text? = none ∨ f.1.text? = none := by
  obtain ⟨value, hvalue, hofValue⟩ := exists_of_ofText h
  obtain ⟨list, read, hlist, hread, hsite⟩ := exists_pagesIn hofValue
  have hkeys := nodup_keys_of_ofText h
  have hspelled : site.pages.map Page.key = (spellings list).eraseDups := by
    rw [← hsite, map_key_putPages, map_key_of_forall₂ hread]
  have hkept : List.Forall₂ IsPageOf list site.pages ↔ (spellings list).Nodup := by
    constructor
    · intro hpages
      rwa [← map_key_of_forall₂ hpages]
    · intro hnodup
      rw [← map_key_of_forall₂ hread] at hnodup
      rwa [← hsite, putPages_of_nodup hnodup]
  refine ⟨value, list, hvalue, hlist, hkept, ⟨fun hlength => ?_, fun hnodup => ?_⟩, hspelled,
    fun page hpage => isPageOf_last hkeys hread hsite hpage,
    pairwise_of_keysDiffer (keysDiffer_pagesIn hvalue hlist)⟩
  · apply nodup_of_length_eq hkeys
    · intro name
      rw [hspelled, List.mem_eraseDups]
    · rw [List.length_map, hlength, spellings, List.length_map]
  · exact (hkept.mpr hnodup).length_eq.symm

/-- Keys of several kinds, none of which is spelled as another one. -/
theorem pages_are_kept_of_three :
    let s := ("pages:\n  b:\n    directory: x\n    prefix: q\n    fragments: [f, g]\n" ++
      "  2020-01-02: \x7bdirectory: y\x7d\n  a: \x7bdirectory: x\x7d\n").toList
    ∃ site list, ofText s = .ok site ∧ List.Forall₂ IsPageOf list site.pages ∧
      spellings list = [['b'], "2020-01-02".toList, ['a']] := by
  intro s
  let site : Site := ⟨LinkStyle.defaultElement, LinkStyle.defaultHrefAttribute,
    [⟨['b'], Path.ofText ['x'], ['q'], [['f'], ['g']]⟩,
      ⟨"2020-01-02".toList, Path.ofText ['y'], "2020-01-02".toList, []⟩,
      ⟨['a'], Path.ofText ['x'], ['a'], []⟩]⟩
  have hread : ((Yaml.read s).toOption.bind fun value => (ofValue value).toOption.bind fun site =>
      (pagesIn value).map fun list => (site, spellings list)) =
        some (site, [['b'], "2020-01-02".toList, ['a']]) := by
    decide +kernel
  obtain ⟨value, hvalue, hread⟩ := exists_of_toOption_bind hread
  obtain ⟨_, hsite, hread⟩ := exists_of_toOption_bind hread
  obtain ⟨list, hlist, hread⟩ := Option.map_eq_some_iff.mp hread
  obtain ⟨rfl, hspellings⟩ := Prod.mk.inj hread
  have hload := ofText_of_read hvalue hsite
  obtain ⟨_, _, hvalue', hlist', hkept, -⟩ := pages_are_kept_iff_keys_are_spelled_apart hload
  cases hvalue.symm.trans hvalue'
  cases hlist.symm.trans hlist'
  refine ⟨site, list, hload, hkept.mpr ?_, hspellings⟩
  rw [hspellings]
  decide

/-- A date and a text that spells it: the first page is lost, and its place goes to the last one. -/
theorem date_and_text_are_merged :
    let s := ("pages:\n  2020-01-02: \x7bdirectory: x\x7d\n  a: \x7bdirectory: y\x7d\n" ++
      "  '2020-01-02': \x7bdirectory: z\x7d\n").toList
    ∃ site value list, ofText s = .ok site ∧ Yaml.read s = .ok value ∧ pagesIn value = some list ∧
      list.length = 3 ∧ ¬ List.Forall₂ IsPageOf list site.pages ∧
      site.pages.map Page.directory = [Path.ofText ['z'], Path.ofText ['y']] := by
  intro s
  let site : Site := ⟨LinkStyle.defaultElement, LinkStyle.defaultHrefAttribute,
    [⟨"2020-01-02".toList, Path.ofText ['z'], "2020-01-02".toList, []⟩,
      ⟨['a'], Path.ofText ['y'], ['a'], []⟩]⟩
  have hread : ((Yaml.read s).toOption.bind fun value => (ofValue value).toOption.bind fun site =>
      (pagesIn value).map fun list => (site, list.length)) = some (site, 3) := by
    decide +kernel
  obtain ⟨value, hvalue, hread⟩ := exists_of_toOption_bind hread
  obtain ⟨_, hsite, hread⟩ := exists_of_toOption_bind hread
  obtain ⟨list, hlist, hread⟩ := Option.map_eq_some_iff.mp hread
  obtain ⟨rfl, hlength⟩ := Prod.mk.inj hread
  refine ⟨site, value, list, ofText_of_read hvalue hsite, hvalue, hlist, hlength,
    fun hpages => ?_, rfl⟩
  have hkept := hpages.length_eq
  rw [hlength] at hkept
  cases hkept

end Site

end MarkdownPages
