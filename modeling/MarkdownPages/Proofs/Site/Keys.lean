import Mathlib.Data.List.Nodup
import MarkdownPages.Program
import MarkdownPages.Proofs.Site.Markup

/-!
# Keys of pages

Setting the page of a key that is there already keeps its place.  So the pages of a loaded site have
distinct keys, and each of them is found by its key.
-/

namespace MarkdownPages

open Text

namespace Site

variable {page : Page} {pages loaded : List Page} {site : Site}

theorem map_key_putPage (page : Page) (pages : List Page) :
    (putPage page pages).map Page.key =
      if page.key ∈ pages.map Page.key then pages.map Page.key
      else pages.map Page.key ++ [page.key] := by
  induction pages with
  | nil => rfl
  | cons first pages ih =>
      rw [putPage]
      by_cases hkey : first.key = page.key
      · simp [hkey]
      · have hne : page.key ≠ first.key := Ne.symm hkey
        simp only [if_neg hkey, List.map_cons, ih, List.mem_cons, hne, false_or]
        split <;> rfl

theorem nodup_keys_putPage (page : Page) (h : (pages.map Page.key).Nodup) :
    ((putPage page pages).map Page.key).Nodup := by
  rw [map_key_putPage]
  split
  · exact h
  · rename_i hkey
    rw [← List.concat_eq_append]
    exact h.concat hkey

theorem nodup_keys_of_ofText {s : Text} (h : ofText s = .ok site) :
    (site.pages.map Page.key).Nodup := by
  obtain ⟨settings, -, hvalue⟩ := exists_of_ofText h
  obtain ⟨defaults, entries, -, -, hpages⟩ := exists_of_ofValue hvalue
  exact pagesOf_induction (P := fun pages => (pages.map Page.key).Nodup)
    (fun _ _ page _ _ => nodup_keys_putPage page) (by simp) hpages

theorem exists_ofText_of_loadSite {σ : Type} {place : Place σ} {files : σ} {path : Path}
    (h : Program.loadSite place files path = .ok site) : ∃ s, ofText s = .ok site := by
  unfold Program.loadSite at h
  split at h
  · split at h
    · exact ⟨_, h⟩
    · cases h
  · cases h

theorem nodup_keys_of_loadSite {σ : Type} {place : Place σ} {files : σ} {path : Path}
    (h : Program.loadSite place files path = .ok site) : (site.pages.map Page.key).Nodup := by
  obtain ⟨s, hsite⟩ := exists_ofText_of_loadSite h
  exact nodup_keys_of_ofText hsite

/-! ## Finding pages -/

theorem eq_of_key_eq (hkeys : (site.pages.map Page.key).Nodup) (hpage : page ∈ site.pages)
    {other : Page} (hother : other ∈ site.pages) (h : other.key = page.key) : other = page :=
  List.inj_on_of_nodup_map hkeys hother hpage h

theorem page_key_eq (hkeys : (site.pages.map Page.key).Nodup) (hpage : page ∈ site.pages) :
    site.page page.key = .ok page := by
  have hsome : (site.pages.find? (·.key = page.key)).isSome := by
    rw [List.find?_isSome]
    exact ⟨page, hpage, decide_eq_true rfl⟩
  obtain ⟨found, hfound⟩ := Option.isSome_iff_exists.mp hsome
  have hkey : found.key = page.key := by simpa using List.find?_some hfound
  have hmem := List.mem_of_find?_eq_some hfound
  rw [Site.page, hfound, eq_of_key_eq hkeys hpage hmem hkey]

end Site

end MarkdownPages
