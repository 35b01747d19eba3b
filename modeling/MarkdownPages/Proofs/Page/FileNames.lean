import Mathlib.Data.List.Infix
import MarkdownPages.Page
import MarkdownPages.Proofs.Text.Parts

/-!
# Names of page files

The last component of a page's path ends as the kind of the file demands, whatever the directory,
the stem and the fragment are.  Since the three endings are no endings of one another, no document
of a page is ever a source of a page.
-/

namespace MarkdownPages

open Text

namespace Path

def EndsWith (ending : Text) (p : Path) : Prop :=
  ∃ name, p.parts.getLast? = some name ∧ ending <:+ name

theorem EndsWith.suffix_or_suffix {p : Path} {first second : Text} (hfirst : p.EndsWith first)
    (hsecond : p.EndsWith second) : first <:+ second ∨ second <:+ first := by
  obtain ⟨name, hname, hfirst⟩ := hfirst
  obtain ⟨name', hname', hsecond⟩ := hsecond
  obtain rfl : name = name' := by simpa [hname] using hname'
  exact List.suffix_or_suffix_of_suffix hfirst hsecond

theorem EndsWith.join {ending : Text} {p : Path} (h : p.EndsWith ending) (directory : Path) :
    (directory.join p).EndsWith ending := by
  obtain ⟨name, hname, hending⟩ := h
  refine ⟨name, ?_, hending⟩
  unfold Path.join
  split
  · simp [hname]
  · exact hname

theorem rootOf_append (s : Text) {ending : Text} (h : '/' ∉ ending) :
    rootOf (s ++ ending) = rootOf s := by
  cases ending with
  | nil => rw [List.append_nil]
  | cons c ending =>
      have hc : c ≠ '/' := fun heq => h (by simp [heq])
      rcases s with _ | ⟨first, _ | ⟨second, _ | ⟨third, s⟩⟩⟩
      · simp [rootOf, hc]
      · by_cases hfirst : first = '/' <;> simp [rootOf, hc, hfirst]
      · by_cases hfirst : first = '/' <;> by_cases hsecond : second = '/' <;>
          simp [rootOf, hc, hfirst, hsecond]
      · by_cases hfirst : first = '/' <;> by_cases hsecond : second = '/' <;>
          by_cases hthird : third = '/' <;> simp [rootOf, hfirst, hsecond, hthird]

theorem exists_ofText_append (s : Text) :
    ∃ root parts name, ∀ ending : Text, '/' ∉ ending → 2 ≤ ending.length →
      ofText (s ++ ending) = ⟨root, parts ++ [name ++ ending]⟩ := by
  obtain ⟨parts, name, hsplit⟩ := exists_splitOn_append '/' s
  refine ⟨rootOf s, parts.filter isPart, name, fun ending hslash hlength => ?_⟩
  have hpart : isPart (name ++ ending) = true := by
    have hlong : 2 ≤ (name ++ ending).length := by simp; omega
    simp only [isPart, Bool.and_eq_true, Bool.not_eq_true', List.isEmpty_eq_false_iff,
      bne_iff_ne]
    constructor
    · intro h
      simp [h] at hlong
    · intro h
      simp [h] at hlong
  simp [ofText, rootOf_append s hslash, hsplit ending hslash, List.filter_append, hpart]

theorem ofText_endsWith (s ending : Text) (hslash : '/' ∉ ending) (hlength : 2 ≤ ending.length) :
    (ofText (s ++ ending)).EndsWith ending := by
  obtain ⟨root, parts, name, hpath⟩ := exists_ofText_append s
  rw [hpath ending hslash hlength]
  exact ⟨name ++ ending, List.getLast?_concat, List.suffix_append _ _⟩

end Path

namespace Page

variable (page other : Page)

theorem file_endsWith (name ending : Text) (hslash : '/' ∉ ending) (hlength : 2 ≤ ending.length) :
    (page.file (name ++ ending)).EndsWith ending :=
  (Path.ofText_endsWith name ending hslash hlength).join page.directory

theorem templatePath_endsWith : page.templatePath.EndsWith ".template.html".toList :=
  page.file_endsWith _ _ (by decide) (by decide)

theorem renderedPath_endsWith : page.renderedPath.EndsWith ".rendered.html".toList :=
  page.file_endsWith _ _ (by decide) (by decide)

theorem fragmentPath_endsWith (fragment : Text) :
    (page.fragmentPath fragment).EndsWith ".md".toList :=
  page.file_endsWith _ _ (by decide) (by decide)

theorem renderedPath_ne_templatePath : page.renderedPath ≠ other.templatePath := by
  intro h
  have hends := page.renderedPath_endsWith
  rw [h] at hends
  exact absurd (hends.suffix_or_suffix other.templatePath_endsWith) (by decide)

theorem renderedPath_ne_fragmentPath (fragment : Text) :
    page.renderedPath ≠ other.fragmentPath fragment := by
  intro h
  have hends := page.renderedPath_endsWith
  rw [h] at hends
  exact absurd (hends.suffix_or_suffix (other.fragmentPath_endsWith fragment)) (by decide)

theorem templatePath_ne_fragmentPath (fragment : Text) :
    page.templatePath ≠ other.fragmentPath fragment := by
  intro h
  have hends := page.templatePath_endsWith
  rw [h] at hends
  exact absurd (hends.suffix_or_suffix (other.fragmentPath_endsWith fragment)) (by decide)

theorem renderedPath_not_mem_sources : page.renderedPath ∉ other.sources := by
  -- No document of a page is a source of a page.
  intro h
  rcases List.mem_cons.mp h with h | h
  · exact page.renderedPath_ne_templatePath other h
  · obtain ⟨fragment, -, h⟩ := List.mem_map.mp h
    exact page.renderedPath_ne_fragmentPath other fragment h.symm

end Page

end MarkdownPages
