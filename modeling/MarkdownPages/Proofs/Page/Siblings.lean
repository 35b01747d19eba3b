import MarkdownPages.Proofs.Page.FileNames
import MarkdownPages.Proofs.Site.Names

/-!
# The files of a page stand side by side

Whatever the directory and the stem of a page are, even if the stem holds slashes or starts at the
root, its files stand in one directory and their names differ in the ending only.  So no path serves
two purposes, and the path of a fragment tells its name and all other files of its page.
-/

namespace MarkdownPages

open Text

namespace Path

def parent (p : Path) : Path := ⟨p.root, p.parts.dropLast⟩

@[simp] theorem parent_concat (root : Root) (parts : List Text) (name : Text) :
    parent ⟨root, parts ++ [name]⟩ = ⟨root, parts⟩ := by
  simp [parent]

end Path

namespace Page

variable {p q : Page} {f g : Text}

/-- What the files of a page share: a directory, and the start of their names. -/
structure Base where
  root : Path.Root
  parts : List Text
  name : Text

def Base.file (base : Base) (ending : Text) : Path :=
  ⟨base.root, base.parts ++ [base.name ++ ending]⟩

theorem Base.parent_file (base : Base) (ending : Text) :
    (base.file ending).parent = ⟨base.root, base.parts⟩ := Path.parent_concat _ _ _

theorem Base.file_eq_iff {base other : Base} {ending ending' : Text} :
    base.file ending = other.file ending' ↔
      base.root = other.root ∧ base.parts = other.parts ∧
        base.name ++ ending = other.name ++ ending' := by
  simp [Base.file]

theorem exists_base (page : Page) :
    ∃ base : Base, ∀ ending : Text, '/' ∉ ending → 2 ≤ ending.length →
      page.file (page.stem ++ ending) = base.file ending := by
  obtain ⟨root, parts, name, hpath⟩ := Path.exists_ofText_append page.stem
  by_cases hroot : root = .relative
  · refine ⟨⟨page.directory.root, page.directory.parts ++ parts, name⟩,
      fun ending hslash hlength => ?_⟩
    simp [file, hpath ending hslash hlength, Path.join, hroot, Base.file]
  · refine ⟨⟨root, parts, name⟩, fun ending hslash hlength => ?_⟩
    simp [file, hpath ending hslash hlength, Path.join, hroot, Base.file]

def templateEnding : Text := ".template.html".toList

def renderedEnding : Text := ".rendered.html".toList

def fragmentEnding (fragment : Text) : Text := '.' :: (fragment ++ ".md".toList)

theorem exists_base_paths (page : Page) :
    ∃ base : Base, page.templatePath = base.file templateEnding ∧
      page.renderedPath = base.file renderedEnding ∧
      ∀ fragment, '/' ∉ fragment → page.fragmentPath fragment = base.file (fragmentEnding fragment) := by
  obtain ⟨base, hbase⟩ := page.exists_base
  refine ⟨base, hbase _ (by decide) (by decide), hbase _ (by decide) (by decide),
    fun fragment hslash => ?_⟩
  rw [← hbase (fragmentEnding fragment) (by simp [fragmentEnding, hslash]) (by simp [fragmentEnding])]
  simp [fragmentPath, fragmentEnding]

theorem append_fragmentEnding_eq_iff {name name' : Text} (hf : '.' ∉ f) (hg : '.' ∉ g) :
    name ++ fragmentEnding f = name' ++ fragmentEnding g ↔ name = name' ∧ f = g := by
  have hcut : ∀ name fragment : Text,
      name ++ fragmentEnding fragment = name ++ '.' :: fragment ++ ".md".toList := by
    simp [fragmentEnding]
  rw [hcut, hcut, List.append_left_inj]
  constructor
  · intro h
    rcases List.append_eq_append_iff.mp h with ⟨middle, rfl, hrest⟩ | ⟨middle, rfl, hrest⟩
    · cases middle with
      | nil => simpa using hrest
      | cons c middle =>
          obtain ⟨rfl, htail⟩ := List.cons.inj hrest
          exact absurd (htail ▸ List.mem_append_right _ List.mem_cons_self) hf
    · cases middle with
      | nil => simpa using hrest.symm
      | cons c middle =>
          obtain ⟨rfl, htail⟩ := List.cons.inj hrest
          exact absurd (htail ▸ List.mem_append_right _ List.mem_cons_self) hg
  · rintro ⟨rfl, rfl⟩
    rfl

/--
The paths of pages, whatever their directories, stems and fragments are.  A document is no template
and no fragment, and a template is no fragment.  And for names that a site accepts, identifiers among
them, all files of a page stand in one directory; two fragments share a path exactly if they have
one name and their pages share the template and the document.
-/
theorem file_names_keep_apart (p q : Page) :
    (∀ fragment, p.renderedPath ≠ q.templatePath ∧ p.renderedPath ≠ q.fragmentPath fragment ∧
        p.templatePath ≠ q.fragmentPath fragment) ∧
      ∀ f g, Site.isFragmentName f = true → Site.isFragmentName g = true →
        p.renderedPath.parent = p.templatePath.parent ∧
          (p.fragmentPath f).parent = p.templatePath.parent ∧
          (p.fragmentPath f = q.fragmentPath g ↔
            f = g ∧ p.templatePath = q.templatePath ∧ p.renderedPath = q.renderedPath) := by
  refine ⟨fun fragment => ⟨p.renderedPath_ne_templatePath q, p.renderedPath_ne_fragmentPath q fragment,
    p.templatePath_ne_fragmentPath q fragment⟩, fun f g hf hg => ?_⟩
  have hslash : ∀ name, Site.isFragmentName name = true → '/' ∉ name := fun name hname =>
    Site.notMem_of_isName hname (by decide) (by decide) (by decide)
  have hdot : ∀ name, Site.isFragmentName name = true → '.' ∉ name := fun name hname =>
    Site.notMem_of_isName hname (by decide) (by decide) (by decide)
  obtain ⟨base, htemplate, hrendered, hfragment⟩ := p.exists_base_paths
  obtain ⟨other, htemplate', hrendered', hfragment'⟩ := q.exists_base_paths
  rw [htemplate, hrendered, hfragment f (hslash f hf), htemplate', hrendered',
    hfragment' g (hslash g hg)]
  refine ⟨?_, ?_, ?_⟩
  · rw [Base.parent_file, Base.parent_file]
  · rw [Base.parent_file, Base.parent_file]
  · simp only [Base.file_eq_iff, append_fragmentEnding_eq_iff (hdot f hf) (hdot g hg),
      List.append_left_inj]
    tauto

/-- A stem that starts at the root, and a page that has the same files. -/
theorem file_names_of_rooted_stem :
    let p : Page := ⟨['p'], .ofText "a//./b".toList, "//x/.y".toList, [['f']]⟩
    let q : Page := ⟨['q'], .ofText "//x/".toList, ".y".toList, [['g']]⟩
    Site.isFragmentName ['f'] = true ∧ Site.isFragmentName ['g'] = true ∧
      (p.fragmentPath ['f']).toText = "//x/.y.f.md".toList ∧
      p.fragmentPath ['f'] = q.fragmentPath ['f'] ∧ p.renderedPath = q.renderedPath ∧
      p.renderedPath.parent = .ofText "//x".toList ∧ p.fragmentPath ['f'] ≠ q.fragmentPath ['g'] := by
  intro p q
  have hf : Site.isFragmentName ['f'] = true := by decide
  have hg : Site.isFragmentName ['g'] = true := by decide
  have hsame : p.fragmentPath ['f'] = q.fragmentPath ['f'] := by decide +kernel
  obtain ⟨hrendered, hfragment, hshared⟩ := (file_names_keep_apart p q).2 ['f'] ['f'] hf hf
  obtain ⟨-, -, hother⟩ := (file_names_keep_apart p q).2 ['f'] ['g'] hf hg
  refine ⟨hf, hg, by decide +kernel, hsame, (hshared.mp hsame).2.2, ?_, fun heq => ?_⟩
  · rw [hrendered, ← hfragment]
    decide +kernel
  · exact absurd (hother.mp heq).1 (by decide)

end Page

end MarkdownPages
