import MarkdownPages.Fragment
import MarkdownPages.Proofs.Site.Markup

/-!
# The names that a site accepts

The names of fragments, of the element and of its attribute are words of few characters, since they
are written into markup as they stand.  A line feed may end a name, though; it is the only character
besides that gets into markup, and it breaks the line that opens the block of a fragment.
-/

namespace MarkdownPages.Site

open Text

variable {first rest : Char → Bool} {s word name key : Text}

/-! ## Words -/

def IsWord (first rest : Char → Bool) : Text → Prop
  | [] => False
  | c :: cs => first c = true ∧ cs.all rest = true

instance (first rest : Char → Bool) : DecidablePred (IsWord first rest)
  | [] => inferInstanceAs (Decidable False)
  | c :: cs => inferInstanceAs (Decidable (first c = true ∧ cs.all rest = true))

abbrev IsIdentifier : Text → Prop :=
  IsWord (fun c => c.isAlpha || c = '_') (fun c => c.isAlphanum || c = '_')

abbrev IsMarkupWord : Text → Prop := IsWord Char.isAlpha (fun c => c.isAlphanum || c = '-')

theorem IsWord.notMem {c : Char} (h : IsWord first rest s) (hfirst : first c = false)
    (hrest : rest c = false) : c ∉ s := by
  cases s with
  | nil => simp
  | cons d s =>
      intro hmem
      rcases List.mem_cons.mp hmem with rfl | hmem
      · simp [h.1] at hfirst
      · simp [List.all_eq_true.mp h.2 c hmem] at hrest

theorem isName_iff_isWord : isName first rest s = true ↔ IsWord first rest (dropFinalNewline s) := by
  unfold isName
  split <;> rename_i heq <;> simp [heq, IsWord]

theorem dropFinalNewline_concat (s : Text) : dropFinalNewline (s ++ ['\n']) = s := by
  simp [dropFinalNewline]

theorem dropFinalNewline_of_notMem (h : '\n' ∉ s) : dropFinalNewline s = s := by
  unfold dropFinalNewline
  split
  · rename_i hlast
    exact absurd (List.mem_of_getLast? hlast) h
  · rfl

theorem isName_iff (hfirst : first '\n' = false) (hrest : rest '\n' = false) :
    isName first rest s = true ↔
      ∃ word, IsWord first rest word ∧ (s = word ∨ s = word ++ ['\n']) := by
  rw [isName_iff_isWord]
  constructor
  · intro h
    exact ⟨_, h, dropFinalNewline_cases s⟩
  · rintro ⟨word, hword, rfl | rfl⟩
    · rwa [dropFinalNewline_of_notMem (hword.notMem hfirst hrest)]
    · rwa [dropFinalNewline_concat]

theorem notMem_of_isName {c : Char} (h : isName first rest s = true) (hfirst : first c = false)
    (hrest : rest c = false) (hc : c ≠ '\n') : c ∉ s := by
  have hword : c ∉ dropFinalNewline s := (isName_iff_isWord.mp h).notMem hfirst hrest
  rcases dropFinalNewline_cases s with heq | heq
  · rwa [heq]
  · rw [heq]
    simp [hword, hc]

theorem isWord_iff_of_isName (hfirst : first '\n' = false) (hrest : rest '\n' = false)
    (h : isName first rest s = true) : IsWord first rest s ↔ '\n' ∉ s := by
  constructor
  · intro hword
    exact hword.notMem hfirst hrest
  · intro hline
    rw [isName_iff_isWord, dropFinalNewline_of_notMem hline] at h
    exact h

/-! ## Accepted settings -/

theorem isFragmentName_of_fragmentName {value : Value} (h : fragmentName key value = .ok name) :
    isFragmentName name = true := by
  unfold fragmentName at h
  split at h
  · split at h
    · rename_i hname
      cases h
      exact hname
    · cases h
  · cases h

theorem exists_of_mem_mapM {ε α β : Type} {f : α → Except ε β} {as : List α} {bs : List β}
    (h : as.mapM f = .ok bs) : ∀ b ∈ bs, ∃ a ∈ as, f a = .ok b := by
  induction as generalizing bs with
  | nil =>
      cases h
      simp
  | cons a as ih =>
      rw [List.mapM_cons] at h
      obtain ⟨b, hb, h⟩ := bind_eq_ok_iff.mp h
      obtain ⟨bs', hbs, h⟩ := bind_eq_ok_iff.mp h
      cases h
      refine List.forall_mem_cons.mpr ⟨⟨a, List.mem_cons_self, hb⟩, fun b' hb' => ?_⟩
      obtain ⟨a', ha', hread⟩ := ih hbs b' hb'
      exact ⟨a', List.mem_cons_of_mem _ ha', hread⟩

theorem isFragmentName_of_fragments {value : Value} {names : List Text}
    (h : fragments key value = .ok names) : ∀ name ∈ names, isFragmentName name = true := by
  unfold fragments at h
  split at h
  · intro name hname
    obtain ⟨item, -, hread⟩ := exists_of_mem_mapM h name hname
    exact isFragmentName_of_fragmentName hread
  · cases h

theorem isFragmentName_of_pageOf {settings : Value} {page : Page}
    (h : pageOf key settings = .ok page) : ∀ name ∈ page.fragments, isFragmentName name = true := by
  unfold pageOf at h
  split at h
  · cases h
  · obtain ⟨directory, -, h⟩ := bind_eq_ok_iff.mp h
    obtain ⟨names, hnames, h⟩ := bind_eq_ok_iff.mp h
    cases h
    exact isFragmentName_of_fragments hnames

theorem mem_putPage {page p : Page} {pages : List Page} (h : p ∈ putPage page pages) :
    p = page ∨ p ∈ pages := by
  induction pages with
  | nil => simpa [putPage] using h
  | cons q pages ih =>
      rw [putPage] at h
      split at h
      · rcases List.mem_cons.mp h with h | h
        · exact .inl h
        · exact .inr (List.mem_cons_of_mem _ h)
      · rcases List.mem_cons.mp h with rfl | h
        · exact .inr List.mem_cons_self
        · exact (ih h).imp_right (List.mem_cons_of_mem _)

theorem forall_mem_pagesOf {P : Page → Prop}
    (hpage : ∀ key settings page, pageOf key settings = .ok page → P page)
    {entries : List (Value × Value)} {loaded : List Page} (h : pagesOf [] entries = .ok loaded) :
    ∀ page ∈ loaded, P page := by
  refine pagesOf_induction (P := fun pages => ∀ page ∈ pages, P page)
    (fun _ _ page pages hread hpages p hp => ?_) (by simp) h
  rcases mem_putPage hp with rfl | hp
  · exact hpage _ _ _ hread
  · exact hpages p hp

theorem names_of_ofText {settings : Text} {site : Site} (h : ofText settings = .ok site) :
    (∀ page ∈ site.pages, ∀ name ∈ page.fragments, isFragmentName name = true) ∧
      isMarkupName site.element = true ∧ isMarkupName site.hrefAttribute = true := by
  obtain ⟨settings, -, hvalue⟩ := exists_of_ofText h
  obtain ⟨defaults, entries, -, -, hpages⟩ := exists_of_ofValue hvalue
  exact ⟨forall_mem_pagesOf (fun _ _ _ => isFragmentName_of_pageOf) hpages,
    isMarkupName_of_ofValue hvalue⟩

/-! ## The line that opens a block -/

theorem exists_block_eq (style : LinkStyle) (name markdown : Text) :
    ∃ rest, Fragment.block style ⟨name, markdown⟩ =
      "<ng-template #".toList ++ name ++ '>' :: '\n' :: rest := by
  have hend : ">\n".toList = ['>', '\n'] := rfl
  unfold Fragment.block
  generalize trim (Fragment.html style _) = html
  generalize "\n</ng-template>\n\n".toList = close
  exact ⟨html ++ close, by simp [hend]⟩

theorem openingLine_block (style : LinkStyle) (hword : '\n' ∉ word)
    (hname : name = word ∨ name = word ++ ['\n']) (markdown : Text) :
    (Fragment.block style ⟨name, markdown⟩).takeWhile (· ≠ '\n') =
      "<ng-template #".toList ++ word ++ if '\n' ∈ name then [] else ['>'] := by
  have hkept : ∀ c ∈ "<ng-template #".toList ++ word, decide (c ≠ '\n') = true := by
    intro c hc
    rw [decide_eq_true_eq]
    rintro rfl
    rcases List.mem_append.mp hc with hc | hc
    · exact absurd hc (by decide)
    · exact hword hc
  obtain ⟨rest, hblock⟩ := exists_block_eq style name markdown
  rw [hblock]
  rcases hname with rfl | rfl
  · rw [List.takeWhile_append_of_pos hkept, if_neg hword]
    rfl
  · rw [← List.append_assoc, List.append_assoc, List.takeWhile_append_of_pos hkept,
      if_pos (by simp)]
    rfl

/-! ## Loaded sites -/

/--
The names of a loaded site.  Each is a word, with at most a line feed behind it: the fragments have
identifiers, the element and its attribute have words that may hold hyphens.  The line that opens the
block of a fragment holds the identifier and nothing else but the tag, which is only closed on that
line if there is no line feed.  So all names are words if and only if none of them holds a line feed.
-/
theorem names_are_words_but_for_line_feed {settings : Text} {site : Site}
    (h : ofText settings = .ok site) :
    (∀ page ∈ site.pages, ∀ name ∈ page.fragments, ∃ word, IsIdentifier word ∧
        (name = word ∨ name = word ++ ['\n']) ∧
        ∀ markdown, (Fragment.block site.style ⟨name, markdown⟩).takeWhile (· ≠ '\n') =
          "<ng-template #".toList ++ word ++ if '\n' ∈ name then [] else ['>']) ∧
      (∀ name ∈ [site.element, site.hrefAttribute], ∃ word, IsMarkupWord word ∧
        (name = word ∨ name = word ++ ['\n'])) ∧
      ((∀ page ∈ site.pages, ∀ name ∈ page.fragments, IsIdentifier name) ∧
          IsMarkupWord site.element ∧ IsMarkupWord site.hrefAttribute ↔
        (∀ page ∈ site.pages, ∀ name ∈ page.fragments, '\n' ∉ name) ∧
          '\n' ∉ site.element ∧ '\n' ∉ site.hrefAttribute) := by
  obtain ⟨hfragments, helement, hattribute⟩ := names_of_ofText h
  refine ⟨?_, ?_, ?_⟩
  · intro page hpage name hname
    obtain ⟨word, hword, hcases⟩ :=
      (isName_iff (by decide) (by decide)).mp (hfragments page hpage name hname)
    have hline : '\n' ∉ word := hword.notMem (by decide) (by decide)
    exact ⟨word, hword, hcases, openingLine_block site.style hline hcases⟩
  · simp only [List.forall_mem_cons]
    exact ⟨(isName_iff (by decide) (by decide)).mp helement,
      (isName_iff (by decide) (by decide)).mp hattribute, by simp⟩
  · refine and_congr ?_ (and_congr ?_ ?_)
    · refine forall₂_congr fun page hpage => forall₂_congr fun name hname => ?_
      exact isWord_iff_of_isName (by decide) (by decide) (hfragments page hpage name hname)
    · exact isWord_iff_of_isName (by decide) (by decide) helement
    · exact isWord_iff_of_isName (by decide) (by decide) hattribute

/-- A name with a line feed behind one without: both are accepted. -/
theorem names_of_site_with_line_feed :
    let settings :=
      ("pages:\n  p:\n    directory: d\n" ++ "    fragments: [intro, \"_a1\\n\"]\n").toList
    let names := ["intro".toList, "_a1\n".toList]
    ∃ site, ofText settings = .ok site ∧ site.pages.map Page.fragments = [names] ∧
      (∀ name ∈ names, ∃ word, IsIdentifier word ∧ (name = word ∨ name = word ++ ['\n'])) ∧
      IsMarkupWord site.element ∧ ¬ ∀ name ∈ names, IsIdentifier name := by
  intro settings names
  let page : Page := ⟨"p".toList, Path.ofText "d".toList, "p".toList, names⟩
  have hload : ofText settings =
      .ok ⟨LinkStyle.defaultElement, LinkStyle.defaultHrefAttribute, [page]⟩ := by
    rw [ofText_eq_ok_iff]
    decide +kernel
  obtain ⟨hfragments, -, hwords⟩ := names_are_words_but_for_line_feed hload
  refine ⟨_, hload, rfl, fun name hname => ?_, by decide, fun hall => ?_⟩
  · obtain ⟨word, hword, hcases, -⟩ := hfragments page (by simp) name hname
    exact ⟨word, hword, hcases⟩
  · have hnames : ∀ page' ∈ [page], ∀ name ∈ page'.fragments, IsIdentifier name := by
      simpa [page] using hall
    have hline := (hwords.mp ⟨hnames, by decide, by decide⟩).1 page (by simp)
    exact hline "_a1\n".toList (by simp [page, names]) (by decide)

/--
The tags of names with a line feed stand on two lines, and what is on the second line of a closing
tag is read as a quote.
-/
theorem line_feed_breaks_opening_tag :
    ∃ site, ofText ("defaults:\n  link_element: \"e\\n\"\n" ++
        "pages:\n  p:\n    directory: d\n    fragments: [\"a\\n\"]\n").toList = .ok site ∧
      site.pages.map Page.fragments = [["a\n".toList]] ∧ site.element = "e\n".toList ∧
      ¬ IsIdentifier "a\n".toList ∧ ¬ IsMarkupWord site.element ∧
      Fragment.block site.style ⟨"a\n".toList, "x [t](h)".toList⟩ =
        ("<ng-template #a\n>\n<p>x <e\n linkHREF=\"h\">t&lt;/e</p>\n" ++
          "<blockquote>\n</blockquote>\n</ng-template>\n\n").toList := by
  refine ⟨⟨"e\n".toList, LinkStyle.defaultHrefAttribute,
    [⟨"p".toList, Path.ofText "d".toList, "p".toList, ["a\n".toList]⟩]⟩, ?_, ?_⟩
  · rw [ofText_eq_ok_iff]
    decide +kernel
  · decide +kernel

end MarkdownPages.Site
