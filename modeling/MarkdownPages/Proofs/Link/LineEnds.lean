import MarkdownPages.Proofs.Link.Written
import MarkdownPages.Proofs.Markdown.Source

/-!
# Links and line ends

A link ends at a line feed, but not at a carriage return.  So in a text with other line ends the same
links are replaced, unless one of them reaches over a carriage return.  Where a line feed stands behind
each carriage return, none does.
-/

namespace MarkdownPages.Link

open Text

variable {ending s rest word : Text} {link : Link} {c : Char}

/-! ## Other line ends -/

def withLineEnds (ending s : Text) : Text := s.flatMap fun c => if c = '\n' then ending else [c]

theorem withLineEnds_newline (ending s : Text) :
    withLineEnds ending ('\n' :: s) = ending ++ withLineEnds ending s := by
  simp [withLineEnds]

theorem withLineEnds_cons (hc : c ≠ '\n') (ending s : Text) :
    withLineEnds ending (c :: s) = c :: withLineEnds ending s := by
  simp [withLineEnds, hc]

theorem withLineEnds_append (h : '\n' ∉ word) (ending s : Text) :
    withLineEnds ending (word ++ s) = word ++ withLineEnds ending s := by
  induction word with
  | nil => rfl
  | cons c word ih =>
      rw [List.mem_cons, not_or] at h
      rw [List.cons_append, withLineEnds_cons (Ne.symm h.1), ih h.2, List.cons_append]

theorem exists_of_withLineEnds_eq_append (hending : ending.head? = some '\r') (hword : '\r' ∉ word)
    (h : withLineEnds ending s = word ++ rest) :
    ∃ after, s = word ++ after ∧ rest = withLineEnds ending after := by
  -- A word without carriage returns was there before.
  induction word generalizing s with
  | nil => exact ⟨s, rfl, h.symm⟩
  | cons c word ih =>
      rw [List.mem_cons, not_or] at hword
      cases s with
      | nil => cases h
      | cons d s =>
          by_cases hd : d = '\n'
          · obtain ⟨ending, rfl⟩ := List.head?_eq_some_iff.mp hending
            rw [hd, withLineEnds_newline] at h
            exact absurd (List.cons.inj h).1 hword.1
          · rw [withLineEnds_cons hd] at h
            obtain ⟨rfl, htail⟩ := List.cons.inj h
            obtain ⟨after, rfl, hrest⟩ := ih hword.2 htail
            exact ⟨after, rfl, hrest⟩

theorem newline_notMem_withLineEnds (s : Text) : '\n' ∉ withLineEnds ['\r'] s := by
  intro hmem
  rw [withLineEnds, List.mem_flatMap] at hmem
  obtain ⟨c, -, hc⟩ := hmem
  split at hc
  · exact absurd hc (by decide)
  · rename_i hne
    exact hne (List.mem_singleton.mp hc).symm

theorem eq_newline_of_withLineEnds_eq {front back : Text} (hs : '\r' ∉ s)
    (h : withLineEnds ['\r', '\n'] s = front ++ '\r' :: c :: back) : c = '\n' := by
  induction s generalizing front with
  | nil =>
      have hlength := congrArg List.length h
      simp [withLineEnds] at hlength
  | cons d s ih =>
      rw [List.mem_cons, not_or] at hs
      by_cases hd : d = '\n'
      · rw [hd, withLineEnds_newline] at h
        rcases front with - | ⟨e, - | ⟨f, front⟩⟩
        · exact (List.cons.inj (List.cons.inj h).2).1.symm
        · exact absurd (List.cons.inj (List.cons.inj h).2).1 (by decide)
        · exact ih hs.2 (List.cons.inj (List.cons.inj h).2).2
      · rw [withLineEnds_cons hd] at h
        cases front with
        | nil => exact absurd (List.cons.inj h).1.symm hs.1
        | cons e front => exact ih hs.2 (List.cons.inj h).2

/-! ## Links that keep to lines -/

namespace Cut

def links : Cut → List Link
  | .last _ => []
  | .next _ link rest => link :: rest.links

@[simp] theorem links_cons (c : Char) (cut : Cut) : (cut.cons c).links = cut.links := by
  cases cut <;> rfl

theorem Leftmost.of_mem_links {cut : Cut} (h : cut.Leftmost) (hlink : link ∈ cut.links) :
    link.Valid ∧ link.source <:+: cut.source := by
  induction cut with
  | last gap => cases hlink
  | next gap first rest ih =>
      rcases List.mem_cons.mp hlink with rfl | hlink
      · exact ⟨h.2.1, gap, rest.source, rfl⟩
      · obtain ⟨hvalid, hin⟩ := ih h.2.2 hlink
        exact ⟨hvalid, hin.trans (List.suffix_append (gap ++ first.source) _).isInfix⟩

end Cut

/-- No link that is replaced in the text reaches over a carriage return. -/
def KeepsToLines (s : Text) : Prop :=
  ∀ cut : Cut, cut.Leftmost → cut.source = s → ∀ link ∈ cut.links, '\r' ∉ link.source

theorem Cut.Leftmost.keepsToLines_iff {cut : Cut} (h : cut.Leftmost) :
    KeepsToLines cut.source ↔ ∀ link ∈ cut.links, '\r' ∉ link.source := h.forall_iff

theorem keepsToLines_nil : KeepsToLines [] := by
  have hleftmost : (Cut.last []).Leftmost := isGap_nil []
  exact hleftmost.keepsToLines_iff.mpr (by simp [Cut.links])

theorem keepsToLines_source_append (h : link.Valid) :
    KeepsToLines (link.source ++ rest) ↔ '\r' ∉ link.source ∧ KeepsToLines rest := by
  obtain ⟨cut, hleftmost, rfl, -⟩ := exists_cut rest
  have hall : (Cut.next [] link cut).Leftmost := ⟨isGap_nil _, h, hleftmost⟩
  rw [hleftmost.keepsToLines_iff]
  exact hall.keepsToLines_iff.trans List.forall_mem_cons

theorem keepsToLines_cons (h : ∀ link : Link, ¬ link.StartsAt (c :: s)) :
    KeepsToLines (c :: s) ↔ KeepsToLines s := by
  obtain ⟨cut, hleftmost, rfl, -⟩ := exists_cut s
  have hall := (hleftmost.cons h).keepsToLines_iff
  rw [Cut.links_cons, show (cut.cons c).source = c :: cut.source from Cut.fill_cons _ c cut] at hall
  rw [hall, hleftmost.keepsToLines_iff]

theorem keepsToLines_of_newlines (hs : '\r' ∉ s) : KeepsToLines (withLineEnds ['\r', '\n'] s) := by
  -- With a line feed behind each carriage return, a link would end before it reached over both.
  intro cut hleftmost hsource link hlink hreturn
  obtain ⟨hvalid, front, back, hin⟩ := hleftmost.of_mem_links hlink
  obtain ⟨lead, tail, heq⟩ := List.append_of_mem hreturn
  cases tail with
  | nil =>
      have hlast : link.source.getLast? = some ')' := by
        simp [source, List.getLast?_cons, List.getLast?_append]
      rw [heq, List.getLast?_concat] at hlast
      exact absurd hlast (by decide)
  | cons c tail =>
      rw [hsource, heq] at hin
      have hreturns : withLineEnds ['\r', '\n'] s = front ++ lead ++ '\r' :: c :: (tail ++ back) := by
        rw [← hin]
        simp
      have hnext := eq_newline_of_withLineEnds_eq hs hreturns
      exact hvalid.newline_notMem (by simp [heq, hnext])

/-! ## Replacing links -/

theorem normalizeNewlines_cons (hc : c ≠ '\r') (s : Text) :
    normalizeNewlines (c :: s) = c :: normalizeNewlines s :=
  Markdown.normalizeNewlines_append (s := [c]) (by simpa using Ne.symm hc) s

theorem normalizeNewlines_return (h : s.head? ≠ some '\n') :
    normalizeNewlines ('\r' :: s) = '\n' :: normalizeNewlines s := by
  rw [normalizeNewlines]
  rintro rest rfl
  exact h rfl

variable {write : Link → Text}

theorem head?_replaceWith_ne (hopen : ∀ link, (write link).head? = some '<') (hs : '\n' ∉ s) :
    (replaceWith write s).head? ≠ some '\n' := by
  fun_cases replaceWith write s with
  | case1 => simp
  | case2 rest link after hread =>
      obtain ⟨more, hmore⟩ := List.head?_eq_some_iff.mp (hopen link)
      rw [hmore]
      exact (by decide : some '<' ≠ some '\n')
  | case3 rest hread =>
      exact (by decide : some '[' ≠ some '\n')
  | case4 c rest hc =>
      rw [List.head?_cons]
      intro heq
      exact hs (Option.some.inj heq ▸ .head _)

theorem normalizeNewlines_replaceWith_ending (hending : ending = ['\r'] ∨ ending = ['\r', '\n'])
    (hopen : ∀ link, (write link).head? = some '<') (s : Text) :
    normalizeNewlines (replaceWith write (withLineEnds ending ('\n' :: s))) =
      '\n' :: normalizeNewlines (replaceWith write (withLineEnds ending s)) := by
  rw [withLineEnds_newline]
  rcases hending with rfl | rfl
  · rw [List.cons_append, List.nil_append, replaceWith_char write (by decide),
      normalizeNewlines_return (head?_replaceWith_ne hopen (newline_notMem_withLineEnds s))]
  · rw [List.cons_append, List.cons_append, List.nil_append, replaceWith_char write (by decide),
      replaceWith_char write (by decide), normalizeNewlines]

theorem normalizeNewlines_replaceWith_ne_bracket (hopen : ∀ link, (write link).head? = some '<')
    (hread : readAfterBracket? s = some (link, rest)) (t : Text) :
    normalizeNewlines (replaceWith write ('[' :: s)) ≠ '[' :: t := by
  obtain ⟨more, hmore⟩ := List.head?_eq_some_iff.mp (hopen link)
  rw [replaceWith_link write hread, hmore, List.cons_append, normalizeNewlines_cons (by decide)]
  intro heq
  exact absurd (List.cons.inj heq).1 (by decide)

theorem return_mem_of_withLineEnds (hending : ending.head? = some '\r')
    (hnone : readAfterBracket? s = none)
    (hread : readAfterBracket? (withLineEnds ending s) = some (link, rest)) :
    '\r' ∈ link.source := by
  -- A link that was not there with line feeds reaches over a carriage return.
  by_contra hreturn
  obtain ⟨hvalid, hsource⟩ := readAfterBracket?_eq_some_iff.mp hread
  rw [← withLineEnds_cons (by decide)] at hsource
  obtain ⟨after, hs, -⟩ := exists_of_withLineEnds_eq_append hending hreturn hsource
  have hsome := readAfterBracket?_eq_some_iff.mpr ⟨hvalid, hs⟩
  rw [hnone] at hsome
  cases hsome

theorem keepsToLines_ending (hending : ending = ['\r'] ∨ ending = ['\r', '\n']) (s : Text) :
    KeepsToLines (withLineEnds ending ('\n' :: s)) ↔ KeepsToLines (withLineEnds ending s) := by
  rw [withLineEnds_newline]
  rcases hending with rfl | rfl
  · exact keepsToLines_cons (not_startsAt_cons (by decide) _)
  · exact (keepsToLines_cons (not_startsAt_cons (by decide) _)).trans
      (keepsToLines_cons (not_startsAt_cons (by decide) _))

theorem normalizeNewlines_replaceWith_eq_iff (hending : ending = ['\r'] ∨ ending = ['\r', '\n'])
    (hwrite : ∀ link, '\r' ∉ link.source → '\r' ∉ write link)
    (hopen : ∀ link, (write link).head? = some '<') (hs : '\r' ∉ s) :
    normalizeNewlines (replaceWith write (withLineEnds ending s)) = replaceWith write s ↔
      KeepsToLines (withLineEnds ending s) := by
  -- Up to the first link that reaches over a carriage return the same is written; there it is not.
  have hhead : ending.head? = some '\r' := by
    rcases hending with rfl | rfl <;> rfl
  fun_induction replaceWith write s with
  | case1 =>
      refine iff_of_true ?_ keepsToLines_nil
      rw [withLineEnds, List.flatMap_nil, replaceWith_nil, normalizeNewlines]
  | case2 rest link after hread _ ih =>
      obtain ⟨hvalid, hsource⟩ := readAfterBracket?_eq_some_iff.mp hread
      rw [hsource, List.mem_append, not_or] at hs
      have hrest : _ ↔ _ := ih hs.2
      rw [hsource, withLineEnds_append hvalid.newline_notMem, replaceWith_source_append write hvalid,
        Markdown.normalizeNewlines_append (hwrite link hs.1), List.append_cancel_left_eq, hrest,
        keepsToLines_source_append hvalid]
      exact (and_iff_right hs.1).symm
  | case3 rest hread ih =>
      rw [List.mem_cons, not_or] at hs
      have hrest : _ ↔ _ := ih hs.2
      rw [withLineEnds_cons (by decide)]
      cases hother : readAfterBracket? (withLineEnds ending rest) with
      | none =>
          rw [replaceWith_bracket write hother, normalizeNewlines_cons (by decide),
            List.cons.injEq, keepsToLines_cons (readAfterBracket?_eq_none_iff.mp hother), ← hrest]
          exact and_iff_right rfl
      | some found =>
          -- The line feed ended the link, so it is replaced only where returns stand in its place.
          obtain ⟨link, after⟩ := found
          obtain ⟨hvalid, hsource⟩ := readAfterBracket?_eq_some_iff.mp hother
          refine iff_of_false (normalizeNewlines_replaceWith_ne_bracket hopen hother _) ?_
          intro hkeeps
          rw [hsource, keepsToLines_source_append hvalid] at hkeeps
          exact hkeeps.1 (return_mem_of_withLineEnds hhead hread hother)
  | case4 c rest hc ih =>
      rw [List.mem_cons, not_or] at hs
      have hrest : _ ↔ _ := ih hs.2
      by_cases hline : c = '\n'
      · rw [hline, normalizeNewlines_replaceWith_ending hending hopen, keepsToLines_ending hending,
          List.cons.injEq, ← hrest]
        exact and_iff_right rfl
      · rw [withLineEnds_cons hline, replaceWith_char write hc, normalizeNewlines_cons (Ne.symm hs.1),
          List.cons.injEq, keepsToLines_cons (not_startsAt_cons hc _), ← hrest]
        exact and_iff_right rfl

end MarkdownPages.Link
