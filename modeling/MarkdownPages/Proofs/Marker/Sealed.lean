import MarkdownPages.Proofs.Marker.Rejoin

/-!
# Texts that cut no tags

A sealed text neither holds a tag that is cut by other tags nor closes one that was opened before
it.  Sealed texts may stand side by side, and nothing is left of their tags when these are removed.
A text is sealed if it closes no bracket that it has not opened, and if each of its tags has a
neighbour that no tag could have in that place.
-/

namespace MarkdownPages.Marker

open Text

variable {marker tag s t : Text}

/-! ## Sealed texts -/

structure Sealed (marker s : Text) : Prop where
  whole : ∀ tag w, IsTag marker tag → Laced marker tag w → w <:+: s → w = tag
  opened : ∀ tag front back, IsTag marker tag → Laced marker tag (front ++ back) → front ≠ [] →
    back ≠ [] → ¬ back <+: s

theorem Sealed.append (hs : Sealed marker s) (ht : Sealed marker t) : Sealed marker (s ++ t) := by
  constructor
  · intro tag w htag hlaced hin
    rcases List.infix_append_iff_ne_nil.mp hin with
      hin | hin | ⟨front, back, hfront, hback, rfl, -, hlead⟩
    · exact hs.whole tag w htag hlaced hin
    · exact ht.whole tag w htag hlaced hin
    · exact absurd hlead (ht.opened tag front back htag hlaced hfront hback)
  · intro tag front back htag hlaced hfront hback hlead
    rcases prefix_append_cases hlead with hlead | ⟨back', hback', hpart, rfl⟩
    · exact hs.opened tag front back htag hlaced hfront hback hlead
    · rw [← List.append_assoc] at hlaced
      exact ht.opened tag (front ++ s) back' htag hlaced (by simp [hfront]) hback' hpart

theorem Sealed.untagged_strip (hname : IsName marker) (h : Sealed marker s) :
    Untagged marker (strip marker s) :=
  (untagged_strip_iff hname).mpr h.whole

/-! ## The tags inside a cut tag -/

theorem Laced.head?_eq {word w : Text} (h : Laced marker word w) : w.head? = word.head? := by
  cases h <;> rfl

theorem Laced.getLast?_eq {word w : Text} (h : Laced marker word w) :
    w.getLast? = word.getLast? := by
  induction h with
  | single c => rfl
  | @cons c tags word s htags hrest ih =>
      have hword : word ≠ [] := by cases hrest <;> simp
      rw [List.getLast?_cons, List.getLast?_cons, List.getLast?_append, ih]
      obtain ⟨d, hd⟩ := Option.isSome_iff_exists.mp (List.getLast?_isSome.mpr hword)
      rw [hd]
      rfl

theorem Tags.cases_append (hname : IsName marker) {tags front back : Text} (h : Tags marker tags)
    (heq : tags ++ s = front ++ '<' :: back) :
    (∃ inner tags', Tags marker front ∧ IsTag marker inner ∧ Tags marker tags' ∧
      '<' :: back = inner ++ (tags' ++ s)) ∨
    ∃ between, front = tags ++ between ∧ s = between ++ '<' :: back := by
  induction h generalizing front with
  | nil => exact .inr ⟨front, rfl, heq⟩
  | @cons tag rest htag hrest ih =>
      rw [List.append_assoc] at heq
      rcases List.append_eq_append_iff.mp heq with ⟨front', rfl, hfront⟩ | ⟨inside, htagEq, hback⟩
      · rcases ih hfront with ⟨inner, tags', hfront', hinner, htags', hback⟩ | ⟨between, rfl, hs⟩
        · exact .inl ⟨inner, tags', .cons htag hfront', hinner, htags', hback⟩
        · exact .inr ⟨between, by simp, hs⟩
      · cases front with
        | nil => exact .inl ⟨tag, rest, .nil, htag, hrest, by simpa [htagEq] using hback⟩
        | cons d front =>
            cases inside with
            | nil =>
                rw [List.append_nil] at htagEq
                have hrestEq : rest ++ s = [] ++ '<' :: back := by simpa using hback.symm
                rcases ih hrestEq with
                  ⟨inner, tags', -, hinner, htags', hback'⟩ | ⟨between, hbetween, hs⟩
                · exact .inl ⟨inner, tags', htagEq ▸ by simpa using Tags.cons htag .nil, hinner,
                    htags', hback'⟩
                · obtain ⟨rfl, rfl⟩ := List.append_eq_nil_iff.mp hbetween.symm
                  exact .inr ⟨[], by simp [htagEq], hs⟩
            | cons e inside =>
                obtain rfl : '<' = e := (List.cons.inj hback).1
                exact absurd (by simp [htagEq]) (lt_notMem_tail hname tag htag)

theorem Tags.getLast?_eq (hname : IsName marker) {tags : Text} (h : Tags marker tags)
    (hne : tags ≠ []) : tags.getLast? = some '>' := by
  induction h with
  | nil => exact absurd rfl hne
  | @cons tag rest htag _ ih =>
      obtain ⟨inner, rfl, -⟩ := htag.exists_inner hname
      by_cases hrest : rest = []
      · subst hrest
        rw [List.append_nil, ← List.cons_append, List.getLast?_concat]
      · rw [List.getLast?_append, ih hrest]
        rfl

/-- A text that goes on with a tag, or with one of some characters. -/
def GoesOn (marker : Text) (chars : Text) (s : Text) : Prop :=
  (∃ c ∈ s.head?, c ∈ chars) ∨ ∃ tag, IsTag marker tag ∧ tag <+: s

theorem not_goesOn_nil (hname : IsName marker) (chars : Text) : ¬ GoesOn marker chars [] := by
  rintro (⟨c, hc, -⟩ | ⟨tag, htag, hlead⟩)
  · simp at hc
  · obtain ⟨inner, rfl, -⟩ := htag.exists_inner hname
    exact absurd (List.prefix_nil.mp hlead) (by simp)

theorem Laced.exists_tag (hname : IsName marker) {word w front back : Text}
    (h : Laced marker word w) (hword : '<' ∉ word.tail) (heq : w = front ++ '<' :: back)
    (hfront : front ≠ []) :
    ∃ inner after, '<' :: back = inner ++ after ∧ IsTag marker inner ∧
      GoesOn marker word.tail after ∧
      ∃ c ∈ front.getLast?, c ∈ word.dropLast ∨ c = '>' := by
  -- A `<` inside a laced word opens a tag. Behind the tag the word goes on, and before it stands a
  -- character of the word, or the end of another tag.
  -- character by character of the word, each with the tags behind it
  induction h generalizing front with
  | single c =>
      have hlength := congrArg List.length heq
      have hpos := List.length_pos_iff.mpr hfront
      simp at hlength
      omega
  | @cons c tags word s htags hrest ih =>
      obtain ⟨d, front, rfl⟩ := List.exists_cons_of_ne_nil hfront
      obtain ⟨rfl, hinside⟩ := List.cons.inj heq
      obtain ⟨next, more, rfl⟩ : ∃ next more, word = next :: more := by
        cases hrest <;> exact ⟨_, _, rfl⟩
      have hhead : s.head? = some next := hrest.head?_eq
      rcases htags.cases_append hname hinside with
        ⟨inner, tags', hfront', hinner, htags', hback⟩ | ⟨between, rfl, rfl⟩
      · refine ⟨inner, tags' ++ s, hback, hinner, ?_, ?_⟩
        · cases htags' with
          | nil => exact .inl ⟨next, hhead, .head _⟩
          | cons htag' _ => exact .inr ⟨_, htag', by simp⟩
        · cases hfront' with
          | nil => exact ⟨c, rfl, .inl (by simp)⟩
          | cons htag' hrest' =>
              have hlast := (Tags.cons htag' hrest').getLast?_eq hname
                (by obtain ⟨_, rfl, -⟩ := htag'.exists_inner hname; simp)
              exact ⟨'>', by rw [List.getLast?_cons, hlast]; rfl, .inr rfl⟩
      · cases between with
        | nil =>
            obtain rfl : next = '<' := by simpa using hhead.symm
            exact absurd (.head _) hword
        | cons e between =>
            obtain ⟨inner, after, hback, hinner, hafter, last, hlast, hcases⟩ :=
              ih (fun hmem => hword (List.mem_cons_of_mem _ hmem)) rfl (by simp)
            refine ⟨inner, after, hback, hinner, ?_, last, ?_, ?_⟩
            · exact hafter.imp_left fun ⟨c, hc, hmem⟩ => ⟨c, hc, List.mem_cons_of_mem _ hmem⟩
            · rw [List.getLast?_cons, List.getLast?_append, hlast]
              rfl
            · exact hcases.imp_left fun hmem => List.mem_cons_of_mem _ hmem

/-! ## Tags with a neighbour -/

/--
Each tag of a text stands behind a character that is not followed by a part of a tag, or before one
that follows none.
-/
def Barred (marker s : Text) : Prop :=
  ∀ before tag after, IsTag marker tag → s = before ++ (tag ++ after) →
    (∃ c ∈ before.getLast?, c ∉ '<' :: '/' :: marker) ∨ ¬ GoesOn marker ('/' :: marker ++ ['>']) after

theorem IsTag.mem_tail (htag : IsTag marker tag) {c : Char} (hc : c ∈ tag.tail) :
    c ∈ '/' :: marker ++ ['>'] := by
  cases htag with
  | openTag => exact List.mem_cons_of_mem _ hc
  | closeTag => exact hc

theorem IsTag.mem_dropLast (htag : IsTag marker tag) {c : Char} (hc : c ∈ tag.dropLast) :
    c ∈ '<' :: '/' :: marker := by
  cases htag with
  | openTag =>
      rw [Marker.openTag, List.dropLast_concat] at hc
      simp only [List.mem_cons] at hc ⊢
      tauto
  | closeTag =>
      rw [Marker.closeTag, List.dropLast_concat] at hc
      exact hc

theorem GoesOn.append {chars : Text} (h : GoesOn marker chars s) (rest : Text) :
    GoesOn marker chars (s ++ rest) := by
  rcases h with ⟨c, hc, hmem⟩ | ⟨tag, htag, hlead⟩
  · refine .inl ⟨c, ?_, hmem⟩
    cases s with
    | nil => simp at hc
    | cons d s => exact hc
  · exact .inr ⟨tag, htag, hlead.trans (List.prefix_append s rest)⟩

theorem GoesOn.mono {chars chars' : Text} (h : GoesOn marker chars s)
    (hsub : ∀ c ∈ chars, c ∈ chars') : GoesOn marker chars' s :=
  h.imp_left fun ⟨c, hc, hmem⟩ => ⟨c, hc, hsub c hmem⟩

theorem Barred.not_goesOn (h : Barred marker s) {inner before after rest : Text}
    (htag : IsTag marker tag) (hinner : IsTag marker inner)
    (hs : s = before ++ (inner ++ (after ++ rest)))
    (hbefore : ∀ c ∈ before.getLast?, c ∈ tag.dropLast) : ¬ GoesOn marker tag.tail after := by
  intro hafter
  have hgoes : GoesOn marker ('/' :: marker ++ ['>']) (after ++ rest) :=
    (hafter.mono fun c hc => htag.mem_tail hc).append rest
  rcases h before inner (after ++ rest) hinner hs with ⟨c, hc, hnot⟩ | hnot
  · exact hnot (htag.mem_dropLast (hbefore c hc))
  · exact hnot hgoes

theorem Barred.eq_of_laced (hname : IsName marker) (h : Barred marker s) {w : Text}
    (htag : IsTag marker tag) (hlaced : Laced marker tag w) (hin : w <:+: s) : w = tag := by
  -- A laced tag in a barred text is a tag: there is nothing that could cut it.
  obtain ⟨before, behind, hs⟩ := hin
  rcases hlaced.eq_or_exists hname with hw | ⟨lead, next, tail, back, htagEq, hlead, rfl⟩
  · exact hw
  · obtain ⟨inner, after, hback, hinner, hgoes, -⟩ :=
      hlaced.exists_tag hname (lt_notMem_tail hname tag htag) rfl hlead
    have hlast : ∀ c ∈ (before ++ lead).getLast?, c ∈ tag.dropLast := by
      intro c hc
      rw [List.getLast?_append_of_ne_nil _ hlead] at hc
      rw [htagEq, List.dropLast_append_of_ne_nil (by simp)]
      exact List.mem_append_left _ (List.mem_of_getLast? hc)
    have heq : s = (before ++ lead) ++ (inner ++ (after ++ behind)) := by
      rw [← hs, hback]
      simp
    exact absurd hgoes (h.not_goesOn htag hinner heq hlast)

theorem Laced.getLast?_of_append {front back : Text} (hname : IsName marker)
    (htag : IsTag marker tag) (h : Laced marker tag (front ++ back)) (hback : back ≠ []) :
    back.getLast? = some '>' := by
  obtain ⟨inner, rfl, -⟩ := htag.exists_inner hname
  rw [← List.getLast?_append_of_ne_nil front hback, h.getLast?_eq, ← List.cons_append,
    List.getLast?_concat]

theorem exists_lead_of_close (hclose : '>' ∉ (s ++ t).takeWhile (· != '<')) (hmem : '>' ∈ s) :
    ∃ lead back, s = lead ++ '<' :: back ∧ '>' ∉ lead := by
  -- Where the first `>` has its `<`, a start of the text with a `>` is cut at a `<` before that.
  have hlead : ∀ lead rest : Text, '<' ∉ lead → lead ++ rest = s ++ t → '>' ∉ lead := by
    intro lead rest hnone heq hin
    rw [← heq, List.takeWhile_append_of_pos fun c hc => by
      rw [bne_iff_ne]
      rintro rfl
      exact hnone hc] at hclose
    exact hclose (List.mem_append_left _ hin)
  have hopen : '<' ∈ s := by
    by_contra hnone
    exact hlead s t hnone rfl hmem
  obtain ⟨lead, back, rfl, hnone⟩ := List.eq_append_cons_of_mem hopen
  exact ⟨lead, back, rfl, hlead lead ('<' :: back ++ t) hnone (by simp)⟩

theorem Barred.not_prefix_of_laced (hname : IsName marker) (h : Barred marker s)
    (hclose : '>' ∉ s.takeWhile (· != '<')) {front back : Text} (htag : IsTag marker tag)
    (hlaced : Laced marker tag (front ++ back)) (hfront : front ≠ []) (hback : back ≠ []) :
    ¬ back <+: s := by
  -- A barred text does not start with the rest of a laced tag that was opened before the text.
  rintro ⟨rest, rfl⟩
  have hlast := hlaced.getLast?_of_append hname htag hback
  obtain ⟨lead, back, rfl, hlead⟩ := exists_lead_of_close hclose (List.mem_of_getLast? hlast)
  -- The first bracket of the text stands inside the laced tag, and so it opens another one there.
  rw [← List.append_assoc] at hlaced
  obtain ⟨inner, after, hinnerEq, hinner, hgoes, c, hc, hcases⟩ :=
    hlaced.exists_tag hname (lt_notMem_tail hname tag htag) rfl (by simp [hfront])
  have hbefore : ∀ d ∈ lead.getLast?, d ∈ tag.dropLast := by
    intro d hd
    have hd' : lead.getLast? = some d := hd
    rw [List.getLast?_append, hd'] at hc
    obtain rfl : d = c := Option.some.inj hc
    refine hcases.resolve_right ?_
    rintro rfl
    exact hlead (List.mem_of_getLast? hd)
  have heq : lead ++ '<' :: back ++ rest = lead ++ (inner ++ (after ++ rest)) := by
    rw [hinnerEq]
    simp
  exact absurd hgoes (h.not_goesOn htag hinner heq hbefore)

/--
If the first `>` of a text has its `<`, then a laced tag that was opened before the text and closed
in it has another tag inside; and a neighbour of that tag bars it.
-/
theorem sealed_of_barred (hname : IsName marker) (hclose : '>' ∉ s.takeWhile (· != '<'))
    (hbarred : Barred marker s) : Sealed marker s where
  whole _ _ htag hlaced hin := hbarred.eq_of_laced hname htag hlaced hin
  opened _ _ _ htag hlaced hfront hback :=
    hbarred.not_prefix_of_laced hname hclose htag hlaced hfront hback

/-! ## Texts without tags -/

theorem sealed_of_untagged (hname : IsName marker) (hclose : '>' ∉ s.takeWhile (· != '<'))
    (h : Untagged marker s) : Sealed marker s := by
  refine sealed_of_barred hname hclose fun before tag after htag hs => ?_
  exact absurd ⟨before, after, by simp [hs]⟩ (h tag htag)

theorem sealed_of_notMem (hname : IsName marker) (hopen : '<' ∉ s) (hclose : '>' ∉ s) :
    Sealed marker s :=
  sealed_of_untagged hname (fun hmem => hclose (List.takeWhile_subset _ hmem))
    (untagged_of_notMem hopen)

end MarkdownPages.Marker
