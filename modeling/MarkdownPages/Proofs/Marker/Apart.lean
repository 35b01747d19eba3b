import MarkdownPages.Proofs.Marker.Rejoin

/-!
# Words that removal does not put together

Removing tags can put a word together that was laced with them, or whose ends stood in two texts.  A
text rules this out if it holds neither the word nor a beginning of it with a tag behind, and if no
beginning stands at its end.  Such texts may stand side by side.
-/

namespace MarkdownPages.Marker

open Text

variable {marker word tag w s t front back : Text}

/-- A proper part of a word, or of a tag, from its start. -/
inductive IsBeginning (marker word : Text) : Text → Prop
  | word {front back : Text} (hword : word = front ++ back) (hfront : front ≠ []) (hback : back ≠ []) :
      IsBeginning marker word front
  | tag {front back : Text} (htag : IsTag marker (front ++ back)) (hfront : front ≠ [])
      (hback : back ≠ []) : IsBeginning marker word front

/-- What a laced word starts with: the word, or a beginning of it with a tag behind. -/
inductive Laces (marker word : Text) : Text → Prop
  | word : Laces marker word word
  | tag {front back tag : Text} (hword : word = front ++ back) (hfront : front ≠ []) (hback : back ≠ [])
      (htag : IsTag marker tag) : Laces marker word (front ++ tag)

def Clear (marker word s : Text) : Prop := ∀ w, Laces marker word w → ¬ w <:+: s

def Stopped (marker word s : Text) : Prop := ∀ front, IsBeginning marker word front → ¬ front <:+ s

/-- A text that holds no laced word, and in which none starts that another text could go on with. -/
structure Apart (marker word s : Text) : Prop where
  free : ∀ w, Laced marker word w → ¬ w <:+: s
  stopped : ∀ front back, Laced marker word (front ++ back) → front ≠ [] → back ≠ [] → ¬ front <:+ s

/-! ## Laced words -/

theorem Laced.word_ne_nil (h : Laced marker word w) : word ≠ [] := by
  cases h <;> simp

theorem Laces.cons (h : Laces marker word w) (c : Char) : Laces marker (c :: word) (c :: w) := by
  cases h with
  | word => exact .word
  | @tag front back tag hword _ hback htag =>
      exact @Laces.tag _ _ (c :: front) back tag (congrArg (List.cons c) hword) (by simp) hback htag

theorem Laced.exists_laces (h : Laced marker word w) : ∃ w', Laces marker word w' ∧ w' <+: w := by
  induction h with
  | single c => exact ⟨[c], .word, List.prefix_refl _⟩
  | @cons c tags word s htags hrest ih =>
      cases htags with
      | nil =>
          obtain ⟨w', hlaces, hlead⟩ := ih
          exact ⟨c :: w', hlaces.cons c, List.cons_prefix_cons.mpr ⟨rfl, hlead⟩⟩
      | @cons tag rest htag =>
          exact ⟨[c] ++ tag, .tag rfl (by simp) hrest.word_ne_nil htag, rest ++ s, by simp⟩

theorem Laced.cases_append (h : Laced marker word w) (heq : w = front ++ back) (hfront : front ≠ [])
    (hback : back ≠ []) :
    (∃ w', Laces marker word w' ∧ w' <+: front) ∨ (∃ more, more ≠ [] ∧ word = front ++ more) ∨
      ∃ last more, last <:+ front ∧ last ≠ [] ∧ more ≠ [] ∧ IsTag marker (last ++ more) := by
  -- Only the tags behind the first character matter: the first of them laces the word already.
  induction h generalizing front with
  | single c =>
      have hlength := congrArg List.length heq
      have hpos := List.length_pos_iff.mpr hfront
      have hmore := List.length_pos_iff.mpr hback
      simp only [List.length_append, List.length_singleton] at hlength
      omega
  | @cons c tags word s htags hrest ih =>
      obtain ⟨d, front, rfl⟩ := List.exists_cons_of_ne_nil hfront
      obtain ⟨rfl, hinside⟩ := List.cons.inj heq
      by_cases hnil : front = []
      · subst hnil
        exact .inr (.inl ⟨word, hrest.word_ne_nil, rfl⟩)
      cases htags with
      | nil =>
          rcases ih hinside hnil with
            ⟨w', hlaces, hlead⟩ | ⟨more, hmore, rfl⟩ | ⟨last, more, hlast, hparts⟩
          · exact .inl ⟨c :: w', hlaces.cons c, List.cons_prefix_cons.mpr ⟨rfl, hlead⟩⟩
          · exact .inr (.inl ⟨more, hmore, rfl⟩)
          · exact .inr (.inr ⟨last, more, hlast.trans (List.suffix_cons c front), hparts⟩)
      | @cons tag rest htag =>
          rw [List.append_assoc] at hinside
          have hlaces : Laces marker (c :: word) ([c] ++ tag) :=
            .tag rfl (by simp) hrest.word_ne_nil htag
          rcases List.append_eq_append_iff.mp hinside with ⟨more, rfl, -⟩ | ⟨more, htagEq, -⟩
          · exact .inl ⟨_, hlaces, more, by simp⟩
          · by_cases hmore : more = []
            · rw [hmore, List.append_nil] at htagEq
              exact .inl ⟨_, hlaces, by simp [htagEq]⟩
            · exact .inr (.inr ⟨front, more, List.suffix_cons c front, hnil, hmore, htagEq ▸ htag⟩)

/-! ## Texts that stand side by side -/

theorem apart_of_clear (hclear : Clear marker word s) (hstopped : Stopped marker word s) :
    Apart marker word s := by
  constructor
  · intro w hlaced hin
    obtain ⟨w', hlaces, hlead⟩ := hlaced.exists_laces
    exact hclear w' hlaces (hlead.isInfix.trans hin)
  · intro front back hlaced hfront hback hend
    rcases hlaced.cases_append rfl hfront hback with
      ⟨w', hlaces, hlead⟩ | ⟨more, hmore, hword⟩ | ⟨last, more, hlast, hne, hmore, htag⟩
    · exact hclear w' hlaces (hlead.isInfix.trans hend.isInfix)
    · exact hstopped front (.word hword hfront hmore) hend
    · exact hstopped last (.tag htag hne hmore) (hlast.trans hend)

theorem Apart.append (hs : Apart marker word s) (ht : Apart marker word t) :
    Apart marker word (s ++ t) := by
  constructor
  · intro w hlaced hin
    rcases List.infix_append_iff_ne_nil.mp hin with
      hin | hin | ⟨front, back, hfront, hback, rfl, hend, -⟩
    · exact hs.free w hlaced hin
    · exact ht.free w hlaced hin
    · exact hs.stopped front back hlaced hfront hback hend
  · intro front back hlaced hfront hback hend
    rcases suffix_append_cases hend with hend | ⟨start, hstart, hpart, rfl⟩
    · exact ht.stopped front back hlaced hfront hback hend
    · rw [List.append_assoc] at hlaced
      exact hs.stopped start (t ++ back) hlaced hstart (by simp [hback]) hpart

theorem Laced.exists_tail (h : Laced marker word w) : ∃ rest, w = word.headD '<' :: rest := by
  cases h with
  | single c => exact ⟨[], rfl⟩
  | cons c _ _ => exact ⟨_, rfl⟩

theorem apart_of_notMem (h : word.headD '<' ∉ s) : Apart marker word s := by
  constructor
  · intro w hlaced hin
    obtain ⟨rest, rfl⟩ := hlaced.exists_tail
    exact h (hin.subset (.head _))
  · intro front back hlaced hfront _ hend
    obtain ⟨rest, heq⟩ := hlaced.exists_tail
    obtain ⟨c, front, rfl⟩ := List.exists_cons_of_ne_nil hfront
    exact h ((List.cons.inj heq).1 ▸ hend.subset (.head _))

theorem Apart.not_infix_strip (h : Apart marker word s) (hne : word ≠ []) :
    ¬ word <:+: strip marker s := by
  intro hin
  obtain ⟨w, rest, hsuffix, hlaced, -⟩ := exists_laced_of_infix_strip hne hin
  exact h.free w hlaced ((List.prefix_append w rest).isInfix.trans hsuffix.isInfix)

end MarkdownPages.Marker
