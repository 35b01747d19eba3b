import MarkdownPages.Proofs.Link.Guard
import MarkdownPages.Proofs.Link.LineEnds

/-!
# Where brackets close

An opening bracket starts a link if it closes before a parenthesis that closes in its turn.  In a
gap of a text no bracket does, and none would if something else stood for the link behind the gap:
what is still open before a link closes in it.
-/

namespace MarkdownPages.Link

open Text

variable {close c : Char} {s t u rest rest' gap out : Text} {link : Link}

/-! ## Sequences of units -/

theorem Units.append (hs : Units close s) (ht : Units close t) : Units close (s ++ t) := by
  induction hs with
  | nil => exact ht
  | pair hline _ ih => exact .pair hline ih
  | char hbackslash hclose hline _ ih => exact .char hbackslash hclose hline ih

theorem Units.behind (h : Units close (s ++ c :: t)) (hc : c ≠ '\\') : Units close t := by
  generalize heq : s ++ c :: t = u at h
  induction h generalizing s with
  | nil => simp at heq
  | pair _ hrest ih =>
      rcases s with - | ⟨d, - | ⟨e, s⟩⟩
      · exact absurd (List.cons.inj heq).1 hc
      · obtain ⟨-, hpair⟩ := List.cons.inj heq
        exact (List.cons.inj hpair).2 ▸ hrest
      · exact ih (List.cons.inj (List.cons.inj heq).2).2
  | char _ _ _ hrest ih =>
      cases s with
      | nil => exact (List.cons.inj heq).2 ▸ hrest
      | cons d s => exact ih (List.cons.inj heq).2

theorem Units.change_rest (h : Units close (s ++ t)) (hbackslash : c ≠ '\\') (hclose : c ≠ close)
    (hline : c ≠ '\n') (hu : Units close u) : Units close (s ++ c :: u) := by
  -- The start of a sequence of units may go on in another way.
  generalize heq : s ++ t = v at h
  induction h generalizing s with
  | nil =>
      obtain rfl : s = [] := (List.append_eq_nil_iff.mp heq).1
      exact .char hbackslash hclose hline hu
  | pair hpair _ ih =>
      rcases s with - | ⟨d, - | ⟨e, s⟩⟩
      · exact .char hbackslash hclose hline hu
      · obtain rfl := (List.cons.inj heq).1
        exact .pair hline hu
      · obtain ⟨rfl, hpairEq⟩ := List.cons.inj heq
        obtain ⟨rfl, htail⟩ := List.cons.inj hpairEq
        exact .pair hpair (ih htail)
  | char hbackslash' hclose' hline' _ ih =>
      cases s with
      | nil => exact .char hbackslash hclose hline hu
      | cons d s =>
          obtain ⟨rfl, htail⟩ := List.cons.inj heq
          exact .char hbackslash' hclose' hline' (ih htail)

theorem Units.head?_ne (hclose : close ≠ '\\') (h : Units close s) : s.head? ≠ some close := by
  cases h with
  | nil => simp
  | pair => simpa using Ne.symm hclose
  | char _ hother => simpa using hother

theorem head?_append_ne_iff (hclose : close ≠ '\\') (h : Units close s) :
    (s ++ close :: rest).head? ≠ some close ↔ s ≠ [] := by
  constructor
  · rintro hhead rfl
    exact hhead rfl
  · intro hne
    rw [List.head?_append_of_ne_nil s hne]
    exact h.head?_ne hclose

/-! ## Closing brackets -/

/-- A sequence of units at the start of `s` is closed by the bracket, and `rest` follows. -/
def Closes (close : Char) (s rest : Text) : Prop :=
  ∃ units, Units close units ∧ s = units ++ close :: rest

theorem Closes.unique (hclose : close ≠ '\\') (h : Closes close s rest)
    (h' : Closes close s rest') : rest = rest' := by
  obtain ⟨units, hunits, rfl⟩ := h
  obtain ⟨units', hunits', heq⟩ := h'
  have hread := readUnits?_of_units hclose hunits rest
  rw [heq, readUnits?_of_units hclose hunits' rest'] at hread
  exact (congrArg Prod.snd (Option.some.inj hread)).symm

theorem Closes.append (h : Closes close s rest) (t : Text) : Closes close (s ++ t) (rest ++ t) := by
  obtain ⟨units, hunits, rfl⟩ := h
  exact ⟨units, hunits, by rw [List.append_assoc, List.cons_append]⟩

theorem Closes.head?_append (h : Closes close s rest) (t : Text) : (s ++ t).head? = s.head? := by
  obtain ⟨units, -, rfl⟩ := h
  cases units <;> rfl

theorem closes_pair_iff (hclose : close ≠ '\\') (hline : c ≠ '\n') :
    Closes close ('\\' :: c :: s) rest ↔ Closes close s rest := by
  constructor
  · rintro ⟨units, hunits, heq⟩
    cases hunits with
    | nil => exact absurd (List.cons.inj heq).1.symm hclose
    | pair _ hrest => exact ⟨_, hrest, (List.cons.inj (List.cons.inj heq).2).2⟩
    | char hbackslash => exact absurd (List.cons.inj heq).1.symm hbackslash
  · rintro ⟨units, hunits, rfl⟩
    exact ⟨'\\' :: c :: units, .pair hline hunits, rfl⟩

theorem closes_char_iff (hbackslash : c ≠ '\\') (hother : c ≠ close) (hline : c ≠ '\n') :
    Closes close (c :: s) rest ↔ Closes close s rest := by
  constructor
  · rintro ⟨units, hunits, heq⟩
    cases hunits with
    | nil => exact absurd (List.cons.inj heq).1 hother
    | pair => exact absurd (List.cons.inj heq).1 hbackslash
    | char _ _ _ hrest => exact ⟨_, hrest, (List.cons.inj heq).2⟩
  · rintro ⟨units, hunits, rfl⟩
    exact ⟨c :: units, .char hbackslash hother hline hunits, rfl⟩

theorem closes_append_iff (hclose : close ≠ '\\') (hs : Units close s) :
    Closes close (s ++ t) rest ↔ Closes close t rest := by
  induction hs with
  | nil => exact Iff.rfl
  | pair hline _ ih => exact (closes_pair_iff hclose hline).trans ih
  | char hbackslash hother hline _ ih => exact (closes_char_iff hbackslash hother hline).trans ih

theorem Units.not_closes (hclose : close ≠ '\\') (hs : Units close s) : ¬ Closes close s rest := by
  intro h
  rw [← List.append_nil s, closes_append_iff hclose hs] at h
  obtain ⟨units, -, heq⟩ := h
  simp at heq

theorem Units.units_or_closes (h : Units close s) (other : Char) :
    Units other s ∨ ∃ rest, Closes other s rest := by
  induction h with
  | nil => exact .inl .nil
  | @pair c s hline _ ih =>
      rcases ih with hunits | ⟨rest, units, hunits, rfl⟩
      · exact .inl (.pair hline hunits)
      · exact .inr ⟨rest, '\\' :: c :: units, .pair hline hunits, rfl⟩
  | @char c s hbackslash _ hline _ ih =>
      by_cases hc : c = other
      · subst hc
        exact .inr ⟨s, [], .nil, rfl⟩
      · rcases ih with hunits | ⟨rest, units, hunits, rfl⟩
        · exact .inl (.char hbackslash hc hline hunits)
        · exact .inr ⟨rest, c :: units, .char hbackslash hc hline hunits, rfl⟩

theorem Closes.cases_append (h : Closes close (s ++ t) rest) :
    (∃ mid, Closes close s mid ∧ rest = mid ++ t) ∨ ∃ more, Units close (s ++ more) := by
  obtain ⟨units, hunits, heq⟩ := h
  rcases List.append_eq_append_iff.mp heq with ⟨more, rfl, -⟩ | ⟨mid, rfl, hmid⟩
  · exact .inr ⟨more, hunits⟩
  · cases mid with
    | nil => exact .inr ⟨[], by simpa using hunits⟩
    | cons d mid =>
        obtain ⟨rfl, rfl⟩ := List.cons.inj hmid
        exact .inl ⟨mid, ⟨units, hunits, rfl⟩, rfl⟩

/-! ## Links behind their opening bracket -/

/-- Behind an opening bracket, the text goes on to the end of a link: the bracket closes before a
parenthesis that holds something and closes as well. -/
def EndsLink (s : Text) : Prop :=
  ∃ inParens rest, Closes ']' s ('(' :: inParens) ∧ inParens.head? ≠ some ')' ∧
    Closes ')' inParens rest

theorem exists_startsAt_iff :
    (∃ link : Link, link.StartsAt ('[' :: s)) ↔ s.head? ≠ some ']' ∧ EndsLink s := by
  constructor
  · rintro ⟨link, hvalid, rest, hsource⟩
    obtain rfl : link.text ++ ']' :: ('(' :: (link.destination ++ ')' :: rest)) = s := by
      simpa [source] using hsource
    refine ⟨?_, link.destination ++ ')' :: rest, rest, ⟨_, hvalid.text_units, rfl⟩, ?_,
      ⟨_, hvalid.destination_units, rfl⟩⟩
    · exact (head?_append_ne_iff (by decide) hvalid.text_units).mpr hvalid.text_ne_nil
    · exact (head?_append_ne_iff (by decide) hvalid.destination_units).mpr hvalid.destination_ne_nil
  · rintro ⟨hhead, inParens, rest, ⟨text, htext, rfl⟩, hparen, ⟨destination, hdestination, rfl⟩⟩
    have htextNe := (head?_append_ne_iff (by decide) htext).mp hhead
    have hdestinationNe := (head?_append_ne_iff (by decide) hdestination).mp hparen
    refine ⟨⟨text, destination⟩, ⟨htext, htextNe, hdestination, hdestinationNe⟩, rest, ?_⟩
    simp [source]

theorem endsLink_append_iff (hs : Units ']' s) : EndsLink (s ++ t) ↔ EndsLink t := by
  simp only [EndsLink, closes_append_iff (by decide) hs]

/-! ## Gaps -/

theorem isGap_cons_iff :
    IsGap (c :: gap) rest ↔ (∀ link : Link, ¬ link.StartsAt (c :: gap ++ rest)) ∧ IsGap gap rest := by
  constructor
  · intro h
    exact ⟨h [] (c :: gap) rfl (by simp), h.tail⟩
  · rintro ⟨hstart, hgap⟩
    exact hgap.cons hstart

theorem isGap_append_iff : IsGap (s ++ t) rest ↔ IsGap s (t ++ rest) ∧ IsGap t rest := by
  induction s with
  | nil => simp [isGap_nil]
  | cons c s ih =>
      rw [List.cons_append, isGap_cons_iff, isGap_cons_iff, ih, and_assoc, List.cons_append,
        List.cons_append, List.append_assoc]

theorem isGap_of_notMem (h : '[' ∉ gap) (rest : Text) : IsGap gap rest := by
  induction gap with
  | nil => exact isGap_nil rest
  | cons c gap ih =>
      rw [List.mem_cons, not_or] at h
      exact (ih h.2).cons (not_startsAt_cons (Ne.symm h.1) _)

theorem linkless_iff_isGap : Linkless s ↔ IsGap s [] := by
  constructor
  · intro h before after heq _ link
    rw [List.append_nil]
    exact h after ⟨before, heq.symm⟩ link
  · rintro h start ⟨before, heq⟩ link hstart
    obtain ⟨rest, rfl⟩ := hstart.exists_tail
    exact h before _ heq.symm (by simp) link (by simpa using hstart)

theorem isGap_iff : IsGap gap rest ↔ ∀ before inner, gap = before ++ '[' :: inner →
    ¬ ((inner ++ rest).head? ≠ some ']' ∧ EndsLink (inner ++ rest)) := by
  constructor
  · intro h before inner heq hends
    obtain ⟨link, hstart⟩ := exists_startsAt_iff.mpr hends
    exact h before ('[' :: inner) heq (by simp) link hstart
  · intro h before after heq hne link hstart
    obtain ⟨tail, htail⟩ := hstart.exists_tail
    obtain ⟨c, inner, rfl⟩ := List.exists_cons_of_ne_nil hne
    obtain ⟨rfl, rfl⟩ := List.cons.inj htail
    exact h before inner heq (exists_startsAt_iff.mp ⟨link, hstart⟩)

theorem Valid.exists_closes (h : link.Valid) (rest : Text) :
    ∃ units after, Units ')' units ∧ link.source ++ rest = '[' :: (units ++ ')' :: after) := by
  have hsource : link.source ++ rest =
      '[' :: (link.text ++ ']' :: '(' :: (link.destination ++ ')' :: rest)) := by simp [source]
  rcases h.text_units.units_or_closes ')' with hunits | ⟨after, units, hunits, htext⟩
  · have hinside : Units ')' (']' :: '(' :: link.destination) :=
      .char (by decide) (by decide) (by decide)
        (.char (by decide) (by decide) (by decide) h.destination_units)
    refine ⟨link.text ++ ']' :: '(' :: link.destination, rest, hunits.append hinside, ?_⟩
    rw [hsource, List.append_assoc, List.cons_append, List.cons_append]
  · refine ⟨units, after ++ ']' :: '(' :: (link.destination ++ ')' :: rest), hunits, ?_⟩
    rw [hsource, htext, List.append_assoc, List.cons_append]

theorem EndsLink.of_append_lt (hvalid : link.Valid) (h : EndsLink (s ++ '<' :: out)) (rest : Text) :
    EndsLink (s ++ (link.source ++ rest)) := by
  -- A bracket that starts a link where `<` follows would start one where a link follows.
  obtain ⟨inParens, behind, hbracket, hhead, hparen⟩ := h
  rcases hbracket.cases_append with ⟨mid, hmid, heq⟩ | ⟨more, hmore⟩
  · -- The bracket closes before the link, and the parenthesis there or in the link.
    cases mid with
    | nil => exact absurd (List.cons.inj heq).1 (by decide)
    | cons d inside =>
        rw [List.cons_append] at heq
        obtain ⟨rfl, rfl⟩ := List.cons.inj heq
        have hheads : (inside ++ (link.source ++ rest)).head? ≠ some ')' := by
          cases inside with
          | nil => simp [source]
          | cons e inside => exact hhead
        rcases hparen.cases_append with ⟨after, hafter, -⟩ | ⟨more, hmore⟩
        · exact ⟨inside ++ (link.source ++ rest), _, hmid.append _, hheads, hafter.append _⟩
        · obtain ⟨units, after, hunits, hlink⟩ := hvalid.exists_closes rest
          have hall := hmore.change_rest (by decide : '[' ≠ '\\') (by decide) (by decide) hunits
          refine ⟨inside ++ (link.source ++ rest), after, hmid.append _, hheads,
            inside ++ '[' :: units, hall, ?_⟩
          rw [hlink, List.append_assoc, List.cons_append]
  · -- The bracket closes with the one of the link.
    have hall := hmore.change_rest (by decide : '[' ≠ '\\') (by decide) (by decide) hvalid.text_units
    refine ⟨link.destination ++ ')' :: rest, rest, ⟨s ++ '[' :: link.text, hall, ?_⟩, ?_,
      ⟨_, hvalid.destination_units, rfl⟩⟩
    · simp [source]
    · exact (head?_append_ne_iff (by decide) hvalid.destination_units).mpr hvalid.destination_ne_nil

theorem IsGap.before_lt (h : IsGap gap (link.source ++ rest)) (hvalid : link.Valid) (out : Text) :
    IsGap gap ('<' :: out) := by
  rw [isGap_iff] at h ⊢
  rintro before inner heq ⟨hhead, hends⟩
  refine h before inner heq ⟨?_, hends.of_append_lt hvalid rest⟩
  cases inner with
  | nil => simp [source]
  | cons c inner => exact hhead

end MarkdownPages.Link
