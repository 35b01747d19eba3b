import MarkdownPages.Proofs.Link.Grammar

/-!
# Cutting a text at its links

Every text is cut in exactly one way into gaps and links such that no link starts inside a gap.
Writing the links anew keeps the gaps and puts something else for each link of that cut.
-/

namespace MarkdownPages.Link

open Text

/-- A text cut at its links: each link with the gap before it, and the gap at the end. -/
inductive Cut
  | last (gap : Text)
  | next (gap : Text) (link : Link) (rest : Cut)
deriving DecidableEq, Repr

/-- No link starts at a character of `gap` if `rest` follows it. -/
def IsGap (gap rest : Text) : Prop :=
  ∀ before after : Text, gap = before ++ after → after ≠ [] →
    ∀ link : Link, ¬ link.StartsAt (after ++ rest)

namespace Cut

def fill (write : Link → Text) : Cut → Text
  | .last gap => gap
  | .next gap link rest => gap ++ write link ++ rest.fill write

def source (cut : Cut) : Text := cut.fill Link.source

/-- The links of the cut are links, and no link starts inside a gap. -/
def Leftmost : Cut → Prop
  | .last gap => IsGap gap []
  | .next gap link rest =>
    IsGap gap (link.source ++ rest.source) ∧ link.Valid ∧ rest.Leftmost

def cons (c : Char) : Cut → Cut
  | .last gap => .last (c :: gap)
  | .next gap link rest => .next (c :: gap) link rest

@[simp] theorem fill_cons (write : Link → Text) (c : Char) (cut : Cut) :
    (cut.cons c).fill write = c :: cut.fill write := by
  cases cut <;> rfl

end Cut

theorem isGap_nil (rest : Text) : IsGap [] rest := by
  intro before after h hne
  exact absurd (List.append_eq_nil_iff.mp h.symm).2 hne

theorem IsGap.cons {c : Char} {gap rest : Text} (h : IsGap gap rest)
    (hstart : ∀ link : Link, ¬ link.StartsAt (c :: gap ++ rest)) : IsGap (c :: gap) rest := by
  intro before after heq hne link
  cases before with
  | nil =>
      obtain rfl : after = c :: gap := by simpa using heq.symm
      exact hstart link
  | cons d before =>
      simp only [List.cons_append, List.cons.injEq] at heq
      exact h before after heq.2 hne link

namespace Cut

theorem Leftmost.cons {c : Char} {cut : Cut} (h : cut.Leftmost)
    (hstart : ∀ link : Link, ¬ link.StartsAt (c :: cut.source)) : (cut.cons c).Leftmost := by
  cases cut with
  | last gap => exact IsGap.cons h (by simpa [source, fill] using hstart)
  | next gap link rest =>
      refine ⟨IsGap.cons h.1 ?_, h.2⟩
      simpa [source, fill] using hstart

theorem length_fill_le {write write' : Link → Text}
    (h : ∀ link, (write link).length ≤ (write' link).length) (cut : Cut) :
    (cut.fill write).length ≤ (cut.fill write').length := by
  induction cut with
  | last gap => exact Nat.le_refl _
  | next gap link rest ih =>
      have hlink := h link
      simp only [fill, List.length_append]
      omega

end Cut

/-! ## Equations -/

@[simp] theorem replaceWith_nil (write : Link → Text) : replaceWith write [] = [] := by
  simp [replaceWith]

theorem replaceWith_link (write : Link → Text) {rest after : Text} {link : Link}
    (h : readAfterBracket? rest = some (link, after)) :
    replaceWith write ('[' :: rest) = write link ++ replaceWith write after := by
  rw [replaceWith, if_pos rfl]
  split
  · rename_i link' after' h'
    rw [h] at h'
    obtain ⟨rfl, rfl⟩ := Prod.mk.inj (Option.some.inj h')
    rfl
  · simp_all

theorem replaceWith_bracket (write : Link → Text) {rest : Text}
    (h : readAfterBracket? rest = none) :
    replaceWith write ('[' :: rest) = '[' :: replaceWith write rest := by
  rw [replaceWith, if_pos rfl]
  split
  · simp_all
  · rfl

theorem replaceWith_char (write : Link → Text) {c : Char} (hc : c ≠ '[') (rest : Text) :
    replaceWith write (c :: rest) = c :: replaceWith write rest := by
  rw [replaceWith, if_neg hc]

theorem replaceWith_append_of_notMem (write : Link → Text) {gap : Text} (h : '[' ∉ gap) (rest : Text) :
    replaceWith write (gap ++ rest) = gap ++ replaceWith write rest := by
  induction gap with
  | nil => rfl
  | cons c gap ih =>
      rw [List.mem_cons, not_or] at h
      rw [List.cons_append, replaceWith_char write (Ne.symm h.1), ih h.2, List.cons_append]

theorem replaceWith_source_append (write : Link → Text) {link : Link} (h : link.Valid)
    (rest : Text) :
    replaceWith write (link.source ++ rest) = write link ++ replaceWith write rest := by
  have hread : readAfterBracket? ((link.source ++ rest).drop 1) = some (link, rest) :=
    readAfterBracket?_eq_some_iff.mpr ⟨h, rfl⟩
  exact replaceWith_link write hread

/-! ## Existence -/

theorem exists_cut (s : Text) :
    ∃ cut : Cut, cut.Leftmost ∧ cut.source = s ∧ ∀ write, replaceWith write s = cut.fill write := by
  -- The cut does not depend on `write`, so the recursion is followed for one that drops all links.
  fun_induction replaceWith (fun _ => []) s with
  | case1 => exact ⟨.last [], isGap_nil [], rfl, fun write => replaceWith_nil write⟩
  | case2 rest link after hread _ ih =>
      obtain ⟨cut, hleftmost, hsource, hfill⟩ := ih
      obtain ⟨hvalid, hrest⟩ := readAfterBracket?_eq_some_iff.mp hread
      refine ⟨.next [] link cut, ⟨isGap_nil _, hvalid, hleftmost⟩, ?_, fun write => ?_⟩
      · rw [hrest, ← hsource]
        rfl
      · rw [replaceWith_link write hread, hfill]
        rfl
  | case3 rest hread ih =>
      obtain ⟨cut, hleftmost, hsource, hfill⟩ := ih
      refine ⟨cut.cons '[', hleftmost.cons ?_, ?_, fun write => ?_⟩
      · rw [hsource]
        exact readAfterBracket?_eq_none_iff.mp hread
      · simp [Cut.source, ← hsource]
      · rw [replaceWith_bracket write hread, hfill, Cut.fill_cons]
  | case4 c rest hc ih =>
      obtain ⟨cut, hleftmost, hsource, hfill⟩ := ih
      refine ⟨cut.cons c, hleftmost.cons ?_, ?_, fun write => ?_⟩
      · exact not_startsAt_cons hc _
      · simp [Cut.source, ← hsource]
      · rw [replaceWith_char write hc, hfill, Cut.fill_cons]

/-! ## Texts without links -/

def Linkless (s : Text) : Prop :=
  ∀ start : Text, start <:+ s → ∀ link : Link, ¬ link.StartsAt start

theorem startsAt_source_append {link : Link} (h : link.Valid) (rest : Text) :
    link.StartsAt (link.source ++ rest) := ⟨h, List.prefix_append _ _⟩

theorem Cut.Leftmost.linkless_iff {cut : Cut} (h : cut.Leftmost) :
    Linkless cut.source ↔ ∃ gap, cut = .last gap := by
  constructor
  · intro hlinkless
    cases cut with
    | last gap => exact ⟨gap, rfl⟩
    | next gap link rest =>
        have hstart := startsAt_source_append h.2.1 rest.source
        exact absurd hstart (hlinkless _ ⟨gap, by simp [Cut.source, Cut.fill]⟩ link)
  · rintro ⟨gap, rfl⟩ start ⟨before, heq⟩ link hstart
    obtain ⟨rest, rfl⟩ := hstart.exists_tail
    exact h before _ heq.symm (by simp) link (by simpa using hstart)

/-! ## Uniqueness -/

private theorem IsGap.length_le {gap other rest : Text} {link : Link} {after : Text}
    (h : IsGap other rest) (hvalid : link.Valid)
    (heq : gap ++ (link.source ++ after) = other ++ rest) : other.length ≤ gap.length := by
  -- A gap that ends before a link is no longer than another gap of the same text.
  by_contra hlt
  obtain ⟨tail, rfl⟩ : gap <+: other :=
    List.prefix_of_prefix_length_le ⟨_, rfl⟩ ⟨rest, heq.symm⟩ (by omega)
  have htail : tail ≠ [] := by
    rintro rfl
    simp at hlt
  have hstart := startsAt_source_append hvalid after
  rw [List.append_assoc, List.append_cancel_left_eq] at heq
  rw [heq] at hstart
  exact h gap tail rfl htail link hstart

theorem IsGap.ne_append_source {gap front after : Text} {link : Link} (h : IsGap gap [])
    (hvalid : link.Valid) : gap ≠ front ++ (link.source ++ after) := by
  intro heq
  have hlength := h.length_le hvalid (heq.symm.trans (List.append_nil gap).symm)
  have hlengths := congrArg List.length heq
  simp [Link.source] at hlengths
  omega

theorem Cut.Leftmost.eq_of_source_eq {cut other : Cut} (h : cut.Leftmost) (hother : other.Leftmost)
    (heq : cut.source = other.source) : cut = other := by
  induction cut generalizing other with
  | last gap =>
      cases other with
      | last gap' => exact congrArg Cut.last heq
      | next gap' link rest =>
          have hgap : IsGap gap [] := h
          have hsource : gap = gap' ++ (link.source ++ rest.source) := by
            simpa [Cut.source, Cut.fill] using heq
          exact absurd hsource (hgap.ne_append_source hother.2.1)
  | next gap link rest ih =>
      obtain ⟨hgap, hvalid, hrest⟩ := h
      have hsource : gap ++ (link.source ++ rest.source) = other.source := by
        simpa [Cut.source, Cut.fill] using heq
      cases other with
      | last gap' =>
          have hgap' : IsGap gap' [] := hother
          exact absurd hsource.symm (hgap'.ne_append_source hvalid)
      | next gap' link' rest' =>
          obtain ⟨hgap', hvalid', hrest'⟩ := hother
          have hsource' : gap ++ (link.source ++ rest.source) =
              gap' ++ (link'.source ++ rest'.source) :=
            hsource.trans (by simp [Cut.source, Cut.fill])
          -- Neither gap reaches into the link behind the other one.
          have hlength : gap.length = gap'.length :=
            Nat.le_antisymm (hgap.length_le hvalid' hsource'.symm) (hgap'.length_le hvalid hsource')
          obtain ⟨rfl, htail⟩ := List.append_inj hsource' hlength
          have hlink : link = link' :=
            subsingleton_startsAt _ (startsAt_source_append hvalid rest.source)
              (htail ▸ startsAt_source_append hvalid' rest'.source)
          subst link'
          rw [ih hrest hrest' (List.append_cancel_left htail)]

theorem Cut.Leftmost.forall_iff {p : Cut → Prop} {cut : Cut} (h : cut.Leftmost) :
    (∀ other : Cut, other.Leftmost → other.source = cut.source → p other) ↔ p cut := by
  constructor
  · intro hall
    exact hall cut h rfl
  · intro hcut other hother hsource
    rwa [hother.eq_of_source_eq h hsource]

theorem Cut.Leftmost.replaceWith_source {cut : Cut} (h : cut.Leftmost) (write : Link → Text) :
    replaceWith write cut.source = cut.fill write := by
  obtain ⟨other, hother, hsource, hfill⟩ := exists_cut cut.source
  rw [hfill, hother.eq_of_source_eq h hsource]

/--
At each place of a text starts at most one link, and replacing links puts placeholders for the
links of the only cut into gaps and links where no link starts inside a gap.
-/
theorem replaceAll_fills_leftmost_cut (style : LinkStyle) (s : Text) :
    (∀ start : Text, start <:+ s → {link : Link | link.StartsAt start}.Subsingleton) ∧
    ∃ cut : Cut, cut.Leftmost ∧ cut.source = s ∧
      replaceAll style s = cut.fill (placeholder style) ∧
      ∀ other : Cut, other.Leftmost → other.source = s → other = cut := by
  refine ⟨fun start _ => subsingleton_startsAt start, ?_⟩
  obtain ⟨cut, hleftmost, hsource, hfill⟩ := exists_cut s
  exact ⟨cut, hleftmost, hsource, hfill (placeholder style),
    fun other hother hs => hother.eq_of_source_eq hleftmost (hs.trans hsource.symm)⟩

end MarkdownPages.Link
