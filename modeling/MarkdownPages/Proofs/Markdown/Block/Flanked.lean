import Mathlib.Data.List.TakeWhile
import MarkdownPages.Proofs.Link.Flanked
import MarkdownPages.Proofs.Markdown.Block.Inherited
import MarkdownPages.Proofs.Text.Parts

/-!
# Blocks of flanked sources

The marks of blocks hold no angle brackets but the `>` of a quote, and no letters.  So the texts of
the blocks keep the neighbours of their marker tags.
-/

namespace MarkdownPages.Markdown

open Text Link

variable {s t : Text} {l : Line} {ls : List Line} {c : Char}

/-! ## Lines -/

/-- The lead of a line holds no angle brackets, and its body has tags with their neighbours. -/
structure FlankedLine (l : Line) : Prop where
  lead : ∀ c ∈ l.lead, c ≠ '<' ∧ c ≠ '>'
  body : Flanked l.body

theorem flanked_of_intercalate {parts : List Text} (h : Flanked (['\n'].intercalate parts)) :
    ∀ part ∈ parts, Flanked part := by
  induction parts with
  | nil => simp
  | cons part parts ih =>
      cases parts with
      | nil => simpa using h
      | cons next parts =>
          have hjoined : Flanked (part ++ '\n' :: ['\n'].intercalate (next :: parts)) := by
            simpa using h
          have hbehind : Flanked (['\n'].intercalate (next :: parts)) := by
            rw [List.append_cons] at hjoined
            exact hjoined.of_append_right_of_last (by simp)
          refine List.forall_mem_cons.mpr ⟨?_, ih hbehind⟩
          exact hjoined.of_append_left (by simp)

theorem isIndent_iff : isIndent c = true ↔ c = ' ' ∨ c = '\t' := by
  simp [isIndent]

theorem flankedLine_ofText (h : Flanked s) (ended : Bool) : FlankedLine (Line.ofText s ended) := by
  constructor
  · intro c hc
    have hindent := List.mem_takeWhile_imp (p := isIndent) hc
    rcases isIndent_iff.mp hindent with rfl | rfl <;> decide
  · rw [← List.takeWhile_append_dropWhile (p := isIndent) (l := s)] at h
    refine h.of_append_right_of_notMem fun hmem => ?_
    have hindent := List.mem_takeWhile_imp (p := isIndent) hmem
    exact absurd hindent (by decide)

theorem allLines_go {parts : List Text} (h : ∀ part ∈ parts, Flanked part) :
    AllLines FlankedLine (lines.go parts) := by
  fun_induction lines.go parts with
  | case1 => exact allLines_nil
  | case2 => exact allLines_nil
  | case3 last _ => exact ⟨by simpa using flankedLine_ofText (h last (.head _)) false, by simp⟩
  | case4 part parts _ ih =>
      rw [List.forall_mem_cons] at h
      have hrest := ih h.2
      exact ⟨List.forall_mem_cons.mpr ⟨flankedLine_ofText h.1 true, hrest.each⟩,
        List.pairwise_cons.mpr ⟨fun _ _ => rfl, hrest.ended⟩⟩

theorem allLines_lines (h : Flanked s) : AllLines FlankedLine (lines s) := by
  rw [← (List.intercalate_splitOn '\n' : _ = s)] at h
  exact allLines_go (flanked_of_intercalate h)

theorem exists_unquote_eq {inside : Text} (hbody : l.body = '>' :: inside) :
    ∃ gap rest, inside = gap ++ rest ∧ gap.all isIndent = true ∧
      (unquote l).lead = rest.takeWhile isIndent ∧ (unquote l).body = rest.dropWhile isIndent := by
  -- Behind the mark of a quote at most one more character is dropped, which is indentation.
  unfold unquote
  simp only [hbody, List.drop_succ_cons, List.drop_zero]
  split
  · rename_i rest
    exact ⟨[' '], rest, rfl, rfl, rfl, rfl⟩
  · rename_i rest
    split
    · exact ⟨['\t'], rest, rfl, rfl, rfl, rfl⟩
    · exact ⟨[], '\t' :: rest, rfl, rfl, rfl, rfl⟩
  · exact ⟨[], inside, rfl, rfl, rfl, rfl⟩

theorem notMem_of_all_isIndent (h : s.all isIndent = true) (hc : isIndent c = false) : c ∉ s := by
  intro hmem
  have hindent := List.all_eq_true.mp h c hmem
  simp [hc] at hindent

theorem flankedLine_unquote (hquote : isQuote l = true) (h : FlankedLine l) :
    FlankedLine (unquote l) := by
  obtain ⟨inside, hbody⟩ : ∃ inside, l.body = '>' :: inside := by
    rw [isQuote, beq_iff_eq] at hquote
    exact List.head?_eq_some_iff.mp hquote
  obtain ⟨gap, rest, rfl, hgap, hlead, hrest⟩ := exists_unquote_eq hbody
  have hflanked : Flanked rest := by
    have hall := h.body
    rw [hbody, ← List.cons_append] at hall
    refine hall.of_append_right_of_notMem ?_
    simpa using notMem_of_all_isIndent hgap (by decide)
  have hline := flankedLine_ofText hflanked false
  exact ⟨hlead ▸ hline.lead, hrest ▸ hline.body⟩

theorem mem_take_of_starts {marker : Marker} (hmarker : marker.Starts s)
    (hc : c ∈ s.take marker.length) : c.isDigit = true ∨ c ∈ ['.', ')', '*', '-', '+'] := by
  rcases hmarker with hordered | hbullet
  · unfold Marker.ordered? at hordered
    simp only at hordered
    split at hordered
    · rename_i sign rest heq
      split at hordered
      · rename_i hfound
        obtain rfl := Option.some.inj hordered
        have hdigits : ∀ d ∈ s.takeWhile Char.isDigit, d.isDigit = true := fun d hd =>
          List.mem_takeWhile_imp hd
        have hs := List.take_append_drop (s.takeWhile Char.isDigit).length s
        rw [heq, ← List.prefix_iff_eq_take.mp (List.takeWhile_prefix Char.isDigit)] at hs
        generalize s.takeWhile Char.isDigit = digits at hdigits hs hc
        rw [← hs, List.take_length_add_append, List.take_succ_cons, List.take_zero,
          List.mem_append, List.mem_singleton] at hc
        rcases hc with hc | rfl
        · exact .inl (hdigits c hc)
        · refine .inr ?_
          rcases hfound.2.2.1 with rfl | rfl <;> simp
      · simp at hordered
    · simp at hordered
  · unfold Marker.bullet? at hbullet
    split at hbullet
    · split at hbullet
      · rename_i hfound
        obtain rfl := Option.some.inj hbullet
        simp at hc
        subst hc
        refine .inr ?_
        simp
        tauto
      · simp at hbullet
    · simp at hbullet

theorem flankedLine_openItem {marker : Marker} (hmarker : marker.Starts l.body)
    (h : FlankedLine l) : FlankedLine (openItem marker l).2 := by
  have hchars : ∀ c ∈ l.body.take marker.length, c ≠ '<' ∧ c ≠ '>' ∧ c ≠ 'k' := by
    intro c hc
    rcases mem_take_of_starts hmarker hc with hdigit | hsign
    · refine ⟨?_, ?_, ?_⟩ <;> rintro rfl <;> exact absurd hdigit (by decide)
    · have hall : ∀ c ∈ ['.', ')', '*', '-', '+'], c ≠ '<' ∧ c ≠ '>' ∧ c ≠ 'k' := by decide
      exact hall c hsign
  have hflanked : Flanked (l.body.drop marker.length) := by
    have hall := h.body
    rw [← List.take_append_drop marker.length l.body] at hall
    exact hall.of_append_right_of_notMem fun hmem => (hchars _ hmem).2.2 rfl
  have hline := flankedLine_ofText hflanked false
  refine ⟨fun c hc => ?_, hline.body⟩
  rcases List.mem_append.mp hc with hc | hc
  · rcases List.mem_append.mp hc with hc | hc
    · exact h.lead c hc
    · exact ⟨(hchars c hc).1, (hchars c hc).2.1⟩
  · exact hline.lead c hc

/-! ## Texts -/

theorem flanked_dropWhile {p : Char → Bool} (hk : p 'k' = false) (h : Flanked s) :
    Flanked (s.dropWhile p) := by
  rw [← List.takeWhile_append_dropWhile (p := p) (l := s)] at h
  refine h.of_append_right_of_notMem fun hmem => ?_
  simp [List.mem_takeWhile_imp hmem] at hk

theorem flanked_dropEnd {p : Char → Bool} (hopen : p '<' = false) (ha : p 'a' = false)
    (h : Flanked s) : Flanked (s.reverse.dropWhile p).reverse := by
  have hs : s = (s.reverse.dropWhile p).reverse ++ (s.reverse.takeWhile p).reverse := by
    rw [← List.reverse_append, List.takeWhile_append_dropWhile, List.reverse_reverse]
  rw [hs] at h
  refine h.of_append_left fun c hc => ?_
  have hp : p c = true :=
    List.mem_takeWhile_imp (List.mem_reverse.mp (List.mem_of_mem_head? hc))
  constructor <;> rintro rfl
  · simp [hp] at hopen
  · simp [hp] at ha

theorem flanked_trimMargins (h : Flanked s) : Flanked (trimMargins s) :=
  flanked_dropEnd (by decide) (by decide) (flanked_dropWhile (by decide) h)

theorem flanked_of_readHeading? {level : Nat} {content : Text}
    (hread : readHeading? s = some (level, content)) (h : Flanked s) : Flanked content := by
  unfold readHeading? at hread
  simp only [Option.ite_none_right_eq_some, Option.some.injEq, Prod.mk.injEq] at hread
  obtain ⟨-, -, rfl⟩ := hread
  have hrest : Flanked (s.drop (s.takeWhile (· == '#')).length) := by
    have hcut := List.take_append_drop (s.takeWhile (· == '#')).length s
    rw [← List.prefix_iff_eq_take.mp (List.takeWhile_prefix _)] at hcut
    rw [← hcut] at h
    refine h.of_append_right_of_notMem fun hmem => ?_
    exact absurd (List.mem_takeWhile_imp hmem) (by decide)
  generalize s.drop (s.takeWhile (· == '#')).length = rest at hrest
  have htrimmed : Flanked (trimIndentEnd rest) := flanked_dropEnd (by decide) (by decide) hrest
  refine flanked_trimMargins ?_
  unfold dropClosingMarks
  dsimp only
  split
  · split
    · exact flanked_dropEnd (by decide) (by decide) htrimmed
    · exact htrimmed
  · exact htrimmed

theorem mem_dropColumns {shift columns column : Nat} (h : c ∈ Line.dropColumns shift columns column s) :
    c = ' ' ∨ c ∈ s := by
  induction s generalizing column with
  | nil => exact .inl (List.eq_of_mem_replicate h)
  | cons d s ih =>
      rw [Line.dropColumns] at h
      split at h
      · rw [List.mem_append] at h
        exact h.imp_left List.eq_of_mem_replicate
      · exact (ih h).imp_right (List.mem_cons_of_mem _)

theorem FlankedLine.mem_dropColumns (h : FlankedLine l) {shift columns column : Nat}
    (hc : c ∈ Line.dropColumns shift columns column l.lead) : c ≠ '<' ∧ c ≠ '>' := by
  rcases Markdown.mem_dropColumns hc with rfl | hc
  · decide
  · exact h.lead c hc

theorem FlankedLine.dedent (h : FlankedLine l) (column : Nat) : Flanked (l.dedent column) :=
  Flanked.append_of_notMem (fun hmem => (h.mem_dropColumns hmem).1 rfl) h.body

theorem flanked_newline_cons (h : Flanked s) : Flanked ('\n' :: s) :=
  Flanked.append_of_notMem (s := ['\n']) (by decide) h

theorem flanked_dedentAll {column : Nat} (h : AllLines FlankedLine ls) :
    Flanked (dedentAll column ls) := by
  induction ls with
  | nil => exact flanked_of_untagged (Marker.untagged_of_notMem (by simp [dedentAll]))
  | cons l ls ih =>
      have hl := (h.each l (.head _)).dedent column
      have hrest : Flanked (dedentAll column ls) := ih h.tail
      have hall : dedentAll column (l :: ls) =
          l.dedent column ++ ((if l.ended then ['\n'] else []) ++ dedentAll column ls) := by
        simp [dedentAll]
      rw [hall]
      split
      · exact hl.append_cons (flanked_newline_cons hrest) (by decide)
      · rename_i hended
        cases ls with
        | nil => simpa [dedentAll] using hl
        | cons next ls =>
            exact absurd ((List.pairwise_cons.mp h.ended).1 next (.head _)) hended

theorem flanked_dedentBetween {column : Nat} (h : ∀ l ∈ ls, FlankedLine l) :
    Flanked (dedentBetween column ls) := by
  unfold dedentBetween
  induction ls with
  | nil => exact flanked_of_untagged (Marker.untagged_of_notMem (by simp))
  | cons l ls ih =>
      rw [List.forall_mem_cons] at h
      cases ls with
      | nil => simpa using h.1.dedent column
      | cons next ls =>
          rw [List.map_cons, List.intercalate_cons_of_ne_nil (by simp), List.append_assoc]
          exact (h.1.dedent column).append_cons (flanked_newline_cons (ih h.2)) (by decide)

theorem gt_notMem_takeWhile_dedentAll {column : Nat} {kind : Html.BlockKind} (h : FlankedLine l)
    (hkind : Html.BlockKind.ofLine? l.body = some kind) :
    '>' ∉ (dedentAll column (l :: ls)).takeWhile (· != '<') := by
  -- Raw HTML closes no bracket before it has opened one.
  obtain ⟨inside, hbody⟩ : ∃ inside, l.body = '<' :: inside := by
    unfold Html.BlockKind.ofLine? at hkind
    split at hkind
    · exact ⟨_, ‹_›⟩
    · simp at hkind
  have hall : dedentAll column (l :: ls) =
      Line.dropColumns l.base column 0 l.lead ++ ('<' :: (inside ++
        ((if l.ended then ['\n'] else []) ++ dedentAll column ls))) := by
    simp [dedentAll, Line.dedent, hbody]
  rw [hall, List.takeWhile_append_of_pos fun c hc => bne_iff_ne.mpr (h.mem_dropColumns hc).1]
  intro hmem
  simp at hmem
  exact (h.mem_dropColumns hmem).2 rfl

/-! ## Documents -/

/-- Raw HTML that may stand among other texts without closing a tag of theirs. -/
structure FlankedHtml (s : Text) : Prop where
  flanked : Flanked s
  opened : '>' ∉ s.takeWhile (· != '<')

theorem inherited_flanked : Inherited FlankedLine FlankedHtml Flanked where
  unquote _ hquote h := flankedLine_unquote hquote h
  lazy _ h := ⟨h.lead, h.body⟩
  openItem _ _ hmarker h := flankedLine_openItem hmarker h
  html _ _ first _ hkind h :=
    ⟨flanked_dedentAll h, gt_notMem_takeWhile_dedentAll (h.each first (.head _)) hkind⟩
  heading _ _ _ hread h := flanked_of_readHeading? hread h.body
  paragraph _ _ h := flanked_trimMargins (flanked_dedentBetween h.each)

theorem readDocument_flanked (h : Flanked s) :
    Block.HoldsAll FlankedHtml Flanked Flanked (readDocument s).1 :=
  readDocument_inherits inherited_flanked (allLines_lines h)

end MarkdownPages.Markdown
