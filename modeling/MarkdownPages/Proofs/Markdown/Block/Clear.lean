import MarkdownPages.Proofs.Link.Clear
import MarkdownPages.Proofs.Markdown.Block.Flanked

/-!
# Blocks of clear sources

No word comes together when lines are taken apart: it stands within a line, behind its lead.  Raw HTML
ends with a line feed, or it ends as the source does.
-/

namespace MarkdownPages.Markdown

open Text Link LinkStyle MarkdownPages.Marker

variable {word s t : Text} {l : Line} {ls : List Line} {column : Nat}

/-! ## Lines -/

structure ClearLine (word : Text) (l : Line) : Prop where
  lead : '<' ∉ l.lead
  body : Clear defaultMarker word l.body
  stopped : l.ended = false → Stopped defaultMarker word l.body

theorem clearLine_ofText {ended : Bool} (hclear : Clear defaultMarker word s)
    (hstopped : ended = false → Stopped defaultMarker word s) :
    ClearLine word (Line.ofText s ended) where
  lead := fun hmem => absurd (List.mem_takeWhile_imp (p := isIndent) hmem) (by decide)
  body := clear_of_part hclear (List.dropWhile_suffix _).isInfix
  stopped := fun hended => stopped_of_suffix (hstopped hended) (List.dropWhile_suffix _)

theorem clearLines_go {parts : List Text} (hclear : ∀ part ∈ parts, Clear defaultMarker word part)
    (hstopped : ∀ part ∈ parts.getLast?, Stopped defaultMarker word part) :
    AllLines (ClearLine word) (lines.go parts) := by
  fun_induction lines.go parts with
  | case1 => exact allLines_nil
  | case2 => exact allLines_nil
  | case3 last _ =>
      have hline : ClearLine word (Line.ofText last false) :=
        clearLine_ofText (hclear last (.head _)) fun _ => hstopped last rfl
      exact ⟨List.forall_mem_singleton.mpr hline, List.pairwise_singleton _ _⟩
  | case4 part parts hmore ih =>
      rw [List.forall_mem_cons] at hclear
      have hline : ClearLine word (Line.ofText part true) :=
        clearLine_ofText hclear.1 (fun hended => by cases hended)
      have hrest : AllLines (ClearLine word) (lines.go parts) := by
        refine ih hclear.2 fun last hlast => hstopped last ?_
        cases parts with
        | nil => cases hlast
        | cons next parts => rwa [List.getLast?_cons_cons]
      exact ⟨List.forall_mem_cons.mpr ⟨hline, hrest.each⟩,
        List.pairwise_cons.mpr ⟨fun _ _ => rfl, hrest.ended⟩⟩

theorem clearLines_lines (hclear : Clear defaultMarker word s)
    (hstopped : Stopped defaultMarker word s) :
    AllLines (ClearLine word) (lines s) := by
  rw [← (List.intercalate_splitOn '\n' : _ = s)] at hclear hstopped
  refine clearLines_go (fun part hpart => ?_) fun part hpart => ?_
  · exact clear_of_part hclear (infix_intercalate hpart)
  · exact stopped_of_suffix hstopped (suffix_intercalate hpart)

theorem ClearLine.of_suffix {l' : Line} (h : ClearLine word l) (hlead : '<' ∉ l'.lead)
    (hbody : l'.body <:+ l.body) (hended : l'.ended = l.ended) : ClearLine word l' where
  lead := hlead
  body := clear_of_part h.body hbody.isInfix
  stopped := fun hnot => stopped_of_suffix (h.stopped (hended ▸ hnot)) hbody

theorem clearLine_unquote (hquote : isQuote l = true) (h : ClearLine word l) :
    ClearLine word (unquote l) := by
  obtain ⟨inside, hbody⟩ : ∃ inside, l.body = '>' :: inside := by
    rw [isQuote, beq_iff_eq] at hquote
    exact List.head?_eq_some_iff.mp hquote
  obtain ⟨gap, rest, rfl, -, hlead, hrest⟩ := exists_unquote_eq hbody
  refine h.of_suffix ?_ ?_ rfl
  · rw [hlead]
    exact fun hmem => absurd (List.mem_takeWhile_imp (p := isIndent) hmem) (by decide)
  · rw [hrest, hbody]
    exact (List.dropWhile_suffix _).trans ((List.suffix_append gap rest).trans (List.suffix_cons _ _))

theorem clearLine_openItem {marker : Marker} (hmarker : marker.Starts l.body) (h : ClearLine word l) :
    ClearLine word (openItem marker l).2 := by
  refine h.of_suffix ?_ ((List.dropWhile_suffix _).trans (List.drop_suffix _ _)) rfl
  intro hmem
  rcases List.mem_append.mp hmem with hmem | hmem
  · rcases List.mem_append.mp hmem with hmem | hmem
    · exact h.lead hmem
    · rcases mem_take_of_starts hmarker hmem with hdigit | hsign
      · exact absurd hdigit (by decide)
      · exact absurd hsign (by decide)
  · exact absurd (List.mem_takeWhile_imp (p := isIndent) hmem) (by decide)

/-! ## Texts -/

theorem prefix_dropEnd (p : Char → Bool) (s : Text) : (s.reverse.dropWhile p).reverse <+: s := by
  rw [← List.reverse_suffix, List.reverse_reverse]
  exact List.dropWhile_suffix p

theorem infix_trimMargins (s : Text) : trimMargins s <:+: s :=
  (prefix_dropEnd _ _).isInfix.trans (List.dropWhile_suffix _).isInfix

theorem prefix_dropClosingMarks (s : Text) : dropClosingMarks s <+: s := by
  have hindent : trimIndentEnd s <+: s := prefix_dropEnd _ _
  unfold dropClosingMarks
  dsimp only
  split
  · split
    · exact (prefix_dropEnd _ _).trans hindent
    · exact hindent
  · exact hindent

theorem infix_of_readHeading? {level : Nat} {content : Text}
    (h : readHeading? s = some (level, content)) : content <:+: s := by
  simp only [readHeading?, Option.ite_none_right_eq_some, Option.some.injEq, Prod.mk.injEq] at h
  obtain ⟨-, -, rfl⟩ := h
  exact (infix_trimMargins _).trans
    ((prefix_dropClosingMarks _).isInfix.trans (List.drop_suffix _ _).isInfix)

variable (hword : IsTagWord word)
include hword

omit hword in
theorem ClearLine.lt_notMem_dropColumns (h : ClearLine word l) (shift columns column : Nat) :
    '<' ∉ Line.dropColumns shift columns column l.lead := by
  intro hmem
  rcases mem_dropColumns hmem with heq | hmem
  · exact absurd heq (by decide)
  · exact h.lead hmem

theorem ClearLine.dedent (h : ClearLine word l) (column : Nat) :
    Clear defaultMarker word (l.dedent column) :=
  clear_append_of_notMem hword (h.lt_notMem_dropColumns _ _ _) h.body

theorem clear_dedentBetween (h : ∀ l ∈ ls, ClearLine word l) :
    Clear defaultMarker word (dedentBetween column ls) := by
  unfold dedentBetween
  induction ls with
  | nil => exact clear_of_notMem hword (by simp)
  | cons l ls ih =>
      rw [List.forall_mem_cons] at h
      cases ls with
      | nil => simpa using h.1.dedent hword column
      | cons next ls =>
          rw [List.map_cons, List.intercalate_cons_of_ne_nil (by simp), List.append_assoc]
          exact clear_append_cons hword (by decide) (h.1.dedent hword column) (ih h.2)

theorem clear_dedentAll (h : AllLines (ClearLine word) ls) :
    Clear defaultMarker word (dedentAll column ls) ∧
      Stopped defaultMarker word (dedentAll column ls) := by
  induction ls with
  | nil =>
      exact ⟨clear_of_notMem hword (by simp [dedentAll]),
        stopped_of_last hword (by simp [dedentAll])⟩
  | cons l ls ih =>
      have hl : ClearLine word l := h.each l (.head _)
      obtain ⟨hclear, hstopped⟩ := ih h.tail
      have hall : dedentAll column (l :: ls) =
          l.dedent column ++ ((if l.ended then ['\n'] else []) ++ dedentAll column ls) := by
        simp [dedentAll]
      rw [hall]
      split
      · have hend : ∀ c ∈ (l.dedent column ++ ['\n']).getLast?, c ∈ '>' :: sourceChars := by
          rw [List.getLast?_concat]
          exact fun c hc => Option.some.inj hc ▸ by decide
        refine ⟨clear_append_cons hword (by decide) (hl.dedent hword column) hclear, ?_⟩
        rw [← List.append_assoc]
        exact stopped_append_of_last hword hend hstopped
      · rename_i hended
        cases ls with
        | nil =>
            have hbody := hl.stopped (Bool.eq_false_iff.mpr hended)
            have hline := stopped_append_of_notMem hword (hl.lt_notMem_dropColumns l.base column 0) hbody
            simpa [dedentAll] using ⟨hl.dedent hword column, hline⟩
        | cons next ls => exact absurd ((List.pairwise_cons.mp h.ended).1 next (.head _)) hended

theorem inherited_clear :
    Inherited (ClearLine word) (Apart defaultMarker word) (Clear defaultMarker word) where
  unquote _ hquote h := clearLine_unquote hquote h
  lazy _ h := h.of_suffix h.lead (List.suffix_refl _) rfl
  openItem _ _ hmarker h := clearLine_openItem hmarker h
  html _ _ _ _ _ h := by
    obtain ⟨hclear, hstopped⟩ := clear_dedentAll hword h
    exact apart_of_clear hclear hstopped
  heading _ _ _ hread h := clear_of_part h.body (infix_of_readHeading? hread)
  paragraph _ _ h := clear_of_part (clear_dedentBetween hword h.each) (infix_trimMargins _)

theorem readDocument_clear (hclear : Clear defaultMarker word s)
    (hstopped : Stopped defaultMarker word s) :
    Block.HoldsAll (Apart defaultMarker word) (Clear defaultMarker word) (Clear defaultMarker word)
      (readDocument s).1 :=
  readDocument_inherits (inherited_clear hword) (clearLines_lines hclear hstopped)

end MarkdownPages.Markdown
