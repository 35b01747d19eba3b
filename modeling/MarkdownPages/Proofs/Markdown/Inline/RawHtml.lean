import MarkdownPages.Proofs.Html.Tag
import MarkdownPages.Proofs.Markdown.Inline.Run

/-!
# Raw HTML in inline texts

The elements of raw HTML are pieces of the text they are read from: what stands between a `<` and
the place where reading raw HTML stops.
-/

namespace MarkdownPages.Markdown

open Text

variable {s : Source} {defs : Definitions} {skip : Skip} {memo memo' : Memo} {pos after limit : Nat}
variable {content : Text} {e : Inline}

/-- Raw HTML that is read where it stands in a text. -/
def IsRawHtmlOf (text content : Text) : Prop :=
  ∃ word rest, content = '<' :: word ∧ '<' :: (word ++ rest) <:+ text ∧
    Html.dropRaw? (word ++ rest) = some rest

def IsElementOf (text : Text) : Inline → Prop
  | .html content => IsRawHtmlOf text content
  | _ => True

/-! ## Tokens -/

theorem isRawHtmlOf_of_readInlineHtml? (hhead : s[pos]? = some '<')
    (h : readInlineHtml? s limit pos = some (.html content, after)) :
    IsRawHtmlOf s.toList content := by
  unfold readInlineHtml? at h
  split at h
  · simp at h
  · simp only [Source.slice_size, Option.map_eq_some_iff, Prod.mk.injEq, Token.html.injEq] at h
    obtain ⟨rest, hraw, hcontent, -⟩ := h
    obtain ⟨word, hword⟩ : rest <:+ s.toList.drop (pos + 1) :=
      (List.suffix_cons _ _).trans (Html.suffix_of_dropRaw? hraw)
    have hdrop : s.toList.drop pos = '<' :: (word ++ rest) := by
      rw [Source.getElem?_eq] at hhead
      obtain ⟨tail, htail⟩ := List.head?_eq_some_iff.mp hhead
      rw [htail, hword]
      have hnext := congrArg List.tail htail
      rw [List.tail_drop] at hnext
      rw [hnext]
      rfl
    refine ⟨word, rest, ?_, hdrop ▸ List.drop_suffix _ _, hword ▸ hraw⟩
    have hsize := Source.size_eq hdrop (by simp)
    have hstop : s.size - rest.length = pos + ('<' :: word).length := by
      simp only [List.length_cons, List.length_append] at hsize ⊢
      omega
    rw [← hcontent, hstop]
    exact Source.slice_append hdrop

theorem isRawHtmlOf_of_readToken {withMarks : Bool}
    (h : readToken s defs skip withMarks limit memo pos = (some (.html content, after), memo')) :
    IsRawHtmlOf s.toList content := by
  -- The equation goes with the cases, so that each of them says what is read there.
  revert h
  fun_cases readToken s defs skip withMarks limit memo pos <;> intro h
  case case4 =>
    unfold readEscape? at h
    split at h
    · simp at h
    · split at h <;> simp at h
  case case5 found _ hcode _ _ _ _ =>
    obtain rfl : found = (.html content, after) := Option.some.inj (Prod.mk.inj h).1
    unfold readCodeSpan at hcode
    dsimp only at hcode
    split at hcode
    · simp at hcode
    · split at hcode <;> simp at hcode
  case case6 => split at h <;> simp [readMarks] at h
  case case9 hhead _ _ _ _ _ _ _ =>
    simp only [Prod.mk.injEq, Option.orElse_eq_orElse, Option.orElse_eq_or,
      Option.or_eq_some_iff] at h
    rcases h.1 with hauto | ⟨-, hhtml⟩
    · unfold readAutolink? at hauto
      simp only at hauto
      split at hauto
      · obtain ⟨target, -, hauto⟩ := Option.bind_eq_some_iff.mp hauto
        split at hauto <;> simp at hauto
      · simp at hauto
    · exact isRawHtmlOf_of_readInlineHtml? hhead hhtml
  case case10 =>
    split at h
    · simp [readInlineReference?, Option.map_eq_some_iff] at h
    · simp at h
  all_goals simp [Option.map_eq_some_iff] at h

/-! ## Emphasis -/

theorem mem_resolveWith {roles : Roles} {next : Nat} {pieces : List Piece}
    (h : e ∈ resolveWith roles next pieces) :
    Piece.element e ∈ pieces ∨ (∃ c, e = .text [c]) ∨ ∃ mark, (mark, some e) ∈ roles := by
  fun_induction resolveWith roles next pieces with
  | case1 => simp at h
  | case2 next first rest ih =>
      rcases List.mem_cons.mp h with rfl | h
      · exact .inl (.head _)
      · exact (ih h).imp_left (List.mem_cons_of_mem _)
  | case3 next m rest elements ih =>
      rcases List.mem_append.mp h with h | h
      · refine .inr ?_
        simp only [elements] at h
        split at h
        · exact .inl ⟨_, List.mem_singleton.mp h⟩
        · rename_i role hrole
          obtain rfl := Option.mem_toList.mp h
          obtain ⟨_, _, rfl, -⟩ := List.lookup_eq_some_iff.mp hrole
          exact .inr ⟨next, by simp⟩
      · exact (ih h).imp_left (List.mem_cons_of_mem _)

theorem eq_emphasis_of_mem_rolesOf {marks : Array PairedMark} {count mark : Nat}
    (h : (mark, some e) ∈ rolesOf marks count) :
    ∃ strong, e = .emphasisStart strong ∨ e = .emphasisEnd strong := by
  fun_induction rolesOf marks count with
  | case1 => simp at h
  | case2 i _ ih => exact ih h
  | case3 i close _ _ ih => 
      simp only [List.mem_cons, Prod.mk.injEq, Option.some.injEq, reduceCtorEq, and_false,
        false_or] at h
      rcases h with ⟨-, rfl⟩ | ⟨-, rfl⟩ | h
      · exact ⟨true, .inl rfl⟩
      · exact ⟨true, .inr rfl⟩
      · exact ih h
  | case4 i close _ _ ih =>
      simp only [List.mem_cons, Prod.mk.injEq, Option.some.injEq] at h
      rcases h with ⟨-, rfl⟩ | ⟨-, rfl⟩ | h
      · exact ⟨false, .inl rfl⟩
      · exact ⟨false, .inr rfl⟩
      · exact ih h

/-! ## Readings -/

variable {text : Text} {r : Reading} {ps : List Piece}

def ElementsOf (text : Text) (pieces : List Piece) : Prop :=
  ∀ e, .element e ∈ pieces → IsElementOf text e

theorem ElementsOf.cons (h : ElementsOf text ps) (he : IsElementOf text e) :
    ElementsOf text (.element e :: ps) := by
  intro e' he'
  rcases List.mem_cons.mp he' with heq | he'
  · exact Piece.element.inj heq ▸ he
  · exact h e' he'

theorem ElementsOf.flush (h : ElementsOf text r.pieces) : ElementsOf text r.flush.pieces := by
  unfold Reading.flush
  split
  · exact h
  · exact h.cons trivial

theorem ElementsOf.push (h : ElementsOf text r.pieces) (he : IsElementOf text e) :
    ElementsOf text (r.push e).pieces :=
  h.flush.cons he

theorem ElementsOf.pushLineFeed (h : ElementsOf text r.pieces) :
    ElementsOf text r.pushLineFeed.pieces := by
  unfold Reading.pushLineFeed
  split <;> exact ElementsOf.push (r := { r with plain := _ }) h trivial

theorem ElementsOf.pushToken (h : ElementsOf text r.pieces) {readText : SpanReader}
    {describe : Text → Text} {token : Token}
    (hinside : ∀ start stop memo, ∀ e ∈ (readText start stop memo).1, IsElementOf text e)
    (htoken : ∀ content, token = .html content → IsRawHtmlOf text content) :
    ElementsOf text (r.pushToken s readText describe token).pieces := by
  cases token with
  | plain content => exact h
  | lineFeed => exact h.pushLineFeed
  | hardBreak => exact h.push trivial
  | decoded content => exact h.push trivial
  | code content => exact h.push trivial
  | marks mark =>
      intro e he
      rcases List.mem_append.mp he with he | he
      · exact absurd (List.eq_of_mem_replicate he) (by simp)
      · exact h.flush e he
  | link span =>
      intro e he
      rcases List.mem_append.mp he with he | he
      · rcases List.mem_cons.mp he with heq | he
        · exact Piece.element.inj heq ▸ trivial
        · simp only [List.mem_reverse, List.mem_map, Piece.element.injEq, exists_eq_right] at he
          exact hinside _ _ _ e he
      · exact h.push (e := .linkStart span.target) trivial e he
  | image span => exact h.push trivial
  | autolink href shown =>
      exact ((h.push (e := .linkStart ⟨href, []⟩) trivial).push (e := .text shown) trivial).push
        (e := .linkEnd) trivial
  | html content => exact h.push (htoken content rfl)

theorem ElementsOf.elements (h : ElementsOf text r.pieces) :
    ∀ e ∈ r.elements, IsElementOf text e := by
  intro e he
  rcases mem_resolveWith he with he | ⟨c, rfl⟩ | ⟨mark, hmark⟩
  · exact h.flush e (List.mem_reverse.mp he)
  · exact trivial
  · obtain ⟨strong, rfl | rfl⟩ := eq_emphasis_of_mem_rolesOf hmark <;> exact trivial

theorem readSpan_elements (s : Source) (defs : Definitions) (describe : Text → Text) :
    (room : Nat) → ∀ start stop memo, ∀ e ∈ (readSpan s defs describe room start stop memo).1,
      IsElementOf s.toList e
  | 0 => fun _ _ _ => ElementsOf.elements (by intro e he; simp [Reading.pushPlain] at he)
  | room + 1 => fun start stop memo =>
    ElementsOf.elements (readTokens_preserves _ _ _ _ _ _ (P := fun pieces _ => ElementsOf s.toList pieces)
      (fun _ _ _ _ _ _ hread h => h.pushToken (readSpan_elements s defs describe room)
        fun _ heq => isRawHtmlOf_of_readToken (heq ▸ hread))
      (fun _ _ h => h) _ _ _ (by intro e he; simp at he))

theorem readInline_elements (defs : Definitions) (content : Text) :
    ∀ e ∈ readInline defs content, IsElementOf content e := by
  obtain ⟨describe, hread⟩ := readInline_eq_readSpan defs content
  rw [hread]
  exact readSpan_elements content.toArray defs describe maxInlineDepth _ _ _

end MarkdownPages.Markdown
