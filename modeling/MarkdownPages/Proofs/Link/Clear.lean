import MarkdownPages.Proofs.Link.Written
import MarkdownPages.Proofs.Markdown.Source
import MarkdownPages.Proofs.Marker.Apart
import MarkdownPages.Proofs.Marker.Placeholder

/-!
# Tags that links do not bring in

Replacing links brings in no tag whose name the words of the style do not start with, nor a beginning
of it with a marker tag behind, as long as no link stands directly behind such a beginning.
-/

namespace MarkdownPages.Link

open Text Marker LinkStyle

variable {word w s t front back : Text} {c : Char}

def sourceChars : Text := ['\n', '\r', '"', '&', Char.ofNat 0, Html.replacement]

/-- A word that opens a tag whose name starts with `n`, and that has no `<` or `>` inside. -/
structure IsTagWord (word : Text) : Prop where
  name : ['<', 'n'] <+: word ∨ ['<', '/', 'n'] <+: word
  opened : '<' ∉ word.tail
  closed : '>' ∉ word.dropLast
  chars : ∀ c ∈ sourceChars, c ∉ word

instance (word : Text) : Decidable (IsTagWord word) :=
  decidable_of_iff ((['<', 'n'] <+: word ∨ ['<', '/', 'n'] <+: word) ∧ '<' ∉ word.tail ∧
    '>' ∉ word.dropLast ∧ ∀ c ∈ sourceChars, c ∉ word)
    ⟨fun ⟨h₁, h₂, h₃, h₄⟩ => ⟨h₁, h₂, h₃, h₄⟩, fun ⟨h₁, h₂, h₃, h₄⟩ => ⟨h₁, h₂, h₃, h₄⟩⟩

variable (hword : IsTagWord word)
include hword

theorem IsTagWord.exists_tail : ∃ rest, word = '<' :: rest := by
  rcases hword.name with ⟨rest, rfl⟩ | ⟨rest, rfl⟩
  · exact ⟨_, rfl⟩
  · exact ⟨_, rfl⟩

/-! ## The characters of beginnings -/

theorem notMem_of_isBeginning (hfront : IsBeginning defaultMarker word front)
    (hc : c ∈ '>' :: sourceChars) :
    c ∉ front := by
  have htags : ∀ tag, IsTag defaultMarker tag → ∀ c ∈ '>' :: sourceChars, c ∉ tag.dropLast := by
    rintro tag (_ | _) <;> decide
  cases hfront with
  | @word back heq hne hback =>
      intro hmem
      have hinit : c ∈ word.dropLast := by
        rw [heq, List.dropLast_append_of_ne_nil hback]
        exact List.mem_append_left _ hmem
      rcases List.mem_cons.mp hc with rfl | hc
      · exact hword.closed hinit
      · exact hword.chars c hc (List.dropLast_subset _ hinit)
  | @tag back htag hne hback =>
      intro hmem
      refine htags _ htag c hc ?_
      rw [List.dropLast_append_of_ne_nil hback]
      exact List.mem_append_left _ hmem

theorem exists_of_isBeginning (hfront : IsBeginning defaultMarker word front) :
    ∃ rest, front = '<' :: rest := by
  cases hfront with
  | @word back heq hne hback =>
      obtain ⟨rest, hrest⟩ := hword.exists_tail
      obtain ⟨d, front, rfl⟩ := List.exists_cons_of_ne_nil hne
      rw [hrest] at heq
      exact ⟨front, (List.cons.inj heq).1 ▸ rfl⟩
  | @tag back htag hne hback =>
      obtain ⟨inner, heq, -⟩ := htag.exists_inner (by decide)
      obtain ⟨d, front, rfl⟩ := List.exists_cons_of_ne_nil hne
      exact ⟨front, (List.cons.inj heq).1 ▸ rfl⟩

/-! ## What laces a word -/

theorem exists_of_laces (hw : Laces defaultMarker word w) : ∃ rest, w = '<' :: rest := by
  cases hw with
  | word => exact hword.exists_tail
  | @tag front back tag heq hne hback htag =>
      obtain ⟨rest, rfl⟩ := exists_of_isBeginning hword (.word heq hne hback)
      exact ⟨rest ++ tag, rfl⟩

theorem notMem_of_laces (hw : Laces defaultMarker word w) (hc : c ∈ sourceChars) : c ∉ w := by
  have htags : ∀ tag, IsTag defaultMarker tag → ∀ c ∈ sourceChars, c ∉ tag := by
    rintro tag (_ | _) <;> decide
  cases hw with
  | word => exact hword.chars c hc
  | @tag front back tag heq hne hback htag =>
      rw [List.mem_append, not_or]
      exact ⟨notMem_of_isBeginning hword (.word heq hne hback) (List.mem_cons_of_mem _ hc),
        htags tag htag c hc⟩

theorem gt_notMem_of_laces (hw : Laces defaultMarker word w) : '>' ∉ w.dropLast := by
  have htags : ∀ tag, IsTag defaultMarker tag → '>' ∉ tag.dropLast ∧ tag ≠ [] := by
    rintro tag (_ | _) <;> decide
  cases hw with
  | word => exact hword.closed
  | @tag front back tag heq hne hback htag =>
      rw [List.dropLast_append_of_ne_nil (htags tag htag).2, List.mem_append, not_or]
      exact ⟨notMem_of_isBeginning hword (.word heq hne hback) (.head _), (htags tag htag).1⟩

theorem cases_of_laces (hw : Laces defaultMarker word w) (heq : w = front ++ '<' :: back)
    (hfront : front ≠ []) :
    IsBeginning defaultMarker word front ∧ IsTag defaultMarker ('<' :: back) := by
  obtain ⟨d, front, rfl⟩ := List.exists_cons_of_ne_nil hfront
  cases hw with
  | word =>
      have hmem : '<' ∈ word.tail := by simp [heq]
      exact absurd hmem hword.opened
  | @tag lead back' tag hcut hne hback htag =>
      obtain ⟨inner, rfl, hinner⟩ := htag.exists_inner (by decide)
      obtain ⟨e, lead, rfl⟩ := List.exists_cons_of_ne_nil hne
      obtain ⟨rfl, hbehind⟩ := List.cons.inj heq
      have hlead : '<' ∉ lead := fun hmem => hword.opened (by simp [hcut, hmem])
      have hinside : '<' ∉ inner ++ ['>'] := by simpa using hinner.1
      have hfrontNot : '<' ∉ front := by
        intro hmem
        obtain ⟨before, after, rfl, hbefore⟩ := List.eq_append_cons_of_mem hmem
        replace hbehind : lead ++ '<' :: (inner ++ ['>']) = before ++ '<' :: (after ++ '<' :: back) := by
          simpa using hbehind
        obtain ⟨-, hafter⟩ := eq_of_append_cons_eq hlead hbefore hbehind
        exact hinside (hafter ▸ by simp)
      obtain ⟨rfl, rfl⟩ := eq_of_append_cons_eq hlead hfrontNot hbehind
      exact ⟨.word hcut hne hback, htag⟩

/-! ## Parts put together -/

omit hword in
theorem clear_of_part (h : Clear defaultMarker word s) (hpart : t <:+: s) :
    Clear defaultMarker word t := fun w hw hin => h w hw (hin.trans hpart)

omit hword in
theorem clear_of_untagged (h : Untagged defaultMarker s) (hnot : ¬ word <:+: s) :
    Clear defaultMarker word s := by
  intro w hw hin
  cases hw with
  | word => exact hnot hin
  | @tag front back tag _ _ _ htag => exact h tag htag ((List.suffix_append front tag).isInfix.trans hin)

omit hword in
theorem clear_append (hs : Clear defaultMarker word s) (ht : Clear defaultMarker word t)
    (hcut : ∀ front back, Laces defaultMarker word (front ++ back) → front ≠ [] → back ≠ [] →
      front <:+ s → ¬ back <+: t) : Clear defaultMarker word (s ++ t) := by
  -- Two texts may be put together unless what laces the word starts in the first one.
  intro w hw hin
  rcases List.infix_append_iff_ne_nil.mp hin with
    hin | hin | ⟨front, back, hfront, hback, rfl, hend, hlead⟩
  · exact hs w hw hin
  · exact ht w hw hin
  · exact hcut front back hw hfront hback hend hlead

theorem clear_append_of_last (hs : Clear defaultMarker word s) (ht : Clear defaultMarker word t)
    (hlast : ∀ c ∈ s.getLast?, c ∈ '>' :: sourceChars) : Clear defaultMarker word (s ++ t) := by
  refine clear_append hs ht fun front back hw hfront hback hend _ => ?_
  -- What is laced would hold that character before its end.
  obtain ⟨c, hc⟩ := Option.isSome_iff_exists.mp (List.getLast?_isSome.mpr hfront)
  have hmem : c ∈ front := List.mem_of_getLast? hc
  obtain ⟨before, rfl⟩ := hend
  rw [List.getLast?_append, hc] at hlast
  rcases List.mem_cons.mp (hlast c rfl) with rfl | hchar
  · refine gt_notMem_of_laces hword hw ?_
    rw [List.dropLast_append_of_ne_nil hback]
    exact List.mem_append_left _ hmem
  · exact notMem_of_laces hword hw hchar (List.mem_append_left _ hmem)

theorem clear_append_cons (hc : c ∈ sourceChars) (hs : Clear defaultMarker word s)
    (ht : Clear defaultMarker word t) : Clear defaultMarker word (s ++ c :: t) := by
  intro w hw hin
  rcases infix_append_cons (notMem_of_laces hword hw hc) hin with hin | hin
  · exact hs w hw hin
  · exact ht w hw hin

theorem clear_of_notMem (hs : '<' ∉ s) : Clear defaultMarker word s := by
  intro w hw hin
  obtain ⟨rest, rfl⟩ := exists_of_laces hword hw
  exact hs (hin.subset (.head _))

theorem clear_append_of_notMem (hs : '<' ∉ s) (ht : Clear defaultMarker word t) :
    Clear defaultMarker word (s ++ t) := by
  refine clear_append (clear_of_notMem hword hs) ht fun front back hw hfront _ hend _ => ?_
  obtain ⟨rest, heq⟩ := exists_of_laces hword hw
  obtain ⟨d, front, rfl⟩ := List.exists_cons_of_ne_nil hfront
  exact hs ((List.cons.inj heq).1 ▸ hend.subset (.head _))

theorem clear_append_lt (hs : Clear defaultMarker word s) (ht : Clear defaultMarker word ('<' :: t))
    (hcut : Stopped defaultMarker word s ∨ ∀ tag, IsTag defaultMarker tag → ¬ tag <+: '<' :: t) :
    Clear defaultMarker word (s ++ '<' :: t) := by
  -- Before a `<` that opens a marker tag no beginning may stand.
  refine clear_append hs ht fun front back hw hfront hback hend hlead => ?_
  obtain ⟨d, back, rfl⟩ := List.exists_cons_of_ne_nil hback
  obtain ⟨rfl, -⟩ := List.cons_prefix_cons.mp hlead
  obtain ⟨hbeginning, htag⟩ := cases_of_laces hword hw rfl hfront
  rcases hcut with hstopped | hnone
  · exact hstopped front hbeginning hend
  · exact hnone _ htag hlead

/-! ## Texts that are written -/

def leads : List Text := [['<', '<'], ['<', 'n'], ['<', '/', '<'], ['<', '/', 'n']]

theorem exists_lead_of_laces (hw : Laces defaultMarker word w) : ∃ lead ∈ leads, lead <+: w := by
  obtain ⟨name, hname, hlead⟩ : ∃ name ∈ [['<', 'n'], ['<', '/', 'n']], name <+: word := by
    simpa using hword.name
  have hnames : ∀ name ∈ [['<', 'n'], ['<', '/', 'n']], name ∈ leads ∧
      ∀ front ∈ name.inits, front ≠ [] → ∃ lead ∈ leads, lead <+: front ++ ['<'] := by decide
  obtain ⟨hmem, hinits⟩ := hnames name hname
  cases hw with
  | word => exact ⟨name, hmem, hlead⟩
  | @tag front back tag heq hne _ htag =>
      obtain ⟨inner, rfl, -⟩ := htag.exists_inner (by decide)
      rcases List.prefix_or_prefix_of_prefix hlead (heq ▸ List.prefix_append front back) with
        hshort | hlong
      · exact ⟨name, hmem, hshort.trans (List.prefix_append _ _)⟩
      · obtain ⟨lead, hleads, hbehind⟩ := hinits front ((List.mem_inits _ _).mpr hlong) hne
        exact ⟨lead, hleads, hbehind.trans ⟨inner ++ ['>'], by simp⟩⟩

theorem clear_of_leads (h : ∀ lead ∈ leads, ¬ lead <:+: s) : Clear defaultMarker word s := by
  intro w hw hin
  obtain ⟨lead, hmem, hlead⟩ := exists_lead_of_laces hword hw
  exact h lead hmem (hlead.isInfix.trans hin)

/-! ## Ends -/

theorem stopped_of_last (hlast : ∀ c ∈ s.getLast?, c ∈ '>' :: sourceChars) :
    Stopped defaultMarker word s := by
  rintro front hfront ⟨before, rfl⟩
  obtain ⟨rest, rfl⟩ := exists_of_isBeginning hword hfront
  obtain ⟨c, hc⟩ := Option.isSome_iff_exists.mp (List.getLast?_isSome.mpr (List.cons_ne_nil '<' rest))
  rw [List.getLast?_append, hc] at hlast
  exact notMem_of_isBeginning hword hfront (hlast c rfl) (List.mem_of_getLast? hc)

theorem stopped_append_of_last (hlast : ∀ c ∈ s.getLast?, c ∈ '>' :: sourceChars)
    (ht : Stopped defaultMarker word t) : Stopped defaultMarker word (s ++ t) := by
  intro front hfront hend
  rcases suffix_append_cases hend with hend | ⟨start, hstart, ⟨before, rfl⟩, rfl⟩
  · exact ht front hfront hend
  · obtain ⟨c, hc⟩ := Option.isSome_iff_exists.mp (List.getLast?_isSome.mpr hstart)
    rw [List.getLast?_append, hc] at hlast
    exact notMem_of_isBeginning hword hfront (hlast c rfl)
      (List.mem_append_left _ (List.mem_of_getLast? hc))

theorem stopped_append_of_notMem (hs : '<' ∉ s) (ht : Stopped defaultMarker word t) :
    Stopped defaultMarker word (s ++ t) := by
  intro front hfront hend
  rcases suffix_append_cases hend with hend | ⟨start, hstart, hpart, rfl⟩
  · exact ht front hfront hend
  · obtain ⟨d, start, rfl⟩ := List.exists_cons_of_ne_nil hstart
    obtain ⟨rest, hrest⟩ := exists_of_isBeginning hword hfront
    exact hs ((List.cons.inj hrest).1 ▸ hpart.subset (.head _))

omit hword in
theorem stopped_of_suffix (h : Stopped defaultMarker word s) (hpart : t <:+ s) :
    Stopped defaultMarker word t := fun front hfront hend => h front hfront (hend.trans hpart)

/-! ## Sources with placeholders -/

/-- The texts between the links of a cut, and before the first one and behind the last one. -/
def Cut.gaps : Cut → List Text
  | .last gap => [gap]
  | .next gap _ rest => gap :: rest.gaps

theorem clear_escapeQuotes (h : Clear defaultMarker word s) :
    Clear defaultMarker word (escapeQuotes s) := by
  induction s with
  | nil => exact h
  | cons c s ih =>
      have htail := ih (clear_of_part h (List.suffix_cons c s).isInfix)
      by_cases hc : c = '"'
      · subst hc
        exact clear_append_of_notMem hword (by decide) htail
      · intro w hw hin
        rw [escapeQuotes_cons hc, List.infix_cons_iff] at hin
        rcases hin with hlead | hin
        · rw [← escapeQuotes_cons hc] at hlead
          exact h w hw
            (prefix_of_prefix_escapeQuotes (notMem_of_laces hword hw (by decide)) hlead).isInfix
        · exact htail w hw hin

theorem clear_placeholder_append {link : Link} (hdestination : Clear defaultMarker word link.destination)
    (htext : Clear defaultMarker word link.text) (ht : Clear defaultMarker word t) :
    Clear defaultMarker word (placeholder standard link ++ t) := by
  have hclosing : Clear defaultMarker word ('<' :: (elementEnd ++ '<' :: markerEnd) ++ t) :=
    clear_append_of_last hword (clear_of_leads hword (by decide)) ht (by decide)
  have helement : ∀ tag, IsTag defaultMarker tag →
      ¬ tag <+: '<' :: (elementEnd ++ '<' :: markerEnd) ++ t := by
    intro tag htag hlead
    have hshort : tag <+: '<' :: (elementEnd ++ '<' :: markerEnd) := by
      refine List.prefix_of_prefix_length_le hlead (List.prefix_append _ t) ?_
      cases htag <;> decide
    cases htag with
    | openTag => exact absurd hshort (by decide)
    | closeTag => exact absurd hshort (by decide)
  have hshown := clear_append_lt hword (clear_escapeQuotes hword htext) hclosing (.inr helement)
  have hvalueEnd := clear_append_of_notMem (s := ['>']) hword (by decide) hshown
  have hvalue := clear_append_cons hword (c := '"') (by decide) hdestination hvalueEnd
  have hopening : Clear defaultMarker word ('<' :: (markerStart ++ '<' :: elementLead)) :=
    clear_of_leads hword (by decide)
  have hall := clear_append_of_last hword hopening hvalue (by decide)
  simpa [placeholder_standard] using hall

omit hword in
theorem getLast?_placeholder (link : Link) : (placeholder standard link).getLast? = some '>' :=
  List.getLast?_concat

omit hword in
theorem Cut.infix_of_next (gap : Text) (link : Link) (rest : Cut) :
    let source := (Cut.next gap link rest).source
    gap <:+: source ∧ link.text <:+: source ∧ link.destination <:+: source ∧
      rest.source <:+: source := by
  have hsource : (Cut.next gap link rest).source =
      gap ++ '[' :: (link.text ++ ']' :: '(' :: (link.destination ++ ')' :: rest.source)) := by
    simp [Cut.source, Cut.fill, Link.source]
  rw [hsource]
  refine ⟨?_, ?_, ?_, ?_⟩
  · exact (List.prefix_append gap _).isInfix
  · exact ⟨gap ++ ['['], ']' :: '(' :: (link.destination ++ ')' :: rest.source), by simp⟩
  · exact ⟨gap ++ '[' :: (link.text ++ [']', '(']), ')' :: rest.source, by simp⟩
  · exact ⟨gap ++ '[' :: (link.text ++ ']' :: '(' :: (link.destination ++ [')'])), [], by simp⟩

theorem clear_fill (cut : Cut) (h : Clear defaultMarker word cut.source)
    (hgaps : ∀ gap ∈ cut.gaps, Stopped defaultMarker word gap) :
    Clear defaultMarker word (cut.fill (placeholder standard)) ∧
      Stopped defaultMarker word (cut.fill (placeholder standard)) := by
  induction cut with
  | last gap => exact ⟨h, hgaps gap (.head _)⟩
  | next gap link rest ih =>
      rw [Cut.gaps, List.forall_mem_cons] at hgaps
      obtain ⟨hgap, htext, hdestination, hrest⟩ := Cut.infix_of_next gap link rest
      obtain ⟨hclear, hstopped⟩ := ih (clear_of_part h hrest) hgaps.2
      have hbehind := clear_placeholder_append hword (clear_of_part h hdestination)
        (clear_of_part h htext) hclear
      have hend : ∀ c ∈ (gap ++ placeholder standard link).getLast?, c ∈ '>' :: sourceChars := by
        rw [List.getLast?_append, getLast?_placeholder]
        exact fun c hc => Option.some.inj hc ▸ .head _
      refine ⟨?_, stopped_append_of_last hword hend hstopped⟩
      rw [placeholder_standard, List.cons_append] at hbehind
      rw [Cut.fill, List.append_assoc, placeholder_standard, List.cons_append]
      exact clear_append_lt hword (clear_of_part h hgap) hbehind (.inl hgaps.1)

theorem clear_normalizeSource (h : Clear defaultMarker word s) :
    Clear defaultMarker word (Markdown.normalizeSource s) := by
  intro w hw hin
  exact h w hw (Markdown.infix_of_infix_normalizeSource (notMem_of_laces hword hw (by decide))
    (notMem_of_laces hword hw (by decide)) hin)

theorem stopped_normalizeSource (h : Stopped defaultMarker word s) :
    Stopped defaultMarker word (Markdown.normalizeSource s) := by
  intro front hfront hend
  have hchars : ∀ c ∈ sourceChars, c ∉ front := fun c hc =>
    notMem_of_isBeginning hword hfront (List.mem_cons_of_mem _ hc)
  obtain ⟨u, hu, heq⟩ := Markdown.exists_of_suffix_normalizeSource hend
  have hlead : front <+: Markdown.normalizeSource u := by rw [← heq]
  obtain ⟨more, rfl⟩ := Markdown.prefix_of_prefix_normalizeSource (hchars '\n' (by decide))
    (hchars Html.replacement (by decide)) hlead
  rw [Markdown.normalizeSource_append (hchars '\r' (by decide)) (hchars (Char.ofNat 0) (by decide)),
    List.self_eq_append_right, Markdown.normalizeSource, List.map_eq_nil_iff] at heq
  have hnil : more = [] := by
    unfold normalizeNewlines at heq
    split at heq
    · rfl
    · cases heq
    · cases heq
    · cases heq
  rw [hnil, List.append_nil] at hu
  exact h front hfront hu

/-- No beginning of the word, or of a marker tag, stands directly before a link or at the end. -/
def Unbroken (word s : Text) : Prop :=
  ∀ cut : Cut, cut.Leftmost → cut.source = s → ∀ gap ∈ cut.gaps, Stopped defaultMarker word gap

omit hword in
theorem Cut.infix_of_mem_gaps {cut : Cut} {gap : Text} (h : gap ∈ cut.gaps) : gap <:+: cut.source := by
  induction cut with
  | last first => exact List.mem_singleton.mp h ▸ List.infix_refl _
  | next first link rest ih =>
      obtain ⟨hfirst, -, -, hrest⟩ := Cut.infix_of_next first link rest
      rcases List.mem_cons.mp h with rfl | h
      · exact hfirst
      · exact (ih h).trans hrest

theorem unbroken_of_notMem (h : '<' ∉ s) : Unbroken word s := by
  rintro cut - rfl gap hgap front hfront hend
  obtain ⟨rest, rfl⟩ := exists_of_isBeginning hword hfront
  exact h ((hend.isInfix.trans (Cut.infix_of_mem_gaps hgap)).subset (.head _))

theorem clear_replaceAll (h : Untagged defaultMarker s) (hnot : ¬ word <:+: s)
    (hunbroken : Unbroken word s) :
    Clear defaultMarker word (Markdown.normalizeSource (replaceAll standard s)) ∧
      Stopped defaultMarker word (Markdown.normalizeSource (replaceAll standard s)) := by
  obtain ⟨cut, hleftmost, rfl, hfill⟩ := exists_cut s
  rw [replaceAll, hfill]
  obtain ⟨hclear, hstopped⟩ :=
    clear_fill hword cut (clear_of_untagged h hnot) (hunbroken cut hleftmost rfl)
  exact ⟨clear_normalizeSource hword hclear, stopped_normalizeSource hword hstopped⟩

end MarkdownPages.Link
