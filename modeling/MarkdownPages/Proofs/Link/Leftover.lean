import MarkdownPages.Proofs.Link.Closing
import MarkdownPages.Proofs.Marker.Placeholder

/-!
# Links that replacing leaves

A placeholder carries the text and the destination of its link along, and the brackets in them.  Such
a bracket may open another link, which ends in what follows.  In a text whose links are replaced there
are no other links than these.
-/

namespace MarkdownPages.Link

open Text LinkStyle

variable {close other c : Char} {s t before after gap lead start : Text} {link another : Link}

/-! ## Escaped quotes -/

theorem escapeQuotes_append (s t : Text) :
    escapeQuotes (s ++ t) = escapeQuotes s ++ escapeQuotes t := List.flatMap_append

theorem units_escapeQuotes (hentity : close ∉ "&quot;".toList) (h : Units close s) :
    Units close (escapeQuotes s) := by
  have hunits : Units close "&quot;".toList := units_of_notMem hentity (by decide) (by decide)
  have htail : Units close "quot;".toList := hunits.behind (s := []) (by decide)
  induction h with
  | nil => exact .nil
  | @pair c rest hline _ ih =>
      rw [escapeQuotes_cons (by decide)]
      by_cases hc : c = '"'
      · subst hc
        exact .pair (c := '&') (by decide) (htail.append ih)
      · rw [escapeQuotes_cons hc]
        exact .pair hline ih
  | @char c rest hbackslash hclose hline _ ih =>
      by_cases hc : c = '"'
      · subst hc
        exact hunits.append ih
      · rw [escapeQuotes_cons hc]
        exact .char hbackslash hclose hline ih

theorem mem_escapeQuotes_iff (hc : c ∉ tagChars) : c ∈ escapeQuotes s ↔ c ∈ s := by
  constructor
  · intro h
    exact (mem_escapeQuotes h).resolve_right hc
  · intro h
    refine List.mem_flatMap.mpr ⟨c, h, ?_⟩
    have hne : c ≠ '"' := by
      rintro rfl
      exact hc (by decide)
    rw [if_neg hne]
    exact .head _

theorem exists_closes_escapeQuotes_iff (h : Units other s) :
    (∃ rest, Closes ')' (escapeQuotes s) rest) ↔ ∃ rest, Closes ')' s rest := by
  constructor
  · rintro ⟨rest, hcloses⟩
    rcases h.units_or_closes ')' with hunits | hthere
    · exact absurd hcloses ((units_escapeQuotes (by decide) hunits).not_closes (by decide))
    · exact hthere
  · rintro ⟨rest, units, hunits, rfl⟩
    refine ⟨escapeQuotes rest, escapeQuotes units, units_escapeQuotes (by decide) hunits, ?_⟩
    rw [escapeQuotes_append, escapeQuotes_cons (by decide)]

/-! ## Brackets in a placeholder -/

/-- Some opening bracket of the text is not closed in it. -/
def LeavesBracket (s : Text) : Prop := ∃ before inner, s = before ++ '[' :: inner ∧ Units ']' inner

/-- Some brackets of the text enclose something, and a parenthesis opens behind them. -/
def OpensParens (s : Text) : Prop :=
  ∃ before inner inParens, s = before ++ '[' :: inner ∧ inner.head? ≠ some ']' ∧
    Closes ']' inner ('(' :: inParens)

/--
A bracket of the link opens another link when the text `after` follows the placeholder: it is closed
by what follows, or the parenthesis behind it is.
-/
def Reopens (link : Link) (after : Text) : Prop :=
  (('[' ∈ link.text ∨ LeavesBracket link.destination) ∧ EndsLink after) ∨
    (OpensParens link.destination ∧
      ((∃ rest, Closes ')' link.text rest) ∨ ∃ rest, Closes ')' after rest))

theorem head?_append_ne (hs : s.head? ≠ some c) (ht : t.head? ≠ some c) :
    (s ++ t).head? ≠ some c := by
  cases s with
  | nil => exact ht
  | cons d s => exact hs

theorem isGap_text_iff (h : Units ']' s) (hafter : after.head? ≠ some ']') :
    IsGap s after ↔ ('[' ∈ s → ¬ EndsLink after) := by
  rw [isGap_iff]
  constructor
  · intro hgap hmem hends
    obtain ⟨before, inner, rfl⟩ := List.append_of_mem hmem
    have hinner : Units ']' inner := h.behind (by decide)
    refine hgap before inner rfl ⟨?_, (endsLink_append_iff hinner).mpr hends⟩
    exact head?_append_ne (hinner.head?_ne (by decide)) hafter
  · rintro hnone before inner rfl ⟨-, hends⟩
    have hinner : Units ']' inner := h.behind (by decide)
    exact hnone (by simp) ((endsLink_append_iff hinner).mp hends)

theorem Closes.units_inParens {inParens : Text} (h : Closes ']' s ('(' :: inParens))
    (hs : Units ')' s) : Units ')' inParens := by
  obtain ⟨text, -, rfl⟩ := h
  have hbehind : Units ')' ('(' :: inParens) := hs.behind (by decide)
  exact hbehind.behind (s := []) (by decide)

theorem isGap_destination_iff (h : Units ')' s) (hafter : after.head? = some '"') :
    IsGap s after ↔ (LeavesBracket s → ¬ EndsLink after) ∧
      (OpensParens s → ¬ ∃ rest, Closes ')' after rest) := by
  have hhead : ∀ c, c ≠ '"' → after.head? ≠ some c := by
    rw [hafter]
    exact fun c hc heq => hc (Option.some.inj heq).symm
  rw [isGap_iff]
  constructor
  · intro hgap
    constructor
    · rintro ⟨before, inner, heq, hinner⟩ hends
      refine hgap before inner heq ⟨?_, (endsLink_append_iff hinner).mpr hends⟩
      exact head?_append_ne (hinner.head?_ne (by decide)) (hhead _ (by decide))
    · rintro ⟨before, inner, inParens, rfl, hne, hcloses⟩ ⟨rest, hrest⟩
      have hunits : Units ')' inParens := hcloses.units_inParens (h.behind (by decide))
      refine hgap before inner rfl ⟨head?_append_ne hne (hhead _ (by decide)),
        inParens ++ after, rest, hcloses.append after, ?_, ?_⟩
      · exact head?_append_ne (hunits.head?_ne (by decide)) (hhead _ (by decide))
      · exact (closes_append_iff (by decide) hunits).mpr hrest
  · rintro ⟨hbracket, hparen⟩ before inner rfl ⟨hne, hends⟩
    have hinner : Units ')' inner := h.behind (by decide)
    rcases hinner.units_or_closes ']' with hunits | ⟨behind, hbehind⟩
    · exact hbracket ⟨before, inner, rfl, hunits⟩ ((endsLink_append_iff hunits).mp hends)
    · -- The bracket closes in the destination, so what is read behind it starts there as well.
      obtain ⟨inParens, rest, hcloses, -, hrest⟩ := hends
      have hall : '(' :: inParens = behind ++ after :=
        hcloses.unique (by decide) (hbehind.append after)
      cases behind with
      | nil =>
          rw [List.nil_append] at hall
          rw [← hall] at hafter
          exact absurd hafter (by simp)
      | cons d inside =>
          rw [List.cons_append] at hall
          obtain ⟨rfl, rfl⟩ := List.cons.inj hall
          have hunits : Units ')' inside := hbehind.units_inParens hinner
          rw [hbehind.head?_append] at hne
          exact hparen ⟨before, inner, inside, rfl, hne, hbehind⟩
            ⟨rest, (closes_append_iff (by decide) hunits).mp hrest⟩

/-! ## Placeholders -/

def closingTags : Text := '<' :: (elementEnd ++ '<' :: markerEnd)

theorem units_closingTags (hclose : close ∈ [']', ')']) : Units close closingTags := by
  have hnot : ∀ close ∈ [']', ')'], close ∉ closingTags := by decide
  exact units_of_notMem (hnot close hclose) (by decide) (by decide)

def behindDestination (link : Link) : Text :=
  ['"', '>'] ++ (escapeQuotes link.text ++ closingTags)

theorem units_behindDestination (hclose : close ∈ [']', ')']) (h : Units close link.text) :
    Units close (behindDestination link) := by
  have hnot : ∀ close ∈ [']', ')'], close ∉ ['"', '>'] ∧ close ∉ "&quot;".toList := by decide
  obtain ⟨hvalueEnd, hentity⟩ := hnot close hclose
  have hlead : Units close ['"', '>'] := units_of_notMem hvalueEnd (by decide) (by decide)
  exact hlead.append ((units_escapeQuotes hentity h).append (units_closingTags hclose))

theorem exists_closes_behindDestination_iff (hvalid : link.Valid) :
    (∃ rest, Closes ')' (behindDestination link ++ after) rest) ↔
      (∃ rest, Closes ')' link.text rest) ∨ ∃ rest, Closes ')' after rest := by
  rcases hvalid.text_units.units_or_closes ')' with hunits | hcloses
  · have hnone : ¬ ∃ rest, Closes ')' link.text rest := fun ⟨rest, hrest⟩ =>
      hunits.not_closes (by decide) hrest
    have hbehind := units_behindDestination (by decide) hunits
    simp only [closes_append_iff (by decide : ')' ≠ '\\') hbehind, hnone, false_or]
  · obtain ⟨rest, hshown⟩ := (exists_closes_escapeQuotes_iff hvalid.text_units).mpr hcloses
    have hlead : Units ')' ['"', '>'] := units_of_notMem (by decide) (by decide) (by decide)
    have hbehind := (closes_append_iff (by decide) hlead).mpr (hshown.append closingTags)
    exact iff_of_true ⟨_, hbehind.append after⟩ (.inl hcloses)

def openingTags : Text := '<' :: (markerStart ++ '<' :: elementLead)

theorem placeholder_standard_eq (link : Link) :
    placeholder standard link = openingTags ++ (link.destination ++ behindDestination link) := by
  simp only [placeholder_standard, openingTags, behindDestination, closingTags, List.cons_append,
    List.append_assoc, List.nil_append]

theorem isGap_behindDestination_iff (h : Units ']' link.text) (after : Text) :
    IsGap (behindDestination link) after ↔ ('[' ∈ link.text → ¬ EndsLink after) := by
  have hunits : Units ']' (escapeQuotes link.text) := units_escapeQuotes (by decide) h
  have hclosing : IsGap closingTags after := isGap_of_notMem (by decide) after
  have hhead : (closingTags ++ after).head? ≠ some ']' := (by decide : some '<' ≠ some ']')
  have htext : IsGap (escapeQuotes link.text) (closingTags ++ after) ↔
      ('[' ∈ link.text → ¬ EndsLink after) := by
    rw [isGap_text_iff hunits hhead, mem_escapeQuotes_iff (by decide),
      endsLink_append_iff (units_closingTags (by decide))]
  have hlead : ∀ rest, IsGap ['"', '>'] rest := isGap_of_notMem (by decide)
  rw [behindDestination, isGap_append_iff, isGap_append_iff, and_iff_right (hlead _),
    and_iff_left hclosing, htext]

theorem isGap_placeholder_iff (hvalid : link.Valid) (after : Text) :
    IsGap (placeholder standard link) after ↔ ¬ Reopens link after := by
  have hbehind : Units ']' (behindDestination link) :=
    units_behindDestination (by decide) hvalid.text_units
  have hhead : (behindDestination link ++ after).head? = some '"' := rfl
  have hopening : ∀ rest, IsGap openingTags rest := isGap_of_notMem (by decide)
  rw [placeholder_standard_eq, isGap_append_iff, isGap_append_iff, and_iff_right (hopening _),
    isGap_destination_iff hvalid.destination_units hhead, endsLink_append_iff hbehind,
    exists_closes_behindDestination_iff hvalid, isGap_behindDestination_iff hvalid.text_units]
  constructor
  · rintro ⟨⟨hbracket, hparen⟩, htext⟩ (⟨hopen, hends⟩ | ⟨hopen, hcloses⟩)
    · exact hopen.elim htext hbracket hends
    · exact hparen hopen hcloses
  · intro hnone
    refine ⟨⟨fun hopen hends => ?_, fun hopen hcloses => ?_⟩, fun hmem hends => ?_⟩
    · exact hnone (.inl ⟨.inr hopen, hends⟩)
    · exact hnone (.inr ⟨hopen, hcloses⟩)
    · exact hnone (.inl ⟨.inl hmem, hends⟩)

/-! ## Whole texts -/

theorem IsGap.before_placeholder (h : IsGap gap (link.source ++ t)) (hvalid : link.Valid)
    (out : Text) : IsGap gap (placeholder standard link ++ out) := by
  rw [placeholder_standard, List.cons_append]
  exact h.before_lt hvalid _

/-- The links of a cut, each with the source behind it. -/
def Cut.behind : Cut → List (Link × Text)
  | .last _ => []
  | .next _ link rest => (link, rest.source) :: rest.behind

theorem Cut.Leftmost.isGap_fill_iff {cut : Cut} (h : cut.Leftmost) :
    IsGap (cut.fill (placeholder standard)) [] ↔
      ∀ link after, (link, after) ∈ cut.behind → ¬ Reopens link (replaceAll standard after) := by
  induction cut with
  | last gap =>
      refine iff_of_true h ?_
      simp [Cut.behind]
  | next gap link rest ih =>
      obtain ⟨hgap, hvalid, hrest⟩ := h
      have hfill : replaceAll standard rest.source = rest.fill (placeholder standard) :=
        hrest.replaceWith_source _
      have hbefore := hgap.before_placeholder hvalid (rest.fill (placeholder standard))
      rw [Cut.fill, List.append_assoc, isGap_append_iff, List.append_nil, and_iff_right hbefore,
        isGap_append_iff, List.append_nil, isGap_placeholder_iff hvalid, ih hrest, ← hfill]
      constructor
      · rintro ⟨hfirst, hothers⟩ other after hmem
        rcases List.mem_cons.mp hmem with heq | hmem
        · obtain ⟨rfl, rfl⟩ := Prod.mk.inj heq
          exact hfirst
        · exact hothers other after hmem
      · intro hall
        exact ⟨hall link rest.source (.head _), fun other after hmem => hall other after (.tail _ hmem)⟩

/-- No link that is replaced in the text opens another one in what is written. -/
def Settled (s : Text) : Prop :=
  ∀ cut : Cut, cut.Leftmost → cut.source = s →
    ∀ link after, (link, after) ∈ cut.behind → ¬ Reopens link (replaceAll standard after)

theorem Cut.Leftmost.settled_iff {cut : Cut} (h : cut.Leftmost) :
    Settled cut.source ↔
      ∀ link after, (link, after) ∈ cut.behind → ¬ Reopens link (replaceAll standard after) :=
  h.forall_iff

theorem linkless_replaceAll_iff (s : Text) : Linkless (replaceAll standard s) ↔ Settled s := by
  obtain ⟨cut, hleftmost, rfl, hfill⟩ := exists_cut s
  rw [linkless_iff_isGap, replaceAll, hfill, hleftmost.isGap_fill_iff, hleftmost.settled_iff]

theorem Cut.mem_links_of_mem_behind {cut : Cut} (h : (link, after) ∈ cut.behind) :
    link ∈ cut.links := by
  induction cut with
  | last gap => cases h
  | next gap first rest ih =>
      rcases List.mem_cons.mp h with heq | h
      · obtain ⟨rfl, -⟩ := Prod.mk.inj heq
        exact .head _
      · exact .tail _ (ih h)

/-! ## Where links start -/

theorem StartsAt.bracket_or_behind (h : link.StartsAt start) (heq : s ++ t = before ++ start) :
    (∃ outer, s = before ++ '[' :: outer) ∨ ∃ mid, before = s ++ mid ∧ t = mid ++ start := by
  obtain ⟨tail, rfl⟩ := h.exists_tail
  rcases List.append_eq_append_iff.mp heq with ⟨mid, hbefore, ht⟩ | ⟨outer, hs, hstart⟩
  · exact .inr ⟨mid, hbefore, ht⟩
  · cases outer with
    | nil => exact .inr ⟨[], by simpa using hs.symm, by simpa using hstart.symm⟩
    | cons c outer =>
        obtain ⟨rfl, -⟩ := List.cons.inj hstart
        exact .inl ⟨outer, hs⟩

theorem StartsAt.behind_of_notMem (h : link.StartsAt start) (heq : s ++ t = before ++ start)
    (hs : '[' ∉ s) : ∃ mid, before = s ++ mid ∧ t = mid ++ start := by
  refine (h.bracket_or_behind heq).resolve_left ?_
  rintro ⟨outer, rfl⟩
  exact hs (by simp)

theorem StartsAt.behind_gap (h : link.StartsAt start) (heq : gap ++ t = before ++ start)
    (hgap : IsGap gap t) : ∃ mid, before = gap ++ mid ∧ t = mid ++ start := by
  refine (h.bracket_or_behind heq).resolve_left ?_
  rintro ⟨outer, rfl⟩
  rw [List.append_assoc, List.append_cancel_left_eq] at heq
  exact hgap before ('[' :: outer) rfl (by simp) link (heq ▸ h)

/-- `before` is what stands before an opening bracket of `part`, which is written behind `lead`. -/
def BeforeBracket (lead part before : Text) : Prop :=
  ∃ inner outer, part = inner ++ '[' :: outer ∧ before = lead ++ inner

/-- `before` is what stands before an opening bracket of the link, whose placeholder is written
behind `lead`: one of its destination, or one of its text. -/
def BeforeLinkBracket (lead : Text) (link : Link) (before : Text) : Prop :=
  BeforeBracket (lead ++ openingTags) link.destination before ∨
    BeforeBracket (lead ++ (openingTags ++ (link.destination ++ ['"', '>']))) (escapeQuotes link.text)
      before

theorem BeforeLinkBracket.append (h : BeforeLinkBracket lead link before) (front : Text) :
    BeforeLinkBracket (front ++ lead) link (front ++ before) := by
  rcases h with ⟨inner, outer, hpart, rfl⟩ | ⟨inner, outer, hpart, rfl⟩
  · exact .inl ⟨inner, outer, hpart, by simp only [List.append_assoc]⟩
  · exact .inr ⟨inner, outer, hpart, by simp only [List.append_assoc]⟩

theorem StartsAt.bracket_or_behind_placeholder (h : another.StartsAt start)
    (heq : placeholder standard link ++ t = before ++ start) :
    BeforeLinkBracket [] link before ∨
      ∃ mid, before = placeholder standard link ++ mid ∧ t = mid ++ start := by
  simp only [placeholder_standard_eq, behindDestination, List.append_assoc] at heq ⊢
  obtain ⟨_, rfl, hdestination⟩ := h.behind_of_notMem heq (by decide)
  rcases h.bracket_or_behind hdestination with ⟨outer, hbracket⟩ | ⟨_, rfl, hbehind⟩
  · exact .inl (.inl ⟨_, outer, hbracket, rfl⟩)
  obtain ⟨_, rfl, htext⟩ := h.behind_of_notMem hbehind (by decide)
  rcases h.bracket_or_behind htext with ⟨outer, hbracket⟩ | ⟨_, rfl, hclosing⟩
  · exact .inl (.inr ⟨_, outer, hbracket, by simp only [List.append_assoc, List.nil_append]⟩)
  obtain ⟨mid, rfl, hrest⟩ := h.behind_of_notMem hclosing (by decide)
  exact .inr ⟨mid, rfl, hrest⟩

/-- The links of a cut, each with what is written before it. -/
def Cut.places (write : Link → Text) : Cut → List (Text × Link)
  | .last _ => []
  | .next gap link rest =>
    (gap, link) :: (rest.places write).map fun (lead, other) => (gap ++ (write link ++ lead), other)

theorem Cut.Leftmost.exists_bracket {cut : Cut} (h : cut.Leftmost)
    (heq : cut.fill (placeholder standard) = before ++ start) (hstart : another.StartsAt start) :
    ∃ lead link, (lead, link) ∈ cut.places (placeholder standard) ∧
      BeforeLinkBracket lead link before := by
  induction cut generalizing before with
  | last gap =>
      rw [Cut.fill, ← List.append_nil gap] at heq
      obtain ⟨mid, -, hnil⟩ := hstart.behind_gap heq h
      obtain ⟨tail, rfl⟩ := hstart.exists_tail
      simp at hnil
  | next gap link rest ih =>
      obtain ⟨hgap, hvalid, hrest⟩ := h
      rw [Cut.fill, List.append_assoc] at heq
      have hbefore := hgap.before_placeholder hvalid (rest.fill (placeholder standard))
      obtain ⟨_, rfl, hplaceholder⟩ := hstart.behind_gap heq hbefore
      rcases hstart.bracket_or_behind_placeholder hplaceholder with hbracket | ⟨mid, rfl, hbehind⟩
      · refine ⟨gap, link, .head _, ?_⟩
        simpa using hbracket.append gap
      · obtain ⟨lead, other, hmem, hbracket⟩ := ih hrest hbehind
        refine ⟨gap ++ (placeholder standard link ++ lead), other, .tail _ ?_, ?_⟩
        · exact List.mem_map.mpr ⟨(lead, other), hmem, rfl⟩
        · simpa using (hbracket.append (placeholder standard link)).append gap

theorem linkless_replaceAll_of_notMem (h : ∀ cut : Cut, cut.Leftmost → cut.source = s →
    ∀ link ∈ cut.links, '[' ∉ link.text ∧ '[' ∉ link.destination) :
    Linkless (replaceAll standard s) := by
  rw [linkless_replaceAll_iff]
  intro cut hleftmost hsource link after hmem hreopens
  obtain ⟨htext, hdestination⟩ := h cut hleftmost hsource link (Cut.mem_links_of_mem_behind hmem)
  rcases hreopens with ⟨hopen | ⟨before, inner, heq, -⟩, -⟩ | ⟨⟨before, inner, inParens, heq, -⟩, -⟩
  · exact htext hopen
  · exact hdestination (by simp [heq])
  · exact hdestination (by simp [heq])

/--
A text whose links are replaced holds links if and only if a replaced link opens another one; and it
changes when its links are replaced again in just these cases.  What is left starts at a bracket of a
replaced link, in its placeholder, so that nothing is left if there are no such brackets.
-/
theorem replaced_links_leave_links_iff (s : Text) :
    (Linkless (replaceAll standard s) ↔ Settled s) ∧
      (replaceAll standard (replaceAll standard s) = replaceAll standard s ↔ Settled s) ∧
      (∀ cut : Cut, cut.Leftmost → cut.source = s → ∀ before start : Text, ∀ another : Link,
        replaceAll standard s = before ++ start → another.StartsAt start →
        ∃ lead link, (lead, link) ∈ cut.places (placeholder standard) ∧
          BeforeLinkBracket lead link before) ∧
      ((∀ cut : Cut, cut.Leftmost → cut.source = s →
        ∀ link ∈ cut.links, '[' ∉ link.text ∧ '[' ∉ link.destination) →
        Linkless (replaceAll standard s)) := by
  refine ⟨linkless_replaceAll_iff s, ?_, ?_, linkless_replaceAll_of_notMem⟩
  · rw [replaceAll_eq_self_iff, linkless_replaceAll_iff]
  · rintro cut hleftmost rfl before start another heq hstart
    rw [replaceAll, hleftmost.replaceWith_source] at heq
    exact hleftmost.exists_bracket heq hstart

/-- The bracket in the text of a link, and a link without brackets. -/
theorem bracketed_text_leaves_link :
    (∃ lead link, (lead, link) ∈
        (Cut.next [] ⟨"[a".toList, "b".toList⟩ (.last "](c)".toList)).places (placeholder standard) ∧
      BeforeLinkBracket lead link "<html><app-generated-link linkHREF=\"b\">".toList) ∧
    Linkless (replaceAll standard "[a](b)".toList) := by
  constructor
  · have hread : readAfterBracket? "[a](b)](c)".toList =
        some (⟨"[a".toList, "b".toList⟩, "](c)".toList) := by decide +kernel
    have hleftmost : (Cut.next [] ⟨"[a".toList, "b".toList⟩ (.last "](c)".toList)).Leftmost :=
      ⟨isGap_nil _, (readAfterBracket?_eq_some_iff.mp hread).1, isGap_of_notMem (by decide) []⟩
    have hstart : StartsAt ⟨"a</app-generated-link></html>".toList, "c".toList⟩
        "[a</app-generated-link></html>](c)".toList :=
      ⟨⟨units_of_notMem (by decide) (by decide) (by decide), by decide,
        units_of_notMem (by decide) (by decide) (by decide), by decide⟩, [], by decide⟩
    exact (replaced_links_leave_links_iff "[[a](b)](c)".toList).2.2.1 _ hleftmost (by decide)
      _ _ _ (by decide +kernel) hstart
  · have hleftmost : (Cut.next [] ⟨"a".toList, "b".toList⟩ (.last [])).Leftmost :=
      ⟨isGap_nil _, valid_of_all_isAlphanum (by decide) (by decide) (by decide) (by decide),
        isGap_nil []⟩
    exact (replaced_links_leave_links_iff "[a](b)".toList).2.2.2
      (hleftmost.forall_iff.mpr (by decide))

/-- A link in the text of a link, and a link in a destination. -/
theorem brackets_leave_links :
    (¬ Linkless (replaceAll standard "[[a](b)](c)".toList) ∧
      replaceAll standard (replaceAll standard "[[a](b)](c)".toList) ≠
        replaceAll standard "[[a](b)](c)".toList) ∧
    (¬ Linkless (replaceAll standard "[t]([x](y))".toList) ∧
      replaceAll standard (replaceAll standard "[t]([x](y))".toList) ≠
        replaceAll standard "[t]([x](y))".toList) := by
  have hfirst : replaceAll standard (replaceAll standard "[[a](b)](c)".toList) ≠
      replaceAll standard "[[a](b)](c)".toList := by decide +kernel
  have hsecond : replaceAll standard (replaceAll standard "[t]([x](y))".toList) ≠
      replaceAll standard "[t]([x](y))".toList := by decide +kernel
  constructor
  · exact ⟨fun h => hfirst ((replaceAll_eq_self_iff _ _).mpr h), hfirst⟩
  · exact ⟨fun h => hsecond ((replaceAll_eq_self_iff _ _).mpr h), hsecond⟩

/-- The first bracket is left open in the placeholder, and what follows closes it. -/
example : replaceAll standard "[[a](b)](c)".toList =
    "<html><app-generated-link linkHREF=\"b\">[a</app-generated-link></html>](c)".toList := by
  decide +kernel

end MarkdownPages.Link
