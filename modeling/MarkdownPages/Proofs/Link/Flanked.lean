import MarkdownPages.Proofs.Link.Written
import MarkdownPages.Proofs.Markdown.Source
import MarkdownPages.Proofs.Marker.Placeholder
import MarkdownPages.Proofs.Marker.Sealed
import MarkdownPages.Proofs.Text.Classes

/-!
# Marker tags with their neighbours

In a text with placeholders an element starts behind each opening tag of the marker, and one ends
before each closing tag.  This holds of every part of such a text that is cut off behind characters
other than the last one of the element's name, and before characters other than those that start
the element.
-/

namespace MarkdownPages.Link

open Text Marker LinkStyle

variable {s t : Text} {c : Char}

/-- The start and the end of an element stand behind and before the tags of its marker. -/
structure Flanked (s : Text) : Prop where
  opening : ∀ u, u <:+ s → openTag defaultMarker <+: u → openTag defaultMarker ++ ['<', 'a'] <+: u
  closing : ∀ u, u <+: s → closeTag defaultMarker <:+ u → ['k', '>'] ++ closeTag defaultMarker <:+ u

instance (s : Text) : Decidable (Flanked s) :=
  decidable_of_iff
    ((∀ u ∈ s.tails, openTag defaultMarker <+: u → openTag defaultMarker ++ ['<', 'a'] <+: u) ∧
      ∀ u ∈ s.inits, closeTag defaultMarker <:+ u → ['k', '>'] ++ closeTag defaultMarker <:+ u)
    (by
      simp only [List.mem_tails, List.mem_inits]
      exact ⟨fun ⟨h₁, h₂⟩ => ⟨h₁, h₂⟩, fun ⟨h₁, h₂⟩ => ⟨h₁, h₂⟩⟩)

theorem flanked_of_untagged (h : Untagged defaultMarker s) : Flanked s := by
  constructor
  · intro u hu hopen
    exact absurd (hopen.isInfix.trans hu.isInfix) (h _ .openTag)
  · intro u hu hclose
    exact absurd (hclose.isInfix.trans hu.isInfix) (h _ .closeTag)

/-! ## Parts put together -/

theorem Flanked.append (hs : Flanked s) (ht : Flanked t)
    (hcut : ∀ tag front back, IsTag defaultMarker tag → tag = front ++ back → front ≠ [] →
      back ≠ [] → front <:+ s → ¬ back <+: t) : Flanked (s ++ t) := by
  constructor
  · intro u hu hopen
    rcases suffix_append_cases hu with hu | ⟨u', hne, hu', rfl⟩
    · exact ht.opening u hu hopen
    · rcases prefix_append_cases hopen with hopen | ⟨back, hback, hlead, htag⟩
      · exact (hs.opening u' hu' hopen).trans (List.prefix_append _ _)
      · exact absurd hlead (hcut _ u' back .openTag htag hne hback hu')
  · intro u hu hclose
    rcases prefix_append_cases hu with hu | ⟨u', hne, hu', rfl⟩
    · exact hs.closing u hu hclose
    · rcases suffix_append_cases hclose with hclose | ⟨front, hfront, hend, htag⟩
      · exact (ht.closing u' hu' hclose).trans (List.suffix_append _ _)
      · exact absurd hu' (hcut _ front u' .closeTag htag hfront hne hend)

theorem Flanked.append_cons (hs : Flanked s) (ht : Flanked (c :: t))
    (hc : c ∉ '/' :: defaultMarker ++ ['>']) : Flanked (s ++ c :: t) := by
  -- No tag goes on with a character that is no inner character of one.
  refine hs.append ht fun tag front back htag heq hfront hback _ hlead => ?_
  obtain ⟨d, front, rfl⟩ := List.exists_cons_of_ne_nil hfront
  obtain ⟨e, back, rfl⟩ := List.exists_cons_of_ne_nil hback
  obtain rfl := (List.cons_prefix_cons.mp hlead).1
  exact hc (htag.mem_tail (by simp [heq]))

theorem Flanked.append_of_last (hs : Flanked s) (ht : Flanked t)
    (hlast : ∀ c ∈ s.getLast?, c ∉ '<' :: '/' :: defaultMarker) : Flanked (s ++ t) := by
  refine hs.append ht fun tag front back htag heq hfront hback hend _ => ?_
  obtain ⟨d, hd⟩ := Option.isSome_iff_exists.mp (List.getLast?_isSome.mpr hfront)
  have hsLast : s.getLast? = some d := by
    obtain ⟨before, rfl⟩ := hend
    rw [List.getLast?_append, hd]
    rfl
  refine hlast d hsLast (htag.mem_dropLast ?_)
  rw [heq, List.dropLast_append_of_ne_nil hback]
  exact List.mem_append_left _ (List.mem_of_getLast? hd)

theorem Flanked.append_of_notMem (hs : '<' ∉ s) (ht : Flanked t) : Flanked (s ++ t) := by
  refine (flanked_of_untagged (untagged_of_notMem hs)).append ht ?_
  intro tag front back htag heq hfront _ hend _
  obtain ⟨inner, rfl, -⟩ := htag.exists_inner (by decide)
  obtain ⟨d, front, rfl⟩ := List.exists_cons_of_ne_nil hfront
  obtain rfl : '<' = d := (List.cons.inj heq).1
  exact hs (hend.subset (.head _))

/-! ## Parts cut off -/

theorem Flanked.of_append_left (h : Flanked (s ++ t)) (ht : ∀ c ∈ t.head?, c ≠ '<' ∧ c ≠ 'a') :
    Flanked s := by
  constructor
  · rintro u ⟨front, rfl⟩ hopen
    have hlead := h.opening (u ++ t) ⟨front, by simp⟩ (hopen.trans (List.prefix_append _ _))
    rcases prefix_append_cases hlead with hlead | ⟨u', hne, ⟨t', rfl⟩, heq⟩
    · exact hlead
    · obtain ⟨rest, rfl⟩ := hopen
      rw [List.append_assoc, List.append_cancel_left_eq] at heq
      obtain ⟨c, u', rfl⟩ := List.exists_cons_of_ne_nil hne
      have hc := ht c rfl
      rcases rest with - | ⟨d, - | ⟨e, rest⟩⟩
      · exact absurd (List.cons.inj heq).1.symm hc.1
      · exact absurd (List.cons.inj (List.cons.inj heq).2).1.symm hc.2
      · simp at heq
  · exact fun u hu => h.closing u (hu.trans (List.prefix_append _ _))

theorem Flanked.of_append_right (h : Flanked (s ++ t)) (hk : ¬ ['k'] <:+ s)
    (hkGt : ¬ ['k', '>'] <:+ s) : Flanked t := by
  constructor
  · exact fun u hu => h.opening u (hu.trans (List.suffix_append _ _))
  · rintro u ⟨back, rfl⟩ hclose
    have hend := h.closing (s ++ u) ⟨back, by simp⟩ (hclose.trans (List.suffix_append _ _))
    rcases suffix_append_cases hend with hend | ⟨u', hne, hu', heq⟩
    · exact hend
    · obtain ⟨rest, rfl⟩ := hclose
      rw [← List.append_assoc, List.append_cancel_right_eq] at heq
      rcases u' with - | ⟨d, - | ⟨e, u'⟩⟩
      · exact absurd rfl hne
      · obtain rfl := (List.cons.inj heq).1
        exact absurd hu' hk
      · obtain ⟨rfl, htail⟩ := List.cons.inj heq
        obtain ⟨rfl, hnil⟩ := List.cons.inj htail
        obtain ⟨rfl, -⟩ := List.append_eq_nil_iff.mp hnil.symm
        exact absurd hu' hkGt

theorem Flanked.of_append_right_of_last (h : Flanked (s ++ t))
    (hlast : ∀ c ∈ s.getLast?, c ≠ 'k' ∧ c ≠ '>') : Flanked t := by
  refine h.of_append_right ?_ ?_
  · rintro ⟨front, rfl⟩
    exact (hlast 'k' (by simp)).1 rfl
  · rintro ⟨front, rfl⟩
    exact (hlast '>' (by simp)).2 rfl

theorem Flanked.of_append_right_of_notMem (h : Flanked (s ++ t)) (hk : 'k' ∉ s) : Flanked t :=
  h.of_append_right (fun hend => hk (hend.subset (.head _)))
    (fun hend => hk (hend.subset (.head _)))

/-! ## Sources with placeholders -/

theorem untagged_normalizeSource (h : Untagged defaultMarker s) :
    Untagged defaultMarker (Markdown.normalizeSource s) := by
  intro tag htag hin
  have hchars : '\n' ∉ tag ∧ Html.replacement ∉ tag := by
    cases htag with
    | openTag => decide
    | closeTag => decide
  exact h tag htag (Markdown.infix_of_infix_normalizeSource hchars.1 hchars.2 hin)

theorem flanked_openingTags : Flanked ('<' :: (markerStart ++ '<' :: elementLead)) := by
  decide

theorem flanked_closingTags : Flanked ('<' :: (elementEnd ++ '<' :: markerEnd)) := by
  decide

theorem Flanked.placeholder_append {link : Link} (hdestination : Untagged defaultMarker link.destination)
    (htext : Untagged defaultMarker link.text) (ht : Flanked (Markdown.normalizeSource t)) :
    Flanked (Markdown.normalizeSource (placeholder standard link ++ t)) := by
  have hclosing : Flanked ('<' :: (elementEnd ++ '<' :: markerEnd) ++ Markdown.normalizeSource t) :=
    flanked_closingTags.append_of_last ht (by decide)
  have hshown : Flanked (Markdown.normalizeSource (escapeQuotes link.text) ++
      ('<' :: (elementEnd ++ '<' :: markerEnd) ++ Markdown.normalizeSource t)) :=
    (flanked_of_untagged (untagged_normalizeSource
      (untagged_escapeQuotes plain_standard htext))).append_cons hclosing (by decide)
  have hvalueEnd := Flanked.append_of_notMem (s := ['"', '>']) (by decide) hshown
  have hvalue : Flanked (Markdown.normalizeSource link.destination ++ _) :=
    (flanked_of_untagged (untagged_normalizeSource hdestination)).append_cons hvalueEnd (by decide)
  have hall := flanked_openingTags.append_of_last hvalue (by decide)
  -- The parts are normalized one by one, since none of them starts with a line feed.
  have hsource : placeholder standard link ++ t =
      '<' :: (markerStart ++ '<' :: elementLead) ++ (link.destination ++ '"' :: (['>'] ++
        (escapeQuotes link.text ++ '<' :: (elementEnd ++ '<' :: markerEnd ++ t)))) := by
    simp [placeholder_standard]
  have hquote : Markdown.normalizeSource ('"' :: (['>'] ++
      (escapeQuotes link.text ++ '<' :: (elementEnd ++ '<' :: markerEnd ++ t)))) =
      ['"', '>'] ++ Markdown.normalizeSource
        (escapeQuotes link.text ++ '<' :: (elementEnd ++ '<' :: markerEnd ++ t)) :=
    Markdown.normalizeSource_append (s := ['"', '>']) (by decide) (by decide) _
  have hend : Markdown.normalizeSource ('<' :: (elementEnd ++ '<' :: markerEnd ++ t)) =
      '<' :: (elementEnd ++ '<' :: markerEnd) ++ Markdown.normalizeSource t :=
    Markdown.normalizeSource_append (s := '<' :: (elementEnd ++ '<' :: markerEnd)) (by decide)
      (by decide) _
  rw [hsource, Markdown.normalizeSource_append (by decide) (by decide),
    Markdown.normalizeSource_append_cons (by decide), hquote,
    Markdown.normalizeSource_append_cons (by decide), hend]
  exact hall

theorem flanked_normalizeSource_replaceAll (h : Untagged defaultMarker s) :
    Flanked (Markdown.normalizeSource (replaceAll standard s)) := by
  obtain ⟨cut, -, rfl, hfill⟩ := exists_cut s
  rw [replaceAll, hfill]
  clear hfill
  induction cut with
  | last gap => exact flanked_of_untagged (untagged_normalizeSource h)
  | next gap link rest ih =>
      obtain ⟨hgap, htext, hdestination, hrest⟩ := Cut.untagged_of_next h
      have hplaceholder := Flanked.placeholder_append hdestination htext (ih hrest)
      rw [placeholder_standard, List.cons_append] at hplaceholder
      rw [Cut.fill, List.append_assoc, placeholder_standard, List.cons_append,
        Markdown.normalizeSource_append_cons (by decide)]
      exact (flanked_of_untagged (untagged_normalizeSource hgap)).append_cons hplaceholder
        (by decide)

/-! ## Sealed texts -/

theorem not_goesOn_element (h : ['<', 'a'] <+: s) :
    ¬ GoesOn defaultMarker ('/' :: defaultMarker ++ ['>']) s := by
  obtain ⟨rest, rfl⟩ := h
  rintro (⟨c, hc, hmem⟩ | ⟨tag, htag, hlead⟩)
  · obtain rfl : '<' = c := Option.some.inj hc
    exact absurd hmem (by decide)
  · have hopen : openTag defaultMarker = ['<', 'h', 't', 'm', 'l', '>'] := by decide
    have hclose : closeTag defaultMarker = ['<', '/', 'h', 't', 'm', 'l', '>'] := by decide
    cases htag with
    | openTag => simp [hopen] at hlead
    | closeTag => simp [hclose] at hlead

theorem Flanked.starts_element {before after : Text}
    (h : Flanked (before ++ (openTag defaultMarker ++ after))) : ['<', 'a'] <+: after :=
  (List.prefix_append_right_inj _).mp
    (h.opening _ (List.suffix_append _ _) (List.prefix_append _ _))

theorem Flanked.ends_element {before after : Text}
    (h : Flanked (before ++ (closeTag defaultMarker ++ after))) : ['k', '>'] <:+ before := by
  obtain ⟨front, hfront⟩ := h.closing (before ++ closeTag defaultMarker)
    ⟨after, by simp⟩ (List.suffix_append _ _)
  rw [← List.append_assoc, List.append_cancel_right_eq] at hfront
  exact ⟨front, hfront⟩

theorem Flanked.barred (h : Flanked s) : Barred defaultMarker s := by
  intro before tag after htag hs
  subst hs
  cases htag with
  | openTag => exact .inr (not_goesOn_element h.starts_element)
  | closeTag =>
      refine .inl ⟨'>', ?_, by decide⟩
      obtain ⟨front, rfl⟩ := h.ends_element
      simp

end MarkdownPages.Link
