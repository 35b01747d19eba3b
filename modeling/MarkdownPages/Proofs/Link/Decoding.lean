import MarkdownPages.Proofs.Marker.Placeholder

/-!
# Reading placeholders back

The destination stands in a placeholder as it is, quotes and tags included.  But the text of the link
is written without quotes, so the last quote of a placeholder ends the destination.
-/

namespace MarkdownPages.Link

open Text Marker

variable {s t first second after after' : Text} {c d : Char}

/-! ## Quotes -/

theorem quote_notMem_escapeQuotes (s : Text) : '"' ∉ escapeQuotes s := by
  induction s with
  | nil => simp
  | cons c s ih =>
      by_cases hc : c = '"'
      · subst hc
        rw [escapeQuotes_quote_cons, List.mem_append, not_or]
        exact ⟨by decide, ih⟩
      · rw [escapeQuotes_cons hc, List.mem_cons, not_or]
        exact ⟨Ne.symm hc, ih⟩

theorem escapeQuotes_cons_ne_nil (c : Char) (s : Text) : escapeQuotes (c :: s) ≠ [] := by
  by_cases hc : c = '"'
  · subst hc
    simp [escapeQuotes_quote_cons]
  · simp [escapeQuotes_cons hc]

theorem infix_of_escapeQuotes_eq (hd : d ≠ '"')
    (h : escapeQuotes ('"' :: s) = escapeQuotes (d :: t)) : "&quot;".toList <:+: d :: t := by
  rw [escapeQuotes_quote_cons, escapeQuotes_cons hd] at h
  have hcons : '&' :: ("quot;".toList ++ escapeQuotes s) = d :: escapeQuotes t := h
  obtain ⟨rfl, htail⟩ := List.cons.inj hcons
  have hlead : "quot;".toList <+: t := prefix_of_prefix_escapeQuotes (by decide) ⟨_, htail⟩
  have hentity : "&quot;".toList <+: '&' :: t := List.cons_prefix_cons.mpr ⟨rfl, hlead⟩
  exact hentity.isInfix

theorem eq_of_escapeQuotes_eq (hs : ¬ "&quot;".toList <:+: s) (ht : ¬ "&quot;".toList <:+: t)
    (h : escapeQuotes s = escapeQuotes t) : s = t := by
  induction s generalizing t with
  | nil =>
      cases t with
      | nil => rfl
      | cons d t => exact absurd h.symm (escapeQuotes_cons_ne_nil d t)
  | cons c s ih =>
      cases t with
      | nil => exact absurd h (escapeQuotes_cons_ne_nil c s)
      | cons d t =>
          have hsTail : ¬ "&quot;".toList <:+: s := fun hin =>
            hs (hin.trans (List.suffix_cons c s).isInfix)
          have htTail : ¬ "&quot;".toList <:+: t := fun hin =>
            ht (hin.trans (List.suffix_cons d t).isInfix)
          by_cases hc : c = '"' <;> by_cases hd : d = '"'
          · subst hc hd
            rw [escapeQuotes_quote_cons, escapeQuotes_quote_cons, List.append_cancel_left_eq] at h
            rw [ih hsTail htTail h]
          · subst hc
            exact absurd (infix_of_escapeQuotes_eq hd h) ht
          · subst hd
            exact absurd (infix_of_escapeQuotes_eq hc h.symm) hs
          · rw [escapeQuotes_cons hc, escapeQuotes_cons hd] at h
            obtain ⟨rfl, htail⟩ := List.cons.inj h
            rw [ih hsTail htTail htail]

/-! ## The last quote -/

theorem eq_of_append_cons_eq_of_last (hafter : c ∉ after) (hafter' : c ∉ after')
    (h : first ++ c :: after = second ++ c :: after') : first = second ∧ after = after' := by
  have hreverse : after.reverse ++ c :: first.reverse = after'.reverse ++ c :: second.reverse := by
    simpa using congrArg List.reverse h
  obtain ⟨hend, hstart⟩ := eq_of_append_cons_eq (by simpa using hafter) (by simpa using hafter') hreverse
  exact ⟨List.reverse_injective hstart, List.reverse_injective hend⟩

theorem placeholder_eq_iff (style : LinkStyle) (link other : Link) :
    placeholder style link = placeholder style other ↔
      link.destination = other.destination ∧ escapeQuotes link.text = escapeQuotes other.text := by
  constructor
  · intro h
    have hbody : link.destination ++ '"' :: ('>' :: escapeQuotes link.text) =
        other.destination ++ '"' :: ('>' :: escapeQuotes other.text) := by
      rw [placeholder_eq, placeholder_eq, List.append_cancel_left_eq, List.append_cancel_right_eq,
        element_eq, element_eq, List.append_cancel_right_eq, opened_eq, opened_eq,
        List.append_cancel_left_eq] at h
      exact (List.cons.inj h).2
    have hquote : ∀ s, '"' ∉ '>' :: escapeQuotes s := fun s =>
      List.not_mem_cons_of_ne_of_not_mem (by decide) (quote_notMem_escapeQuotes s)
    obtain ⟨hdestination, htext⟩ := eq_of_append_cons_eq_of_last (hquote _) (hquote _) hbody
    exact ⟨hdestination, (List.cons.inj htext).2⟩
  · rintro ⟨hdestination, htext⟩
    rw [placeholder_eq, placeholder_eq, element_eq, element_eq, opened_eq, opened_eq, hdestination,
      htext]

/--
A placeholder tells the destination and the text with its quotes escaped, in every style; and the
whole link if the entity of a quote does not stand in its text.
-/
theorem placeholders_can_be_decoded (style : LinkStyle) (link other : Link) :
    (placeholder style link = placeholder style other ↔
      link.destination = other.destination ∧ escapeQuotes link.text = escapeQuotes other.text) ∧
    (¬ "&quot;".toList <:+: link.text → ¬ "&quot;".toList <:+: other.text →
      (placeholder style link = placeholder style other ↔ link = other)) := by
  refine ⟨placeholder_eq_iff style link other, fun hlink hother => ?_⟩
  constructor
  · intro h
    obtain ⟨hdestination, htext⟩ := (placeholder_eq_iff style link other).mp h
    have htextEq : link.text = other.text := eq_of_escapeQuotes_eq hlink hother htext
    cases link
    cases other
    rw [Link.mk.injEq]
    exact ⟨htextEq, hdestination⟩
  · intro h
    rw [h]

/-- These two links would have one placeholder if the quote in a text were not escaped. -/
theorem placeholders_can_be_decoded_with_quotes :
    ¬ "&quot;".toList <:+: "c".toList ∧ ¬ "&quot;".toList <:+: "b\">c".toList ∧
      placeholder LinkStyle.standard ⟨"c".toList, "a\">b".toList⟩ ≠
        placeholder LinkStyle.standard ⟨"b\">c".toList, "a".toList⟩ := by
  have hfirst : ¬ "&quot;".toList <:+: "c".toList := by decide
  have hsecond : ¬ "&quot;".toList <:+: "b\">c".toList := by decide
  refine ⟨hfirst, hsecond, fun h => ?_⟩
  have heq := ((placeholders_can_be_decoded _ _ _).2 hfirst hsecond).mp h
  exact absurd heq (by decide)

/-- The entity is not told from the quote. -/
example : placeholder LinkStyle.standard ⟨"\"".toList, "h".toList⟩ =
    placeholder LinkStyle.standard ⟨"&quot;".toList, "h".toList⟩ := rfl

end MarkdownPages.Link
