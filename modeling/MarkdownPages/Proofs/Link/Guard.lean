import MarkdownPages.Proofs.Link.Cut

/-!
# What stands before a link

In Markdown an exclamation mark before a bracket makes an image of a link, and a backslash takes the
bracket for itself.  Links are replaced without a look at what stands before them.
-/

namespace MarkdownPages.Link

open Text

variable {style : LinkStyle} {s before after gap rest : Text} {link : Link} {c : Char}

/-! ## Guards -/

def linkAt? : Text → Option Link
  | [] => none
  | c :: rest => if c = '[' then (readAfterBracket? rest).map Prod.fst else none

theorem linkAt?_eq_some_iff : linkAt? s = some link ↔ link.StartsAt s := by
  cases s with
  | nil => simp [linkAt?, StartsAt, source]
  | cons c rest =>
      by_cases hc : c = '['
      · subst hc
        simp only [linkAt?, if_true, Option.map_eq_some_iff, Prod.exists, exists_and_right,
          exists_eq_right, readAfterBracket?_eq_some_iff]
        constructor
        · rintro ⟨after, hvalid, heq⟩
          exact ⟨hvalid, after, heq.symm⟩
        · rintro ⟨hvalid, after, heq⟩
          exact ⟨after, hvalid, heq.symm⟩
      · simp only [linkAt?, if_neg hc, reduceCtorEq, false_iff]
        exact not_startsAt_cons hc rest link

/-- A text that keeps a bracket behind it from opening a link: it ends with an exclamation mark, or
with a backslash that no other one escapes. -/
def IsGuard (before : Text) : Prop :=
  before.getLast? = some '!' ∨ (before.reverse.takeWhile (· = '\\')).length % 2 = 1

instance : DecidablePred IsGuard := fun _ => inferInstanceAs (Decidable (_ ∨ _))

/-- Each link in a text stands behind a guard. -/
def Guarded (s : Text) : Prop :=
  ∀ i < s.length, (∃ link : Link, link.StartsAt (s.drop i)) → IsGuard (s.take i)

instance (s : Text) : Decidable (Guarded s) :=
  decidable_of_iff (∀ i < s.length, (linkAt? (s.drop i)).isSome → IsGuard (s.take i)) (by
    simp only [Guarded, Option.isSome_iff_exists, linkAt?_eq_some_iff])

/-! ## Gaps -/

theorem IsGap.tail (h : IsGap (c :: gap) rest) : IsGap gap rest := by
  intro before after heq hne
  exact h (c :: before) after (congrArg (List.cons c) heq) hne

theorem replaceWith_gap (write : Link → Text) (h : IsGap gap rest) :
    replaceWith write (gap ++ rest) = gap ++ replaceWith write rest := by
  induction gap with
  | nil => rfl
  | cons c gap ih =>
      have hrest := ih h.tail
      by_cases hc : c = '['
      · subst hc
        have hnone : readAfterBracket? (gap ++ rest) = none :=
          readAfterBracket?_eq_none_iff.mpr (h [] ('[' :: gap) rfl (by simp))
        rw [List.cons_append, replaceWith_bracket write hnone, hrest, List.cons_append]
      · rw [List.cons_append, replaceWith_char write hc, hrest, List.cons_append]

/-! ## Lengths -/

theorem length_le_escapeQuotes (s : Text) : s.length ≤ (escapeQuotes s).length := by
  induction s with
  | nil => exact Nat.le_refl _
  | cons c s ih =>
      have hcons : escapeQuotes (c :: s) =
          (if c = '"' then "&quot;".toList else [c]) ++ escapeQuotes s := rfl
      rw [hcons, List.length_append, List.length_cons]
      have hhead : 1 ≤ (if c = '"' then "&quot;".toList else [c]).length := by
        split <;> simp
      omega

theorem length_source_lt (style : LinkStyle) (link : Link) :
    link.source.length < (placeholder style link).length := by
  have htext := length_le_escapeQuotes link.text
  simp only [source, placeholder, element, opened, List.length_append, List.length_cons,
    List.length_nil]
  omega

theorem replaceAll_eq_self_iff (style : LinkStyle) (s : Text) :
    replaceAll style s = s ↔ Linkless s := by
  obtain ⟨cut, hleftmost, rfl, hfill⟩ := exists_cut s
  rw [hleftmost.linkless_iff, replaceAll, hfill]
  constructor
  · intro heq
    cases cut with
    | last gap => exact ⟨gap, rfl⟩
    | next gap link rest =>
        have hlink := length_source_lt style link
        have hrest : rest.source.length ≤ (rest.fill (placeholder style)).length :=
          rest.length_fill_le fun link => Nat.le_of_lt (length_source_lt style link)
        have hlength := congrArg List.length heq
        simp only [Cut.fill, Cut.source, List.length_append] at hlength hrest
        omega
  · rintro ⟨gap, rfl⟩
    rfl

/--
A text stays as it is if and only if no link starts anywhere in it.  Its first link is replaced
whatever stands before it, and so are the links behind; a guard makes no difference.
-/
theorem guards_keep_no_links (style : LinkStyle) (s : Text) :
    (replaceAll style s = s ↔ Linkless s) ∧
      ∀ before link after, s = before ++ (link.source ++ after) → link.Valid →
        IsGap before (link.source ++ after) →
        replaceAll style s = before ++ (placeholder style link ++ replaceAll style after) := by
  refine ⟨replaceAll_eq_self_iff style s, ?_⟩
  rintro before link after rfl hvalid hgap
  rw [replaceAll, replaceWith_gap _ hgap, replaceWith_source_append _ hvalid]

/-- The exclamation mark of an image stays before the placeholder. -/
theorem image_is_replaced :
    ("![a](b)".toList = ['!'] ++ (source ⟨['a'], ['b']⟩ ++ []) ∧ Valid ⟨['a'], ['b']⟩ ∧
      IsGap ['!'] (source ⟨['a'], ['b']⟩ ++ [])) ∧
    replaceAll LinkStyle.standard "![a](b)".toList =
      ['!'] ++ (placeholder LinkStyle.standard ⟨['a'], ['b']⟩ ++ replaceAll LinkStyle.standard []) := by
  have hvalid : Valid ⟨['a'], ['b']⟩ :=
    valid_of_all_isAlphanum (by decide) (by decide) (by decide) (by decide)
  have hgap : IsGap ['!'] (source ⟨['a'], ['b']⟩ ++ []) :=
    (isGap_nil _).cons (not_startsAt_cons (by decide) _)
  refine ⟨⟨by decide, hvalid, hgap⟩, ?_⟩
  exact (guards_keep_no_links LinkStyle.standard "![a](b)".toList).2 ['!'] ⟨['a'], ['b']⟩ []
    (by decide) hvalid hgap

/-- An image and an escaped bracket. -/
theorem guarded_links_are_changed :
    Guarded "![a](b) \\[c](d)".toList ∧
      replaceAll LinkStyle.standard "![a](b) \\[c](d)".toList =
        ("!<html><app-generated-link linkHREF=\"b\">a</app-generated-link></html> " ++
          "\\<html><app-generated-link linkHREF=\"d\">c</app-generated-link></html>").toList := by
  decide +kernel

end MarkdownPages.Link
