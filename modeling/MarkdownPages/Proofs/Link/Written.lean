import MarkdownPages.Proofs.Link.Cut

/-!
# What is written for links

Replacing the links of a text brings in no characters but those of the words of the style, of tags
and of escaped quotes.
-/

namespace MarkdownPages.Link

open Text

variable {style : LinkStyle} {c : Char}

theorem escapeQuotes_of_notMem {s : Text} (h : '"' ∉ s) : escapeQuotes s = s := by
  induction s with
  | nil => rfl
  | cons c s ih =>
      rw [List.mem_cons, not_or] at h
      have htail : escapeQuotes s = s := ih h.2
      rw [escapeQuotes, List.flatMap_cons, if_neg (Ne.symm h.1), ← escapeQuotes, htail]
      rfl

theorem element_standard {link : Link} (h : '"' ∉ link.text) :
    element LinkStyle.standard link =
      "<app-generated-link linkHREF=\"".toList ++ link.destination ++ "\">".toList ++ link.text ++
        "</app-generated-link>".toList := by
  have hlead : "<app-generated-link linkHREF=\"".toList =
      '<' :: LinkStyle.standard.element ++ ' ' :: LinkStyle.standard.hrefAttribute ++ ['=', '"'] :=
    rfl
  have hvalueEnd : "\">".toList = ['"', '>'] := rfl
  have hclose : "</app-generated-link>".toList =
      '<' :: '/' :: LinkStyle.standard.element ++ ['>'] := rfl
  rw [hlead, hvalueEnd, hclose]
  simp only [element, opened, escapeQuotes_of_notMem h, List.append_assoc, List.cons_append,
    List.nil_append]

/-! ## The tags of a placeholder

They stand without their `<`, in the words of a site without settings.
-/

def markerStart : Text := LinkStyle.standard.marker ++ ['>']

def elementLead : Text :=
  LinkStyle.standard.element ++ ' ' :: (LinkStyle.standard.hrefAttribute ++ ['=', '"'])

def elementEnd : Text := '/' :: (LinkStyle.standard.element ++ ['>'])

def markerEnd : Text := '/' :: (LinkStyle.standard.marker ++ ['>'])

theorem placeholder_standard (link : Link) :
    placeholder LinkStyle.standard link =
      '<' :: (markerStart ++ '<' :: (elementLead ++ (link.destination ++
        '"' :: '>' :: (escapeQuotes link.text ++ '<' :: (elementEnd ++ '<' :: markerEnd))))) := by
  simp [placeholder, Link.element, opened, markerStart, elementLead, elementEnd, markerEnd]

/-! ## Foreign characters -/

def tagChars : Text := "</>= \"".toList ++ "&quot;".toList

/-- A character that no placeholder of a style brings in. -/
structure IsForeign (style : LinkStyle) (c : Char) : Prop where
  element : c ∉ style.element
  hrefAttribute : c ∉ style.hrefAttribute
  marker : c ∉ style.marker
  tags : c ∉ tagChars

instance (style : LinkStyle) (c : Char) : Decidable (IsForeign style c) :=
  decidable_of_iff (c ∉ style.element ∧ c ∉ style.hrefAttribute ∧ c ∉ style.marker ∧ c ∉ tagChars)
    ⟨fun ⟨h₁, h₂, h₃, h₄⟩ => ⟨h₁, h₂, h₃, h₄⟩, fun ⟨h₁, h₂, h₃, h₄⟩ => ⟨h₁, h₂, h₃, h₄⟩⟩

theorem mem_escapeQuotes {s : Text} (h : c ∈ escapeQuotes s) : c ∈ s ∨ c ∈ tagChars := by
  rw [escapeQuotes, List.mem_flatMap] at h
  obtain ⟨d, hd, hc⟩ := h
  split at hc
  · exact .inr (List.mem_append_right _ hc)
  · exact .inl (List.mem_singleton.mp hc ▸ hd)

theorem IsForeign.notMem_placeholder (h : IsForeign style c) {link : Link}
    (hlink : c ∉ link.source) : c ∉ placeholder style link := by
  have hne : ∀ d ∈ tagChars, c ≠ d := fun d hd heq => h.tags (heq ▸ hd)
  have htext : c ∉ escapeQuotes link.text := by
    intro hmem
    rcases mem_escapeQuotes hmem with hmem | hmem
    · exact hlink (by simp [source, hmem])
    · exact h.tags hmem
  have hdestination : c ∉ link.destination := fun hmem => hlink (by simp [source, hmem])
  simp [placeholder, Link.element, opened, htext, hdestination, h.element, h.hrefAttribute,
    h.marker, hne '<' (by decide), hne '>' (by decide), hne '/' (by decide), hne '=' (by decide),
    hne ' ' (by decide), hne '"' (by decide)]

theorem Cut.notMem_fill {write : Link → Text} (hwrite : ∀ link, c ∉ link.source → c ∉ write link)
    (cut : Cut) (h : c ∉ cut.source) : c ∉ cut.fill write := by
  induction cut with
  | last gap => exact h
  | next gap link rest ih =>
      have hsource : c ∉ gap ++ link.source ++ rest.source := h
      simp only [List.mem_append, not_or] at hsource
      simp only [fill, List.mem_append, not_or]
      exact ⟨⟨hsource.1.1, hwrite link hsource.1.2⟩, ih hsource.2⟩

theorem IsForeign.notMem_replaceAll (h : IsForeign style c) {s : Text} (hs : c ∉ s) :
    c ∉ replaceAll style s := by
  obtain ⟨cut, -, rfl, hfill⟩ := exists_cut s
  rw [replaceAll, hfill]
  exact cut.notMem_fill (fun link => h.notMem_placeholder) hs

end MarkdownPages.Link
