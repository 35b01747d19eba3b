import Mathlib.Data.List.Basic
import MarkdownPages.Proofs.Text.Classes
import MarkdownPages.Site.Load

/-!
# The markup of a loaded site

Only letters, digits, hyphens and a line feed at the end get into the names of the markup of a
site, so these names hold nothing that has a meaning in tags.
-/

namespace MarkdownPages

open Text

namespace LinkStyle

def isNameChar (c : Char) : Bool := c.isAlphanum || c = '-' || c = '\n'

structure Plain (style : LinkStyle) : Prop where
  element : style.element.all isNameChar = true
  hrefAttribute : style.hrefAttribute.all isNameChar = true
  marker : style.marker.all isNameChar = true

theorem plain_standard : standard.Plain := by
  constructor <;> decide

theorem notMem_of_all_isNameChar {name : Text} (h : name.all isNameChar = true) {c : Char}
    (hc : isNameChar c = false) : c ∉ name := by
  intro hmem
  have hchar := List.all_eq_true.mp h c hmem
  simp [hc] at hchar

end LinkStyle

namespace Site

open LinkStyle

theorem bind_eq_ok_iff {ε α β : Type} {x : Except ε α} {f : α → Except ε β} {b : β} :
    x >>= f = .ok b ↔ ∃ a, x = .ok a ∧ f a = .ok b := by
  cases x <;> simp [bind, Except.bind]

/-! ## Accepted names -/

theorem dropFinalNewline_cases (s : Text) :
    s = dropFinalNewline s ∨ s = dropFinalNewline s ++ ['\n'] := by
  unfold dropFinalNewline
  split
  · rename_i hlast
    exact .inr (List.dropLast_append_getLast? _ hlast).symm
  · exact .inl rfl

theorem all_isNameChar_of_isMarkupName {s : Text} (h : isMarkupName s = true) :
    s.all isNameChar = true := by
  have hbody : (dropFinalNewline s).all isNameChar = true := by
    unfold isMarkupName isName at h
    split at h
    · cases h
    · rename_i c rest heq
      rw [Bool.and_eq_true] at h
      rw [heq, List.all_cons, Bool.and_eq_true]
      constructor
      · simp [isNameChar, isAlphanum_of_isAlpha h.1]
      · rw [List.all_eq_true] at h ⊢
        intro d hd
        have hchar := h.2 d hd
        simp only [isNameChar, hchar, Bool.true_or]
  rcases dropFinalNewline_cases s with heq | heq
  · rw [heq]
    exact hbody
  · rw [heq, List.all_append, hbody]
    rfl

theorem isMarkupName_of_markupName {setting : String} {fallback name : Text}
    {defaults : List (Value × Value)} (hfallback : isMarkupName fallback = true)
    (h : markupName setting fallback defaults = .ok name) : isMarkupName name = true := by
  unfold markupName at h
  split at h
  · cases h
    exact hfallback
  · split at h
    · rename_i hname
      cases h
      exact hname
    · cases h
  · cases h

/-! ## Loaded sites -/

theorem exists_of_ofValue {settings : Value} {site : Site} (h : ofValue settings = .ok site) :
    ∃ defaults entries,
      markupName "link_element" defaultElement defaults = .ok site.element ∧
      markupName "link_href_attribute" defaultHrefAttribute defaults = .ok site.hrefAttribute ∧
      pagesOf [] entries = .ok site.pages := by
  unfold ofValue at h
  split at h
  · cases h
  · split at h
    · cases h
    · rename_i defaults _
      obtain ⟨element, helement, h⟩ := bind_eq_ok_iff.mp h
      obtain ⟨hrefAttribute, hattribute, h⟩ := bind_eq_ok_iff.mp h
      dsimp only at h
      split at h
      · cases h
      · split at h
        · cases h
        · rename_i entries _
          obtain ⟨pages, hpages, h⟩ := bind_eq_ok_iff.mp h
          cases h
          exact ⟨defaults, entries, helement, hattribute, hpages⟩

theorem pagesOf_induction {P : List Page → Prop}
    (hput : ∀ key settings page pages, pageOf key settings = .ok page → P pages →
      P (putPage page pages))
    {entries : List (Value × Value)} {pages loaded : List Page} (hpages : P pages)
    (h : pagesOf pages entries = .ok loaded) : P loaded := by
  induction entries generalizing pages with
  | nil =>
      cases h
      exact hpages
  | cons entry entries ih =>
      obtain ⟨key, settings⟩ := entry
      rw [pagesOf] at h
      obtain ⟨page, hpage, h⟩ := bind_eq_ok_iff.mp h
      exact ih (hput _ _ page pages hpage hpages) h

theorem exists_of_ofText {s : Text} {site : Site} (h : ofText s = .ok site) :
    ∃ settings, Yaml.read s = .ok settings ∧ ofValue settings = .ok site := by
  unfold ofText at h
  split at h
  · cases h
  · rename_i settings hread
    split at h
    · cases h
    · rename_i hvalue
      cases h
      exact ⟨settings, hread, hvalue⟩

theorem isMarkupName_of_ofValue {settings : Value} {site : Site} (h : ofValue settings = .ok site) :
    isMarkupName site.element = true ∧ isMarkupName site.hrefAttribute = true := by
  obtain ⟨defaults, entries, helement, hattribute, -⟩ := exists_of_ofValue h
  exact ⟨isMarkupName_of_markupName (by decide) helement,
    isMarkupName_of_markupName (by decide) hattribute⟩

theorem plain_style_of_ofValue {settings : Value} {site : Site}
    (h : ofValue settings = .ok site) : site.style.Plain := by
  obtain ⟨helement, hattribute⟩ := isMarkupName_of_ofValue h
  constructor
  · exact all_isNameChar_of_isMarkupName helement
  · exact all_isNameChar_of_isMarkupName hattribute
  · exact plain_standard.marker

theorem plain_style_of_ofText {s : Text} {site : Site} (h : ofText s = .ok site) :
    site.style.Plain := by
  obtain ⟨settings, -, hvalue⟩ := exists_of_ofText h
  exact plain_style_of_ofValue hvalue

theorem ofText_eq_ok_iff {s : Text} {site : Site} :
    ofText s = .ok site ↔ (ofText s).toOption = some site := by
  cases ofText s <;> simp [Except.toOption]

end Site

end MarkdownPages
