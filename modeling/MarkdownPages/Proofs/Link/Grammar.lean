import Mathlib.Data.Set.Subsingleton
import Mathlib.Data.List.Infix
import MarkdownPages.Link
import MarkdownPages.Proofs.Text.Classes

/-!
# The grammar of links

A link is written `[text](destination)`, where text and destination are non-empty sequences of
units.  The reader finds exactly the links of this grammar.  A bracket that closes a part is no unit
of it, so no other way of reading the characters behind an opening bracket gives a link.
-/

namespace MarkdownPages.Link

open Text

/--
Sequences of units.  A unit is a backslash with a character behind it, or a character that is
neither a backslash nor the closing bracket; no unit holds a line feed.
-/
inductive Units (close : Char) : Text → Prop
  | nil : Units close []
  | pair {c : Char} {rest : Text} (hline : c ≠ '\n') (hrest : Units close rest) :
      Units close ('\\' :: c :: rest)
  | char {c : Char} {rest : Text} (hbackslash : c ≠ '\\') (hclose : c ≠ close) (hline : c ≠ '\n')
      (hrest : Units close rest) : Units close (c :: rest)

structure Valid (link : Link) : Prop where
  text_units : Units ']' link.text
  text_ne_nil : link.text ≠ []
  destination_units : Units ')' link.destination
  destination_ne_nil : link.destination ≠ []

def source (link : Link) : Text :=
  '[' :: link.text ++ ']' :: '(' :: link.destination ++ [')']

def StartsAt (link : Link) (s : Text) : Prop := link.Valid ∧ link.source <+: s

theorem units_of_notMem {close : Char} {s : Text} (hclose : close ∉ s) (hbackslash : '\\' ∉ s)
    (hline : '\n' ∉ s) : Units close s := by
  induction s with
  | nil => exact .nil
  | cons c s ih =>
      rw [List.mem_cons, not_or] at hclose hbackslash hline
      have hrest : Units close s := ih hclose.2 hbackslash.2 hline.2
      exact .char (Ne.symm hbackslash.1) (Ne.symm hclose.1) (Ne.symm hline.1) hrest

theorem Units.newline_notMem {close : Char} {s : Text} (h : Units close s) : '\n' ∉ s := by
  induction h with
  | nil => simp
  | pair hline _ ih => simp [Ne.symm hline, ih]
  | char _ _ hline _ ih => simp [Ne.symm hline, ih]

theorem Valid.newline_notMem {link : Link} (h : link.Valid) : '\n' ∉ link.source := by
  simp [source, h.text_units.newline_notMem, h.destination_units.newline_notMem]

theorem valid_of_all_isAlphanum {text destination : Text} (htext : text ≠ [])
    (htextAlnum : text.all Char.isAlphanum = true) (hdestination : destination ≠ [])
    (hdestinationAlnum : destination.all Char.isAlphanum = true) : Valid ⟨text, destination⟩ where
  text_units := units_of_notMem (notMem_of_all_isAlphanum htextAlnum rfl)
    (notMem_of_all_isAlphanum htextAlnum rfl) (notMem_of_all_isAlphanum htextAlnum rfl)
  text_ne_nil := htext
  destination_units := units_of_notMem (notMem_of_all_isAlphanum hdestinationAlnum rfl)
    (notMem_of_all_isAlphanum hdestinationAlnum rfl) (notMem_of_all_isAlphanum hdestinationAlnum rfl)
  destination_ne_nil := hdestination

/-! ## What the reader accepts -/

theorem readUnits?_of_units {close : Char} (hclose : close ≠ '\\') {units : Text}
    (h : Units close units) (after : Text) :
    readUnits? close (units ++ close :: after) = some (units, after) := by
  induction h with
  | nil => simp [readUnits?, hclose]
  | pair hline _ ih => simp [readUnits?, hline, ih]
  | char hbackslash hother hline _ ih => simp [readUnits?, hbackslash, hother, hline, ih]

theorem units_of_readUnits? {close : Char} {s units after : Text}
    (h : readUnits? close s = some (units, after)) :
    Units close units ∧ s = units ++ close :: after := by
  fun_induction readUnits? close s generalizing units with
  | case1 => simp at h
  | case2 => simp at h
  | case3 c rest hline ih =>
      simp only [Option.map_eq_some_iff, Prod.mk.injEq, Prod.exists] at h
      obtain ⟨tail, _, hrest, rfl, rfl⟩ := h
      obtain ⟨htail, heq⟩ := ih hrest
      exact ⟨.pair hline htail, by rw [heq]; rfl⟩
  | case4 rest _ =>
      simp only [Option.some.injEq, Prod.mk.injEq] at h
      obtain ⟨rfl, rfl⟩ := h
      exact ⟨.nil, rfl⟩
  | case5 => simp at h
  | case6 c rest _ hclose hother ih =>
      simp only [Option.map_eq_some_iff, Prod.mk.injEq, Prod.exists] at h
      obtain ⟨tail, _, hrest, rfl, rfl⟩ := h
      obtain ⟨htail, heq⟩ := ih hrest
      rw [not_or] at hother
      exact ⟨.char hother.1 hclose hother.2 htail, by rw [heq]; rfl⟩

theorem readAfterBracket?_eq_some_iff {s after : Text} {link : Link} :
    readAfterBracket? s = some (link, after) ↔ link.Valid ∧ '[' :: s = link.source ++ after := by
  constructor
  · intro h
    simp only [readAfterBracket?, Option.bind_eq_bind, Option.bind_eq_some_iff, Prod.exists] at h
    obtain ⟨text, afterText, htext, inParens, hparen, destination, rest, hdest, h⟩ := h
    obtain ⟨htextUnits, rfl⟩ := units_of_readUnits? htext
    obtain ⟨hdestUnits, rfl⟩ := units_of_readUnits? hdest
    split at h
    · simp at h
    · rename_i hempty
      simp only [Bool.or_eq_true, List.isEmpty_iff, not_or] at hempty
      simp only [Option.some.injEq, Prod.mk.injEq] at h
      obtain ⟨rfl, rfl⟩ := h
      refine ⟨⟨htextUnits, hempty.1, hdestUnits, hempty.2⟩, ?_⟩
      simp [source, ← List.append_eq_of_isPrefixOf?_eq_some hparen]
  · rintro ⟨⟨htext, htextNe, hdest, hdestNe⟩, hsource⟩
    obtain rfl : s = link.text ++ ']' :: ('(' :: (link.destination ++ ')' :: after)) := by
      simpa [source] using hsource
    simp [readAfterBracket?, readUnits?_of_units (by decide) htext, List.isPrefixOf?,
      readUnits?_of_units (by decide) hdest, htextNe, hdestNe]

theorem readAfterBracket?_eq_none_iff {s : Text} :
    readAfterBracket? s = none ↔ ∀ link : Link, ¬ link.StartsAt ('[' :: s) := by
  constructor
  · rintro hnone link ⟨hvalid, after, hafter⟩
    have hread := readAfterBracket?_eq_some_iff.mpr ⟨hvalid, hafter.symm⟩
    simp [hnone] at hread
  · intro h
    rw [Option.eq_none_iff_forall_ne_some]
    rintro ⟨link, after⟩ hread
    obtain ⟨hvalid, hsource⟩ := readAfterBracket?_eq_some_iff.mp hread
    exact h link ⟨hvalid, after, hsource.symm⟩

/-! ## Links at one place -/

theorem StartsAt.exists_tail {link : Link} {s : Text} (h : link.StartsAt s) :
    ∃ rest, s = '[' :: rest := by
  obtain ⟨-, after, rfl⟩ := h
  exact ⟨_, rfl⟩

theorem not_startsAt_cons {c : Char} (hc : c ≠ '[') (s : Text) (link : Link) :
    ¬ link.StartsAt (c :: s) := by
  intro hstart
  obtain ⟨_, heq⟩ := hstart.exists_tail
  exact hc (List.cons.inj heq).1

theorem subsingleton_startsAt (s : Text) : {link : Link | link.StartsAt s}.Subsingleton := by
  rintro first hfirst second hsecond
  obtain ⟨rest, rfl⟩ := hfirst.exists_tail
  obtain ⟨hfirst, after, hafter⟩ := hfirst
  obtain ⟨hsecond, after', hafter'⟩ := hsecond
  have hread := readAfterBracket?_eq_some_iff.mpr ⟨hfirst, hafter.symm⟩
  have hread' := readAfterBracket?_eq_some_iff.mpr ⟨hsecond, hafter'.symm⟩
  rw [hread] at hread'
  exact congrArg Prod.fst (Option.some.inj hread')

end MarkdownPages.Link
