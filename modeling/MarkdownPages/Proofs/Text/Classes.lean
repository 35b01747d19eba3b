import MarkdownPages.Text.Basic

/-!
# Classes of characters

The classes of ASCII by code points, and what tells letters and digits from the characters that have
a meaning in Markdown or HTML.
-/

namespace MarkdownPages.Text

/-! ## Texts of a class

Whether all characters of a text belong to a class is found by going through the text, not through
all characters.
-/

section Decidable

variable {p : Char → Prop} [DecidablePred p]

instance decidableForallMem (s : Text) : Decidable (∀ c ∈ s, p c) := List.decidableBAll p s

instance decidableForallMemOption (c? : Option Char) : Decidable (∀ c ∈ c?, p c) :=
  Option.decidableForallMem c?

end Decidable

/-! ## Classes -/

variable {c : Char}

theorem isDigit_iff : c.isDigit = true ↔ 0x30 ≤ c.toNat ∧ c.toNat ≤ 0x39 := by
  simp only [Char.isDigit, Bool.and_eq_true, decide_eq_true_eq]
  rfl

theorem isLower_iff : c.isLower = true ↔ 0x61 ≤ c.toNat ∧ c.toNat ≤ 0x7A := by
  have hbounds : c.isLower = true ↔
      decide ('a'.val ≤ c.val) = true ∧ decide (c.val ≤ 'z'.val) = true := Bool.and_eq_true_iff
  rw [hbounds, decide_eq_true_eq, decide_eq_true_eq]
  rfl

theorem isUpper_iff : c.isUpper = true ↔ 0x41 ≤ c.toNat ∧ c.toNat ≤ 0x5A := decide_eq_true_iff

theorem isAlpha_iff : c.isAlpha = true ↔
    (0x41 ≤ c.toNat ∧ c.toNat ≤ 0x5A) ∨ (0x61 ≤ c.toNat ∧ c.toNat ≤ 0x7A) := by
  have hparts : c.isAlpha = true ↔ c.isUpper = true ∨ c.isLower = true := Bool.or_eq_true_iff
  rw [hparts, isUpper_iff, isLower_iff]

theorem isAlphanum_iff : c.isAlphanum = true ↔
    (0x30 ≤ c.toNat ∧ c.toNat ≤ 0x39) ∨ (0x41 ≤ c.toNat ∧ c.toNat ≤ 0x5A) ∨
      (0x61 ≤ c.toNat ∧ c.toNat ≤ 0x7A) := by
  have hparts : c.isAlphanum = true ↔ c.isAlpha = true ∨ c.isDigit = true := Bool.or_eq_true_iff
  rw [hparts, isAlpha_iff, isDigit_iff]
  omega

theorem isAlphanum_of_isAlpha (h : c.isAlpha = true) : c.isAlphanum = true :=
  Bool.or_eq_true_iff.mpr (.inl h)

theorem notMem_of_all_isAlphanum {s : Text} (h : s.all Char.isAlphanum = true) {d : Char}
    (hd : d.isAlphanum = false) : d ∉ s := by
  intro hmem
  have hchar := List.all_eq_true.mp h d hmem
  simp [hd] at hchar

end MarkdownPages.Text
