import Mathlib.Data.List.Basic
import MarkdownPages.Text.Utf8

/-!
# Bytes of texts

Bytes that can be read are the UTF-8 form of what is read from them.  The characters of ASCII are
the only ones with bytes below `0x80`, one for each; so they are found among the bytes of a text
where they are found in the text.
-/

namespace MarkdownPages.Text

variable {s : Text} {c d : Char} {bytes rest : List Nat}

/-! ## Reading -/

theorem eq_of_continuationBits? {n x : Nat} (h : continuationBits? n = some x) :
    n = 0x80 + x ∧ x < 0x40 := by
  unfold continuationBits? at h
  split at h
  · have hx := Option.some.inj h
    omega
  · cases h

theorem toNat_of_charFrom? {least n : Nat} (h : charFrom? least n = some c) :
    c.toNat = n ∧ least ≤ n := by
  unfold charFrom? at h
  split at h
  · rename_i hn
    have hc := Option.some.inj h
    refine ⟨?_, hn.1⟩
    rw [← hc, Char.ofNat, dif_pos hn.2]
    rfl
  · cases h

theorem toNat_lt (c : Char) : c.toNat < 0x110000 := by
  rcases c.valid with hlow | hhigh
  · exact Nat.lt_trans hlow (by decide)
  · exact hhigh.2

theorem utf8Bytes_of_one {b : Nat} (hb : b < 0x80) : utf8Bytes (Char.ofNat b) = [b] := by
  have hcode : (Char.ofNat b).toNat = b := by
    rw [Char.ofNat, dif_pos (.inl (by omega))]
    rfl
  simp [utf8Bytes, hcode, hb]

theorem utf8Bytes_of_two {b n x : Nat} (hb : 0xC0 ≤ b ∧ b ≤ 0xDF)
    (hx : continuationBits? n = some x) (hc : charFrom? 0x80 ((b - 0xC0) * 0x40 + x) = some c) :
    utf8Bytes c = [b, n] := by
  obtain ⟨rfl, hx⟩ := eq_of_continuationBits? hx
  obtain ⟨hcode, hleast⟩ := toNat_of_charFrom? hc
  simp only [utf8Bytes]
  rw [if_neg (by omega), if_pos (by omega)]
  simp only [List.cons.injEq, and_true]
  omega

theorem utf8Bytes_of_three {b n m x y : Nat} (hb : 0xE0 ≤ b ∧ b ≤ 0xEF)
    (hx : continuationBits? n = some x) (hy : continuationBits? m = some y)
    (hc : charFrom? 0x800 ((b - 0xE0) * 0x1000 + x * 0x40 + y) = some c) :
    utf8Bytes c = [b, n, m] := by
  obtain ⟨rfl, hx⟩ := eq_of_continuationBits? hx
  obtain ⟨rfl, hy⟩ := eq_of_continuationBits? hy
  obtain ⟨hcode, hleast⟩ := toNat_of_charFrom? hc
  simp only [utf8Bytes]
  rw [if_neg (by omega), if_neg (by omega), if_pos (by omega)]
  simp only [List.cons.injEq, and_true]
  omega

theorem utf8Bytes_of_four {b n m k x y z : Nat} (hb : 0xF0 ≤ b ∧ b ≤ 0xF7)
    (hx : continuationBits? n = some x) (hy : continuationBits? m = some y)
    (hz : continuationBits? k = some z)
    (hc : charFrom? 0x10000 ((b - 0xF0) * 0x40000 + x * 0x1000 + y * 0x40 + z) = some c) :
    utf8Bytes c = [b, n, m, k] := by
  obtain ⟨rfl, hx⟩ := eq_of_continuationBits? hx
  obtain ⟨rfl, hy⟩ := eq_of_continuationBits? hy
  obtain ⟨rfl, hz⟩ := eq_of_continuationBits? hz
  obtain ⟨hcode, hleast⟩ := toNat_of_charFrom? hc
  have hbound := toNat_lt c
  simp only [utf8Bytes]
  rw [if_neg (by omega), if_neg (by omega), if_neg (by omega)]
  simp only [List.cons.injEq, and_true]
  omega

theorem eq_of_readUtf8Char? (h : readUtf8Char? bytes = some (c, rest)) :
    bytes = utf8Bytes c ++ rest := by
  fun_cases readUtf8Char? bytes with
  | case1 => cases h
  | case2 b more hb =>
      simp only [readUtf8Char?, hb, if_true, Option.some.injEq, Prod.mk.injEq] at h
      obtain ⟨rfl, rfl⟩ := h
      rw [utf8Bytes_of_one hb]
      rfl
  | case3 b hb hrange b₂ more =>
      simp only [readUtf8Char?, hb, hrange, and_self, if_true, if_false, Option.bind_eq_bind,
        Option.bind_eq_some_iff, Option.some.injEq, Prod.mk.injEq] at h
      obtain ⟨x, hx, char, hchar, rfl, rfl⟩ := h
      rw [utf8Bytes_of_two hrange hx hchar]
      rfl
  | case4 b more hb hrange hnone =>
      simp [readUtf8Char?, hb, hrange] at h
  | case5 b hb hrange₂ hrange b₂ b₃ more =>
      simp only [readUtf8Char?, hb, hrange₂, hrange, and_self, if_true, if_false,
        Option.bind_eq_bind, Option.bind_eq_some_iff, Option.some.injEq, Prod.mk.injEq] at h
      obtain ⟨x, hx, y, hy, char, hchar, rfl, rfl⟩ := h
      rw [utf8Bytes_of_three hrange hx hy hchar]
      rfl
  | case6 b more hb hrange₂ hrange hnone =>
      simp [readUtf8Char?, hb, hrange₂, hrange] at h
  | case7 b hb hrange₂ hrange₃ hrange b₂ b₃ b₄ more =>
      simp only [readUtf8Char?, hb, hrange₂, hrange₃, hrange, and_self, if_true, if_false,
        Option.bind_eq_bind, Option.bind_eq_some_iff, Option.some.injEq, Prod.mk.injEq] at h
      obtain ⟨x, hx, y, hy, z, hz, char, hchar, rfl, rfl⟩ := h
      rw [utf8Bytes_of_four hrange hx hy hz hchar]
      rfl
  | case8 b more hb hrange₂ hrange₃ hrange hnone =>
      simp [readUtf8Char?, hb, hrange₂, hrange₃, hrange] at h
  | case9 b more hb hrange₂ hrange₃ hrange =>
      simp [readUtf8Char?, hb, hrange₂, hrange₃, hrange] at h

theorem encodeUtf8_append (s t : Text) : encodeUtf8 (s ++ t) = encodeUtf8 s ++ encodeUtf8 t :=
  List.flatMap_append

theorem encodeUtf8_cons (c : Char) (s : Text) :
    encodeUtf8 (c :: s) = utf8Bytes c ++ encodeUtf8 s := List.flatMap_cons

theorem eq_of_decodeUtf8?_go {fuel : Nat} {read : Text}
    (h : decodeUtf8?.go fuel bytes read = some s) : encodeUtf8 s = encodeUtf8 read.reverse ++ bytes := by
  induction fuel generalizing bytes read with
  | zero =>
      cases bytes with
      | nil => simp [← Option.some.inj h]
      | cons b bytes => cases h
  | succ fuel ih =>
      cases bytes with
      | nil => simp [← Option.some.inj h]
      | cons b bytes =>
          rw [decodeUtf8?.go] at h
          split at h
          · rename_i c rest hchar
            rw [ih h, eq_of_readUtf8Char? hchar, List.reverse_cons, encodeUtf8_append,
              List.append_assoc]
            simp [encodeUtf8]
          · cases h

theorem encodeUtf8_of_decodeUtf8? (h : decodeUtf8? bytes = some s) : encodeUtf8 s = bytes := by
  simpa [encodeUtf8] using eq_of_decodeUtf8?_go h

/-! ## Bytes of ASCII -/

theorem utf8Bytes_ne_nil (c : Char) : utf8Bytes c ≠ [] := by
  unfold utf8Bytes
  dsimp only
  split
  · simp
  · split
    · simp
    · split <;> simp

theorem mem_utf8Bytes_iff (hc : c.toNat < 0x80) : c.toNat ∈ utf8Bytes d ↔ c = d := by
  unfold utf8Bytes
  dsimp only
  split
  · rw [List.mem_singleton, Char.toNat_inj]
  · rename_i hd
    have hne : c ≠ d := fun heq => hd (heq ▸ hc)
    simp only [hne, iff_false]
    split
    · simp
      omega
    · split
      · simp
        omega
      · simp
        omega

theorem mem_encodeUtf8_iff (hc : c.toNat < 0x80) : c.toNat ∈ encodeUtf8 s ↔ c ∈ s := by
  simp [encodeUtf8, mem_utf8Bytes_iff hc]

theorem getLast?_of_getLast?_encodeUtf8 (hc : c.toNat < 0x80)
    (h : (encodeUtf8 s).getLast? = some c.toNat) : s.getLast? = some c := by
  rcases List.eq_nil_or_concat s with rfl | ⟨s, d, rfl⟩
  · cases h
  · rw [List.concat_eq_append] at h ⊢
    have hlast : (utf8Bytes d).getLast? = some c.toNat := by
      rw [encodeUtf8_append, encodeUtf8_cons] at h
      simpa [encodeUtf8, List.getLast?_append_of_ne_nil _ (utf8Bytes_ne_nil d)] using h
    rw [List.getLast?_concat, (mem_utf8Bytes_iff hc).mp (List.mem_of_getLast? hlast)]

end MarkdownPages.Text
