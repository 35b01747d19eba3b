import MarkdownPages.Proofs.Anchor.Hyphens
import MarkdownPages.Proofs.Text.Parts

/-!
# The words of an anchor

What is left of a heading in its anchor are its words, the maximal runs of letters and digits in
lower case, with single hyphens between them.  Before them stands what tells how the heading starts:
nothing before a letter, `id-` before a digit, and a hyphen before anything else.  The texts of this
form are the anchors, and making an anchor of one of them changes nothing.
-/

namespace MarkdownPages.Anchor

open Text

variable {s t w : Text} {ws : List Text} {c : Char}

/-! ## Words -/

/-- The maximal runs of letters and digits in lower case, from left to right. -/
def words : Text → List Text
  | [] => []
  | c :: s =>
    if isAnchorChar c then (c :: s.takeWhile isAnchorChar) :: words (s.dropWhile isAnchorChar)
    else words s
termination_by s => s.length
decreasing_by
  · exact Nat.lt_succ_of_le (List.dropWhile_sublist _).length_le
  · exact Nat.lt_succ_self _

@[simp] theorem words_nil : words [] = [] := by rw [words]

theorem words_run (hc : isAnchorChar c = true) (s : Text) :
    words (c :: s) = (c :: s.takeWhile isAnchorChar) :: words (s.dropWhile isAnchorChar) := by
  rw [words, if_pos hc]

theorem words_gap (hc : isAnchorChar c = false) (s : Text) : words (c :: s) = words s := by
  rw [words, if_neg (by simp [hc])]

theorem words_append (hne : w ≠ []) (hw : ∀ c ∈ w, isAnchorChar c = true)
    (ht : ∀ c ∈ t.head?, isAnchorChar c = false) : words (w ++ t) = w :: words t := by
  cases w with
  | nil => exact absurd rfl hne
  | cons c w =>
      rw [List.forall_mem_cons] at hw
      have hstop : t.takeWhile isAnchorChar = [] ∧ t.dropWhile isAnchorChar = t := by
        cases t with
        | nil => exact ⟨rfl, rfl⟩
        | cons d t => simp [ht d rfl]
      rw [List.cons_append, words_run hw.1, List.takeWhile_append_of_pos hw.2,
        List.dropWhile_append_of_pos hw.2, hstop.1, hstop.2, List.append_nil]

theorem of_mem_words (h : w ∈ words s) : w ≠ [] ∧ ∀ c ∈ w, isAnchorChar c = true := by
  fun_induction words s with
  | case1 => cases h
  | case2 c s hc ih =>
      rcases List.mem_cons.mp h with rfl | h
      · refine ⟨List.cons_ne_nil _ _, List.forall_mem_cons.mpr ⟨hc, fun d hd => ?_⟩⟩
        exact List.mem_takeWhile_imp hd
      · exact ih h
  | case3 c s hc ih => exact ih h

theorem words_intercalate (h : ∀ w ∈ ws, w ≠ [] ∧ ∀ c ∈ w, isAnchorChar c = true) :
    words (['-'].intercalate ws) = ws := by
  induction ws with
  | nil => exact words_nil
  | cons w ws ih =>
      rw [List.forall_mem_cons] at h
      obtain ⟨⟨hne, hw⟩, hrest⟩ := h
      cases ws with
      | nil =>
          have hword := words_append hne hw (t := []) (by simp)
          rw [List.append_nil, words_nil] at hword
          rw [List.intercalate_singleton, hword]
      | cons w' ws =>
          have hhyphen : isAnchorChar '-' = false := by decide
          have hjoin : ['-'].intercalate (w :: w' :: ws) = w ++ '-' :: ['-'].intercalate (w' :: ws) := by
            simp
          rw [hjoin, words_append hne hw (by simp [hhyphen]), words_gap hhyphen, ih hrest]

/-! ## Hyphens between words -/

def gap : Text → Text
  | [] => []
  | c :: _ => if isAnchorChar c then [] else ['-']

/-- The words of a text with single hyphens between them, and before them unless they start it. -/
def hyphenated (s : Text) : Text :=
  if words s = [] then [] else gap s ++ ['-'].intercalate (words s)

@[simp] theorem hyphenated_nil : hyphenated [] = [] := by rw [hyphenated, if_pos words_nil]

theorem ne_hyphen (hc : isAnchorChar c = true) : c ≠ '-' := by
  rintro rfl
  exact absurd hc (by decide)

theorem hyphenate_gap (hc : isAnchorChar c = false) : hyphenate c = '-' := by
  rw [hyphenate, if_neg (by simp [hc])]

theorem dropLastHyphen_cons (h : c ≠ '-' ∨ s ≠ []) :
    dropLastHyphen (c :: s) = c :: dropLastHyphen s := by
  cases s with
  | nil =>
      have hc : c ≠ '-' := h.resolve_right fun hs => hs rfl
      simp [dropLastHyphen, hc]
  | cons d s =>
      unfold dropLastHyphen
      rw [List.getLast?_cons_cons]
      split <;> rfl

theorem hyphenated_run (hc : isAnchorChar c = true) (s : Text) :
    hyphenated (c :: s) = c :: hyphenated s := by
  rw [hyphenated, if_neg (by simp [words_run hc]), gap, if_pos hc, words_run hc]
  cases s with
  | nil => simp
  | cons d s =>
      by_cases hd : isAnchorChar d = true
      · rw [hyphenated, if_neg (by simp [words_run hd]), gap, if_pos hd, words_run hd,
          List.takeWhile_cons_of_pos hd, List.dropWhile_cons_of_pos hd, List.intercalate_cons_cons_left]
        rfl
      · rw [List.takeWhile_cons_of_neg hd, List.dropWhile_cons_of_neg hd, hyphenated, gap,
          if_neg hd]
        cases words (d :: s) <;> rfl

theorem hyphenated_gap (hc : isAnchorChar c = false) (s : Text) :
    hyphenated (c :: s) = if words s = [] then [] else '-' :: ['-'].intercalate (words s) := by
  rw [hyphenated, words_gap hc]
  simp [gap, hc]

theorem dropLastHyphen_squeezeHyphens_hyphenate (s : Text) :
    dropLastHyphen (squeezeHyphens (s.map hyphenate)) = hyphenated s := by
  induction s with
  | nil => simp [squeezeHyphens, dropLastHyphen]
  | cons c s ih =>
      by_cases hc : isAnchorChar c = true
      · have hne := ne_hyphen hc
        have hsame : hyphenate c = c := IsInner.hyphenate_eq (.inl hc)
        rw [List.map_cons, hsame, squeezeHyphens, if_neg (fun h => hne h.1),
          dropLastHyphen_cons (.inl hne), ih, hyphenated_run hc]
      · have hc : isAnchorChar c = false := by simpa using hc
        rw [List.map_cons, hyphenate_gap hc, squeezeHyphens, hyphenated_gap hc]
        cases s with
        | nil => simp [squeezeHyphens, dropLastHyphen]
        | cons d s =>
            by_cases hd : isAnchorChar d = true
            · have hne := ne_hyphen hd
              have hsame : hyphenate d = d := IsInner.hyphenate_eq (.inl hd)
              have hrest : squeezeHyphens ((d :: s).map hyphenate) ≠ [] := by
                intro hnil
                have hhead := head?_squeezeHyphens ((d :: s).map hyphenate)
                rw [hnil] at hhead
                cases hhead
              rw [if_neg (by simp [hsame, hne]), dropLastHyphen_cons (.inr hrest), ih,
                hyphenated, if_neg (by simp [words_run hd]), if_neg (by simp [words_run hd]), gap,
                if_pos hd]
              rfl
            · have hd : isAnchorChar d = false := by simpa using hd
              rw [if_pos ⟨rfl, by simp [hyphenate_gap hd]⟩, ih, hyphenated_gap hd, words_gap hd]

/-! ## Lower case -/

/--
A text and what it is in lower case.  Characters that have letters of ASCII in their lower case are
changed to these; what becomes of a character beyond ASCII otherwise, and whether that depends on the
characters around it, is left open as long as it does not come back to ASCII.
-/
inductive LowerCased : Text → Text → Prop
  | nil : LowerCased [] []
  | char (c : Char) {s t : Text} (h : LowerCased s t) : LowerCased (c :: s) (lowerChar c ++ t)
  | foreign {c : Char} {l s t : Text} (hc : 0x7F < c.toNat) (hself : lowerChar c = [c])
      (hne : l ≠ []) (hl : ∀ d ∈ l, 0x7F < d.toNat) (h : LowerCased s t) :
      LowerCased (c :: s) (l ++ t)

theorem lowerCased_lower (s : Text) : LowerCased s (lower s) := by
  induction s with
  | nil => exact .nil
  | cons c s ih => exact ih.char c

theorem hyphenate_foreign (hc : 0x7F < c.toNat) : hyphenate c = '-' := by
  apply hyphenate_gap
  rw [isAnchorChar, Bool.or_eq_false_iff, Bool.eq_false_iff, Bool.eq_false_iff, Ne, Ne, isLower_iff,
    isDigit_iff]
  omega

theorem squeezeHyphens_hyphens_append (hne : t ≠ []) (ht : ∀ c ∈ t, c = '-') (s : Text) :
    squeezeHyphens (t ++ s) = squeezeHyphens ('-' :: s) := by
  induction t with
  | nil => exact absurd rfl hne
  | cons c t ih =>
      rw [List.forall_mem_cons] at ht
      obtain ⟨rfl, ht⟩ := ht
      cases t with
      | nil => rfl
      | cons d t =>
          obtain rfl : d = '-' := ht d List.mem_cons_self
          rw [← ih (by simp) ht, List.cons_append, squeezeHyphens, if_pos ⟨rfl, rfl⟩]

theorem LowerCased.squeezeHyphens_eq (h : LowerCased s t) :
    squeezeHyphens (t.map hyphenate) = squeezeHyphens ((lower s).map hyphenate) := by
  induction h with
  | nil => rfl
  | @char c s t h ih =>
      rw [lower, List.flatMap_cons, ← lower, List.map_append, List.map_append,
        ← squeezeHyphens_append_right, ih, squeezeHyphens_append_right]
  | @foreign c l s t hc hself hne hl h ih =>
      have hhyphens : ∀ d ∈ l.map hyphenate, d = '-' := by
        intro d hd
        obtain ⟨e, he, rfl⟩ := List.mem_map.mp hd
        exact hyphenate_foreign (hl e he)
      rw [lower, List.flatMap_cons, ← lower, hself, List.map_append, List.map_append,
        squeezeHyphens_hyphens_append (by simpa using hne) hhyphens, List.map_singleton,
        hyphenate_foreign hc]
      change squeezeHyphens (['-'] ++ _) = squeezeHyphens (['-'] ++ _)
      rw [← squeezeHyphens_append_right, ih, squeezeHyphens_append_right]

/-! ## Anchors by words -/

/-- What stands before the words of an anchor, from the start of its heading in lower case. -/
def lead : Text → Text
  | [] => []
  | c :: _ => if c.isDigit then "id-".toList else if isAnchorChar c then [] else ['-']

theorem guardDigit_hyphenated (s : Text) :
    guardDigit (hyphenated s) =
      if words s = [] then [] else lead s ++ ['-'].intercalate (words s) := by
  cases s with
  | nil => simp [guardDigit]
  | cons c s =>
      by_cases hc : isAnchorChar c = true
      · rw [hyphenated, if_neg (by simp [words_run hc]), if_neg (by simp [words_run hc]), gap,
          if_pos hc, words_run hc, List.nil_append, List.intercalate_cons_cons_left, guardDigit, lead,
          if_pos hc]
        split <;> rfl
      · have hc : isAnchorChar c = false := by simpa using hc
        have hdigit : c.isDigit = false := by
          rw [isAnchorChar, Bool.or_eq_false_iff] at hc
          exact hc.2
        rw [hyphenated_gap hc, words_gap hc, lead, hdigit, hc]
        split <;> rfl

theorem ofHeading_eq_of_lowerCased {heading : Text} (h : LowerCased (trim heading) s) :
    ofHeading heading = if words s = [] then [] else lead s ++ ['-'].intercalate (words s) := by
  rw [ofHeading, ← h.squeezeHyphens_eq, dropLastHyphen_squeezeHyphens_hyphenate,
    guardDigit_hyphenated]

/--
The anchor of a heading, from the heading without blanks around it and in lower case: nothing if that
has no words, and else its words with single hyphens between them, behind what tells how it starts.
-/
theorem anchor_joins_words (heading : Text) :
    LowerCased (trim heading) (lower (trim heading)) ∧
      ∀ s, LowerCased (trim heading) s →
        ofHeading heading = if words s = [] then [] else lead s ++ ['-'].intercalate (words s) :=
  ⟨lowerCased_lower _, fun _ => ofHeading_eq_of_lowerCased⟩

/-- A sigma has a lower case of its own at the end of a word; the Kelvin sign is a `k`. -/
theorem anchor_joins_words_of_capitals :
    let heading := ['\t', '9', ' ', 'Α', 'Σ', ':', ' ', 'O', '\u212A', '!', ' ']
    let s := ['9', ' ', 'α', 'ς', ':', ' ', 'o', 'k', '!']
    LowerCased (trim heading) s ∧ ofHeading heading = "id-9-ok".toList := by
  intro heading s
  have hlower : LowerCased (trim heading) s :=
    .char '9' (.char ' ' (.foreign (l := ['α']) (by decide) (by decide) (by decide) (by decide)
      (.foreign (l := ['ς']) (by decide) (by decide) (by decide) (by decide)
        (.char ':' (.char ' ' (.char 'O' (.char '\u212A' (.char '!' .nil))))))))
  have hwords : words s = [['9'], ['o', 'k']] := by
    simp [s, words, isAnchorChar]
  refine ⟨hlower, ?_⟩
  rw [(anchor_joins_words heading).2 s hlower, hwords]
  rfl

/-! ## The form of anchors -/

theorem ofHeading_eq_of_isInner (h : ∀ c ∈ s, IsInner c) :
    ofHeading s = if words s = [] then [] else lead s ++ ['-'].intercalate (words s) := by
  have hlower := lowerCased_lower s
  rw [lower_of_isInner h] at hlower
  apply ofHeading_eq_of_lowerCased
  rwa [trim_of_isInner h]

theorem IsAnchor.exists_words (h : IsAnchor s) (hne : s ≠ []) :
    ∃ hyphen ws, (hyphen = [] ∨ hyphen = ['-']) ∧ ws ≠ [] ∧
      (∀ w ∈ ws, w ≠ [] ∧ ∀ c ∈ w, isAnchorChar c = true) ∧ s = hyphen ++ ['-'].intercalate ws := by
  have hs := ofHeading_eq_of_isInner h.inner
  rw [ofHeading_of_isAnchor h] at hs
  split at hs
  · exact absurd hs hne
  · rename_i hwords
    refine ⟨lead s, words s, ?_, hwords, fun w hw => of_mem_words hw, hs⟩
    cases s with
    | nil => exact .inl rfl
    | cons c s =>
        rw [lead, if_neg (by simp [h.head c rfl])]
        split
        · exact .inl rfl
        · exact .inr rfl

theorem ofHeading_of_words {hyphen : Text} (hhyphen : hyphen = [] ∨ hyphen = ['-']) (hne : ws ≠ [])
    (hws : ∀ w ∈ ws, w ≠ [] ∧ ∀ c ∈ w, isAnchorChar c = true)
    (hdigit : ∀ c ∈ (hyphen ++ ['-'].intercalate ws).head?, c.isDigit = false) :
    ofHeading (hyphen ++ ['-'].intercalate ws) = hyphen ++ ['-'].intercalate ws := by
  have hinner : ∀ c ∈ hyphen ++ ['-'].intercalate ws, IsInner c := by
    intro c hc
    rcases List.mem_append.mp hc with hc | hc
    · rcases hhyphen with rfl | rfl
      · cases hc
      · exact .inr (List.mem_singleton.mp hc)
    · rcases mem_intercalate hc with hc | ⟨w, hw, hc⟩
      · exact .inr (List.mem_singleton.mp hc)
      · exact .inl ((hws w hw).2 c hc)
  have hwords : words (hyphen ++ ['-'].intercalate ws) = ws := by
    rcases hhyphen with rfl | rfl
    · exact words_intercalate hws
    · rw [List.singleton_append, words_gap (by decide), words_intercalate hws]
  rw [ofHeading_eq_of_isInner hinner, hwords, if_neg hne]
  -- The words are there again, so only what stands before them is left to compare.
  congr 1
  rcases hhyphen with rfl | rfl
  · cases ws with
    | nil => exact absurd rfl hne
    | cons w ws =>
        obtain ⟨⟨hw, hchars⟩, -⟩ := List.forall_mem_cons.mp hws
        cases w with
        | nil => exact absurd rfl hw
        | cons c w =>
            rw [List.nil_append, List.intercalate_cons_cons_left] at hdigit ⊢
            rw [lead, hdigit c rfl, hchars c List.mem_cons_self]
            rfl
  · rfl

/--
Making an anchor of an anchor leaves it alone, so that the anchors of headings are the texts that
stay as they are.  These are the empty text, and words with single hyphens between them, of which one
more may stand before the first word, that do not start with a digit.
-/
theorem anchors_are_fixed :
    (∀ heading, ofHeading (ofHeading heading) = ofHeading heading) ∧
      ∀ s, ((∃ heading, ofHeading heading = s) ↔ ofHeading s = s) ∧
        (ofHeading s = s ↔ s = [] ∨ (∀ c ∈ s.head?, c.isDigit = false) ∧
          ∃ hyphen ws, (hyphen = [] ∨ hyphen = ['-']) ∧ ws ≠ [] ∧
            (∀ w ∈ ws, w ≠ [] ∧ ∀ c ∈ w, isAnchorChar c = true) ∧
              s = hyphen ++ ['-'].intercalate ws) := by
  have hfixed : ∀ heading, ofHeading (ofHeading heading) = ofHeading heading := fun heading =>
    ofHeading_of_isAnchor (isAnchor_ofHeading heading)
  refine ⟨hfixed, fun s => ⟨?_, ?_⟩⟩
  · constructor
    · rintro ⟨heading, rfl⟩
      exact hfixed heading
    · intro h
      exact ⟨s, h⟩
  · constructor
    · intro h
      have hanchor : IsAnchor s := h ▸ isAnchor_ofHeading s
      by_cases hne : s = []
      · exact .inl hne
      · exact .inr ⟨hanchor.head, hanchor.exists_words hne⟩
    · rintro (rfl | ⟨hdigit, hyphen, ws, hhyphen, hne, hws, rfl⟩)
      · rfl
      · exact ofHeading_of_words hhyphen hne hws hdigit

end MarkdownPages.Anchor
