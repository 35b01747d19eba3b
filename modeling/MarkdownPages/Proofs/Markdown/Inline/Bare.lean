import MarkdownPages.Markdown.Document
import MarkdownPages.Proofs.Anchor.Hyphens
import MarkdownPages.Proofs.Markdown.Inline.Run

/-!
# Texts without markup

Without the characters that start code, emphasis, links, references and raw HTML there is nothing in
a text but characters and escapes.  So it shows its characters, some backslashes left out.
-/

namespace MarkdownPages.Markdown

open Text Anchor

variable {s : Source} {defs : Definitions} {skip : Skip} {memo : Memo} {pos : Nat} {c : Char}
variable {rest shown : Text} {r : Reading}

def IsBare (c : Char) : Prop := c ∉ "\n`*_[<&".toList

instance (c : Char) : Decidable (IsBare c) := by
  unfold IsBare
  infer_instance

/-! ## Tokens -/

inductive BareToken (s : Source) (pos : Nat) (rest : Text) : Option (Token × Nat) → Prop
  | none : BareToken s pos rest none
  | plain {word behind : Text} (hrest : rest = word ++ behind) (hword : word ≠ []) :
      BareToken s pos rest (some (.plain word, pos + word.length))
  | escape {c : Char} {behind : Text} (hrest : rest = '\\' :: c :: behind) :
      BareToken s pos rest
        (some (.decoded (if isAsciiPunctuation c then [c] else ['\\', c]), pos + 2))

theorem findImage_eq_none (defs : Definitions) (skip : Skip) (memo : Memo)
    (hdrop : s.toList.drop pos = '!' :: rest) (hbracket : '[' ∉ rest) :
    findImage s defs skip s.size memo pos = (none, memo) := by
  have hnext : s[pos + 1]? = rest.head? := by
    rw [Source.getElem?_eq, Source.drop_cons hdrop]
  have hsize := Source.size_eq hdrop (by simp)
  rw [findImage]
  cases rest with
  | nil =>
      have hlimit : s.size ≤ pos + 1 + 1 := by
        rw [hsize]
        simp
      have hend : textEnd s skip s.size false memo (pos + 1) = (none, memo) := by
        rw [textEnd, findTextEnd, if_pos hlimit]
      rw [if_neg (by rw [hsize]; simp), hend]
  | cons c rest =>
      have hc : c ≠ '[' := fun heq => hbracket (by simp [heq])
      have hinside : pos + 1 < s.size := by
        rw [hsize]
        simp
      have hother : (decide (pos + 1 < s.size) && s[pos + 1]? != some '[') = true := by
        rw [hnext]
        simp [hinside, hc]
      rw [if_pos hother]

theorem readEscape?_bare (hdrop : s.toList.drop pos = '\\' :: rest) (hline : '\n' ∉ rest) :
    BareToken s pos ('\\' :: rest) (readEscape? s s.size pos) := by
  have hnext : s[pos + 1]? = rest.head? := by
    rw [Source.getElem?_eq, Source.drop_cons hdrop]
  rw [readEscape?, hnext]
  split
  · exact .none
  · cases rest with
    | nil => exact .none
    | cons c rest =>
        have hc : c ≠ '\n' := fun heq => hline (by simp [heq])
        have hescape : BareToken s pos ('\\' :: c :: rest) _ := .escape rfl
        simpa [hc] using hescape

theorem readToken_bare (defs : Definitions) (skip : Skip) (memo : Memo)
    (hdrop : s.toList.drop pos = c :: rest) (hbare : ∀ d ∈ c :: rest, IsBare d) :
    ∃ token?, readToken s defs skip true s.size memo pos = (token?, memo) ∧
      BareToken s pos (c :: rest) token? := by
  have hhead : s[pos]? = some c := by
    rw [Source.getElem?_eq, hdrop]
    rfl
  by_cases hplain : endsPlain c = false
  · have hstop : ∀ d ∈ ((c :: rest).dropWhile fun d => !endsPlain d).head?, endsPlain d = true := by
      intro d hd
      have hnot := List.head?_dropWhile_not (fun d => !endsPlain d) (c :: rest)
      rw [Option.mem_def.mp hd] at hnot
      simpa using hnot
    have hsplit : c :: rest = (c :: rest).takeWhile (fun d => !endsPlain d) ++
        (c :: rest).dropWhile (fun d => !endsPlain d) := List.takeWhile_append_dropWhile.symm
    have hword : (c :: rest).takeWhile (fun d => !endsPlain d) ≠ [] := by simp [hplain]
    exact ⟨_, readToken_plain (hdrop.trans hsplit) hword List.all_takeWhile hstop,
      .plain hsplit hword⟩
  · have hc : IsBare c := hbare c (by simp)
    have hother : ∀ d ∈ rest, IsBare d := fun d hd => hbare d (by simp [hd])
    simp [IsBare] at hc
    unfold readToken
    rw [hhead]
    by_cases hbackslash : c = '\\'
    · subst hbackslash
      exact ⟨_, rfl, readEscape?_bare hdrop fun hline => hother _ hline (by decide)⟩
    · -- An exclamation mark looks for the bracket of an image.
      by_cases hbang : c = '!'
      · subst hbang
        have hnone := findImage_eq_none defs skip memo hdrop
          fun hbracket => hother _ hbracket (by decide)
        refine ⟨none, ?_, .none⟩
        simp [hplain, hnone]
      · simp [hplain, hc, hbackslash, hbang]
        exact .none

/-! ## Runs -/

/-- What has been read shows a text: its pieces are texts, and the characters behind them follow. -/
def Shows (r : Reading) (shown : Text) : Prop :=
  ∃ texts : List Text, r.pieces.reverse = texts.map (fun t => .element (.text t)) ∧
    texts.flatten ++ r.plain.reverse = shown

theorem Shows.pushPlain (h : Shows r shown) (word : Text) :
    Shows (r.pushPlain word) (shown ++ word) := by
  obtain ⟨texts, hpieces, rfl⟩ := h
  exact ⟨texts, hpieces, by simp [Reading.pushPlain]⟩

theorem Shows.flush (h : Shows r shown) :
    ∃ texts : List Text, r.flush.pieces.reverse = texts.map (fun t => .element (.text t)) ∧
      r.flush.plain = [] ∧ texts.flatten = shown := by
  obtain ⟨texts, hpieces, rfl⟩ := h
  unfold Reading.flush
  split
  · rename_i hempty
    rw [List.isEmpty_iff] at hempty
    exact ⟨texts, hpieces, hempty, by simp [hempty]⟩
  · exact ⟨texts ++ [r.plain.reverse], by simp [hpieces], rfl, by simp⟩

theorem Shows.pushText (h : Shows r shown) (content : Text) :
    Shows (r.push (.text content)) (shown ++ content) := by
  obtain ⟨texts, hpieces, hplain, rfl⟩ := h.flush
  exact ⟨texts ++ [content], by simp [Reading.push, hpieces], by simp [Reading.push, hplain]⟩

theorem Shows.titleOf_elements (h : Shows r shown) : titleOf r.elements = shown := by
  obtain ⟨texts, hpieces, -, rfl⟩ := h.flush
  have hmap : texts.map (fun t => Piece.element (.text t)) =
      (texts.map Inline.text).map Piece.element := by
    rw [List.map_map]
    rfl
  rw [Reading.elements, hpieces, hmap, resolve_map_element, titleOf, List.flatMap_map]
  exact List.flatMap_id

/-- One step takes a word off a text without markup and shows it, an escape without its backslash. -/
theorem readTokens_bare_step (defs : Definitions) (skip : Skip) (readText : SpanReader)
    (describe : Text → Text) (fuel : Nat) (hdrop : s.toList.drop pos = c :: rest)
    (hbare : ∀ d ∈ c :: rest, IsBare d) (h : Shows r shown) :
    ∃ word behind part r', c :: rest = word ++ behind ∧ word ≠ [] ∧
      (∀ title, Unescaped behind title → Unescaped (c :: rest) (part ++ title)) ∧
      Shows r' (shown ++ part) ∧
      readTokens s defs skip readText describe s.size (fuel + 1) r pos =
        readTokens s defs skip readText describe s.size fuel r' (pos + word.length) := by
  have hinside : ¬ s.size ≤ pos := by
    rw [Source.size_eq hdrop (by simp)]
    simp
  obtain ⟨token?, hread, htoken⟩ := readToken_bare defs skip r.memo hdrop hbare
  have hmemo : Shows { r with memo := r.memo } shown := h
  rw [readTokens, if_neg hinside, hread]
  cases htoken with
  | none =>
      have hslice : s.slice pos (pos + 1) = [c] :=
        Source.slice_append (show s.toList.drop pos = [c] ++ rest from hdrop)
      refine ⟨[c], rest, [c], _, rfl, by simp, fun _ htitle => .char c htitle,
        hmemo.pushPlain [c], ?_⟩
      dsimp only
      rw [hslice]
      rfl
  | @plain word behind hrest hword =>
      refine ⟨word, behind, word, _, hrest, hword, fun _ htitle => ?_, hmemo.pushPlain word, rfl⟩
      rw [hrest]
      exact htitle.append_left word
  | @escape d behind hrest =>
      obtain ⟨rfl, rfl⟩ := List.cons.inj hrest
      refine ⟨['\\', d], behind, _, _, rfl, by simp, fun _ htitle => ?_, hmemo.pushText _, rfl⟩
      split
      · rename_i hd
        exact htitle.escape hd
      · exact (htitle.char d).char '\\'

theorem readTokens_bare (defs : Definitions) (skip : Skip) (readText : SpanReader)
    (describe : Text → Text) (fuel : Nat)
    (hdrop : s.toList.drop pos = rest) (hbare : ∀ c ∈ rest, IsBare c) (hfuel : rest.length < fuel)
    (h : Shows r shown) :
    ∃ title, Unescaped rest title ∧
      Shows (readTokens s defs skip readText describe s.size fuel r pos) (shown ++ title) := by
  -- every token takes one character at least, and so one unit of fuel
  induction fuel generalizing pos rest r shown with
  | zero => omega
  | succ fuel ih =>
      cases rest with
      | nil =>
          have hend : s.size ≤ pos := by simpa using hdrop
          rw [readTokens, if_pos hend]
          exact ⟨[], .nil, by simpa using h⟩
      | cons c rest =>
          obtain ⟨word, behind, part, r', hsplit, hword, htitles, hpart, hstep⟩ :=
            readTokens_bare_step defs skip readText describe fuel hdrop hbare h
          rw [hsplit] at hdrop hbare hfuel
          have hpos := List.length_pos_iff.mpr hword
          rw [List.length_append] at hfuel
          obtain ⟨title, htitle, hshows⟩ := ih (Source.drop_append hdrop)
            (fun d hd => hbare d (List.mem_append_right _ hd)) (by omega) hpart
          rw [List.append_assoc] at hshows
          rw [hstep]
          exact ⟨part ++ title, htitles title htitle, hshows⟩

theorem unescaped_titleOf_readInline (hbare : ∀ c ∈ rest, IsBare c) :
    Unescaped rest (titleOf (readInline defs rest)) := by
  obtain ⟨describe, hread⟩ := readInline_eq_readSpan defs rest
  have hstart : Shows ⟨[], [], {}⟩ [] := ⟨[], rfl, rfl⟩
  obtain ⟨title, htitle, hshows⟩ := readTokens_bare defs
    (skipToken rest.toArray defs maxInlineDepth) (readSpan rest.toArray defs describe 19) describe
    (rest.toArray.size - 0 + 1) (show rest.toArray.toList.drop 0 = rest from rfl) hbare (by simp)
    hstart
  rw [hread]
  have heq := hshows.titleOf_elements
  rw [List.nil_append] at heq
  exact heq ▸ htitle

end MarkdownPages.Markdown
