import MarkdownPages.Markdown.Inline.Token
import MarkdownPages.Proofs.Html.Tag
import MarkdownPages.Proofs.Text.Parts

/-!
# Tokens where a text goes on

The readers of tokens work with positions.  Here they are described by what stands behind a
position: the token is read from the characters there, as long as nothing limits the text.
-/

namespace MarkdownPages.Markdown

open Text

variable {s : Source} {pos : Nat} {rest word : Text} {c : Char}

namespace Source

theorem slice_eq (s : Source) (start stop : Nat) :
    s.slice start stop = (s.toList.drop start).take (stop - start) := by
  simp [slice, Array.toList_extract, List.extract_eq_take_drop]

theorem slice_size (s : Source) (pos : Nat) : s.slice pos s.size = s.toList.drop pos := by
  rw [slice_eq]
  exact List.take_of_length_le (by simp)

theorem getElem?_eq (s : Source) (pos : Nat) : s[pos]? = (s.toList.drop pos).head? := by
  rw [List.head?_drop, Array.getElem?_toList]

theorem skipWhile_size (s : Source) (p : Char → Bool) (pos : Nat) :
    s.skipWhile p s.size pos = pos + ((s.toList.drop pos).takeWhile p).length := by
  rw [skipWhile, slice_size]

theorem slice_append (h : s.toList.drop pos = word ++ rest) :
    s.slice pos (pos + word.length) = word := by
  rw [slice_eq, h]
  simp

theorem drop_append (h : s.toList.drop pos = word ++ rest) :
    s.toList.drop (pos + word.length) = rest := by
  rw [← List.drop_drop, h, List.drop_left]

theorem drop_cons (h : s.toList.drop pos = c :: rest) : s.toList.drop (pos + 1) = rest := by
  rw [← List.tail_drop, h, List.tail_cons]

theorem size_eq (h : s.toList.drop pos = word) (hword : word ≠ []) :
    s.size = pos + word.length := by
  have hlength := congrArg List.length h
  have hpos := List.length_pos_iff.mpr hword
  simp only [List.length_drop, Array.length_toList] at hlength
  omega

end Source

/-! ## Plain characters -/

theorem takeWhile_append_of_stop {p : Char → Bool} (hword : word.all p = true)
    (hstop : ∀ d ∈ rest.head?, p d = false) : (word ++ rest).takeWhile p = word := by
  rw [List.takeWhile_append_of_pos fun d hd => List.all_eq_true.mp hword d hd]
  cases rest with
  | nil => simp
  | cons d rest => simp [hstop d rfl]

theorem endsPlain_of_isAlphanum {c : Char} (hc : c.isAlphanum = true) : endsPlain c = false := by
  rw [endsPlain, Bool.or_eq_false_iff, beq_eq_false_iff_ne, List.contains_eq_mem,
    decide_eq_false_iff_not]
  constructor
  · rintro rfl
    exact absurd hc (by decide)
  · intro hmem
    have hmarks : ∀ d ∈ "!#$%&*+-:<=>@[\\]^_`\x7b\x7d~".toList, d.isAlphanum = false := by decide
    simp [hmarks c hmem] at hc

theorem readToken_plain {defs : Definitions} {skip : Skip} {withMarks : Bool} {memo : Memo}
    (hdrop : s.toList.drop pos = word ++ rest) (hne : word ≠ [])
    (hword : word.all (fun d => !endsPlain d) = true)
    (hstop : ∀ d ∈ rest.head?, endsPlain d = true) :
    readToken s defs skip withMarks s.size memo pos =
      (some (.plain word, pos + word.length), memo) := by
  obtain ⟨c, more, rfl⟩ := List.exists_cons_of_ne_nil hne
  have hc : (!endsPlain c) = true := (Bool.and_eq_true _ _ ▸ hword).1
  have hrun : (s.toList.drop pos).takeWhile (fun d => !endsPlain d) = c :: more := by
    rw [hdrop]
    exact takeWhile_append_of_stop hword (by simpa using hstop)
  have hhead : s[pos]? = some c := by
    rw [Source.getElem?_eq, hdrop]
    rfl
  unfold readToken
  rw [hhead]
  simp only [hc, if_true]
  rw [Source.skipWhile_size, hrun, Source.slice_append hdrop]

/-! ## Code spans -/

theorem skipWhile_append (word rest : Text) {p : Char → Bool} (hdrop : s.toList.drop pos = word ++ rest)
    (hword : word.all p = true) (hstop : ∀ d ∈ rest.head?, p d = false) :
    s.skipWhile p s.size pos = pos + word.length := by
  rw [Source.skipWhile_size, hdrop, takeWhile_append_of_stop hword hstop]

theorem readCodeSpan_single {memo : Memo} (hmemo : memo.scanned = false)
    (hdrop : s.toList.drop pos = '`' :: (word ++ '`' :: rest))
    (hne : word ≠ []) (hword : '`' ∉ word) (hrest : rest.head? ≠ some '`') :
    ∃ memo' : Memo, memo'.scanned = false ∧ readCodeSpan s s.size memo pos =
      ((.code (codeContent word), pos + ('`' :: word ++ ['`']).length), memo') := by
  have hinside : s.toList.drop (pos + 1) = word ++ '`' :: rest :=
    Source.drop_cons hdrop
  have hclose : s.toList.drop (pos + 1 + word.length) = '`' :: rest := Source.drop_append hinside
  have hbehind : s.toList.drop (pos + 1 + word.length + 1) = rest :=
    Source.drop_cons hclose
  have hopening : s.skipWhile (· == '`') s.size (pos + 1) = pos + 1 := by
    refine skipWhile_append [] (word ++ '`' :: rest) hinside rfl fun d hd => ?_
    rw [List.head?_append_of_ne_nil _ hne] at hd
    rw [beq_eq_false_iff_ne]
    rintro rfl
    exact hword (List.mem_of_mem_head? hd)
  have hstart : s.skipWhile (· != '`') s.size (pos + 1) = pos + 1 + word.length := by
    refine skipWhile_append word ('`' :: rest) hinside (List.all_eq_true.mpr fun c hc => ?_) (by simp)
    rw [bne_iff_ne]
    rintro rfl
    exact hword hc
  have hclosing : s.skipWhile (· == '`') s.size (pos + 1 + word.length + 1) =
      pos + 1 + word.length + 1 := by
    refine skipWhile_append [] rest hbehind rfl fun d hd => ?_
    rw [beq_eq_false_iff_ne]
    rintro rfl
    exact hrest hd
  have hsize := Source.size_eq hclose (by simp)
  have hfound : findBackquotes s s.size (pos + 1 - pos) (s.size + 1) (pos + 1) memo.runs =
      (some (pos + 1 + word.length, pos + 1 + word.length + 1),
        passRun memo.runs 1 (pos + 1 + word.length)) := by
    rw [findBackquotes]
    simp only [hstart, hclosing]
    rw [if_neg (by rw [hsize]; simp), if_pos (by omega), Nat.add_sub_cancel_left]
  have hslice : s.slice (pos + 1) (pos + 1 + word.length) = word := Source.slice_append hinside
  have hopen : memo.hasNoRun (pos + 1 - pos) pos = false := by rw [Memo.hasNoRun, hmemo]; rfl
  refine ⟨{ memo with runs := passRun memo.runs 1 (pos + 1 + word.length) }, hmemo, ?_⟩
  unfold readCodeSpan
  simp only [hopening, hopen, hfound, hslice]
  simp
  omega

theorem readToken_code {defs : Definitions} {skip : Skip} {withMarks : Bool} {memo : Memo}
    (hmemo : memo.scanned = false)
    (hdrop : s.toList.drop pos = '`' :: (word ++ '`' :: rest)) (hne : word ≠ [])
    (hword : '`' ∉ word) (hrest : rest.head? ≠ some '`') :
    ∃ memo' : Memo, memo'.scanned = false ∧ readToken s defs skip withMarks s.size memo pos =
      (some (.code (codeContent word), pos + ('`' :: word ++ ['`']).length), memo') := by
  have hhead : s[pos]? = some '`' := by
    rw [Source.getElem?_eq, hdrop]
    rfl
  obtain ⟨memo', hmemo', hspan⟩ := readCodeSpan_single hmemo hdrop hne hword hrest
  refine ⟨memo', hmemo', ?_⟩
  unfold readToken
  rw [hhead]
  simp [hspan, show endsPlain '`' = true by decide]

theorem codeContent_cons (hspace : c ≠ ' ') (hline : '\n' ∉ c :: word) :
    codeContent (c :: word) = c :: word := by
  have hmap : (c :: word).map (fun d => if d = '\n' then ' ' else d) = c :: word := by
    refine (List.map_congr_left fun d hd => ?_).trans (List.map_id _)
    have hd' : d ≠ '\n' := by
      rintro rfl
      exact hline hd
    rw [if_neg hd']
    rfl
  unfold codeContent
  rw [hmap]
  simp [hspace]

/-! ## Autolinks -/

theorem prefix_dropFinalNewline (word : Text) : dropFinalNewline word <+: word := by
  unfold dropFinalNewline
  split
  · exact List.dropLast_prefix word
  · exact List.prefix_rfl

theorem mem_dropFinalNewline (hc : c ≠ '\n') (h : c ∈ word) : c ∈ dropFinalNewline word := by
  unfold dropFinalNewline
  split
  · rename_i hlast
    rw [← List.dropLast_append_getLast? _ hlast, List.mem_append, List.mem_singleton] at h
    exact h.resolve_right hc
  · exact h

theorem drop_length_takeWhile (p : Char → Bool) (word : Text) :
    word.drop (word.takeWhile p).length = word.dropWhile p := by
  have hsplit := List.takeWhile_append_dropWhile (p := p) (l := word)
  calc word.drop (word.takeWhile p).length
      = (word.takeWhile p ++ word.dropWhile p).drop (word.takeWhile p).length := by rw [hsplit]
    _ = word.dropWhile p := List.drop_left

theorem isAbsoluteUrl_of_space (h : ' ' ∈ word) : isAbsoluteUrl word = false := by
  have hspace := mem_dropFinalNewline (show ' ' ≠ '\n' by decide) h
  unfold isAbsoluteUrl
  generalize dropFinalNewline word = url at hspace
  simp only [drop_length_takeWhile]
  split
  · rename_i behind heq
    rw [← List.takeWhile_append_dropWhile (l := url), heq] at hspace
    have hbehind : ' ' ∈ behind := by
      rcases List.mem_append.mp hspace with hscheme | hmem
      · exact absurd (List.mem_takeWhile_imp hscheme) (by decide)
      · exact (List.mem_cons.mp hmem).resolve_left (by decide)
    have hall : (behind.all fun c => c != '<' && c != '>' && decide (0x20 < c.toNat)) = false := by
      rw [List.all_eq_false]
      exact ⟨' ', hbehind, by decide⟩
    rw [hall, Bool.and_false]
  · rfl

theorem isMailAddress_of_space (h : ' ' ∈ word) : isMailAddress word = false := by
  have hspace := mem_dropFinalNewline (show ' ' ≠ '\n' by decide) h
  unfold isMailAddress
  generalize dropFinalNewline word = address at hspace
  simp only [drop_length_takeWhile]
  split
  · rename_i host heq
    rw [← List.takeWhile_append_dropWhile (l := address), heq] at hspace
    rcases List.mem_append.mp hspace with huser | hmem
    · have hall : ((address.takeWhile (· != '@')).all fun c =>
          c.isAlphanum || ".!#$%&'*+/=?^_`\x7b|\x7d~-".toList.contains c) = false := by
        rw [List.all_eq_false]
        exact ⟨' ', huser, by decide⟩
      rw [hall, Bool.and_false, Bool.false_and]
    · have hhost : ' ' ∈ host := by
        rcases List.mem_cons.mp hmem with hfirst | hmem
        · have hstop := List.head?_dropWhile_not (· != '@') address
          rw [heq, ← hfirst] at hstop
          simp at hstop
        · exact hmem
      obtain ⟨label, hlabel, hin⟩ := exists_mem_splitOnP (· == '.') (by decide) hhost
      have hall : (host.splitOn '.').all isHostLabel = false := by
        rw [List.all_eq_false]
        refine ⟨label, hlabel, ?_⟩
        rw [isHostLabel, Bool.not_eq_true]
        have hchars : (label.all fun c => c.isAlphanum || c == '-') = false := by
          rw [List.all_eq_false]
          exact ⟨' ', hin, by decide⟩
        rw [hchars, Bool.and_false]
      rw [hall, Bool.and_false]
  · rfl

theorem isAbsoluteUrl_of_notMem (h : ':' ∉ word) : isAbsoluteUrl word = false := by
  have hcolon : ':' ∉ dropFinalNewline word := fun hmem =>
    h ((prefix_dropFinalNewline word).subset hmem)
  unfold isAbsoluteUrl
  simp only [drop_length_takeWhile]
  split
  · rename_i behind heq
    exact absurd ((List.dropWhile_suffix _).subset (heq ▸ List.mem_cons_self)) hcolon
  · rfl

theorem isMailAddress_of_notMem (h : '@' ∉ word) : isMailAddress word = false := by
  have hat : '@' ∉ dropFinalNewline word := fun hmem =>
    h ((prefix_dropFinalNewline word).subset hmem)
  have hnone : (dropFinalNewline word).dropWhile (· != '@') = [] := by
    rw [List.dropWhile_eq_nil_iff]
    intro c hc
    rw [bne_iff_ne]
    rintro rfl
    exact hat hc
  unfold isMailAddress
  simp only [drop_length_takeWhile, hnone]

/-! ## Raw HTML -/

theorem readAutolink?_eq_none (hdrop : s.toList.drop pos = '<' :: rest)
    (hurl : isAbsoluteUrl (rest.takeWhile fun c => c != '<' && c != '>') = false)
    (hmail : isMailAddress (rest.takeWhile fun c => c != '<' && c != '>') = false) :
    readAutolink? s s.size pos = none := by
  have hbehind : s.toList.drop (pos + 1) = rest := Source.drop_cons hdrop
  have hslice : s.slice (pos + 1)
      (s.skipWhile (fun c => c != '<' && c != '>') s.size (pos + 1)) =
        rest.takeWhile fun c => c != '<' && c != '>' := by
    rw [Source.skipWhile_size, hbehind]
    rw [← List.takeWhile_append_dropWhile (p := fun c => c != '<' && c != '>') (l := rest)] at hbehind
    exact Source.slice_append hbehind
  unfold readAutolink?
  simp only [hslice, hurl, hmail]
  split <;> rfl

theorem readAutolink?_word (word rest : Text) (hdrop : s.toList.drop pos = '<' :: (word ++ '>' :: rest))
    (hword : ∀ c ∈ word, c ≠ '<' ∧ c ≠ '>' ∧ c ≠ ':' ∧ c ≠ '@') :
    readAutolink? s s.size pos = none := by
  have hrun : (word ++ '>' :: rest).takeWhile (fun c => c != '<' && c != '>') = word := by
    refine takeWhile_append_of_stop (List.all_eq_true.mpr fun c hc => ?_) (by simp)
    simp [(hword c hc).1, (hword c hc).2.1]
  refine readAutolink?_eq_none hdrop ?_ ?_
  · rw [hrun]
    exact isAbsoluteUrl_of_notMem fun hmem => (hword _ hmem).2.2.1 rfl
  · rw [hrun]
    exact isMailAddress_of_notMem fun hmem => (hword _ hmem).2.2.2 rfl

theorem readToken_html {defs : Definitions} {skip : Skip} {withMarks : Bool} {memo : Memo}
    (hdrop : s.toList.drop pos = '<' :: word ++ rest)
    (hraw : Html.dropRaw? (word ++ rest) = some rest) (hauto : readAutolink? s s.size pos = none)
    (hlength : 2 ≤ word.length) :
    readToken s defs skip withMarks s.size memo pos =
      (some (.html ('<' :: word), pos + ('<' :: word).length), memo) := by
  have hhead : s[pos]? = some '<' := by
    rw [Source.getElem?_eq, hdrop]
    rfl
  have hbehind : s.toList.drop (pos + 1) = word ++ rest := Source.drop_cons hdrop
  have hsize := Source.size_eq hdrop (by simp)
  simp only [List.length_append, List.length_cons] at hsize
  have hstop : s.size - rest.length = pos + ('<' :: word).length := by
    simp only [List.length_cons]
    omega
  have hhtml : readInlineHtml? s s.size pos =
      some (.html ('<' :: word), pos + ('<' :: word).length) := by
    rw [readInlineHtml?, if_neg (by omega)]
    simp only [Source.slice_size, hbehind, hraw, Option.map_some, hstop,
      Source.slice_append hdrop]
  unfold readToken
  rw [hhead]
  simp [hauto, hhtml, show endsPlain '<' = true by decide]

theorem readToken_eq_none {defs : Definitions} {skip : Skip} {withMarks : Bool} {memo : Memo}
    (hdrop : s.toList.drop pos = '<' :: rest) (hraw : Html.dropRaw? rest = none)
    (hauto : readAutolink? s s.size pos = none) :
    readToken s defs skip withMarks s.size memo pos = (none, memo) := by
  have hhead : s[pos]? = some '<' := by
    rw [Source.getElem?_eq, hdrop]
    rfl
  have hbehind : s.toList.drop (pos + 1) = rest := Source.drop_cons hdrop
  have hhtml : readInlineHtml? s s.size pos = none := by
    rw [readInlineHtml?]
    split
    · rfl
    · simp [Source.slice_size, hbehind, hraw]
  unfold readToken
  rw [hhead]
  simp [hauto, hhtml, show endsPlain '<' = true by decide]

end MarkdownPages.Markdown
