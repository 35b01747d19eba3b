import MarkdownPages.Markdown.Inline.Read
import MarkdownPages.Proofs.Markdown.Inline.Token

/-!
# Runs of tokens

A text that is read token by token, without anything to remember, becomes the elements of its
tokens.
-/

namespace MarkdownPages.Markdown

open Text

variable {s : Source} {defs : Definitions} {skip : Skip} {pos stop : Nat} {tokens : List Token}

theorem push_memo (r : Reading) (memo : Memo) (e : Inline) :
    ({ r with memo := memo } : Reading).push e = { r.push e with memo := memo } := by
  unfold Reading.push Reading.flush
  dsimp only
  split <;> rfl

theorem pushToken_memo (readText : SpanReader) (describe : Text → Text) (r : Reading) (memo : Memo)
    {token : Token} (h : ∀ span, token ≠ .link span) :
    ({ r with memo := memo } : Reading).pushToken s readText describe token =
      { r.pushToken s readText describe token with memo := memo } := by
  cases token with
  | plain content => rfl
  | lineFeed =>
      unfold Reading.pushToken Reading.pushLineFeed
      dsimp only
      split <;> exact push_memo { r with plain := _ } memo _
  | marks mark =>
      unfold Reading.pushToken Reading.pushMarks Reading.flush
      dsimp only
      split <;> rfl
  | link span => exact absurd rfl (h span)
  | autolink href shown => simp only [Reading.pushToken, push_memo]
  | _ => exact push_memo _ _ _

theorem elements_memo (r : Reading) (memo : Memo) :
    ({ r with memo := memo } : Reading).elements = r.elements := by
  unfold Reading.elements Reading.flush
  dsimp only
  split <;> rfl

/--
The tokens that are read one after another between two positions, none of them a link, as long as
every run of backquotes has found the one that closes it.
-/
inductive ReadsTokens (s : Source) (defs : Definitions) (skip : Skip) : Nat → List Token → Nat → Prop
  | nil (pos : Nat) : ReadsTokens s defs skip pos [] pos
  | cons {pos after stop : Nat} {token : Token} {tokens : List Token} (hafter : pos < after)
      (hlink : ∀ span, token ≠ .link span)
      (hread : ∀ memo : Memo, memo.scanned = false → ∃ memo' : Memo, memo'.scanned = false ∧
        readToken s defs skip true s.size memo pos = (some (token, after), memo'))
      (hrest : ReadsTokens s defs skip after tokens stop) :
      ReadsTokens s defs skip pos (token :: tokens) stop

theorem ReadsTokens.length_le (h : ReadsTokens s defs skip pos tokens stop) :
    pos + tokens.length ≤ stop := by
  induction h with
  | nil => simp
  | cons hafter _ _ _ ih =>
      simp only [List.length_cons]
      omega

theorem ReadsTokens.plain (front rest : Text) {word : Text} (hs : s.toList = front ++ (word ++ rest))
    (hne : word ≠ []) (hword : word.all (fun d => !endsPlain d) = true)
    (hstop : ∀ d ∈ rest.head?, endsPlain d = true)
    (hrest : ReadsTokens s defs skip (front ++ word).length tokens stop) :
    ReadsTokens s defs skip front.length (.plain word :: tokens) stop := by
  have hdrop : s.toList.drop front.length = word ++ rest := by rw [hs, List.drop_left]
  rw [List.length_append] at hrest
  exact .cons (Nat.lt_add_of_pos_right (List.length_pos_iff.mpr hne)) (by simp)
    (fun memo hmemo => ⟨memo, hmemo, readToken_plain hdrop hne hword hstop⟩) hrest

theorem ReadsTokens.html (front rest : Text) {word : Text}
    (hs : s.toList = front ++ ('<' :: word ++ rest))
    (hraw : Html.dropRaw? (word ++ rest) = some rest) (hlength : 2 ≤ word.length)
    (hauto : s.toList.drop front.length = '<' :: word ++ rest →
      readAutolink? s s.size front.length = none)
    (hrest : ReadsTokens s defs skip (front ++ '<' :: word).length tokens stop) :
    ReadsTokens s defs skip front.length (.html ('<' :: word) :: tokens) stop := by
  have hdrop : s.toList.drop front.length = '<' :: word ++ rest := by rw [hs, List.drop_left]
  rw [List.length_append] at hrest
  exact .cons (Nat.lt_add_of_pos_right (by simp)) (by simp)
    (fun memo hmemo => ⟨memo, hmemo, readToken_html hdrop hraw (hauto hdrop) hlength⟩) hrest

theorem ReadsTokens.code (front rest : Text) {word : Text}
    (hs : s.toList = front ++ ('`' :: word ++ '`' :: rest))
    (hne : word ≠ []) (hword : '`' ∉ word) (hrest : rest.head? ≠ some '`')
    (hbehind : ReadsTokens s defs skip (front ++ ('`' :: word ++ ['`'])).length tokens stop) :
    ReadsTokens s defs skip front.length (.code (codeContent word) :: tokens) stop := by
  have hdrop : s.toList.drop front.length = '`' :: (word ++ '`' :: rest) := by
    rw [hs, List.drop_left]
    rfl
  rw [List.length_append] at hbehind
  exact .cons (Nat.lt_add_of_pos_right (by simp)) (by simp)
    (fun _ hmemo => readToken_code hmemo hdrop hne hword hrest) hbehind

theorem ReadsTokens.foldl_memo (h : ReadsTokens s defs skip pos tokens stop) (readText : SpanReader)
    (describe : Text → Text) (r : Reading) (memo : Memo) :
    tokens.foldl (Reading.pushToken s readText describe) { r with memo := memo } =
      { tokens.foldl (Reading.pushToken s readText describe) r with memo := memo } := by
  induction h generalizing r with
  | nil => rfl
  | cons _ hlink _ _ ih =>
      rw [List.foldl_cons, pushToken_memo readText describe r memo hlink, ih, List.foldl_cons]

theorem exists_readTokens_eq (h : ReadsTokens s defs skip pos tokens stop) (hstop : stop ≤ s.size)
    (readText : SpanReader) (describe : Text → Text) (fuel : Nat) (r : Reading)
    (hmemo : r.memo.scanned = false) :
    ∃ memo, readTokens s defs skip readText describe s.size (tokens.length + fuel) r pos =
      readTokens s defs skip readText describe s.size fuel
        { tokens.foldl (Reading.pushToken s readText describe) r with memo := memo } stop := by
  induction h generalizing r with
  | nil => exact ⟨r.memo, by simp⟩
  | @cons pos after stop token tokens hafter hlink hread hrest ih =>
      have hlength := hrest.length_le
      have hinside : ¬ s.size ≤ pos := by omega
      obtain ⟨memo', hmemo', hread⟩ := hread r.memo hmemo
      obtain ⟨memo, hall⟩ := ih hstop { r.pushToken s readText describe token with memo := memo' } hmemo'
      refine ⟨memo, ?_⟩
      rw [List.length_cons, Nat.add_right_comm, readTokens, if_neg hinside, hread]
      dsimp only
      rw [pushToken_memo readText describe r memo' hlink, hall, hrest.foldl_memo, List.foldl_cons]

theorem readTokens_preserves (s : Source) (defs : Definitions) (skip : Skip)
    (readText : SpanReader) (describe : Text → Text) (limit : Nat) {P : List Piece → Text → Prop}
    (htoken : ∀ (r : Reading) (memo memo' : Memo) (pos after : Nat) (token : Token),
      readToken s defs skip true limit memo pos = (some (token, after), memo') →
      P r.pieces r.plain →
      P (r.pushToken s readText describe token).pieces
        (r.pushToken s readText describe token).plain)
    (hplain : ∀ (r : Reading) (pos : Nat), P r.pieces r.plain →
      P (r.pushPlain (s.slice pos (pos + 1))).pieces (r.pushPlain (s.slice pos (pos + 1))).plain)
    (fuel : Nat) (r : Reading) (pos : Nat) (h : P r.pieces r.plain) :
    P (readTokens s defs skip readText describe limit fuel r pos).pieces
      (readTokens s defs skip readText describe limit fuel r pos).plain := by
  induction fuel generalizing r pos with
  | zero => exact h
  | succ fuel ih =>
      rw [readTokens]
      split
      · exact h
      · generalize hread : readToken s defs skip true limit r.memo pos = answer
        obtain ⟨token?, memo⟩ := answer
        cases token? with
        | none => exact ih _ _ (hplain { r with memo := memo } pos h)
        | some found =>
            obtain ⟨token, after⟩ := found
            exact ih _ _ (htoken { r with memo := memo } r.memo memo pos after token hread h)

theorem readTokens_end {readText : SpanReader} {describe : Text → Text} (fuel : Nat) (r : Reading) :
    readTokens s defs skip readText describe s.size fuel r s.size = r := by
  cases fuel <;> simp [readTokens]

theorem readInline_eq_readSpan (defs : Definitions) (content : Text) :
    ∃ describe, readInline defs content =
      (readSpan content.toArray defs describe maxInlineDepth 0 content.toArray.size {}).1 :=
  ⟨_, rfl⟩

theorem exists_readTokens_of_reads {content : Text}
    (h : ∀ skip, ReadsTokens content.toArray defs skip 0 tokens stop)
    (hstop : stop ≤ content.toArray.size) :
    ∃ skip readText describe fuel memo, readInline defs content =
      (readTokens content.toArray defs skip readText describe content.toArray.size (fuel + 1)
        { tokens.foldl (Reading.pushToken content.toArray readText describe) ⟨[], [], {}⟩ with
          memo := memo } stop).elements := by
  obtain ⟨describe, hread⟩ := readInline_eq_readSpan defs content
  have hlength := (h (skipToken content.toArray defs maxInlineDepth)).length_le
  obtain ⟨fuel, hfuel⟩ := Nat.exists_eq_add_of_le (hlength.trans hstop)
  have hbudget : content.toArray.size - 0 + 1 = tokens.length + (fuel + 1) := by omega
  obtain ⟨memo, htokens⟩ := exists_readTokens_eq
    (h (skipToken content.toArray defs maxInlineDepth)) hstop
    (readSpan content.toArray defs describe 19) describe (fuel + 1) ⟨[], [], {}⟩ rfl
  refine ⟨skipToken content.toArray defs maxInlineDepth,
    readSpan content.toArray defs describe 19, describe, fuel, memo, ?_⟩
  rw [hread, ← htokens, ← hbudget]
  rfl

theorem readInline_of_reads {content : Text}
    (h : ∀ skip, ReadsTokens content.toArray defs skip 0 tokens content.toArray.size) :
    ∃ readText describe, readInline defs content =
      (tokens.foldl (Reading.pushToken content.toArray readText describe) ⟨[], [], {}⟩).elements := by
  obtain ⟨skip, readText, describe, fuel, memo, hread⟩ :=
    exists_readTokens_of_reads h (Nat.le_refl _)
  exact ⟨readText, describe, by rw [hread, readTokens_end, elements_memo]⟩

/-! ## Elements before the first mark -/

theorem resolveWith_map_element_append (roles : Roles) (next : Nat) (es : List Inline)
    (ps : List Piece) :
    resolveWith roles next (es.map Piece.element ++ ps) = es ++ resolveWith roles next ps := by
  induction es with
  | nil => rfl
  | cons e es ih => exact congrArg (List.cons e) ih

theorem resolve_map_element (es : List Inline) : resolve (es.map Piece.element) = es := by
  have hall := resolveWith_map_element_append
    (rolesOf (pairMarks (es.map Piece.element)) (pairMarks (es.map Piece.element)).size) 0 es []
  rw [List.append_nil] at hall
  rw [resolve, hall]
  exact List.append_nil es

/--
The pieces, with the plain characters behind them, start with some elements and a text that goes on
with `word`.  Plain characters are kept in reverse order.
-/
def Begins (es : List Inline) (word : Text) (pieces : List Piece) (plain : Text) : Prop :=
  (pieces.reverse = es.map Piece.element ∧ word.reverse <:+ plain) ∨
    ∃ content, word <+: content ∧
      es.map Piece.element ++ [.element (.text content)] <+: pieces.reverse

variable {es : List Inline} {word : Text} {r : Reading}

theorem Begins.flush (h : Begins es word r.pieces r.plain) (hword : word ≠ []) (plain : Text) :
    Begins es word r.flush.pieces plain := by
  refine .inr ?_
  unfold Reading.flush
  rcases h with ⟨hpieces, hplain⟩ | ⟨content, hcontent, hpieces⟩
  · have hnotEmpty : r.plain.isEmpty = false := by
      rw [List.isEmpty_eq_false_iff]
      intro hempty
      rw [hempty, List.suffix_nil, List.reverse_eq_nil_iff] at hplain
      exact hword hplain
    refine ⟨r.plain.reverse, List.reverse_suffix.mp (by simpa using hplain), ?_⟩
    simp [hnotEmpty, hpieces]
  · refine ⟨content, hcontent, ?_⟩
    split
    · exact hpieces
    · rw [List.reverse_cons]
      exact hpieces.trans (List.prefix_append _ _)

theorem Begins.addPieces (h : Begins es word r.flush.pieces []) (hword : word ≠ [])
    (ps : List Piece) (plain : Text) : Begins es word (ps ++ r.flush.pieces) plain := by
  rcases h with ⟨-, hplain⟩ | ⟨content, hcontent, hpieces⟩
  · rw [List.suffix_nil, List.reverse_eq_nil_iff] at hplain
    exact absurd hplain hword
  · refine .inr ⟨content, hcontent, ?_⟩
    rw [List.reverse_append]
    exact hpieces.trans (List.prefix_append _ _)

theorem Begins.pushPlain (h : Begins es word r.pieces r.plain) (s : Text) :
    Begins es word (r.pushPlain s).pieces (r.pushPlain s).plain := by
  rcases h with ⟨hpieces, hplain⟩ | hinside
  · exact .inl ⟨hpieces, hplain.trans (List.suffix_append _ _)⟩
  · exact .inr hinside

theorem Begins.push (h : Begins es word r.pieces r.plain) (hword : word ≠ []) (e : Inline) :
    Begins es word (r.push e).pieces (r.push e).plain :=
  Begins.addPieces (h.flush hword []) hword [.element e] _

theorem Begins.dropSpaces (spaces : Text) (h : Begins es word r.pieces r.plain) (hspace : ' ' ∉ word)
    {plain : Text} (hplain : r.plain = spaces ++ plain) (hspaces : ∀ c ∈ spaces, c = ' ') :
    Begins es word r.pieces plain := by
  rcases h with ⟨hpieces, hsuffix⟩ | hinside
  · refine .inl ⟨hpieces, ?_⟩
    obtain ⟨front, hfront⟩ := hsuffix
    rw [hplain] at hfront
    rcases List.append_eq_append_iff.mp hfront with ⟨between, hbetween, hword⟩ | ⟨between, -, hrest⟩
    · cases between with
      | nil => exact ⟨[], hword⟩
      | cons c between =>
          obtain rfl : c = ' ' := hspaces c (by simp [hbetween])
          exact absurd (List.mem_reverse.mp (by simp [hword])) hspace
    · exact ⟨between, hrest.symm⟩
  · exact .inr hinside

theorem Begins.pushLineFeed (h : Begins es word r.pieces r.plain) (hword : word ≠ [])
    (hspace : ' ' ∉ word) : Begins es word r.pushLineFeed.pieces r.pushLineFeed.plain := by
  unfold Reading.pushLineFeed
  split
  · rename_i rest hplain
    have hrest : r.plain = ' ' :: ' ' :: rest.takeWhile (· == ' ') ++ rest.dropWhile (· == ' ') := by
      simp [hplain]
    have hdropped : Begins es word r.pieces (rest.dropWhile (· == ' ')) := by
      refine h.dropSpaces _ hspace hrest fun c hc => ?_
      simp only [List.mem_cons] at hc
      rcases hc with rfl | rfl | hc
      · rfl
      · rfl
      · exact beq_iff_eq.mp (List.mem_takeWhile_imp (p := (· == ' ')) hc)
    exact Begins.push (r := { r with plain := _ }) hdropped hword _
  · rename_i rest _ hplain
    have hdropped : Begins es word r.pieces rest :=
      h.dropSpaces [' '] hspace hplain (by simp)
    exact Begins.push (r := { r with plain := _ }) hdropped hword _
  · exact h.push hword _

theorem Begins.pushToken (h : Begins es word r.pieces r.plain) (hword : word ≠ [])
    (hspace : ' ' ∉ word) (s : Source) (readText : SpanReader) (describe : Text → Text)
    (token : Token) :
    Begins es word (r.pushToken s readText describe token).pieces
      (r.pushToken s readText describe token).plain := by
  cases token with
  | plain content => exact h.pushPlain content
  | lineFeed => exact h.pushLineFeed hword hspace
  | hardBreak => exact h.push hword _
  | decoded content => exact h.push hword _
  | code content => exact h.push hword _
  | marks mark => exact Begins.addPieces (h.flush hword []) hword _ _
  | link span =>
      have hadded := Begins.addPieces (h.flush hword []) hword
        (.element .linkEnd ::
          ((readText span.start span.stop r.memo).1.map Piece.element).reverse ++
            [.element (.linkStart span.target)])
      simpa [Reading.pushToken, Reading.push] using hadded _
  | image span => exact h.push hword _
  | autolink href shown => exact ((h.push hword _).push hword _).push hword _
  | html content => exact h.push hword _

theorem Begins.elements (h : Begins es word r.pieces r.plain) (hword : word ≠ []) :
    ∃ content rest, word <+: content ∧ r.elements = es ++ .text content :: rest := by
  rcases h.flush hword [] with ⟨-, hplain⟩ | ⟨content, hcontent, ps, hps⟩
  · rw [List.suffix_nil, List.reverse_eq_nil_iff] at hplain
    exact absurd hplain hword
  · have hpieces : r.flush.pieces.reverse =
        es.map Piece.element ++ .element (.text content) :: ps := by simp [← hps]
    have helements := resolveWith_map_element_append
      (rolesOf (pairMarks r.flush.pieces.reverse) (pairMarks r.flush.pieces.reverse).size) 0 es
      (.element (.text content) :: ps)
    rw [← hpieces] at helements
    exact ⟨content, _, hcontent, helements⟩

theorem readInline_begins (content : Text) (es : List Inline) {rest : Text} {c : Char}
    (h : ∀ skip, ReadsTokens content.toArray defs skip 0 tokens stop)
    (hdrop : content.drop stop = c :: rest) (hspace : c ≠ ' ')
    (hnone : ∀ skip memo,
      readToken content.toArray defs skip true content.toArray.size memo stop = (none, memo))
    (htokens : ∀ readText describe,
      let r := tokens.foldl (Reading.pushToken content.toArray readText describe) ⟨[], [], {}⟩
      r.plain = [] ∧ r.pieces.reverse = es.map Piece.element) :
    ∃ text more, [c] <+: text ∧ readInline defs content = es ++ .text text :: more := by
  -- A character that starts no token begins a text, whatever follows it.
  have hinside : stop < content.toArray.size := by
    have hlength := congrArg List.length hdrop
    simp only [List.length_drop, List.length_cons] at hlength
    rw [List.size_toArray]
    omega
  have hslice : Source.slice content.toArray stop (stop + 1) = [c] :=
    Source.slice_append (show content.drop stop = [c] ++ rest from hdrop)
  obtain ⟨skip, readText, describe, fuel, memo, hread⟩ :=
    exists_readTokens_of_reads h (Nat.le_of_lt hinside)
  obtain ⟨hplain, hpieces⟩ := htokens readText describe
  generalize tokens.foldl (Reading.pushToken content.toArray readText describe) ⟨[], [], {}⟩ = r
    at hread hplain hpieces
  rw [readTokens, if_neg (by omega), hnone] at hread
  have hbegins : Begins es [c] (({ r with memo := memo } : Reading).pushPlain [c]).pieces
      (({ r with memo := memo } : Reading).pushPlain [c]).plain :=
    .inl ⟨hpieces, by simp [Reading.pushPlain, hplain]⟩
  have hall := readTokens_preserves content.toArray defs skip readText describe
    content.toArray.size (P := Begins es [c])
    (fun _ _ _ _ _ token _ hr =>
      hr.pushToken (by simp) (by simpa using Ne.symm hspace) _ readText describe token)
    (fun _ _ hr => hr.pushPlain _) fuel _ (stop + 1) hbegins
  obtain ⟨text, more, htext, helements⟩ := Begins.elements hall (by simp)
  refine ⟨text, more, htext, hread.trans ?_⟩
  rw [← helements]
  simp only [hslice]

end MarkdownPages.Markdown
