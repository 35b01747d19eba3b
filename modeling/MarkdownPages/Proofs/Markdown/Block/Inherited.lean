import MarkdownPages.Markdown.Block.Read
import MarkdownPages.Proofs.Markdown.Block.Holds

/-!
# What blocks inherit from lines

Reading blocks takes lines apart and never puts a character in.  So a property that lines keep when
the marks of quotes and the markers of items are taken off passes on to the texts of all blocks.
-/

namespace MarkdownPages.Markdown

open Text Block

def Marker.Starts (marker : Marker) (body : Text) : Prop :=
  Marker.ordered? body = some marker ∨ Marker.bullet? body = some marker

/-- Lines with a property, of which all but the last one end with a line feed. -/
structure AllLines (onLine : Line → Prop) (ls : List Line) : Prop where
  each : ∀ l ∈ ls, onLine l
  ended : ls.Pairwise fun l _ => l.ended = true

/--
A property of lines that is kept when containers take their part of a line, with the properties of
raw HTML and of other texts that follow from it.
-/
structure Inherited (onLine : Line → Prop) (onHtml onText : Text → Prop) : Prop where
  unquote : ∀ l, isQuote l = true → onLine l → onLine (unquote l)
  lazy : ∀ l, onLine l → onLine { l with indent := -1 }
  openItem : ∀ marker l, marker.Starts l.body → onLine l → onLine (openItem marker l).2
  html : ∀ column kind first more, Html.BlockKind.ofLine? first.body = some kind →
    AllLines onLine (first :: more) → onHtml (dedentAll column (first :: more))
  heading : ∀ l level content, readHeading? l.body = some (level, content) → onLine l →
    onText content
  paragraph : ∀ column ls, AllLines onLine ls → onText (trimMargins (dedentBetween column ls))

variable {onLine : Line → Prop} {onHtml onText : Text → Prop} {place : Place} {defs : Definitions}
variable {l : Line} {ls : List Line}

/-- What a reader of a container makes of lines with the property. -/
def Keeps (onLine : Line → Prop) (onHtml onText : Text → Prop) (read : ContainerReader) : Prop :=
  ∀ place defs ls, AllLines onLine ls →
    HoldsAll onHtml onText onText (read place defs ls).blocks ∧
      AllLines onLine (read place defs ls).rest

/-! ## Lines -/

theorem allLines_nil : AllLines onLine [] := ⟨by simp, .nil⟩

theorem AllLines.sublist {ls' : List Line} (h : AllLines onLine ls) (hsub : ls'.Sublist ls) :
    AllLines onLine ls' :=
  ⟨fun l hl => h.each l (hsub.subset hl), h.ended.sublist hsub⟩

theorem AllLines.tail (h : AllLines onLine (l :: ls)) : AllLines onLine ls :=
  h.sublist (List.sublist_cons_self _ _)

theorem AllLines.cons {l' : Line} {ls' : List Line} (h : AllLines onLine (l :: ls))
    (hl' : onLine l') (hended : l'.ended = l.ended) (hls' : AllLines onLine ls')
    (hnil : ls = [] → ls' = []) : AllLines onLine (l' :: ls') := by
  refine ⟨List.forall_mem_cons.mpr ⟨hl', hls'.each⟩, List.pairwise_cons.mpr ⟨?_, hls'.ended⟩⟩
  intro m hm
  cases ls with
  | nil => simp [hnil rfl] at hm
  | cons next ls =>
      rw [hended]
      exact (List.pairwise_cons.mp h.ended).1 next (.head _)

/-! ## Leaves -/

theorem readHtml_inherits (place : Place) (h : Inherited onLine onHtml onText) {kind : Html.BlockKind}
    (hkind : Html.BlockKind.ofLine? l.body = some kind) (hls : AllLines onLine (l :: ls)) :
    Holds onHtml onText onText (readHtml place kind l ls).1 ∧
      AllLines onLine (readHtml place kind l ls).2 :=
  ⟨h.html _ kind l _ hkind (hls.sublist ((List.take_sublist _ _).cons_cons l)),
    hls.tail.sublist (List.drop_sublist _ _)⟩

theorem readParagraph_inherits (place : Place) (h : Inherited onLine onHtml onText)
    (hls : AllLines onLine (l :: ls)) :
    Holds onHtml onText onText (readParagraph place l ls).1 ∧
      AllLines onLine (readParagraph place l ls).2 := by
  unfold readParagraph
  split
  · exact ⟨h.paragraph _ _ (hls.sublist ((List.take_sublist _ _).cons_cons l)),
      hls.tail.sublist (List.drop_sublist _ _)⟩
  · exact ⟨h.paragraph _ _ (hls.sublist ((List.takeWhile_sublist _).cons_cons l)),
      hls.tail.sublist (List.drop_sublist _ _)⟩

theorem readDefinitionBlock?_inherits {label : Text × Target} {rest : List Line}
    (hls : AllLines onLine (l :: ls)) (hread : readDefinitionBlock? place l ls = some (label, rest)) :
    AllLines onLine rest := by
  simp only [readDefinitionBlock?, Option.bind_eq_bind, Option.bind_eq_some_iff, Option.some.injEq,
    Prod.mk.injEq, Prod.exists] at hread
  obtain ⟨_, _, _, -, -, rfl⟩ := hread
  exact hls.sublist (List.drop_sublist _ _)

/-! ## Quotes and lists -/

theorem quoteLines_inherits (h : Inherited onLine onHtml onText) (hls : AllLines onLine ls)
    (lastBlank : Bool) : AllLines onLine (quoteLines place lastBlank ls) := by
  induction ls generalizing lastBlank with
  | nil => exact allLines_nil
  | cons l ls ih =>
      have hl : onLine l := hls.each l (.head _)
      have hnil : ∀ lastBlank, ls = [] → quoteLines place lastBlank ls = [] := by
        rintro lastBlank rfl
        rfl
      rw [quoteLines]
      split
      · exact allLines_nil
      · split
        · rename_i hquote
          rw [Bool.and_eq_true] at hquote
          exact hls.cons (h.unquote l hquote.1 hl) rfl (ih hls.tail _) (hnil _)
        · split
          · exact allLines_nil
          · exact hls.cons (h.lazy l hl) rfl (ih hls.tail _) (hnil _)

theorem starts_of_next {first marker : Marker}
    (h : (do
      let next ← ls.head?
      if next.isOutdented place || next.isCode place || endsItems place next then none
      else
        let marker ← (match first.kind with
          | .bullet => Marker.bullet? next.body
          | .ordered _ => Marker.ordered? next.body)
        if marker.sign = first.sign then some marker else none) = some marker) :
    ∀ l ∈ ls.head?, marker.Starts l.body := by
  intro l hl
  simp only [Option.bind_eq_bind, Option.bind_eq_some_iff] at h
  obtain ⟨next, hnext, h⟩ := h
  obtain rfl : next = l := Option.some.inj (hnext.symm.trans hl)
  split at h
  · simp at h
  · simp only [Option.bind_eq_some_iff] at h
    obtain ⟨found, hfound, h⟩ := h
    split at h
    · obtain rfl := Option.some.inj h
      split at hfound
      · exact .inr hfound
      · exact .inl hfound
    · simp at h

theorem readItems_inherits (place : Place) (first : Marker) (fuel : Nat) (endedBlank : Bool)
    (defs : Definitions) (h : Inherited onLine onHtml onText) {read : ContainerReader}
    (hread : Keeps onLine onHtml onText read) {marker : Marker} (hls : AllLines onLine ls)
    (hmarker : ∀ l ∈ ls.head?, marker.Starts l.body) :
    HoldsItems onHtml onText onText
        (readItems read place first fuel marker endedBlank defs ls).items ∧
      AllLines onLine (readItems read place first fuel marker endedBlank defs ls).rest := by
  induction fuel generalizing marker endedBlank defs ls with
  | zero => exact ⟨trivial, hls⟩
  | succ fuel ih =>
      cases ls with
      | nil => exact ⟨trivial, hls⟩
      | cons l ls =>
          have hopened : AllLines onLine ((openItem marker l).2 :: ls) :=
            hls.cons (h.openItem marker l (hmarker l rfl) (hls.each l (.head _))) rfl hls.tail id
          rw [readItems]
          -- A blank line may start an item without contents, which no reader is asked for.
          generalize hitem : (if (openItem marker l).2.isBlank && ls.head?.all Line.isBlank then
              { blocks := [], rest := ls.drop 1, tight := true, defs := defs : Contents }
            else read ⟨(openItem marker l).1, some place.column⟩ defs
              ((openItem marker l).2 :: ls)) = item
          have hitemKeeps : HoldsAll onHtml onText onText item.blocks ∧
              AllLines onLine item.rest := by
            rw [← hitem]
            split
            · exact ⟨trivial, hls.tail.sublist (List.drop_sublist _ _)⟩
            · exact hread _ _ _ hopened
          dsimp only
          rw [hitem]
          split
          · rename_i marker' hnext
            have hothers := ih (decide (1 < (l :: ls).length - item.rest.length) &&
              lastIsBlank (l :: ls) item.rest) item.defs hitemKeeps.2 (starts_of_next hnext)
            exact ⟨⟨hitemKeeps.1, hothers.1⟩, hothers.2⟩
          · exact ⟨⟨hitemKeeps.1, trivial⟩, hitemKeeps.2⟩

/-! ## Containers -/

theorem starts_of_listMarker? {inParagraph : Bool} {marker : Marker}
    (h : listMarker? place inParagraph l = some marker) : marker.Starts l.body := by
  unfold listMarker? at h
  split at h
  · simp at h
  · simp only [Option.bind_eq_bind, Option.bind_eq_some_iff] at h
    obtain ⟨found, hfound, h⟩ := h
    obtain ⟨-, h⟩ := Option.ite_none_left_eq_some.mp h
    obtain rfl := Option.some.inj h
    rw [Marker.ofBody?, Option.orElse_eq_orElse, Option.orElse_eq_or, Option.or_eq_some_iff] at hfound
    exact hfound.imp_right And.right

theorem readBlock_inherits (place : Place) (defs : Definitions) (h : Inherited onLine onHtml onText)
    {readQuote readItem : ContainerReader} (hquote : Keeps onLine onHtml onText readQuote)
    (hitem : Keeps onLine onHtml onText readItem) (hls : AllLines onLine (l :: ls)) :
    (∀ b ∈ (readBlock readQuote readItem place defs l ls).1, Holds onHtml onText onText b) ∧
      AllLines onLine (readBlock readQuote readItem place defs l ls).2.1 := by
  have hl : onLine l := hls.each l (.head _)
  -- one split for each kind of block, in the order in which they are tried
  unfold readBlock
  split
  · refine ⟨fun b hb => ?_, hls.tail.sublist (List.drop_sublist _ _)⟩
    obtain rfl := Option.some.inj hb
    exact trivial
  · split
    · refine ⟨fun b hb => ?_, hls.tail.sublist (List.drop_sublist _ _)⟩
      obtain rfl := Option.some.inj hb
      exact trivial
    · split
      · rename_i hmark
        have hinner : AllLines onLine (unquote l :: quoteLines place (unquote l).isBlank ls) :=
          hls.cons (h.unquote l hmark hl) rfl (quoteLines_inherits h hls.tail _) (by rintro rfl; rfl)
        refine ⟨fun b hb => ?_, hls.sublist (List.drop_sublist _ _)⟩
        obtain rfl := Option.some.inj hb
        exact (hquote _ _ _ hinner).1
      · split
        · refine ⟨fun b hb => ?_, hls.tail⟩
          obtain rfl := Option.some.inj hb
          exact trivial
        · split
          · rename_i marker hmarker
            have hlist := readItems_inherits place marker (ls.length + 1) false defs h hitem hls
              (fun l' hl' => Option.some.inj hl' ▸ starts_of_listMarker? hmarker)
            refine ⟨fun b hb => ?_, hlist.2⟩
            obtain rfl := Option.some.inj hb
            exact hlist.1
          · split
            · rename_i hdefinition
              exact ⟨by simp, readDefinitionBlock?_inherits hls hdefinition⟩
            · split
              · rename_i hkind
                have hhtml := readHtml_inherits place h hkind hls
                exact ⟨fun b hb => Option.some.inj hb ▸ hhtml.1, hhtml.2⟩
              · split
                · rename_i hheading
                  exact ⟨fun b hb => Option.some.inj hb ▸ h.heading l _ _ hheading hl, hls.tail⟩
                · have hparagraph := readParagraph_inherits place h hls
                  exact ⟨fun b hb => Option.some.inj hb ▸ hparagraph.1, hparagraph.2⟩

theorem readBlocks_inherits (fuel : Nat) (loose tight : Bool) (defs : Definitions)
    (h : Inherited onLine onHtml onText) {readQuote readItem : ContainerReader}
    (hquote : Keeps onLine onHtml onText readQuote) (hitem : Keeps onLine onHtml onText readItem)
    (hls : AllLines onLine ls) :
    HoldsAll onHtml onText onText
        (readBlocks readQuote readItem place fuel loose tight defs ls).blocks ∧
      AllLines onLine (readBlocks readQuote readItem place fuel loose tight defs ls).rest := by
  induction fuel generalizing loose tight defs ls with
  | zero => exact ⟨trivial, hls⟩
  | succ fuel ih =>
      have hshown := hls.sublist (List.dropWhile_sublist Line.isBlank)
      rw [readBlocks]
      split
      · exact ⟨trivial, allLines_nil⟩
      · rename_i l more heq
        rw [heq] at hshown
        split
        · exact ⟨trivial, hshown⟩
        · have hblock := readBlock_inherits place defs h hquote hitem hshown
          generalize readBlock readQuote readItem place defs l more = answer at hblock
          obtain ⟨block?, rest, defs⟩ := answer
          have hbehind : AllLines onLine
              (if rest.head?.any Line.isBlank then rest.drop 1 else rest) := by
            split
            · exact hblock.2.sublist (List.drop_sublist _ _)
            · exact hblock.2
          have hothers := ih (loose || lastIsBlank (l :: more) rest ||
            rest.head?.any Line.isBlank) (!loose) defs hbehind
          refine ⟨HoldsAll.append ?_ hothers.1, hothers.2⟩
          cases block? with
          | none => exact trivial
          | some b => exact ⟨hblock.1 b rfl, trivial⟩

theorem keeps_skipContents : Keeps onLine onHtml onText skipContents := by
  intro place defs ls hls
  have hshown := hls.sublist (List.dropWhile_sublist Line.isBlank)
  unfold skipContents
  split
  · exact ⟨trivial, allLines_nil⟩
  · rename_i l more heq
    rw [heq] at hshown
    split
    · exact ⟨trivial, hshown⟩
    · exact ⟨trivial, allLines_nil⟩

theorem keeps_readContents (h : Inherited onLine onHtml onText) : (room : Nat) →
    Keeps onLine onHtml onText (readContents room)
  | 0 => keeps_skipContents
  | 1 => fun _ _ _ => readBlocks_inherits _ _ _ _ h (keeps_readContents h 0) keeps_skipContents
  | room + 2 => fun _ _ _ =>
    readBlocks_inherits _ _ _ _ h (keeps_readContents h (room + 1)) (keeps_readContents h room)

theorem readDocument_inherits (h : Inherited onLine onHtml onText) {source : Text}
    (hlines : AllLines onLine (lines source)) :
    HoldsAll onHtml onText onText (readDocument source).1 :=
  (keeps_readContents h maxDepth _ _ _ hlines).1

end MarkdownPages.Markdown
