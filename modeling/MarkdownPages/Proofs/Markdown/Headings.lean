import MarkdownPages.Markdown.Document
import MarkdownPages.Proofs.Anchor.Fresh

/-!
# The anchors of a document's headings

Wherever a heading stands in a document, in a list or a quote, it gets an anchor when its turn comes
in document order: the first form of the anchor of its title that no earlier heading has.
-/

namespace MarkdownPages.Markdown

open Text

namespace Block

variable {H H' P σ : Type}

/-- What `f` makes of a list from left to right, passing a state along. -/
def thread (f : σ → H → H' × σ) (s : σ) : List H → List H' × σ
  | [] => ([], s)
  | h :: hs => ((f s h).1 :: (thread f (f s h).2 hs).1, (thread f (f s h).2 hs).2)

theorem thread_append (f : σ → H → H' × σ) (s : σ) (hs hs' : List H) :
    thread f s (hs ++ hs') =
      ((thread f s hs).1 ++ (thread f (thread f s hs).2 hs').1,
        (thread f (thread f s hs).2 hs').2) := by
  induction hs generalizing s with
  | nil => rfl
  | cons h hs ih => simp [thread, ih]

mutual

theorem headings_mapHeadings (f : σ → H → H' × σ) (s : σ) : (b : Block H P) →
    (headings (mapHeadings f s b).1, (mapHeadings f s b).2) = thread f s (headings b)
  | .paragraph _ | .heading _ _ | .rule | .code _ | .fence _ _ | .html _ => rfl
  | .quote children => by
      simpa only [mapHeadings, headings] using headingsAll_mapHeadingsAll f s children
  | .list _ _ items => by
      simpa only [mapHeadings, headings] using headingsItems_mapHeadingsItems f s items

theorem headingsAll_mapHeadingsAll (f : σ → H → H' × σ) (s : σ) : (bs : List (Block H P)) →
    (headingsAll (mapHeadingsAll f s bs).1, (mapHeadingsAll f s bs).2) =
      thread f s (headingsAll bs)
  | [] => rfl
  | b :: bs => by
      have hfirst := Prod.mk.inj (headings_mapHeadings f s b)
      have hrest := Prod.mk.inj (headingsAll_mapHeadingsAll f (mapHeadings f s b).2 bs)
      rw [headingsAll, thread_append]
      simp only [mapHeadingsAll, headingsAll, ← hfirst.1, ← hfirst.2, ← hrest.1, ← hrest.2]

theorem headingsItems_mapHeadingsItems (f : σ → H → H' × σ) (s : σ) :
    (items : List (List (Block H P))) →
    (headingsItems (mapHeadingsItems f s items).1, (mapHeadingsItems f s items).2) =
      thread f s (headingsItems items)
  | [] => rfl
  | item :: items => by
      have hfirst := Prod.mk.inj (headingsAll_mapHeadingsAll f s item)
      have hrest := Prod.mk.inj (headingsItems_mapHeadingsItems f (mapHeadingsAll f s item).2 items)
      rw [headingsItems, thread_append]
      simp only [mapHeadingsItems, headingsItems, ← hfirst.1, ← hfirst.2, ← hrest.1, ← hrest.2]

end

end Block

theorem thread_anchorHeading (used : List Text) (contents : List (List Inline)) :
    let headings := (Block.thread anchorHeading used contents).1
    headings.map Heading.content = contents ∧
      headings.map Heading.anchor = Anchor.assign used (contents.map titleOf) := by
  induction contents generalizing used with
  | nil => exact ⟨rfl, rfl⟩
  | cons content contents ih =>
      obtain ⟨hcontents, hanchors⟩ :=
        ih (Anchor.fresh used (Anchor.ofHeading (titleOf content)) :: used)
      constructor
      · exact congrArg (List.cons content) hcontents
      · exact congrArg (List.cons _) hanchors

def headingContents (source : Text) : List (List Inline) :=
  let (blocks, defs) := readDocument (normalizeSource source)
  Block.headingsAll (Block.mapAll (readInline defs) (readInline defs) blocks)

theorem headingsOf_eq (source : Text) :
    headingsOf source = (Block.thread anchorHeading [] (headingContents source)).1 :=
  congrArg Prod.fst (Block.headingsAll_mapHeadingsAll anchorHeading [] _)

theorem map_content_headingsOf (source : Text) :
    (headingsOf source).map Heading.content = headingContents source := by
  rw [headingsOf_eq]
  exact (thread_anchorHeading [] (headingContents source)).1

theorem map_anchor_headingsOf (source : Text) :
    (headingsOf source).map Heading.anchor =
      Anchor.assign [] ((headingContents source).map titleOf) := by
  rw [headingsOf_eq]
  exact (thread_anchorHeading [] (headingContents source)).2

theorem isFirstFree_anchor (source : Text) (i : Nat) (h : i < (headingsOf source).length) :
    Anchor.IsFirstFree (((headingsOf source).take i).map Heading.anchor)
      (Anchor.ofHeading (titleOf (headingsOf source)[i].content)) (headingsOf source)[i].anchor := by
  have hanchors := map_anchor_headingsOf source
  rw [← map_content_headingsOf source] at hanchors
  have hfree := Anchor.isFirstFree_assign []
    (((headingsOf source).map Heading.content).map titleOf) i (by simpa using h)
  simp only [List.get_eq_getElem, ← hanchors, List.getElem_map, List.append_nil,
    ← List.map_take] at hfree
  exact hfree

/--
Every heading of a document, in document order, has the first form of the anchor of its title that
no heading before it has.  So anchors are pairwise distinct; and making an anchor of an anchor
leaves it alone.
-/
theorem headings_have_first_free_anchors (source : Text) :
    (headingsOf source).map Heading.content = headingContents source ∧
    (∀ (i : Nat) (h : i < (headingsOf source).length),
      Anchor.IsFirstFree (((headingsOf source).take i).map Heading.anchor)
        (Anchor.ofHeading (titleOf (headingsOf source)[i].content))
        (headingsOf source)[i].anchor) ∧
    ((headingsOf source).map Heading.anchor).Nodup ∧
    ∀ heading ∈ headingsOf source, Anchor.ofHeading heading.anchor = heading.anchor := by
  refine ⟨map_content_headingsOf source, isFirstFree_anchor source, ?_, ?_⟩
  · rw [List.Nodup, List.pairwise_iff_getElem]
    intro i j hi hj hij heq
    have hj' : j < (headingsOf source).length := by simpa using hj
    apply (isFirstFree_anchor source j hj').notMem
    rw [List.getElem_map, List.getElem_map] at heq
    rw [← heq]
    refine List.mem_map_of_mem ?_
    exact List.mem_take_iff_getElem.mpr ⟨i, by omega, rfl⟩
  · intro heading hmem
    obtain ⟨i, hi, rfl⟩ := List.getElem_of_mem hmem
    have hanchor := (isFirstFree_anchor source i hi).isAnchor (Anchor.isAnchor_ofHeading _)
    exact Anchor.ofHeading_of_isAnchor hanchor

end MarkdownPages.Markdown
