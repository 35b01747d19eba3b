import MarkdownPages.Markdown.Block

/-!
# What holds of the texts in blocks

A property of raw HTML, one of headings and one of paragraphs, wherever they stand in a document.
Code is left out: it is never shown as it stands.
-/

namespace MarkdownPages.Markdown.Block

variable {H H' P P' σ : Type}

mutual

def Holds (onHtml : Text → Prop) (onHeading : H → Prop) (onParagraph : P → Prop) :
    Block H P → Prop
  | .paragraph content => onParagraph content
  | .heading _ content => onHeading content
  | .html content => onHtml content
  | .rule | .code _ | .fence _ _ => True
  | .quote children => HoldsAll onHtml onHeading onParagraph children
  | .list _ _ items => HoldsItems onHtml onHeading onParagraph items

def HoldsAll (onHtml : Text → Prop) (onHeading : H → Prop) (onParagraph : P → Prop) :
    List (Block H P) → Prop
  | [] => True
  | b :: bs => Holds onHtml onHeading onParagraph b ∧ HoldsAll onHtml onHeading onParagraph bs

def HoldsItems (onHtml : Text → Prop) (onHeading : H → Prop) (onParagraph : P → Prop) :
    List (List (Block H P)) → Prop
  | [] => True
  | item :: items =>
    HoldsAll onHtml onHeading onParagraph item ∧ HoldsItems onHtml onHeading onParagraph items

end

variable {onHtml : Text → Prop} {onHeading : H → Prop} {onParagraph : P → Prop}

theorem HoldsAll.append {bs cs : List (Block H P)} (hbs : HoldsAll onHtml onHeading onParagraph bs)
    (hcs : HoldsAll onHtml onHeading onParagraph cs) :
    HoldsAll onHtml onHeading onParagraph (bs ++ cs) := by
  induction bs with
  | nil => exact hcs
  | cons b bs ih => exact ⟨hbs.1, ih hbs.2⟩

variable {onHtml' : Text → Prop} {onHeading' : H' → Prop} {onParagraph' : P' → Prop}
variable {f : H → H'} {g : P → P'}

mutual

theorem Holds.map (hhtml : ∀ s, onHtml s → onHtml' s)
    (hheading : ∀ h, onHeading h → onHeading' (f h))
    (hparagraph : ∀ p, onParagraph p → onParagraph' (g p)) : (b : Block H P) →
    Holds onHtml onHeading onParagraph b → Holds onHtml' onHeading' onParagraph' (map f g b)
  | .paragraph content, h => hparagraph content h
  | .heading _ content, h => hheading content h
  | .html content, h => hhtml content h
  | .rule, _ | .code _, _ | .fence _ _, _ => trivial
  | .quote children, h => HoldsAll.mapAll hhtml hheading hparagraph children h
  | .list _ _ items, h => HoldsItems.mapItems hhtml hheading hparagraph items h

theorem HoldsAll.mapAll (hhtml : ∀ s, onHtml s → onHtml' s)
    (hheading : ∀ h, onHeading h → onHeading' (f h))
    (hparagraph : ∀ p, onParagraph p → onParagraph' (g p)) : (bs : List (Block H P)) →
    HoldsAll onHtml onHeading onParagraph bs → HoldsAll onHtml' onHeading' onParagraph' (mapAll f g bs)
  | [], _ => trivial
  | b :: bs, h =>
    ⟨Holds.map hhtml hheading hparagraph b h.1, HoldsAll.mapAll hhtml hheading hparagraph bs h.2⟩

theorem HoldsItems.mapItems (hhtml : ∀ s, onHtml s → onHtml' s)
    (hheading : ∀ h, onHeading h → onHeading' (f h))
    (hparagraph : ∀ p, onParagraph p → onParagraph' (g p)) : (items : List (List (Block H P))) →
    HoldsItems onHtml onHeading onParagraph items →
    HoldsItems onHtml' onHeading' onParagraph' (mapItems f g items)
  | [], _ => trivial
  | item :: items, h =>
    ⟨HoldsAll.mapAll hhtml hheading hparagraph item h.1,
      HoldsItems.mapItems hhtml hheading hparagraph items h.2⟩

end

mutual

theorem Holds.mapHeadings {f : σ → H → H' × σ} (hheading : ∀ s h, onHeading h → onHeading' (f s h).1)
    (s : σ) : (b : Block H P) → Holds onHtml onHeading onParagraph b →
    Holds onHtml onHeading' onParagraph (mapHeadings f s b).1
  | .paragraph _, h => h
  | .heading _ content, h => hheading s content h
  | .html _, h => h
  | .rule, _ | .code _, _ | .fence _ _, _ => trivial
  | .quote children, h => HoldsAll.mapHeadingsAll hheading s children h
  | .list _ _ items, h => HoldsItems.mapHeadingsItems hheading s items h

theorem HoldsAll.mapHeadingsAll {f : σ → H → H' × σ}
    (hheading : ∀ s h, onHeading h → onHeading' (f s h).1) (s : σ) : (bs : List (Block H P)) →
    HoldsAll onHtml onHeading onParagraph bs →
    HoldsAll onHtml onHeading' onParagraph (mapHeadingsAll f s bs).1
  | [], _ => trivial
  | b :: bs, h =>
    ⟨Holds.mapHeadings hheading s b h.1, HoldsAll.mapHeadingsAll hheading _ bs h.2⟩

theorem HoldsItems.mapHeadingsItems {f : σ → H → H' × σ}
    (hheading : ∀ s h, onHeading h → onHeading' (f s h).1) (s : σ) :
    (items : List (List (Block H P))) → HoldsItems onHtml onHeading onParagraph items →
    HoldsItems onHtml onHeading' onParagraph (mapHeadingsItems f s items).1
  | [], _ => trivial
  | item :: items, h =>
    ⟨HoldsAll.mapHeadingsAll hheading s item h.1, HoldsItems.mapHeadingsItems hheading _ items h.2⟩

end

end MarkdownPages.Markdown.Block
