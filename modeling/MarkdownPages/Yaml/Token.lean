import MarkdownPages.Yaml.Tag

/-!
# Tokens

A document is read as a sequence of tokens.  Indentation has become tokens too: the start and the
end of the sequences and mappings that it marks.
-/

namespace MarkdownPages.Yaml

open Text

inductive Token
  | directive (directive : Directive)
  | documentStart
  | documentEnd
  | blockSequence
  | blockMapping
  | blockEnd
  | flowSequence
  | flowSequenceEnd
  | flowMapping
  | flowMappingEnd
  | item
  | comma
  | key
  | value
  | reference (name : Text)
  | anchor (name : Text)
  | tag (tag : Tag)
  /-- A text; `plain` tells that it stands without quotes and signs. -/
  | scalar (plain : Bool) (text : Text)
  | streamEnd
deriving DecidableEq, Repr

/-- The tokens of a text, and why there are no more if the end of the text is not among them. -/
structure TokenStream where
  tokens : List Token
  fault : Option Error
deriving Repr

end MarkdownPages.Yaml
