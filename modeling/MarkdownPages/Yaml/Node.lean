import MarkdownPages.Yaml.Kind
import MarkdownPages.Yaml.Token

/-!
# Nodes

A document is a tree of nodes with their kinds.  A node that has an anchor stands outside the tree
and is referred to by a number, so that a node may be part of several others, and even of itself.
-/

namespace MarkdownPages.Yaml

open Text

inductive Node
  | scalar (kind : Kind) (text : Text)
  | list (kind : Kind) (items : List Node)
  | map (kind : Kind) (entries : List (Node × Node))
  /-- The node with an anchor, by the number of the anchor. -/
  | shared (id : Nat)

structure Document where
  version : Version
  root : Node
  anchored : List (Nat × Node)

namespace Document

/-- The node itself, if it is referred to by a number; only scalars and collections come out. -/
def resolve (d : Document) : Node → Node
  | .shared id => (d.anchored.lookup id).getD (.scalar .null [])
  | node => node

end Document

end MarkdownPages.Yaml
