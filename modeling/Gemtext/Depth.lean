import Gemtext.Document.Registry
import Gemtext.Error

/-! # Nesting depth

A node lies as many levels deep as there are steps on its path from the document. A tree
that is deeper than a limit is refused, at the node on the first level past the limit that
stands last in document order.
-/

namespace Gemtext

namespace Node

mutual
/-- The last node of a tree that lies `depth` levels below a limit's last level, where
`depth` counts down from the level of the tree's own root. -/
def lastBeyond (limit depth : Int) : Node → Option Node
  | text t => if limit < depth then some (text t) else none
  | element tag attrs children =>
    if limit < depth then some (element tag attrs children)
    else lastBeyondIn limit (depth + 1) children

/-- The last node beyond the limit in sibling trees whose roots lie `depth` levels deep. -/
def lastBeyondIn (limit depth : Int) : List Node → Option Node
  | [] => none
  | n :: rest =>
    match lastBeyondIn limit depth rest with
    | some found => some found
    | none => lastBeyond limit depth n
end

end Node

/-- Refuses a document that is nested deeper than `limit` levels. -/
def Document.checkDepth (d : Document) (limit : Int) : Except Error Unit :=
  match d.root.lastBeyond limit 0 with
  | some n => .error (.malformed (.tooDeep limit) (some n))
  | none => .ok ()

end Gemtext
