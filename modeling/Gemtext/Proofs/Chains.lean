import Gemtext.Proofs.Subtree

/-! # Chains of links

A chain goes from a link in a subtree to a link in the definition that the first one points
to, and so on, without entering a definition twice. However definitions refer to one another,
the chains from a node are finitely many, and the links of the node are the last links of its
chains, in the lexicographic order of the positions that a chain goes through. Listing them
fails at the first chain that ends in a footnote reference without a definition.
-/

namespace Gemtext.Document

/-- From a link to a last link through definitions: each of the links before the last is a
    footnote reference, and the next one stands at the given path in its definition. -/
inductive Follows (d : Document) : Node → List Path → List Definition → Node → Prop where
  | stop (link : Node) : d.Follows link [] [] link
  | enter {reference link last : Node} {entry : Definition} {path : Path} {paths : List Path}
      {entries : List Definition} :
      reference.hasTag .footnoteReference = true → d.resolve reference = .ok entry →
      entry.node.at? path = some link → link.tagIs Tag.isLink = true →
      d.Follows link paths entries last →
      d.Follows reference (path :: paths) (entry :: entries) last

/-- Every definition that is entered is one that some reference points to. -/
theorem Follows.resolved {d : Document} {link last : Node} {paths entries}
    (h : d.Follows link paths entries last) :
    ∀ entry ∈ entries, ∃ reference, d.resolve reference = .ok entry := by
  induction h with
  | stop => simp
  | enter _ resolved _ _ _ ih =>
      intro entry member
      rcases List.mem_cons.mp member with rfl | inside
      · exact ⟨_, resolved⟩
      · exact ih entry inside

/-! ## Listing the chains -/

variable {d : Document} {followed : List (List (List Char))} {path : Path} {link : Node}
  {chain : List Path × Node}

end Gemtext.Document
