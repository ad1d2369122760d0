import Gemtext.Proofs.Subtree
import Gemtext.Proofs.Written

/-! # Hoisting

A walk in which it is left open what stands for the links of a block. With link blocks it is the
walk that renders a document; with nothing in their place, it writes the blocks by themselves.
A block that hoists its links does so once, behind its own text, and nothing inside it hoists
them again.
-/

namespace Gemtext

/-- The blocks behind which links are hoisted. -/
def Tag.hoists : Tag → Bool
  | paragraph | blockQuote | bulletList | enumeratedList | definitionList | table => true
  | _ => false

theorem Node.links_child {tag : Tag} {attrs : Attributes} {children : List Node}
    (none : (Node.element tag attrs children).links = []) {c : Node} (member : c ∈ children) :
    c.links = [] := by
  rw [List.eq_nil_iff_forall_not_mem]
  intro link inside
  have outside : link ∈ (Node.element tag attrs children).links :=
    Node.mem_filter_of_child member inside
  rw [none] at outside
  cases outside

namespace Walk

mutual
/-- Writes a node, with `hoist` for the links of a block. -/
def writeWith (hoist : Node → Written) (w : Walk) : Node → Written
  | .text _ => .nothing
  | .element tag attrs children =>
    let n := Node.element tag attrs children
    match tag with
    | .footnote => .nothing
    | .blockQuote => (quoteChunks children).andThen (hoist n)
    | .bulletList | .enumeratedList | .definitionList =>
      (if isLinksOnlyList children then Written.nothing
        else (listItems (tag == .enumeratedList) 0 1 children).andThen ⟨['\n'], none⟩).andThen
        (hoist n)
    | .document =>
      Written.andThen ⟨(w.metadata.map Metadata.header).getD [], none⟩
        (writeAllWith hoist w children)
    | .heading => headingText w.clamp n
    | .listItem => .fail (.malformed .strayListItem (some n))
    | .literalBlock => ⟨literalText attrs n.source, none⟩
    | .paragraph =>
      (if isLinksOnlyParagraph children then Written.nothing
        else Written.ofExcept ((compose {} false n).map blockOf)).andThen (hoist n)
    | .raw => .ofExcept (rawText attrs n.source)
    | .table =>
      ((tableBody children).andThen ⟨toggle ++ "\n\n".toList, none⟩).andThen (hoist n)
    | .transition => ⟨"---\n\n".toList, none⟩
    | _ => writeAllWith hoist w children

def writeAllWith (hoist : Node → Written) (w : Walk) : List Node → Written
  | [] => .nothing
  | n :: rest => (writeWith hoist w n).andThen (writeAllWith hoist w rest)
end

end Walk

theorem Written.Closed.writeAllWith {P : Written → Prop} (closed : Closed P)
    {hoist : Node → Written} {w : Walk} {children : List Node} (each : ∀ c ∈ children, P (Walk.writeWith hoist w c)) :
    P (Walk.writeAllWith hoist w children) := by
  induction children with
  | nil => exact closed.nothing
  | cons c rest ih =>
      obtain ⟨first, behind⟩ := List.forall_mem_cons.mp each
      exact closed.andThen first (ih behind)

namespace Walk

/-- What a walk writes when no links are hoisted. -/
def bare (w : Walk) (n : Node) : Written := writeWith (fun _ => .nothing) w n

variable {hoist other : Node → Written} {w : Walk}

theorem writeAllWith_congr {f : Node → Written} {children : List Node}
    (each : ∀ c ∈ children, writeWith hoist w c = f c) :
    writeAllWith hoist w children =
      children.foldr (fun c behind => (f c).andThen behind) .nothing := by
  induction children with
  | nil => rfl
  | cons c rest ih =>
      obtain ⟨first, behind⟩ := List.forall_mem_cons.mp each
      simp [writeAllWith, first, ih behind]

theorem writeAll_eq_foldr (w : Walk) (children : List Node) :
    w.writeAll children =
      children.foldr (fun c behind => (w.write c).andThen behind) .nothing := by
  induction children with
  | nil => rfl
  | cons c rest ih => simp [writeAll, ih]

/-- With link blocks for the links, it is the walk that renders. -/
theorem writeWith_linkBlock (w : Walk) (n : Node) :
    writeWith (linkBlock w.document) w n = w.write n := by
  induction n using Node.rec_strong with
  | text t => rfl
  | element tag attrs children ih =>
      have inside : writeAllWith (linkBlock w.document) w children = w.writeAll children := by
        rw [writeAllWith_congr ih, writeAll_eq_foldr]
      cases tag with
      | footnote | blockQuote | bulletList | enumeratedList | definitionList | heading | listItem
      | literalBlock | paragraph | raw | table | transition => rfl
      | document => simp only [writeWith, write, inside]
      | _ => exact inside

/-- A block that hoists its links hoists them once, behind its own text. -/
theorem writeWith_hoisting {n : Node} (hoists : n.tagIs Tag.hoists = true) :
    writeWith hoist w n = (w.bare n).andThen (hoist n) := by
  cases n with
  | text t => cases hoists
  | element tag attrs children =>
      cases tag with
      | paragraph | blockQuote | bulletList | enumeratedList | definitionList | table =>
          simp only [bare, writeWith, Written.andThen_nothing]
      | _ => cases hoists

/-- Where there is no link, nothing is hoisted. -/
theorem writeWith_of_no_links (silent : ∀ n : Node, n.links = [] → hoist n = .nothing) {n : Node}
    (none : n.links = []) : writeWith hoist w n = w.bare n := by
  induction n using Node.rec_strong with
  | text t => rfl
  | element tag attrs children ih =>
      have inside :
          writeAllWith hoist w children = writeAllWith (fun _ => .nothing) w children := by
        have own : ∀ c ∈ children, writeWith (fun _ => .nothing) w c = w.bare c := fun _ _ => rfl
        rw [writeAllWith_congr fun c member => ih c member (Node.links_child none member),
          writeAllWith_congr own]
      cases tag with
      | paragraph | blockQuote | bulletList | enumeratedList | definitionList | table =>
          rw [writeWith_hoisting rfl, silent _ none, Written.andThen_nothing]
      | footnote | heading | listItem | literalBlock | raw | transition => rfl
      | document => simp only [bare, writeWith, inside]
      | _ => exact inside

/-- What a block of a document hoists, if its links stand in blocks that hoist them. -/
theorem writeWith_block (silent : ∀ n : Node, n.links = [] → hoist n = .nothing) {n : Node}
    (placed : n.hasTag .footnote = true ∨ n.tagIs Tag.hoists = true ∨ n.links = []) :
    writeWith hoist w n =
      (w.bare n).andThen (if n.tagIs Tag.hoists then hoist n else .nothing) := by
  by_cases hoists : n.tagIs Tag.hoists = true
  · rw [if_pos hoists, writeWith_hoisting hoists]
  · rw [if_neg hoists, Written.andThen_nothing]
    rcases placed with isNote | hoisting | none
    · obtain ⟨attrs, children, rfl⟩ := Node.eq_element_of_hasTag isNote
      rfl
    · exact absurd hoisting hoists
    · exact writeWith_of_no_links silent none

end Walk

end Gemtext
