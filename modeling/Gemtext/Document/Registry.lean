import Gemtext.Document.Node

/-! # Documents and their footnote definitions

A document keeps a register of footnote definitions by id, beside its tree. A definition
is registered when the tree that holds it is added, and the first to claim an id keeps
it. Taking a node out of the tree does not take it out of the register: it stays there as
it was last.

A registered definition is known by the ids it holds, of which there is at least one, and
which no other definition holds.
-/

namespace Gemtext

structure Definition where
  /-- The ids it holds. -/
  ids : List (List Char)
  /-- Where it stands in the tree, if it still does. -/
  place : Option Path
  /-- The definition itself. -/
  node : Node
  deriving DecidableEq, Repr

/-- A document: its tree below the root, and the register of footnote definitions. -/
structure Document where
  children : List Node := []
  definitions : List Definition := []
  deriving DecidableEq, Repr

/-- The path of a node after another node came in at the path `spot`. -/
def Path.afterInsert : (spot place : Path) → Path
  | [i], k :: rest => if i ≤ k then (k + 1) :: rest else k :: rest
  | i :: spot, k :: rest => if i = k then k :: Path.afterInsert spot rest else k :: rest
  | _, place => place

/-- The path of a node after the node at the path `spot` went; none if it went too. -/
def Path.afterRemove : (spot place : Path) → Option Path
  | [i], k :: rest => if i = k then none else if i < k then some ((k - 1) :: rest)
      else some (k :: rest)
  | i :: spot, k :: rest =>
    if i = k then (Path.afterRemove spot rest).map (k :: ·) else some (k :: rest)
  | _, place => some place

namespace Document

def root (d : Document) : Node := .element .document {} d.children

def at? (d : Document) (path : Path) : Option Node := d.root.at? path

def ids (d : Document) : List (List Char) := d.definitions.flatMap Definition.ids

def definition? (d : Document) (id : List Char) : Option Definition :=
  d.definitions.find? (·.ids.contains id)

/-- Registers a definition for those of its ids that are free. -/
def register (d : Document) (found : Path × Node) : Document :=
  match (found.2.attrs.ids.filter (!d.ids.contains ·)).eraseDups with
  | [] => d
  | free => { d with definitions := d.definitions ++ [⟨free, some found.1, found.2⟩] }

def registerAll (d : Document) (found : List (Path × Node)) : Document :=
  found.foldl register d

/-- Brings the registered definitions that stand in the tree up to date with it. -/
def refresh (d : Document) : Document :=
  { d with
    definitions := d.definitions.map fun entry =>
      match entry.place with
      | some place => { entry with node := (d.at? place).getD entry.node }
      | none => entry }

/-- Adds a node at the end of the tree and registers its definitions in document order. -/
def append (d : Document) (n : Node) : Document :=
  registerAll { d with children := d.children ++ [n] }
    (Node.definitionsFrom true d.children.length [n])

def ofChildren (ns : List Node) : Document := ns.foldl append {}

/-- Adds nodes at the end of the tree and registers their definitions, inner ones before
the ones around them. -/
def appendBuilt (d : Document) (ns : List Node) : Document :=
  registerAll { d with children := d.children ++ ns }
    (Node.definitionsFrom false d.children.length ns)

def modifyAt (d : Document) (path : Path) (f : Node → Node) : Document :=
  { d with children := (d.root.modifyAt f path).children }.refresh

/-- Puts a node among the children of the node at the path `parent`, before the child with
the index `index`, or behind all of them. -/
def insert (d : Document) (parent : Path) (index : Nat) (n : Node) : Document :=
  let count := ((d.at? parent).map fun p => p.children.length).getD 0
  let spot := parent ++ [min index count]
  let inserted := d.root.modifyAt (Node.mapChildren (·.insertIdx (min index count) n)) parent
  let shifted := d.definitions.map fun entry =>
    { entry with place := entry.place.map (Path.afterInsert spot) }
  registerAll ({ d with children := inserted.children, definitions := shifted }.refresh)
    ((n.definitions true).map fun found => (spot ++ found.1, found.2))

/-- Takes the child with the index `index` from the node at the path `parent`. -/
def remove (d : Document) (parent : Path) (index : Nat) : Document :=
  let removed := d.root.modifyAt (Node.mapChildren (·.eraseIdx index)) parent
  let shifted := d.definitions.map fun entry =>
    { entry with place := entry.place.bind (Path.afterRemove (parent ++ [index])) }
  { d with children := removed.children, definitions := shifted }.refresh

/-- Sets an attribute of the node at the end of a path. -/
def setAttribute (d : Document) (path : Path) (name : List Char) (value : AttributeValue) :
    Document :=
  d.modifyAt path fun
    | .text t => .text t
    | .element tag attrs children => .element tag (attrs.set name value) children

end Document

end Gemtext
