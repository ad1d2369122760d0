import Gemtext.Document.Attributes
import Gemtext.Document.Tag

/-! # Document trees

A node is a text or an element with attributes and children. A path leads from a node to
a descendant by child indexes; every node of a tree has one path, so that two nodes with
equal content are still told apart.
-/

namespace Gemtext

inductive Node where
  | text (content : List Char)
  | element (tag : Tag) (attrs : Attributes) (children : List Node)
  deriving Repr

abbrev Path := List Nat

namespace Node

def tag? : Node → Option Tag
  | text _ => none
  | element tag _ _ => some tag

def attrs : Node → Attributes
  | text _ => {}
  | element _ attrs _ => attrs

def children : Node → List Node
  | text _ => []
  | element _ _ children => children

def name : Node → String
  | text _ => "#text"
  | element tag _ _ => tag.name

/-- Whether a node is an element whose tag satisfies `p`. -/
def tagIs (p : Tag → Bool) (n : Node) : Bool := n.tag?.any p

def hasTag (tag : Tag) (n : Node) : Bool := n.tagIs (· == tag)

def at? : Path → Node → Option Node
  | [], n => some n
  | i :: path, n => n.children[i]?.bind (at? path)

def modifyAt (f : Node → Node) : Path → Node → Node
  | [], n => f n
  | _ :: _, text t => text t
  | i :: path, element tag attrs children =>
    element tag attrs (children.modify i (modifyAt f path))

def mapChildren (f : List Node → List Node) : Node → Node
  | text t => text t
  | element tag attrs children => element tag attrs (f children)

mutual
/-- The nodes of a tree that satisfy `p`, in document order. -/
def filter (p : Node → Bool) : Node → List Node
  | text t => if p (text t) then [text t] else []
  | element tag attrs children =>
    (if p (element tag attrs children) then [element tag attrs children] else []) ++
      filterAll p children

/-- The nodes of several trees that satisfy `p`, in document order. -/
def filterAll (p : Node → Bool) : List Node → List Node
  | [] => []
  | n :: rest => filter p n ++ filterAll p rest
end

/-- The footnote definition that a node is, if it has ids. -/
def definitionHere (n : Node) : List (Path × Node) :=
  if n.hasTag .footnote && !n.attrs.ids.isEmpty then [([], n)] else []

mutual
/-- The footnote definitions with ids in a tree, with their paths. With `outerFirst` they
stand in document order, otherwise each behind the definitions inside it. -/
def definitions (outerFirst : Bool) : Node → List (Path × Node)
  | text _ => []
  | element tag attrs children =>
    let here := definitionHere (element tag attrs children)
    let inside := definitionsFrom outerFirst 0 children
    if outerFirst then here ++ inside else inside ++ here

/-- The footnote definitions with ids in sibling trees, the first of which has the index
`index`. -/
def definitionsFrom (outerFirst : Bool) (index : Nat) : List Node → List (Path × Node)
  | [] => []
  | n :: rest =>
    (definitions outerFirst n).map (fun d => (index :: d.1, d.2)) ++
      definitionsFrom outerFirst (index + 1) rest
end

/-- Removes each NUL that stands before `mark`, with the mark. -/
def dropEscaped (mark : Char) : List Char → List Char
  | [] => []
  | [c] => [c]
  | c :: d :: t =>
    if c == '\x00' && d == mark then dropEscaped mark t else c :: dropEscaped mark (d :: t)

/-- The source of a text: NUL characters are escapes, which vanish together with a blank
or a line feed behind them. -/
def unescaped (t : List Char) : List Char :=
  (dropEscaped '\n' (dropEscaped ' ' t)).filter (· != '\x00')

theorem dropEscaped_eq_self {mark : Char} {t : List Char} (plain : '\x00' ∉ t) :
    dropEscaped mark t = t := by
  fun_induction dropEscaped mark t with
  | case1 => rfl
  | case2 => rfl
  | case3 c d t escape => simp_all
  | case4 c d t keep ih => rw [ih fun member => plain (List.mem_cons_of_mem c member)]

theorem unescaped_eq_self {t : List Char} (plain : '\x00' ∉ t) : unescaped t = t := by
  rw [unescaped, dropEscaped_eq_self plain, dropEscaped_eq_self plain, List.filter_eq_self]
  exact fun c member => bne_iff_ne.mpr fun same => plain (same ▸ member)

mutual
/-- The source text of a node. The children of text elements follow one another; those of
other elements are separated by an empty line; an image stands for its description. -/
def source : Node → List Char
  | text t => unescaped t
  | element tag attrs children =>
    if tag = .image then attrs.alt.getD []
    else (if tag.isTextual then [] else ['\n', '\n']).intercalate (sources children)

def sources : List Node → List (List Char)
  | [] => []
  | n :: rest => source n :: sources rest
end

mutual
/-- Equality of nodes is decided along their trees. -/
def decEq : (m n : Node) → Decidable (m = n)
  | text s, text t =>
    if h : s = t then isTrue (congrArg text h) else isFalse fun e => h (Node.text.inj e)
  | text _, element .. => isFalse (by simp)
  | element .., text _ => isFalse (by simp)
  | element tag attrs children, element tag' attrs' children' =>
    if h : tag = tag' ∧ attrs = attrs' then
      match decEqAll children children' with
      | isTrue e => isTrue (by rw [h.1, h.2, e])
      | isFalse e => isFalse fun he => e (Node.element.inj he).2.2
    else isFalse fun he => h ⟨(Node.element.inj he).1, (Node.element.inj he).2.1⟩

/-- Equality of lists of nodes is decided node by node. -/
def decEqAll : (ms ns : List Node) → Decidable (ms = ns)
  | [], [] => isTrue rfl
  | [], _ :: _ => isFalse (by simp)
  | _ :: _, [] => isFalse (by simp)
  | m :: ms, n :: ns =>
    match decEq m n, decEqAll ms ns with
    | isTrue h, isTrue hs => isTrue (by rw [h, hs])
    | isFalse h, _ => isFalse fun e => h (List.cons.inj e).1
    | _, isFalse hs => isFalse fun e => hs (List.cons.inj e).2
end

instance : DecidableEq Node := decEq

theorem sources_eq_map (ns : List Node) : sources ns = ns.map source := by
  induction ns with
  | nil => rfl
  | cons n rest ih => simp [sources, ih]

theorem filterAll_eq_flatMap (p : Node → Bool) (ns : List Node) :
    filterAll p ns = ns.flatMap (filter p) := by
  induction ns with
  | nil => rfl
  | cons n rest ih => simp [filterAll, ih]

end Node

end Gemtext
