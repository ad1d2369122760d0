import Gemtext.Document.Registry
import Gemtext.Error
import Gemtext.Markdown.Tree
import Gemtext.Text.Word

/-! # Documents from Markdown

Each construct of a Markdown tree becomes a node, or several, or none. Denied spans of raw
HTML are dropped wherever constructs stand side by side. The definitions of footnotes are
numbered from one, and get ids from their numbers, which have to be writable.
-/

namespace Gemtext.Document

open Text Markdown

/-- The digits of a whole number, among which single low lines may stand. -/
def digitsFrom (value : Nat) : List Char → Option Nat
  | [] => some value
  | '_' :: c :: rest => (digitValue? c).bind fun d => digitsFrom (10 * value + d) rest
  | c :: rest => (digitValue? c).bind fun d => digitsFrom (10 * value + d) rest

/-- Reads the digits of a whole number, of which there is at least one, and not too many. -/
def natural? : (t : List Char) → Option Nat
  | [] => none
  | c :: rest =>
    if digitLimit < ((c :: rest).filter (· != '_')).length then none
    else (digitValue? c).bind fun d => digitsFrom d rest

/-- Reads a whole number that blanks may surround and a sign may begin. -/
def integer? (t : List Char) : Option Int :=
  match trim t with
  | '-' :: digits => (natural? digits).map fun n => -(n : Int)
  | '+' :: digits => (natural? digits).map Int.ofNat
  | digits => (natural? digits).map Int.ofNat

def footnoteId (number : Int) : Except Error (List Char) :=
  (writeNumber number).map fun t => "footnote-".toList ++ t

theorem footnoteId_eq_ok {number : Int} {id : List Char} :
    footnoteId number = .ok id ↔ IsWritable number ∧ id = "footnote-".toList ++ decimal number :=
  writeNumber_map_eq_ok

theorem footnoteId_eq_error {number : Int} {e : Error} :
    footnoteId number = .error e ↔ ¬ IsWritable number ∧ e = .longNumber :=
  writeNumber_map_eq_error

/-- A text as the only child of an element. An empty one leaves no child. -/
def onlyText (t : List Char) : List Node := if t.isEmpty then [] else [.text t]

/-- The alignment that the style of a cell asks for. -/
def styleAlign (style : List Char) : Option (List Char) :=
  (dropPrefix? "text-align:".toList style).map trim

/-- The node of a construct, given the nodes of what is inside it. -/
def nodesOf (content : List Char) (children : List Node) : Kind → Except Error (List Node)
  | .group | .inline | .footnoteBlock => .ok children
  | .paragraph => .ok [.element .paragraph {} children]
  | .heading tag =>
    match integer? (tag.drop 1) with
    | some level => .ok [.element .heading { level := some level } children]
    | none => .error (.headingTag tag)
  | .blockQuote => .ok [.element .blockQuote {} children]
  | .bulletList => .ok [.element .bulletList {} children]
  | .orderedList => .ok [.element .enumeratedList {} children]
  | .listItem | .description => .ok [.element .listItem { term := some false } children]
  | .term =>
    .ok [.element .listItem { term := some true } [.element .paragraph {} children]]
  | .definitionList => .ok [.element .definitionList {} children]
  | .fence info =>
    .ok [.element .literalBlock { fenced := some true, info := some (trim info) }
      (onlyText content)]
  | .codeBlock =>
    .ok [.element .literalBlock { fenced := some false, info := some [] } (onlyText content)]
  | .rule => .ok [.element .transition {} []]
  | .htmlBlock | .htmlTag =>
    .ok [.element .raw { format := some "html".toList } (onlyText content)]
  | .table => .ok [.element .table {} children]
  | .tableHead => .ok [.element .thead {} children]
  | .tableBody => .ok [.element .tbody {} children]
  | .tableRow => .ok [.element .row {} children]
  | .tableCell style => .ok [.element .entry { align := styleAlign style } children]
  | .footnote index =>
    match index with
    | none => .error (.missing "id".toList)
    | some i =>
      (footnoteId (i + 1)).map fun id =>
        [.element .footnote { ids := [id], noteid := some (i + 1) } children]
  | .footnoteReference index =>
    match index with
    | none => .error (.missing "id".toList)
    | some i =>
      (footnoteId (i + 1)).map fun id =>
        [.element .footnoteReference { refid := some id, noteid := some (i + 1) } []]
  | .text => .ok [.text content]
  | .softBreak => .ok [.text ['\n']]
  | .hardBreak => .ok [.element .hardbreak {} []]
  | .code => .ok [.element .literal {} (onlyText content)]
  | .emphasis => .ok [.element .emphasis {} children]
  | .strong => .ok [.element .strong {} children]
  | .strikethrough => .ok [.element .strikethrough {} children]
  | .link href title =>
    .ok [.element .reference
      { refuri := some href, title := if title.isEmpty then none else some title } children]
  | .image src => .ok [.element .image { uri := some src, alt := some content } children]
  | .other => .ok []

/-- Constructs whose inside is read. The others stand for themselves. -/
def hasInside : Kind → Bool
  | .fence _ | .codeBlock | .rule | .htmlBlock | .htmlTag | .footnoteReference _ | .text
  | .softBreak | .hardBreak | .code | .other => false
  | _ => true

theorem sizeOf_le_of_sublist {ns ms : List Tree} (h : ns.Sublist ms) :
    sizeOf ns ≤ sizeOf ms := by
  induction h with
  | slnil => exact Nat.le_refl _
  | cons _ _ ih => simp only [List.cons.sizeOf_spec]; omega
  | cons_cons _ _ ih => simp only [List.cons.sizeOf_spec]; omega

mutual
def build : Tree → Except Error (List Node)
  | .node kind content children =>
    if kind = .footnote none then .error (.missing "id".toList)
    else
      match if hasInside kind then buildAll (dropDeniedSpans children) else .ok [] with
      | .error e => .error e
      | .ok nodes => nodesOf content nodes kind
termination_by n => sizeOf n
decreasing_by
  have := sizeOf_le_of_sublist (dropDeniedSpans_sublist children)
  simp only [Tree.node.sizeOf_spec]
  omega

def buildAll : List Tree → Except Error (List Node)
  | [] => .ok []
  | n :: rest =>
    match build n with
    | .error e => .error e
    | .ok nodes =>
      match buildAll rest with
      | .error e => .error e
      | .ok more => .ok (nodes ++ more)
termination_by ns => sizeOf ns
decreasing_by
  · simp only [List.cons.sizeOf_spec]; omega
  · simp only [List.cons.sizeOf_spec]; omega
end

/-- Builds the constructs of a Markdown text onto the end of a document. -/
def build? (d : Document) (ns : List Tree) : Except Error Document :=
  (buildAll (dropDeniedSpans ns)).map d.appendBuilt

end Gemtext.Document
