import Std.Data.TreeMap
import Gemtext.Markdown.Atom

/-! # Brackets in inline text

Links, images and notes have their labels in square brackets. A label ends at the bracket
that closes it; constructs in the label are passed over whole, and a link inside a link
makes the outer one fail.

Passing over a construct may mean to read its label first, and so on inside. Twenty
constructs deep, what is left is passed over at once. How far each place reaches is kept,
so that it is worked out once, at the depth where it is first asked for.
-/

namespace Gemtext.Markdown

open Text

structure Definitions where
  /-- The targets of links by label. The first of a label counts. -/
  links : List (List Char × Target) := []
  /-- The labels of notes. -/
  notes : List (List Char) := []

/-- How far the constructs reach that were passed over, by the places they begin at. -/
abbrev Passed := Std.TreeMap Nat Nat

/-- A way to pass over the construct at a place, by the number of its characters. -/
abbrev Passing := Place → Passed → Nat × Passed

/-- A construct with brackets. The length of its label counts the characters. -/
inductive Bracketed where
  | link (label : Nat) (target : Target)
  | image (label : Nat) (target : Target)
  /-- A note that is written here. -/
  | note (label : Nat)
  | noteReference (label : List Char)

/-- The length of the label that begins at a place, inside so many brackets that it opened
itself. A strict label holds no link. The fuel is the number of characters inside. -/
def labelLength? (pass : Passing) (strict : Bool) :
    (fuel depth : Nat) → Place → Passed → Option Nat × Passed
  | 0, _, _, passed => (none, passed)
  | fuel + 1, depth, p, passed =>
    match p.inside with
    | [] => (none, passed)
    | c :: _ =>
      if c == ']' && depth == 0 then (some 0, passed)
      else
        let (n, passed) := pass p passed
        if c == '[' && n != 1 && strict then (none, passed)
        else
          let depth :=
            if c == ']' then depth - 1 else if c == '[' && n == 1 then depth + 1 else depth
          let (length?, passed) := labelLength? pass strict fuel depth (p.forward n) passed
          (length?.map (· + n), passed)

/-- The length of the label that begins at a place. -/
def label? (pass : Passing) (strict : Bool) (p : Place) (passed : Passed) :
    Option Nat × Passed :=
  labelLength? pass strict p.inside.length 0 p passed

def dropGap (t : List Char) : List Char := t.dropWhile isGap

/-- The target in the parentheses behind a label, read behind the opening one, and the
text where the closing one should be. Nothing is read where the text ends. -/
def parenthesized? (t : List Char) : Option (Target × List Char) :=
  match dropGap t with
  | [] => none
  | t =>
    match destination? t with
    | none => some (⟨[], []⟩, t)
    | some (destination, rest) =>
      let href := Url.written destination
      let allowed := Url.isAllowed href
      let href := if allowed then href else []
      let t := if allowed then rest else t
      let gap := dropGap t
      if gap.length < t.length then
        match title? gap with
        | some (title, rest) => some (⟨href, title⟩, dropGap rest)
        | none => some (⟨href, []⟩, gap)
      else some (⟨href, []⟩, t)

/-- The target that the label of a construct is defined with, and the rest behind it. The
label stands in brackets of its own at `p`, or else it is `own`, and the rest is `behind`. -/
def defined? (defs : Definitions) (pass : Passing) (own behind : List Char) (p : Place)
    (passed : Passed) : Option (Target × List Char) × Passed :=
  if defs.links.isEmpty then (none, passed)
  else
    let find (label rest : List Char) : Option (Target × List Char) :=
      (defs.links.lookup (foldLabel (if label.isEmpty then own else label))).map fun target =>
        (target, rest)
    if p.inside.head? == some '[' then
      let label := p.forward 1
      match label? pass false label passed with
      | (some n, passed) => (find (label.inside.take n) (label.inside.drop (n + 1)), passed)
      | (none, passed) => (find [] behind, passed)
    else (find [] behind, passed)

/-- The target of a link or an image whose label has ended, and the rest behind it, given the
place behind the label. A link may be defined under its label even if parentheses follow. -/
def target? (defs : Definitions) (pass : Passing) (isLink : Bool) (own : List Char) (p : Place)
    (passed : Passed) : Option (Target × List Char) × Passed :=
  match p.inside with
  | '(' :: t =>
    match parenthesized? t with
    | none => (none, passed)
    | some (target, ')' :: rest) => (some (target, rest), passed)
    | some (_, rest) =>
      if isLink then
        defined? defs pass own p.inside
          (p.forward (p.inside.length - rest.length + 1)) passed
      else (none, passed)
  | _ => defined? defs pass own p.inside p passed

/-- The label of a note that is referred to at a place, in brackets. -/
def noteLabel? (defs : Definitions) (t : List Char) : Option (List Char) :=
  match t with
  | '[' :: '^' :: t =>
    let label := t.takeWhile fun c => c != ' ' && c != '\n' && c != ']'
    match t.drop label.length with
    | ']' :: _ => if label ∈ defs.notes then some label else none
    | _ => none
  | _ => none

/-- The construct with brackets at a place, and the number of its characters. -/
def bracketed? (defs : Definitions) (pass : Passing) (p : Place) (passed : Passed) :
    Option (Bracketed × Nat) × Passed :=
  let linkOrImage (isLink : Bool) (start : Nat) : Option (Bracketed × Nat) × Passed :=
    let label := p.forward start
    match label? pass isLink label passed with
    | (none, passed) => (none, passed)
    | (some n, passed) =>
      let (found, passed) :=
        target? defs pass isLink (label.inside.take n) (label.forward (n + 1)) passed
      (found.map fun (target, rest) =>
        (if isLink then .link n target else .image n target,
          p.inside.length - rest.length), passed)
  match p.inside with
  | '[' :: _ =>
    match linkOrImage true 1 with
    | (some found, passed) => (some found, passed)
    | (none, passed) =>
      ((noteLabel? defs p.inside).map fun label => (.noteReference label, label.length + 3),
        passed)
  | '!' :: '[' :: _ => linkOrImage false 2
  | '^' :: '[' :: _ =>
    let (length?, passed) := label? pass false (p.forward 2) passed
    (length?.map fun n => (.note n, n + 3), passed)
  | _ => (none, passed)

/-- Passes over the construct at a place, with room for so many constructs inside each
other. -/
def passOver (defs : Definitions) : (room : Nat) → Passing
  | room, p, passed =>
    match passed[p.index]? with
    | some n => (n, passed)
    | none =>
      match room with
      | 0 =>
        let n := p.inside.length + 1
        (n, passed.insert p.index n)
      | room + 1 =>
        let (n, passed) :=
          match atom? p with
          | some (_, n) => (n, passed)
          | none =>
            let (found, passed) := bracketed? defs (passOver defs room) p passed
            ((found.map Prod.snd).getD 1, passed)
        (n, passed.insert p.index n)

end Gemtext.Markdown
