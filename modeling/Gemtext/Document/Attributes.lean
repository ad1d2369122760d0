/-! # Attributes of document nodes

Each attribute that has a meaning for some element has a field of its own here. Any node
may carry any of them, and others besides, which are kept as they came.
-/

namespace Gemtext

inductive AttributeValue where
  | text (t : List Char)
  | number (n : Int)
  | flag (b : Bool)
  | names (ts : List (List Char))
  deriving DecidableEq, Repr

structure Attributes where
  /-- The level of a heading. -/
  level : Option Int := none
  /-- Whether a list item is the term of a definition. -/
  term : Option Bool := none
  /-- Whether a literal block was fenced. -/
  fenced : Option Bool := none
  /-- The info string of a fence. -/
  info : Option (List Char) := none
  /-- The alignment of a table cell. -/
  align : Option (List Char) := none
  /-- The formats that raw content is meant for, as words. -/
  format : Option (List Char) := none
  /-- The destination of a reference. -/
  refuri : Option (List Char) := none
  /-- The title of a reference. -/
  title : Option (List Char) := none
  /-- The source of an image. -/
  uri : Option (List Char) := none
  /-- The description of an image. -/
  alt : Option (List Char) := none
  /-- The id of the definition that a footnote reference points to. -/
  refid : Option (List Char) := none
  /-- The number of a footnote or of a reference to one. -/
  noteid : Option Int := none
  /-- The ids of an element. -/
  ids : List (List Char) := []
  /-- Attributes without a meaning here. -/
  others : List (List Char × AttributeValue) := []
  deriving DecidableEq, Repr

namespace Attributes

def erase (attrs : Attributes) (name : List Char) : Attributes :=
  let attrs := { attrs with others := attrs.others.filter (·.1 != name) }
  match String.ofList name with
  | "level" => { attrs with level := none }
  | "term" => { attrs with term := none }
  | "fenced" => { attrs with fenced := none }
  | "info" => { attrs with info := none }
  | "align" => { attrs with align := none }
  | "format" => { attrs with format := none }
  | "refuri" => { attrs with refuri := none }
  | "title" => { attrs with title := none }
  | "uri" => { attrs with uri := none }
  | "alt" => { attrs with alt := none }
  | "refid" => { attrs with refid := none }
  | "noteid" => { attrs with noteid := none }
  | "ids" => { attrs with ids := [] }
  | _ => attrs

/-- Sets an attribute. A value of a kind that the attribute does not have is kept among
the others. -/
def set (attrs : Attributes) (name : List Char) (value : AttributeValue) : Attributes :=
  let attrs := attrs.erase name
  match String.ofList name, value with
  | "level", .number n => { attrs with level := some n }
  | "term", .flag b => { attrs with term := some b }
  | "fenced", .flag b => { attrs with fenced := some b }
  | "info", .text t => { attrs with info := some t }
  | "align", .text t => { attrs with align := some t }
  | "format", .text t => { attrs with format := some t }
  | "refuri", .text t => { attrs with refuri := some t }
  | "title", .text t => { attrs with title := some t }
  | "uri", .text t => { attrs with uri := some t }
  | "alt", .text t => { attrs with alt := some t }
  | "refid", .text t => { attrs with refid := some t }
  | "noteid", .number n => { attrs with noteid := some n }
  | "ids", .names ts => { attrs with ids := ts }
  | _, _ => { attrs with others := attrs.others ++ [(name, value)] }

/-- The attributes that are set, by name. Empty lists of names count as not set. -/
def toList (attrs : Attributes) : List (List Char × AttributeValue) :=
  let text (name : String) (value : Option (List Char)) :=
    (value.map fun t => (name.toList, AttributeValue.text t)).toList
  let number (name : String) (value : Option Int) :=
    (value.map fun n => (name.toList, AttributeValue.number n)).toList
  let flag (name : String) (value : Option Bool) :=
    (value.map fun b => (name.toList, AttributeValue.flag b)).toList
  number "level" attrs.level ++ flag "term" attrs.term ++ flag "fenced" attrs.fenced ++
    text "info" attrs.info ++ text "align" attrs.align ++ text "format" attrs.format ++
    text "refuri" attrs.refuri ++ text "title" attrs.title ++ text "uri" attrs.uri ++
    text "alt" attrs.alt ++ text "refid" attrs.refid ++ number "noteid" attrs.noteid ++
    (if attrs.ids.isEmpty then [] else [("ids".toList, .names attrs.ids)]) ++
    attrs.others.filter (·.2 != .names [])

/-- The attributes of a list of names and values. -/
def ofList (items : List (List Char × AttributeValue)) : Attributes :=
  items.foldl (fun attrs item => attrs.set item.1 item.2) {}

end Attributes

end Gemtext
