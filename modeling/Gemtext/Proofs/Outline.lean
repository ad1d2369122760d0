import Gemtext.Proofs.Containers

/-! # Outlines

A list of items that hold paragraphs and such lists is written line by line: its items in document
order, each item before the lists inside it. What a line begins with tells how deep its item stands,
and which number it has. Behind that stand the paragraphs of the item, so that each paragraph of the
list comes into one line.
-/

namespace Gemtext

open Text

/-! ## Outlines and their items -/

inductive OutlinePart where
  | list
  | item

/-- Bullet and numbered lists whose items, none of them a term, hold nothing but paragraphs and such
    lists. -/
inductive IsOutline : OutlinePart → Node → Prop where
  | list {tag : Tag} {attrs : Attributes} {items : List Node} :
      tag = .bulletList ∨ tag = .enumeratedList → (∀ item ∈ items, IsOutline .item item) →
      IsOutline .list (.element tag attrs items)
  | item {attrs : Attributes} {children : List Node} : attrs.term.getD false = false →
      (∀ c ∈ children, c.hasTag .paragraph = false → IsOutline .list c) →
      IsOutline .item (.element .listItem attrs children)

/-- An item of a list that may stand inside of other lists. -/
structure OutlineItem where
  /-- How many lists are around its list, besides those around the outermost one. -/
  level : Nat
  /-- Whether its list is numbered. -/
  ordered : Bool
  /-- Its place among its siblings, counted from one. -/
  number : Nat
  children : List Node

mutual
/-- The items of a list at a nesting level and of the lists inside it, in document order. -/
def outline (level : Nat) : Node → List OutlineItem
  | .text _ => []
  | .element tag _ items =>
    if tag.isList then outlineFrom (tag == .enumeratedList) level 1 items else []

/-- The items of siblings, the first of which has the given number. -/
def outlineFrom (ordered : Bool) (level : Nat) : (number : Nat) → List Node → List OutlineItem
  | _, [] => []
  | number, item :: rest =>
    ⟨level, ordered, number, item.children⟩ ::
      (outlineBelow (level + 1) item ++ outlineFrom ordered level (number + 1) rest)

/-- The items of the lists right inside a node. -/
def outlineBelow (level : Nat) : Node → List OutlineItem
  | .text _ => []
  | .element _ _ children => outlineIn level children

def outlineIn (level : Nat) : List Node → List OutlineItem
  | [] => []
  | c :: rest => outline level c ++ outlineIn level rest
end

namespace OutlineItem

variable (i : OutlineItem)

def paragraphs : List Node := i.children.filter (·.hasTag .paragraph)

/-- The text of an item: its paragraphs that are not empty, on one line. -/
def text : Except Error (List Char) :=
  (i.paragraphs.mapM (compose {} false)).map fun texts =>
    joinLines [' '] ([' '].intercalate (someParts texts))

def beginsWithList : Bool := i.children.head?.any (·.tagIs Tag.isList)

/-- What stands before the text of an item. -/
def lead : List Char :=
  List.replicate i.level '\t' ++ if i.ordered then decimal i.number ++ ". ".toList else "* ".toList

/-- The line of an item with this text, if it has one: an item without children has none, and
    neither has one without text that begins with a list. -/
def lineWith (t : List Char) : Option (List Char) :=
  if i.children = [] ∨ (t = [] ∧ i.beginsWithList = true) then none else some (i.lead ++ t)

def line? : Except Error (Option (List Char)) := i.text.map i.lineWith

end OutlineItem

/-! ## Writing line by line -/

namespace Written

/-- Writes texts behind one another. -/
def all (parts : List Written) : Written := parts.foldr andThen nothing

theorem all_append (first second : List Written) :
    all (first ++ second) = (all first).andThen (all second) := by
  induction first with
  | nil => rfl
  | cons w rest ih => rw [all, List.cons_append, List.foldr_cons, ← all, ih, ← andThen_assoc]; rfl

/-- Where nothing fails, everything is written. -/
theorem all_ofExcept {α β : Type} {f : α → Except Error β} {as : List α} {bs : List β}
    (ok : as.mapM f = .ok bs) (g : β → List Char) :
    all (as.map fun a => ofExcept ((f a).map g)) = ⟨bs.flatMap g, none⟩ := by
  induction as generalizing bs with
  | nil =>
      cases ok
      rfl
  | cons a rest ih =>
      rw [mapM_cons] at ok
      cases first : f a with
      | error e =>
          rw [first] at ok
          cases ok
      | ok b =>
          rw [first] at ok
          obtain ⟨more, behind, rfl⟩ := map_eq_ok.mp ok
          rw [List.map_cons, all, List.foldr_cons, ← all, ih behind, first]
          rfl

end Written

/-- What is written of an item itself. -/
def OutlineItem.written (i : OutlineItem) : Written :=
  .ofExcept (i.line?.map fun line => (line.map (· ++ ['\n'])).getD [])

theorem listItems_outline (ordered : Bool) (level : Nat) {items : List Node}
    (each : ∀ item ∈ items, ∀ number, listItem ordered level number item =
      .all ((⟨level, ordered, number, item.children⟩ :: outlineBelow (level + 1) item).map
        OutlineItem.written)) (number : Nat) :
    listItems ordered level number items =
      .all ((outlineFrom ordered level number items).map OutlineItem.written) := by
  induction items generalizing number with
  | nil => rfl
  | cons item rest ih =>
      obtain ⟨first, behind⟩ := List.forall_mem_cons.mp each
      rw [listItems, first, ih behind, ← Written.all_append, ← List.map_append]
      rfl

theorem innerLists_outline {level : Nat} {children : List Node}
    (each : ∀ c ∈ children, innerList level c = .all ((outline level c).map OutlineItem.written)) :
    innerLists level children = .all ((outlineIn level children).map OutlineItem.written) := by
  induction children with
  | nil => rfl
  | cons c rest ih =>
      obtain ⟨first, behind⟩ := List.forall_mem_cons.mp each
      rw [innerLists, first, ih behind, ← Written.all_append, ← List.map_append]
      rfl

section Item

variable {attrs : Attributes} {children : List Node}

theorem isList_of_outline {n : Node} (shape : IsOutline .list n) : n.tagIs Tag.isList = true := by
  cases shape with
  | list isList each => rcases isList with rfl | rfl <;> rfl

theorem term_of_outline (shape : IsOutline .item (.element .listItem attrs children)) :
    attrs.term.getD false = false := by
  cases shape with
  | item noTerm each => exact noTerm

/-- In an item the children that are no lists are paragraphs. -/
theorem noLists_of_outline (shape : IsOutline .item (.element .listItem attrs children)) :
    noLists children = children.filter (·.hasTag .paragraph) := by
  cases shape with
  | item noTerm each =>
      refine List.filter_congr fun c member => ?_
      cases isParagraph : c.hasTag .paragraph with
      | true =>
          obtain ⟨attrs, inside, rfl⟩ := Node.eq_element_of_hasTag isParagraph
          rfl
      | false => rw [isList_of_outline (each c member isParagraph)]; rfl

theorem compose_item (shape : IsOutline .item (.element .listItem attrs children)) :
    compose {} false (.element .listItem attrs children) =
      ((children.filter (·.hasTag .paragraph)).mapM (compose {} false)).map fun texts =>
        [' '].intercalate (someParts texts) := by
  rw [compose_of_children rfl (by simp), noLists_of_outline shape]
  cases paragraphs : children.filter (·.hasTag .paragraph) with
  | nil =>
      simp [Except.map, pure, Except.pure, joinParts, someParts, Style.delimiter, Tag.delimiter]
  | cons p rest =>
      -- A paragraph is a block, so that blanks come between all the parts.
      have separated :
          (children.any fun c => !c.tagIs Tag.isList && c.tagIs Tag.isBlock) = true := by
        have member : p ∈ children.filter (·.hasTag .paragraph) := by simp [paragraphs]
        obtain ⟨inside, isParagraph⟩ := List.mem_filter.mp member
        obtain ⟨attrs, words, rfl⟩ := Node.eq_element_of_hasTag isParagraph
        exact List.any_eq_true.mpr ⟨_, inside, rfl⟩
      simp [joinParts, separated, Style.delimiter, Tag.delimiter, Style.separator, Tag.isTextual]

theorem itemLine_outline {i : OutlineItem} (some : i.children ≠ []) (t : List Char) :
    itemLine i.ordered i.level i.number false i.children t =
      ((i.lineWith t).map (· ++ ['\n'])).getD [] := by
  have marker : itemMarker i.ordered false i.number =
      if i.ordered then decimal i.number ++ ". ".toList else "* ".toList := rfl
  rw [itemLine, marker, if_neg (by simp), List.nil_append]
  simp only [OutlineItem.lineWith, OutlineItem.lead, OutlineItem.beginsWithList, some, false_or]
  split <;> rfl

theorem itemHead_outline (shape : IsOutline .item (.element .listItem attrs children))
    (some : children ≠ []) (ordered : Bool) (level number : Nat) :
    itemHead ordered level number attrs children =
      OutlineItem.written ⟨level, ordered, number, children⟩ := by
  rw [itemHead, compose_item shape, term_of_outline shape, OutlineItem.written,
    OutlineItem.line?, OutlineItem.text, OutlineItem.paragraphs]
  cases (children.filter (·.hasTag .paragraph)).mapM (compose {} false) with
  | error e => rfl
  | ok texts =>
      have line := itemLine_outline (i := ⟨level, ordered, number, children⟩) some
        (joinLines [' '] ([' '].intercalate (someParts texts)))
      exact congrArg (Written.mk · none) line

theorem written_of_no_children {i : OutlineItem} (none : i.children = []) :
    i.written = .nothing := by
  have text : i.text = .ok [] := by
    rw [OutlineItem.text, OutlineItem.paragraphs, none]
    rfl
  rw [OutlineItem.written, OutlineItem.line?, text]
  simp [Except.map, none, OutlineItem.lineWith, Written.ofExcept, Written.nothing]

/-- An item writes its own line and the lists inside it. -/
theorem listItem_outline {part : OutlinePart} {n : Node} (shape : IsOutline part n) :
    (part = .item → ∀ ordered level number, listItem ordered level number n =
      .all ((⟨level, ordered, number, n.children⟩ :: outlineBelow (level + 1) n).map
        OutlineItem.written)) ∧
    (part = .list → ∀ level,
      innerList level n = .all ((outline level n).map OutlineItem.written)) := by
  induction shape with
  | @list tag attrs items isList each ih =>
      refine ⟨by simp, fun _ level => ?_⟩
      have written (ordered : Bool) := listItems_outline ordered level
        (fun item member => (ih item member).1 rfl ordered level) 1
      rw [innerList, outline]
      split
      · exact written _
      · rfl
  | @item attrs children noTerm each ih =>
      refine ⟨fun _ ordered level number => ?_, by simp⟩
      rw [listItem, if_neg (by simp), List.map_cons, Written.all, List.foldr_cons, ← Written.all]
      split
      · next empty =>
          obtain rfl := List.isEmpty_iff.mp empty
          rw [written_of_no_children rfl]
          rfl
      · next some =>
          have shape : IsOutline .item (.element .listItem attrs children) := .item noTerm each
          have below : innerLists (level + 1) children =
              .all ((outlineIn (level + 1) children).map OutlineItem.written) := by
            refine innerLists_outline fun c member => ?_
            cases isParagraph : c.hasTag .paragraph with
            | true =>
                obtain ⟨attrs, words, rfl⟩ := Node.eq_element_of_hasTag isParagraph
                rfl
            | false => exact (ih c member isParagraph).2 rfl (level + 1)
          rw [itemHead_outline shape (by simpa using some), below]
          rfl

end Item

/-! ## Reading a line back -/

/-- Reads what stands behind the tabs of a line: the number of the item, if it has one, and its
    text. -/
def readMarked : List Char → Option Nat × List Char
  | '*' :: ' ' :: t => (none, t)
  | line =>
    (some (Nat.ofDigitChars 10 (line.takeWhile Char.isDigit) 0),
      (line.dropWhile Char.isDigit).drop 2)

/-- Reads the level of an item from its line, its number, if it has one, and its text. -/
def readItem (line : List Char) : Nat × Option Nat × List Char :=
  ((line.takeWhile (· == '\t')).length, readMarked (line.dropWhile (· == '\t')))

theorem readItem_tabs (level : Nat) {rest : List Char} (noTab : rest.head? ≠ some '\t') :
    readItem (List.replicate level '\t' ++ rest) = (level, readMarked rest) := by
  have tabs : ∀ c ∈ List.replicate level '\t', (c == '\t') = true := by simp
  rw [readItem, List.takeWhile_append_of_pos tabs, List.dropWhile_append_of_pos tabs]
  cases rest with
  | nil => simp
  | cons c rest =>
      have other : (c == '\t') = false := by simpa using noTab
      simp [other]

theorem readMarked_of_no_bullet {c : Char} (noBullet : c ≠ '*') (rest : List Char) :
    readMarked (c :: rest) =
      (some (Nat.ofDigitChars 10 ((c :: rest).takeWhile Char.isDigit) 0),
        ((c :: rest).dropWhile Char.isDigit).drop 2) := by
  unfold readMarked
  split
  · next same => cases noBullet (List.cons.inj same).1
  · rfl

/-- A number begins with a digit, so that it is told apart from tabs and bullets. -/
theorem readMarked_number (number : Nat) (t : List Char) :
    ∃ d rest, d.isDigit = true ∧ decimal number ++ ". ".toList ++ t = d :: rest ∧
      readMarked (d :: rest) = (some number, t) := by
  have digits : ∀ c ∈ Nat.toDigits 10 number, c.isDigit = true :=
    fun _ member => Nat.isDigit_of_mem_toDigits (by omega) (by omega) member
  cases written : Nat.toDigits 10 number with
  | nil =>
      have some := Nat.length_toDigits_pos (b := 10) (n := number)
      simp [written] at some
  | cons d ds =>
      have first : d.isDigit = true := digits d (by simp [written])
      have noBullet : d ≠ '*' := by
        rintro rfl
        cases first
      have whole : decimal number ++ ". ".toList ++ t = d :: (ds ++ ". ".toList ++ t) := by
        rw [show decimal number = d :: ds from written]
        rfl
      refine ⟨d, _, first, whole, ?_⟩
      rw [readMarked_of_no_bullet noBullet, ← whole]
      change (some (Nat.ofDigitChars 10 (List.takeWhile _ (Nat.toDigits 10 number ++ _ ++ _)) 0),
        (List.dropWhile _ (Nat.toDigits 10 number ++ _ ++ _)).drop 2) = _
      rw [List.append_assoc, List.takeWhile_append_of_pos digits,
        List.dropWhile_append_of_pos digits]
      simp [Nat.ofDigitChars_toDigits]

theorem readItem_line (i : OutlineItem) (t : List Char) :
    readItem (i.lead ++ t) = (i.level, if i.ordered then some i.number else none, t) := by
  rw [OutlineItem.lead, List.append_assoc]
  cases i.ordered with
  | false => exact readItem_tabs i.level (by simp)
  | true =>
      obtain ⟨d, rest, isDigit, whole, read⟩ := readMarked_number i.number t
      have noTab : (d :: rest).head? ≠ some '\t' := by
        rintro ⟨rfl⟩
        cases isDigit
      simp only [if_true, whole]
      rw [readItem_tabs i.level noTab, read]

/-! ## Paragraphs -/

mutual
/-- The paragraphs of a tree in document order. What is inside of a paragraph is not looked at. -/
def Node.outerParagraphs : Node → List Node
  | .text _ => []
  | .element tag attrs children =>
    if tag = .paragraph then [.element tag attrs children] else outerParagraphsIn children

def outerParagraphsIn : List Node → List Node
  | [] => []
  | c :: rest => c.outerParagraphs ++ outerParagraphsIn rest
end

theorem paragraphs_outlineFrom (ordered : Bool) (level : Nat) {items : List Node}
    (each : ∀ item ∈ items, ∀ number,
      ((⟨level, ordered, number, item.children⟩ :: outlineBelow (level + 1) item).flatMap
        OutlineItem.paragraphs).Perm item.outerParagraphs) (number : Nat) :
    ((outlineFrom ordered level number items).flatMap OutlineItem.paragraphs).Perm
      (outerParagraphsIn items) := by
  induction items generalizing number with
  | nil => exact .nil
  | cons item rest ih =>
      obtain ⟨first, behind⟩ := List.forall_mem_cons.mp each
      rw [outlineFrom, ← List.cons_append, List.flatMap_append, outerParagraphsIn]
      exact (first number).append (ih behind (number + 1))

/-- The paragraphs of an item itself and those of the lists inside it are all paragraphs in it. -/
theorem paragraphs_outlineIn {level : Nat} {children : List Node}
    (each : ∀ c ∈ children, c.hasTag .paragraph = false →
      ((outline level c).flatMap OutlineItem.paragraphs).Perm c.outerParagraphs) :
    (children.filter (·.hasTag .paragraph) ++
      (outlineIn level children).flatMap OutlineItem.paragraphs).Perm
        (outerParagraphsIn children) := by
  induction children with
  | nil => exact .nil
  | cons c rest ih =>
      obtain ⟨first, behind⟩ := List.forall_mem_cons.mp each
      rw [outlineIn, List.flatMap_append, outerParagraphsIn]
      cases isParagraph : c.hasTag .paragraph with
      | true =>
          obtain ⟨attrs, words, rfl⟩ := Node.eq_element_of_hasTag isParagraph
          exact (ih behind).cons _
      | false =>
          have kept : (c :: rest).filter (·.hasTag .paragraph) =
              rest.filter (·.hasTag .paragraph) := by simp [isParagraph]
          rw [kept]
          exact (List.perm_append_comm_assoc ..).trans ((first isParagraph).append (ih behind))

theorem paragraphs_outline {part : OutlinePart} {n : Node} (shape : IsOutline part n) :
    (part = .item → ∀ ordered level number,
      ((⟨level, ordered, number, n.children⟩ :: outlineBelow (level + 1) n).flatMap
        OutlineItem.paragraphs).Perm n.outerParagraphs) ∧
    (part = .list → ∀ level,
      ((outline level n).flatMap OutlineItem.paragraphs).Perm n.outerParagraphs) := by
  induction shape with
  | @list tag attrs items isList each ih =>
      refine ⟨by simp, fun _ level => ?_⟩
      have inside (ordered : Bool) := paragraphs_outlineFrom ordered level
        (fun item member => (ih item member).1 rfl ordered level) 1
      rcases isList with rfl | rfl
      · exact inside false
      · exact inside true
  | @item attrs children noTerm each ih =>
      refine ⟨fun _ ordered level number => ?_, by simp⟩
      exact paragraphs_outlineIn fun c member other => (ih c member other).2 rfl _

/-! ## Lists that are read back -/

/-- A line without text shows that all its parts are empty. -/
theorem nil_of_mem_parts {texts : List (List Char)}
    (empty : joinLines [' '] ([' '].intercalate (someParts texts)) = []) :
    ∀ t ∈ texts, t = [] := by
  have joined {t : List Char} (h : joinLines [' '] t = []) : t = [] := by
    cases t with
    | nil => rfl
    | cons c rest =>
        rw [joinLines, joinLinesFrom] at h
        split at h <;> simp at h
  intro t member
  refine Decidable.byContradiction fun shows => ?_
  have kept : t ∈ someParts texts := List.mem_filter.mpr ⟨member, by simpa using shows⟩
  cases parts : someParts texts with
  | nil => simp [parts] at kept
  | cons first rest =>
      have some : first ≠ [] := by
        have inside : first ∈ someParts texts := by simp [parts]
        simpa using (List.mem_filter.mp inside).2
      rw [parts, ← List.append_nil first, intercalate_append_head] at empty
      exact some (List.append_eq_nil_iff.mp (joined empty)).1

theorem OutlineItem.lead_no_break (i : OutlineItem) : ∀ c ∈ i.lead, isBreak c = false := by
  refine List.forall_mem_append.mpr ⟨fun c member => ?_, ?_⟩
  · rw [List.eq_of_mem_replicate member]
    rfl
  · split
    · exact List.forall_mem_append.mpr ⟨decimal_no_break _, by simp [isBreak]⟩
    · simp [isBreak]

/-- An item with this text is read back from its line. It has none only if all its paragraphs are
    empty. -/
structure OutlineItem.ReadBack (i : OutlineItem) (t : List Char) : Prop where
  text : i.text = .ok t
  omitted : i.line? = .ok none → ∀ p ∈ i.paragraphs, compose {} false p = .ok []
  oneLine : ∀ line, i.line? = .ok (some line) → ∀ c ∈ line, isBreak c = false
  read : ∀ line, i.line? = .ok (some line) →
    readItem line = (i.level, if i.ordered then some i.number else none, t)

theorem OutlineItem.eq_of_lineWith {i : OutlineItem} {t line : List Char}
    (shown : i.lineWith t = some line) : i.lead ++ t = line := by
  rw [lineWith] at shown
  split at shown
  · cases shown
  · exact Option.some.inj shown

theorem OutlineItem.of_no_line {i : OutlineItem} {t : List Char} (none : i.lineWith t = none) :
    i.children = [] ∨ t = [] := by
  rw [lineWith] at none
  split at none
  · next reason => exact reason.imp_right And.left
  · cases none

theorem OutlineItem.exists_readBack {i : OutlineItem}
    (composed : ∀ p ∈ i.paragraphs, ∃ t, compose {} false p = .ok t) : ∃ t, i.ReadBack t := by
  obtain ⟨texts, each⟩ := mapM_exists composed
  have text : i.text = .ok (joinLines [' '] ([' '].intercalate (someParts texts))) := by
    rw [OutlineItem.text, each]
    rfl
  have line {shown : Option (List Char)} (h : i.line? = .ok shown) :
      i.lineWith (joinLines [' '] ([' '].intercalate (someParts texts))) = shown := by
    rw [line?, text] at h
    exact Except.ok.inj h
  refine ⟨_, text, fun h p member => ?_, fun shown h => ?_, fun shown h => ?_⟩
  · rcases of_no_line (line h) with childless | empty
    · simp [paragraphs, childless] at member
    · obtain ⟨t, inside, same⟩ := mem_of_mapM each member
      rw [same, nil_of_mem_parts empty t inside]
  · rw [← eq_of_lineWith (line h)]
    exact List.forall_mem_append.mpr
      ⟨i.lead_no_break, joinLines_no_break (by simp [isBreak]) _⟩
  · rw [← eq_of_lineWith (line h)]
    exact readItem_line i _

theorem flatMap_reduceOption (lines : List (Option (List Char))) :
    lines.reduceOption.flatMap (· ++ ['\n']) =
      lines.flatMap fun line => (line.map (· ++ ['\n'])).getD [] := by
  induction lines with
  | nil => rfl
  | cons line rest ih =>
      cases line with
      | none => exact ih
      | some line => exact congrArg (line ++ ['\n'] ++ ·) ih

/-- A list of paragraphs and such lists that are composed is written as the lines of its items, in
    document order. Each line tells the level, the marker and the number of its item, and its text,
    and each paragraph of the list stands in one item. -/
theorem list_read_back {tag : Tag} {attrs : Attributes} {items : List Node}
    (shape : IsOutline .list (.element tag attrs items)) (level : Nat)
    (composed : ∀ p ∈ (Node.element tag attrs items).outerParagraphs, ∃ t,
      compose {} false p = .ok t) :
    (∃ lines, (outline level (.element tag attrs items)).mapM OutlineItem.line? = .ok lines ∧
      listItems (tag == .enumeratedList) level 1 items =
        ⟨lines.reduceOption.flatMap (· ++ ['\n']), none⟩) ∧
    (∀ i ∈ outline level (.element tag attrs items), ∃ t, i.ReadBack t) ∧
    ((outline level (.element tag attrs items)).flatMap OutlineItem.paragraphs).Perm
      (Node.element tag attrs items).outerParagraphs := by
  have once := (paragraphs_outline shape).2 rfl level
  have readBack : ∀ i ∈ outline level (.element tag attrs items), ∃ t, i.ReadBack t :=
    fun i member => OutlineItem.exists_readBack fun p inside =>
      composed p (once.subset (List.mem_flatMap.mpr ⟨i, member, inside⟩))
  refine ⟨?_, readBack, once⟩
  have each : ∀ i ∈ outline level (.element tag attrs items), ∃ line, i.line? = .ok line := by
    intro i member
    obtain ⟨t, back⟩ := readBack i member
    exact ⟨i.lineWith t, by rw [OutlineItem.line?, back.text]; rfl⟩
  obtain ⟨lines, all⟩ := mapM_exists each
  have isList : tag.isList = true := isList_of_outline shape
  have written := (listItem_outline shape).2 rfl level
  rw [innerList, if_pos isList] at written
  refine ⟨lines, all, ?_⟩
  rw [written, flatMap_reduceOption]
  exact Written.all_ofExcept all _

/-- Bullets and numbers, an item without children, one that begins with a list, and a paragraph
    behind a list. -/
theorem list_read_back_mixed :
    let paragraph (t : String) : Node := .element .paragraph {} [.text t.toList]
    let item (children : List Node) : Node := .element .listItem { term := some false } children
    let bullets : List Node := [item [paragraph "d"]]
    let numbers : List Node :=
      [item [], item [paragraph "b\nc"], item [.element .bulletList {} bullets]]
    let items : List Node :=
      [item [paragraph "a", .element .enumeratedList {} numbers, paragraph "e"]]
    let list : Node := .element .bulletList {} items
    IsOutline .list list ∧ (∀ p ∈ list.outerParagraphs, ∃ t, compose {} false p = .ok t) ∧
      (∃ lines, (outline 0 list).mapM OutlineItem.line? = .ok lines ∧
        listItems false 0 1 items = ⟨lines.reduceOption.flatMap (· ++ ['\n']), none⟩) ∧
      listItems false 0 1 items = ⟨"* a e\n\t2. b c\n\t\t* d\n".toList, none⟩ := by
  intro paragraph item bullets numbers items list
  have words (t : String) (other : (paragraph t).hasTag .paragraph = false) :
      IsOutline .list (paragraph t) := nomatch other
  have entry {children : List Node}
      (each : ∀ c ∈ children, c.hasTag .paragraph = false → IsOutline .list c) :
      IsOutline .item (item children) := .item rfl each
  have inner : IsOutline .list (.element .bulletList {} bullets) :=
    .list (.inl rfl) (by simpa [bullets] using entry (by simpa using words "d"))
  have middle : IsOutline .list (.element .enumeratedList {} numbers) := by
    refine .list (.inr rfl) (List.forall_mem_cons.mpr ⟨entry (by simp), ?_⟩)
    refine List.forall_mem_cons.mpr ⟨entry (by simpa using words "b\nc"), ?_⟩
    exact List.forall_mem_singleton.mpr (entry (by simpa using fun _ => inner))
  have shape : IsOutline .list list := by
    refine .list (.inl rfl) (List.forall_mem_singleton.mpr (entry ?_))
    refine List.forall_mem_cons.mpr ⟨words "a", List.forall_mem_cons.mpr ⟨fun _ => middle, ?_⟩⟩
    exact List.forall_mem_singleton.mpr (words "e")
  have composed : ∀ p ∈ list.outerParagraphs, ∃ t, compose {} false p = .ok t := by
    have ok : ∀ p ∈ list.outerParagraphs, (compose {} false p).isOk = true := by decide +kernel
    intro p member
    have whole := ok p member
    cases result : compose {} false p with
    | ok t => exact ⟨t, rfl⟩
    | error e =>
        rw [result] at whole
        cases whole
  exact ⟨shape, composed, (list_read_back shape 0 composed).1, by decide +kernel⟩

end Gemtext
