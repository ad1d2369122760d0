import Gemtext.Proofs.SpacedLines
import Gemtext.Proofs.Unbroken

/-! # What lists begin with

A list is written as the lines of its items, without an empty line between them but the one that
stands before a term. So it is a block like others if it begins with the line of an item. It does
not if nothing is written of its items, or if a term comes first that is not the first item. And a
term without text has an empty line of its own.
-/

namespace Gemtext

open Text

/-! ## What items begin with -/

/-- The composed text of an item is empty. -/
def Node.lacksText (item : Node) : Bool := (compose {} false item).toOption == some []

theorem Node.lacksText_iff {item : Node} :
    item.lacksText = true ↔ compose {} false item = .ok [] := by
  unfold lacksText
  cases compose {} false item <;> simp [Except.toOption]

/-- A term without text. -/
def Node.isBareTerm (item : Node) : Bool :=
  item.attrs.term.getD false && !item.children.isEmpty && item.lacksText

/-- What the text of a list begins with. -/
inductive Opening where
  /-- The empty line in front of a term. -/
  | gap
  /-- The line of an item. -/
  | line
  deriving DecidableEq

/-- What is written of an item itself begins with this. An item without text that begins with a list
    has no line. -/
def Node.ownOpening (number : Nat) (item : Node) : Option Opening :=
  if item.attrs.term.getD false = true ∧ 1 < number then some .gap
  else if item.lacksText = true ∧ item.children.head?.any (·.tagIs Tag.isList) = true then none
  else some .line

mutual
/-- What the items of a list begin with, none if nothing is written of them. The first of them has
    the given number. -/
def openingFrom : (number : Nat) → List Node → Option Opening
  | _, [] => none
  | number, item :: rest => (item.opening number).or (openingFrom (number + 1) rest)

/-- What an item with the lists inside it begins with. -/
def Node.opening (number : Nat) : Node → Option Opening
  | .text _ => none
  | .element tag attrs children =>
    if children.isEmpty then none
    else ((Node.element tag attrs children).ownOpening number).or (openingIn children)

def openingIn : List Node → Option Opening
  | [] => none
  | c :: rest => c.innerOpening.or (openingIn rest)

/-- What a child of an item begins with if it is a list. -/
def Node.innerOpening : Node → Option Opening
  | .text _ => none
  | .element tag _ items => if tag.isList then openingFrom 1 items else none
end

/-- A text that begins as a list does. -/
def Opening.Begins : Option Opening → List Char → Prop
  | none, t => t = []
  | some .gap, t => ∃ rest, t = '\n' :: rest
  | some .line, t => ∃ c rest, c ≠ '\n' ∧ t = c :: rest

theorem Opening.Begins.append {o o' : Option Opening} {s t : List Char} (hs : Begins o s)
    (ht : Begins o' t) : Begins (o.or o') (s ++ t) := by
  match o with
  | none =>
      obtain rfl : s = [] := hs
      exact ht
  | some .gap =>
      obtain ⟨rest, rfl⟩ := hs
      exact ⟨rest ++ t, rfl⟩
  | some .line =>
      obtain ⟨c, rest, other, rfl⟩ := hs
      exact ⟨c, rest ++ t, other, rfl⟩

/-- The text of a list: whole lines, and dense ones, of which is known what they begin with. -/
structure ListText (o : Option Opening) (t : List Char) : Prop where
  endsLine : EndsLine t
  dense : Dense (plainLines t)
  begins : Opening.Begins o t

namespace ListText

variable {o o' : Option Opening} {s t : List Char}

theorem nil : ListText none [] :=
  ⟨.nil, ⟨.nil, nofun⟩, rfl⟩

theorem append (hs : ListText o s) (ht : ListText o' t) : ListText (o.or o') (s ++ t) where
  endsLine := hs.endsLine.append ht.endsLine
  dense := by
    rw [plainLines_append hs.endsLine]
    exact hs.dense.append ht.dense
  begins := hs.begins.append ht.begins

theorem line {line : List Char} (one : '\n' ∉ line) (shows : line ≠ []) :
    ListText (some .line) (line ++ ['\n']) where
  endsLine := .of_suffix (List.suffix_refl _)
  dense := by
    rw [plainLines_line one]
    refine .of_ne_empty ?_ ?_
    all_goals simp [plainLines, textLines, PageLine.empty, shows]
  begins := by
    cases line with
    | nil => exact absurd rfl shows
    | cons c rest => exact ⟨c, rest ++ ['\n'], fun same => one (by simp [same]), rfl⟩

/-- With an empty line in front. -/
theorem behindGap (h : ListText (some .line) t) : ListText (some .gap) ('\n' :: t) where
  endsLine := .append (s := ['\n']) (.inr (List.suffix_refl _)) h.endsLine
  dense := by
    have lines : plainLines ('\n' :: t) = .empty :: plainLines t :=
      plainLines_line List.not_mem_nil t
    obtain ⟨c, rest, other, rfl⟩ := h.begins
    obtain ⟨line, first⟩ := head?_plainLines other rest
    rw [lines]
    refine ⟨List.isChain_cons.mpr ⟨fun next isFirst => .inr ?_, h.dense.apart⟩,
      fun last isLast => ?_⟩
    · rw [first] at isFirst
      obtain rfl := Option.some.inj isFirst
      simp [PageLine.empty]
    · refine h.dense.last last ?_
      rw [List.getLast?_cons] at isLast
      cases behind : (plainLines (c :: rest)).getLast? with
      | none =>
          rw [List.getLast?_eq_none_iff] at behind
          rw [behind] at first
          cases first
      | some line => simpa [behind] using isLast
  begins := ⟨t, rfl⟩

end ListText

theorem itemLine_listText {ordered isTerm : Bool} {level number : Nat} {children : List Node}
    {t : List Char} (one : '\n' ∉ t)
    (term : isTerm = true → children.head?.any (·.tagIs Tag.isList) = false)
    (shows : isTerm = true → ordered = false → level = 0 → t ≠ []) :
    ListText
      (if isTerm = true ∧ 1 < number then some .gap
        else if t = [] ∧ children.head?.any (·.tagIs Tag.isList) = true then none else some .line)
      (itemLine ordered level number isTerm children t) := by
  have line : ListText (some .line)
      (List.replicate level '\t' ++ itemMarker ordered isTerm number ++ t ++ ['\n']) := by
    refine .line ?_ ?_
    · unfold itemMarker
      split
      · simp [one, decimal_one_line]
      · split <;> simp [one]
    · intro empty
      simp only [List.append_eq_nil_iff, List.replicate_eq_nil_iff] at empty
      obtain ⟨⟨noTab, noMarker⟩, noText⟩ := empty
      unfold itemMarker at noMarker
      cases ordered <;> cases isTerm <;> simp_all
  unfold itemLine
  by_cases gap : isTerm = true ∧ 1 < number
  · have kept : ¬(t = [] ∧ children.head?.any (·.tagIs Tag.isList) = true) := by
      simp [term gap.1]
    rw [if_pos gap, if_pos gap, if_neg kept]
    exact line.behindGap
  · rw [if_neg gap, if_neg gap, List.nil_append]
    split
    · exact .nil
    · exact line

/-- If writing does not fail, it writes such a text. -/
def Written.ListText (o : Option Opening) (w : Written) : Prop :=
  w.error = none → Gemtext.ListText o w.text

namespace Written.ListText

variable {o o' : Option Opening} {a b : Written}

theorem nothing : ListText none nothing := fun _ => .nil

theorem fail (e : Error) : ListText o (fail e) := by
  intro ok
  cases ok

theorem andThen (ha : ListText o a) (hb : ListText o' b) : ListText (o.or o') (a.andThen b) := by
  intro ok
  obtain ⟨okA, okB⟩ := andThen_error_eq_none.mp ok
  rw [andThen_text_of_ok okA]
  exact (ha okA).append (hb okB)

theorem listItems {ordered : Bool} {level : Nat} {items : List Node}
    (each : ∀ item ∈ items, ∀ number,
      ListText (item.opening number) (listItem ordered level number item)) (number : Nat) :
    ListText (openingFrom number items) (listItems ordered level number items) := by
  induction items generalizing number with
  | nil => exact nothing
  | cons item rest ih =>
      obtain ⟨first, behind⟩ := List.forall_mem_cons.mp each
      exact (first number).andThen (ih behind (number + 1))

theorem innerLists {level : Nat} {children : List Node}
    (each : ∀ c ∈ children, ListText c.innerOpening (innerList level c)) :
    ListText (openingIn children) (innerLists level children) := by
  induction children with
  | nil => exact nothing
  | cons c rest ih =>
      obtain ⟨first, behind⟩ := List.forall_mem_cons.mp each
      exact first.andThen (ih behind)

end Written.ListText

theorem itemHead_listText {ordered : Bool} {level number : Nat} {attrs : Attributes}
    {children : List Node} (unbroken : (Node.element .listItem attrs children).Unbroken)
    (held : children.isEmpty = false)
    (bare : ordered = false → level = 0 →
      (Node.element .listItem attrs children).isBareTerm = false) :
    Written.ListText ((Node.element .listItem attrs children).ownOpening number)
      (itemHead ordered level number attrs children) := by
  intro ok
  unfold itemHead at ok ⊢
  dsimp only at ok ⊢
  cases composed : compose {} false (.element .listItem attrs children) with
  | error e =>
      rw [composed] at ok
      cases ok
  | ok t =>
      have lacks : (Node.element .listItem attrs children).lacksText = true ↔ t = [] := by
        rw [Node.lacksText_iff, composed, Except.ok.injEq]
      have oneLine := compose_unbroken unbroken rfl composed
      have shows (isTerm : attrs.term.getD false = true) (plain : ordered = false)
          (top : level = 0) : t ≠ [] := by
        have named := bare plain top
        simp only [Node.isBareTerm, Node.attrs, Node.children, isTerm, held] at named
        exact fun empty => Bool.noConfusion (named.symm.trans (lacks.mpr empty))
      dsimp only
      rw [joinLines_eq_self oneLine]
      simp only [Node.ownOpening, lacks]
      exact itemLine_listText (no_feed_of_no_break oneLine) unbroken.term shows

/-- An item writes such a text, and so does a list inside an item. -/
theorem listItem_listText {n : Node} (unbroken : n.Unbroken) :
    (∀ ordered level number, (ordered = false → level = 0 → n.isBareTerm = false) →
      Written.ListText (n.opening number) (listItem ordered level number n)) ∧
      ∀ level, Written.ListText n.innerOpening (innerList (level + 1) n) := by
  induction n using Node.rec_strong with
  | text t => exact ⟨fun _ _ _ _ => .fail _, fun _ => .nothing⟩
  | element tag attrs children ih =>
      have inside {c : Node} (member : c ∈ children) := ih c member (unbroken.child member)
      constructor
      · intro ordered level number bare
        rw [listItem]
        split
        · exact .fail _
        · next isItem =>
            obtain rfl : tag = .listItem := Decidable.not_not.mp isItem
            rw [Node.opening]
            cases empty : children.isEmpty with
            | true => exact .nothing
            | false =>
                exact (itemHead_listText unbroken empty bare).andThen
                  (.innerLists fun c member => (inside member).2 level)
      · intro level
        rw [innerList, Node.innerOpening]
        split
        · refine .listItems (fun item member number => (inside member).1 _ _ number ?_) 1
          exact fun _ top => absurd top (Nat.succ_ne_zero level)
        · exact .nothing

/-! ### Lists that stand apart -/

/-- A list that begins with the line of an item, and in which, unless it is numbered, every term has
    text. -/
structure Node.StandsApart (list : Node) : Prop where
  begins : openingFrom 1 list.children = some .line
  terms : list.hasTag .enumeratedList = false → ∀ item ∈ list.children, item.isBareTerm = false

instance (list : Node) : Decidable list.StandsApart :=
  decidable_of_iff
    (openingFrom 1 list.children = some .line ∧ (list.hasTag .enumeratedList = false →
      ∀ item ∈ list.children, item.isBareTerm = false))
    ⟨fun h => ⟨h.1, h.2⟩, fun h => ⟨h.begins, h.terms⟩⟩

theorem not_spaced_of_gap {t : List Char} : ¬Spaced (plainLines ('\n' :: t)) :=
  fun spaced => spaced.begins (by rw [plainLines, textLines]; rfl)

/-- A term without text leaves an empty line, behind the one that stands before it. -/
theorem listItem_bareTerm {item : Node} (unbroken : item.Unbroken) (bare : item.isBareTerm = true)
    {number : Nat} (ok : (listItem false 0 number item).error = none) :
    ∃ rest, (listItem false 0 number item).text =
      (if 1 < number then ['\n'] else []) ++ '\n' :: rest := by
  cases item with
  | text t => cases ok
  | element tag attrs children =>
      simp only [Node.isBareTerm, Node.attrs, Node.children, Bool.and_eq_true] at bare
      obtain ⟨⟨isTerm, held⟩, lacks⟩ := bare
      rw [listItem] at ok ⊢
      split at ok
      · cases ok
      · next isItem =>
          obtain rfl : tag = .listItem := Decidable.not_not.mp isItem
          have head : itemHead false 0 number attrs children =
              ⟨(if 1 < number then ['\n'] else []) ++ ['\n'], none⟩ := by
            have noList := unbroken.term isTerm
            simp only [Node.children] at noList
            rw [itemHead, Node.lacksText_iff.mp lacks]
            simp [isTerm, itemLine, noList, itemMarker]
          rw [if_neg isItem, if_neg (by simpa using held), head,
            Written.andThen_text_of_ok rfl, List.append_assoc]
          exact ⟨_, rfl⟩

/-- A list with a term without text begins with an empty line, or has two behind one another. -/
theorem listItems_bareTerm {items : List Node} (unbroken : ∀ item ∈ items, item.Unbroken)
    (bare : ∃ item ∈ items, item.isBareTerm = true) {number : Nat} (positive : 1 ≤ number)
    (ok : (listItems false 0 number items).error = none) :
    (number = 1 ∧ ∃ rest, (listItems false 0 number items).text = '\n' :: rest) ∨
      [.empty, .empty] <:+: plainLines (listItems false 0 number items).text := by
  induction items generalizing number with
  | nil =>
      obtain ⟨item, member, _⟩ := bare
      cases member
  | cons item rest ih =>
      rw [listItems, Written.andThen_error_eq_none] at ok
      rw [listItems, Written.andThen_text_of_ok ok.1]
      obtain ⟨first, others⟩ := List.forall_mem_cons.mp unbroken
      obtain ⟨term, member, isBare⟩ := bare
      rcases List.mem_cons.mp member with rfl | behind
      · obtain ⟨more, written⟩ := listItem_bareTerm first isBare ok.1
        rw [written]
        by_cases later : 1 < number
        · right
          rw [if_pos later]
          have lines (t : List Char) :
              plainLines ('\n' :: '\n' :: t) = [.empty, .empty] ++ plainLines t := rfl
          exact ⟨[], _, (lines _).symm⟩
        · rw [if_neg later]
          exact .inl ⟨by omega, _, rfl⟩
      · right
        rcases ih others ⟨term, behind, isBare⟩ (by omega) ok.2 with ⟨same, _⟩ | twice
        · omega
        · rw [plainLines_append ((listItem_endsLine item).1 ..)]
          exact twice.trans (List.suffix_append _ _).isInfix

section ListBlock

variable {w : Walk} {tag : Tag} {attrs : Attributes} {items : List Node}

theorem Walk.write_list (isList : tag.isList = true) :
    w.write (.element tag attrs items) =
      (if isLinksOnlyList items then Written.nothing
        else (listItems (tag == .enumeratedList) 0 1 items).andThen ⟨['\n'], none⟩).andThen
        (linkBlock w.document (.element tag attrs items)) := by
  cases tag <;> first | rfl | cases isList

theorem list_listText (unbroken : (Node.element tag attrs items).Unbroken)
    (terms : (tag == .enumeratedList) = false → ∀ item ∈ items, item.isBareTerm = false) :
    Written.ListText (openingFrom 1 items) (listItems (tag == .enumeratedList) 0 1 items) :=
  .listItems (fun item member number => (listItem_listText (unbroken.child member)).1 _ _ number
    fun plain _ => terms plain item member) 1

theorem list_parted (unbroken : (Node.element tag attrs items).Unbroken)
    (apart : (Node.element tag attrs items).StandsApart) :
    ((listItems (tag == .enumeratedList) 0 1 items).andThen ⟨['\n'], none⟩).Parted := by
  intro ok
  have okItems := (Written.andThen_error_eq_none.mp ok).1
  have text := list_listText unbroken apart.terms okItems
  rw [show openingFrom 1 items = _ from apart.begins] at text
  obtain ⟨c, rest, other, begins⟩ := text.begins
  obtain ⟨line, first⟩ := head?_plainLines other rest
  rw [Written.andThen_text_of_ok okItems]
  refine ⟨.of_suffix (List.suffix_refl _), ?_⟩
  rw [plainLines_append text.endsLine]
  refine text.dense.parted (begins ▸ first) ?_
  simp [PageLine.empty]

/-- Where the lines of a list are spaced, it stands apart. -/
theorem standsApart_of_spaced (unbroken : (Node.element tag attrs items).Unbroken)
    (ok : (listItems (tag == .enumeratedList) 0 1 items).error = none) {t : List Char}
    (spaced : Spaced (plainLines
      ((listItems (tag == .enumeratedList) 0 1 items).text ++ '\n' :: t))) :
    (Node.element tag attrs items).StandsApart := by
  have ends := listItems_endsLine (tag == .enumeratedList) 0 1 items
  have terms : (tag == .enumeratedList) = false → ∀ item ∈ items, item.isBareTerm = false := by
    intro plain item member
    rw [plain] at ok spaced ends
    refine Bool.eq_false_iff.mpr fun bare => ?_
    rcases listItems_bareTerm (fun item inside => unbroken.child inside) ⟨item, member, bare⟩
      (Nat.le_refl 1) ok with ⟨_, rest, begins⟩ | twice
    · rw [begins] at spaced
      exact not_spaced_of_gap spaced
    · rw [plainLines_append ends] at spaced
      exact spaced.apart (twice.trans (List.prefix_append _ _).isInfix)
  refine ⟨?_, terms⟩
  have begins := (list_listText unbroken terms ok).begins
  change openingFrom 1 items = some .line
  match opening : openingFrom 1 items with
  | some .line => rfl
  | none =>
      rw [opening] at begins
      rw [show _ = [] from begins] at spaced
      exact absurd spaced not_spaced_of_gap
  | some .gap =>
      rw [opening] at begins
      obtain ⟨rest, begins⟩ := begins
      rw [begins] at spaced
      exact absurd spaced not_spaced_of_gap

end ListBlock

end Gemtext
