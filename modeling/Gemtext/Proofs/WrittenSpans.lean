import Gemtext.Proofs.MarkedWords
import Gemtext.Proofs.TagRow
import Gemtext.Proofs.UnclosedSpans

/-! # Denied spans as written

Denied elements are found twice: among constructs, where a tag is a construct with a name, and in
raw HTML, where it is a piece of text. On a row of texts and single tags both find the same, as long
as each denied element is closed. Only where a name goes on behind a hyphen do they differ: to the
one it is another name, to the other the name of the denied element ends in front of the hyphen.
-/

namespace Gemtext

open Text

namespace Html

/-! ## Names of tags -/

/-- A character of a name: a letter, a digit or a hyphen. -/
def isNamePart (c : Char) : Bool := c.isAlphanum || c == '-'

section Letters

variable {c x : Char}

theorem ascii_of_isAlphanum (h : c.isAlphanum = true) : c.toNat < 128 := by
  change ((decide ('A'.val ≤ c.val ∧ c.val ≤ 'Z'.val) ||
    decide ('a'.val ≤ c.val) && decide (c.val ≤ 'z'.val)) ||
    decide ('0'.val ≤ c.val) && decide (c.val ≤ '9'.val)) = true at h
  simp only [Bool.or_eq_true, Bool.and_eq_true, decide_eq_true_eq, UInt32.le_iff_toNat_le] at h
  have bounds : 'Z'.val.toNat = 90 ∧ 'z'.val.toNat = 122 ∧ '9'.val.toNat = 57 := by decide
  change c.val.toNat < 128
  omega

theorem isWordChar_of_isAlphanum (h : c.isAlphanum = true) : isWordChar c = true := by
  rw [isWordChar, Markdown.has_ascii (ascii_of_isAlphanum h), h, Bool.or_true]

/-- What tells a character of a name from the others in a tag. -/
theorem namePart_apart (h : isNamePart c = true) :
    isWhite c = false ∧ c ≠ '<' ∧ c ≠ '>' ∧ c ≠ '/' ∧ lowerLetter c = c.toLower ∧
      c.toLower ≠ '>' := by
  have ascii : c.toNat < 128 := by
    rcases Bool.or_eq_true_iff.mp h with letter | hyphen
    · exact ascii_of_isAlphanum letter
    · exact beq_iff_eq.mp hyphen ▸ by decide
  have each : ∀ n : Fin 128, isNamePart (Char.ofNat n) = true →
      isWhite (Char.ofNat n) = false ∧ Char.ofNat n ≠ '<' ∧ Char.ofNat n ≠ '>' ∧
        Char.ofNat n ≠ '/' ∧ lowerLetter (Char.ofNat n) = (Char.ofNat n).toLower ∧
        (Char.ofNat n).toLower ≠ '>' := by
    decide +kernel
  have own := each ⟨c.toNat, ascii⟩
  simp only [Char.ofNat_toNat] at own
  exact own h

theorem isNamePart_of_isAlphanum (h : c.isAlphanum = true) : isNamePart c = true := by
  rw [isNamePart, h, Bool.true_or]

theorem sameLetter_of_isAlphanum (h : c.isAlphanum = true) :
    sameLetter x c = (c.toLower == x) := by
  have other (d : Char) (strange : d.isAlphanum = false) : (c == d) = false := by
    rw [beq_eq_false_iff_ne]
    rintro rfl
    cases h.symm.trans strange
  obtain ⟨_, _, _, _, lowered, _⟩ := namePart_apart (isNamePart_of_isAlphanum h)
  simp [sameLetter, lowered, other '\u017F' (by decide), other '\u0131' (by decide)]

/-- What is taken for a small letter continues a word. -/
theorem isWordChar_of_sameLetter (small : x.isLower = true) (same : sameLetter x c = true) :
    isWordChar c = true := by
  obtain ⟨dotted, kelvin, long, dotless⟩ : isWordChar '\u0130' = true ∧
      isWordChar '\u212A' = true ∧ isWordChar '\u017F' = true ∧ isWordChar '\u0131' = true := by
    decide +kernel
  simp only [sameLetter, Bool.or_eq_true, Bool.and_eq_true, beq_iff_eq] at same
  rcases same with (lowered | ⟨_, rfl⟩) | ⟨_, rfl⟩
  · unfold lowerLetter at lowered
    split at lowered
    · next h => exact beq_iff_eq.mp h ▸ dotted
    · split at lowered
      · next h => exact beq_iff_eq.mp h ▸ kelvin
      · apply isWordChar_of_isAlphanum
        change (c.isUpper || c.isLower || c.isDigit) = true
        by_cases upper : c.isUpper = true
        · rw [upper, Bool.true_or, Bool.true_or]
        · have own : c.toLower = c := dif_neg fun inside => upper (decide_eq_true inside)
          rw [own] at lowered
          rw [lowered, small, Bool.or_true, Bool.true_or]
  · exact long
  · exact dotless

end Letters

/-! ## Tags of denied elements -/

theorem deniedNames_small : ∀ d ∈ deniedNames, d.toList.all Char.isLower = true := by
  decide +kernel

section Names

variable {w d name t u : List Char}

theorem dropWord?_letters (letters : w.all Char.isAlphanum = true) (u : List Char) :
    dropWord? (w.map Char.toLower) (w ++ u) = some u := by
  induction w with
  | nil => rfl
  | cons c w ih =>
      rw [List.all_cons, Bool.and_eq_true] at letters
      rw [List.map_cons, List.cons_append, dropWord?, sameLetter_of_isAlphanum letters.1,
        beq_self_eq_true]
      exact ih letters.2

/-- A word that ends with the letters at the head of a text is made of them. -/
theorem eq_of_dropWord? {rest : List Char} (letters : w.all Char.isAlphanum = true)
    (ends : nameEnds u = true) (small : d.all Char.isLower = true)
    (found : dropWord? d (w ++ u) = some rest) (stops : nameEnds rest = true) :
    w.map Char.toLower = d := by
  induction d generalizing w with
  | nil =>
      obtain rfl := Option.some.inj found
      cases w with
      | nil => rfl
      | cons c w =>
          rw [List.all_cons, Bool.and_eq_true] at letters
          simp [nameEnds, isWordChar_of_isAlphanum letters.1] at stops
  | cons x d ih =>
      rw [List.all_cons, Bool.and_eq_true] at small
      cases w with
      | nil =>
          cases u with
          | nil => cases found
          | cons c u =>
              rw [List.nil_append, dropWord?] at found
              split at found
              · next same => simp [nameEnds, isWordChar_of_sameLetter small.1 same] at ends
              · cases found
      | cons c w =>
          rw [List.all_cons, Bool.and_eq_true] at letters
          rw [List.cons_append, dropWord?, sameLetter_of_isAlphanum letters.1] at found
          split at found
          · next same => rw [List.map_cons, ih letters.2 small.2 found, beq_iff_eq.mp same]
          · cases found

/-- A name is read off the letters at the head of a text if it is made of them. -/
theorem readName?_letters (letters : w.all Char.isAlphanum = true) (ends : nameEnds u = true)
    (small : d.all Char.isLower = true) :
    readName? d (w ++ u) = if w.map Char.toLower = d then some (w, u) else none := by
  split
  · next same =>
      subst same
      rw [readName?, dropWord?_letters letters]
      simp [ends]
  · next differs =>
      unfold readName?
      split
      · next rest found =>
          refine if_neg fun stops => differs ?_
          exact eq_of_dropWord? letters ends small found stops
      · rfl

theorem findSome?_eq_ite {α β : Type} {f : α → Option β} {p : α → Bool} {b : β} {l : List α}
    (each : ∀ a ∈ l, f a = if p a then some b else none) :
    l.findSome? f = if l.any p then some b else none := by
  induction l with
  | nil => rfl
  | cons a l ih =>
      obtain ⟨first, others⟩ := List.forall_mem_cons.mp each
      rw [List.findSome?_cons, first, ih others, List.any_cons]
      cases p a <;> rfl

/-- An opening tag is that of a denied element if its letters up to the first other character are
    the name of one. -/
theorem deniedOpening?_tag (some : w ≠ []) (letters : w.all Char.isAlphanum = true)
    (ends : nameEnds (u ++ ['>']) = true) (inside : '>' ∉ u) (t : List Char) :
    deniedOpening? ('<' :: (w ++ (u ++ '>' :: t))) =
      if isDenied (w.map Char.toLower) then Option.some (w, t) else none := by
  have begins : (w ++ (u ++ '>' :: t)).dropWhile isWhite = w ++ (u ++ '>' :: t) := by
    obtain ⟨c, w, rfl⟩ := List.exists_cons_of_ne_nil some
    rw [List.all_cons, Bool.and_eq_true] at letters
    have shown := (namePart_apart (isNamePart_of_isAlphanum letters.1)).1
    rw [List.cons_append, List.dropWhile_cons_of_neg (by simp [shown])]
  have ends' : nameEnds (u ++ '>' :: t) = true := by cases u <;> exact ends
  have attributes : (u ++ '>' :: t).dropWhile (· != '>') = '>' :: t := by
    rw [List.dropWhile_append_of_pos, List.dropWhile_cons_of_neg (by simp)]
    intro c member
    have other : c ≠ '>' := fun same => inside (same ▸ member)
    simpa using other
  have named : deniedNames.findSome? (fun d => readName? d.toList (w ++ (u ++ '>' :: t))) =
      if isDenied (w.map Char.toLower) then Option.some (w, u ++ '>' :: t) else none := by
    refine findSome?_eq_ite fun d member => ?_
    rw [readName?_letters letters ends' (deniedNames_small d member)]
    exact if_congr (eq_comm.trans beq_iff_eq.symm) rfl rfl
  rw [deniedOpening?, begins, named]
  cases isDenied (w.map Char.toLower) <;> simp [attributes]

theorem sameLower_name {a c : Char} (letter : a.isAlphanum = true) (part : isNamePart c = true) :
    sameLower a c = (a.toLower == c.toLower) := by
  obtain ⟨_, _, _, _, own, _⟩ := namePart_apart (isNamePart_of_isAlphanum letter)
  obtain ⟨_, _, _, _, other, _⟩ := namePart_apart part
  rw [sameLower, own, other]

theorem dropSame?_name (letters : w.all Char.isAlphanum = true) (named : name.all isNamePart = true)
    (same : w.map Char.toLower = name.map Char.toLower) (u : List Char) :
    dropSame? w (name ++ u) = some u := by
  induction w generalizing name with
  | nil =>
      obtain rfl := List.map_eq_nil_iff.mp same.symm
      rfl
  | cons a w ih =>
      obtain ⟨c, name, rfl, first, others⟩ := List.map_eq_cons_iff.mp same.symm
      simp only [List.all_cons, Bool.and_eq_true] at letters named
      rw [List.cons_append, dropSame?, sameLower_name letters.1 named.1, first, beq_self_eq_true]
      exact ih letters.2 named.2 others.symm

/-- What a bracket ends is a name if it has the letters of the name. -/
theorem eq_of_dropSame? {v rest : List Char} (letters : w.all Char.isAlphanum = true)
    (named : name.all isNamePart = true) (found : dropSame? w (name ++ '>' :: t) = some v)
    (ends : v.dropWhile isWhite = '>' :: rest) : w.map Char.toLower = name.map Char.toLower := by
  induction w generalizing name with
  | nil =>
      obtain rfl := Option.some.inj found
      cases name with
      | nil => rfl
      | cons c name =>
          rw [List.all_cons, Bool.and_eq_true] at named
          obtain ⟨shown, _, other, _⟩ := namePart_apart named.1
          rw [List.cons_append, List.dropWhile_cons_of_neg (by simp [shown])] at ends
          exact absurd (List.cons.inj ends).1 other
  | cons a w ih =>
      rw [List.all_cons, Bool.and_eq_true] at letters
      cases name with
      | nil =>
          obtain ⟨_, _, _, _, lowered, other⟩ :=
            namePart_apart (isNamePart_of_isAlphanum letters.1)
          have bracket : lowerLetter '>' = '>' := by decide
          simp [dropSame?, sameLower, lowered, bracket, other] at found
      | cons c name =>
          rw [List.all_cons, Bool.and_eq_true] at named
          rw [List.cons_append, dropSame?, sameLower_name letters.1 named.1] at found
          split at found
          · next same =>
              rw [List.map_cons, List.map_cons, ih letters.2 named.2 found, beq_iff_eq.mp same]
          · cases found

/-- A closing tag closes an element if it has the same name, whatever the case. -/
theorem closing?_tag (letters : w.all Char.isAlphanum = true) (named : name.all isNamePart = true)
    (t : List Char) : closing? w ('<' :: '/' :: (name ++ '>' :: t)) =
      if w.map Char.toLower = name.map Char.toLower then some t else none := by
  have begins : (name ++ '>' :: t).dropWhile isWhite = name ++ '>' :: t := by
    cases name with
    | nil => rfl
    | cons c name =>
        rw [List.all_cons, Bool.and_eq_true] at named
        have shown := (namePart_apart named.1).1
        rw [List.cons_append, List.dropWhile_cons_of_neg (by simp [shown])]
  have slash : ('/' :: (name ++ '>' :: t)).dropWhile isWhite = '/' :: (name ++ '>' :: t) := rfl
  rw [closing?, slash]
  simp only [begins]
  by_cases same : w.map Char.toLower = name.map Char.toLower
  · rw [if_pos same, dropSame?_name letters named same]
    rfl
  · rw [if_neg same]
    split
    · next v found =>
        split
        · next rest ends => exact absurd (eq_of_dropSame? letters named found ends) same
        · rfl
    · rfl

/-- An opening tag closes nothing. -/
theorem closing?_opening {c : Char} (part : isNamePart c = true) (w t : List Char) :
    closing? w ('<' :: c :: t) = none := by
  obtain ⟨shown, _, _, slash, _⟩ := namePart_apart part
  rw [closing?, List.dropWhile_cons_of_neg (by simp [shown])]
  split
  · next u same => exact absurd (List.cons.inj same).1 slash
  · rfl

theorem deniedOpening?_closing (t : List Char) : deniedOpening? ('<' :: '/' :: t) = none := by
  have some : ∀ d ∈ deniedNames, d.toList ≠ [] := by decide +kernel
  have ends : nameEnds ('/' :: t) = true := by
    have slash : isWordChar '/' = false := by decide +kernel
    simp [nameEnds, slash]
  have named : ∀ d ∈ deniedNames, readName? d.toList ('/' :: t) = none := fun d member =>
    (readName?_letters (w := []) rfl ends (deniedNames_small d member)).trans
      (if_neg (Ne.symm (some d member)))
  have slash : ('/' :: t).dropWhile isWhite = '/' :: t := rfl
  rw [deniedOpening?, slash, List.findSome?_eq_none_iff.mpr named]

end Names

end Html

namespace Markdown

open Html

/-! ## Texts and tags in a row -/

/-- A letter with letters, digits and hyphens behind it. -/
def isTagName (name : List Char) : Bool := name.head?.any Char.isAlpha && name.all isNamePart

/-- The forms of a single tag. What follows the name of an opening tag begins with a blank or a
    slash. -/
inductive IsTag : List Char → Prop where
  | opening {name attributes : List Char} : isTagName name = true →
      (∀ c ∈ attributes.head?, isWhite c = true ∨ c = '/') →
      (∀ c ∈ attributes, c ≠ '<' ∧ c ≠ '>') → IsTag ('<' :: (name ++ (attributes ++ ['>'])))
  | closing {name : List Char} : isTagName name = true → IsTag ('<' :: '/' :: (name ++ ['>']))

/-- A text without angle brackets, or a single tag. -/
inductive Tree.InRow : Tree → Prop where
  | text {t : List Char} {children : List Tree} : (∀ c ∈ t, c ≠ '<' ∧ c ≠ '>') →
      InRow (.node .text t children)
  | tag {t : List Char} {children : List Tree} : IsTag t → InRow (.node .htmlTag t children)

def contents (ns : List Tree) : List Char := ns.flatMap Tree.content

/-- Behind each tag that opens a denied element stands one that closes it. -/
def SpansClose : List Tree → Prop
  | [] => True
  | n :: rest =>
      (∀ name ∈ n.opensDenied?, ∃ m ∈ rest, m.closes name = true) ∧ SpansClose rest

instance : (ns : List Tree) → Decidable (SpansClose ns)
  | [] => .isTrue trivial
  | n :: rest =>
      have := instDecidableSpansClose rest
      inferInstanceAs (Decidable ((∀ name ∈ n.opensDenied?, ∃ m ∈ rest, m.closes name = true) ∧
        SpansClose rest))

/-- An opening tag whose name goes on with a hyphen behind this name. -/
def Tree.extendsName (name : List Char) (n : Tree) : Bool :=
  n.tag?.any fun tag => !tag.2 && (name ++ ['-']).isPrefixOf tag.1

/-! ## Single tags -/

section Tags

variable {name attributes u : List Char}

theorem isTagName_iff : isTagName name = true ↔
    (∃ c rest, name = c :: rest ∧ c.isAlpha = true) ∧ name.all isNamePart = true := by
  rw [isTagName, Bool.and_eq_true]
  refine and_congr_left' ?_
  cases name <;> simp

theorem not_isNamePart {c : Char} (h : isWhite c = true ∨ c = '/') : isNamePart c = false := by
  rw [← Bool.not_eq_true]
  intro part
  obtain ⟨shown, _, _, slash, _⟩ := namePart_apart part
  rcases h with white | same
  · cases shown.symm.trans white
  · exact slash same

theorem not_isWordChar {c : Char} (white : isWhite c = true) : isWordChar c = false := by
  rw [← Bool.not_eq_true, isWordChar, Bool.or_eq_true]
  rintro (low | letter)
  · exact absurd (beq_iff_eq.mp low ▸ white) (by decide)
  · cases (isWhite_letter letter).symm.trans white

/-- What follows the name in a tag is no part of the name. -/
theorem attributes_head (ends : ∀ c ∈ attributes.head?, isWhite c = true ∨ c = '/') :
    ∀ c ∈ (attributes ++ ['>']).head?, isNamePart c = false := by
  cases attributes with
  | nil =>
      rintro _ ⟨rfl⟩
      decide
  | cons c rest =>
      rintro _ ⟨rfl⟩
      exact not_isNamePart (ends c rfl)

theorem takeWhile_name (named : name.all isNamePart = true)
    (ends : ∀ c ∈ u.head?, isNamePart c = false) : (name ++ u).takeWhile isNamePart = name := by
  rw [List.takeWhile_append_of_pos (List.all_eq_true.mp named)]
  cases u with
  | nil => simp
  | cons c rest => simp [ends c rfl]

theorem tagName?_opening (named : isTagName name = true)
    (ends : ∀ c ∈ attributes.head?, isWhite c = true ∨ c = '/') :
    tagName? ('<' :: (name ++ (attributes ++ ['>']))) = some (name.map Char.toLower, false) := by
  obtain ⟨⟨c, rest, rfl, letter⟩, parts⟩ := isTagName_iff.mp named
  have whole := takeWhile_name parts (attributes_head ends)
  rw [List.all_cons, Bool.and_eq_true] at parts
  obtain ⟨shown, _, _, slash, _⟩ := namePart_apart parts.1
  rw [List.cons_append, List.takeWhile_cons_of_pos parts.1] at whole
  have others := (List.cons.inj whole).2
  rw [List.cons_append, tagName?]
  simp only [List.dropWhile_cons_of_neg (show ¬isWhite c = true by simp [shown]), List.head?_cons]
  have open' : (some c == some '/') = false := by simpa using slash
  simp only [open', Bool.false_eq_true, if_false, letter, if_true]
  rw [show (rest ++ (attributes ++ ['>'])).takeWhile (fun d => d.isAlphanum || d == '-') = rest
    from others]

theorem tagName?_closing (named : isTagName name = true) :
    tagName? ('<' :: '/' :: (name ++ ['>'])) = some (name.map Char.toLower, true) := by
  obtain ⟨⟨c, rest, rfl, letter⟩, parts⟩ := isTagName_iff.mp named
  have whole := takeWhile_name parts (u := ['>']) (by simp [isNamePart])
  rw [List.all_cons, Bool.and_eq_true] at parts
  obtain ⟨shown, _⟩ := namePart_apart parts.1
  rw [List.cons_append, List.takeWhile_cons_of_pos parts.1] at whole
  have others := (List.cons.inj whole).2
  have slash : ('/' :: (c :: rest ++ ['>'])).dropWhile isWhite = '/' :: (c :: rest ++ ['>']) := rfl
  rw [tagName?, slash]
  simp only [List.head?_cons, beq_self_eq_true, if_true, List.drop_one, List.tail_cons,
    List.cons_append, List.dropWhile_cons_of_neg (show ¬isWhite c = true by simp [shown]), letter]
  rw [show (rest ++ ['>']).takeWhile (fun d => d.isAlphanum || d == '-') = rest from others]

/-- The name of a tag up to its first hyphen is followed by no character of a word. -/
theorem exists_stem (named : isTagName name = true)
    (ends : ∀ c ∈ attributes.head?, isWhite c = true ∨ c = '/') :
    ∃ stem more, name = stem ++ more ∧ stem ≠ [] ∧ stem.all Char.isAlphanum = true ∧
      nameEnds (more ++ (attributes ++ ['>'])) = true ∧ (more = [] ∨ more.head? = some '-') := by
  obtain ⟨⟨c, rest, rfl, letter⟩, parts⟩ := isTagName_iff.mp named
  have first : c.isAlphanum = true := by simp [Char.isAlphanum, letter]
  refine ⟨(c :: rest).takeWhile Char.isAlphanum, (c :: rest).dropWhile Char.isAlphanum,
    (List.takeWhile_append_dropWhile).symm, by simp [first], List.all_takeWhile, ?_⟩
  cases more : (c :: rest).dropWhile Char.isAlphanum with
  | nil =>
      refine ⟨?_, .inl rfl⟩
      cases attributes with
      | nil => decide +kernel
      | cons d behind =>
          rcases ends d rfl with white | rfl
          · simp [nameEnds, not_isWordChar white]
          · simp [nameEnds, show isWordChar '/' = false by decide +kernel]
  | cons d behind =>
      have stops := List.head?_dropWhile_not Char.isAlphanum (c :: rest)
      have part : isNamePart d = true := List.all_eq_true.mp parts d
        ((List.dropWhile_suffix _).subset (more ▸ List.mem_cons_self))
      rw [more] at stops
      have hyphen : d = '-' := by
        rw [isNamePart, Bool.or_eq_true, beq_iff_eq] at part
        exact part.resolve_left (by simpa using stops)
      subst hyphen
      have stop : isWordChar '-' = false := by decide +kernel
      exact ⟨by simp [nameEnds, stop], .inr rfl⟩

/-- The name of a denied element has no hyphen. -/
theorem letters_of_isDenied (denied : isDenied (name.map Char.toLower) = true)
    (parts : name.all isNamePart = true) : name.all Char.isAlphanum = true := by
  obtain ⟨d, member, same⟩ := List.any_eq_true.mp denied
  have small := deniedNames_small d member
  rw [beq_iff_eq.mp same, List.all_map] at small
  refine List.all_eq_true.mpr fun c inside => ?_
  have part := List.all_eq_true.mp parts c inside
  rw [isNamePart, Bool.or_eq_true, beq_iff_eq] at part
  refine part.resolve_right ?_
  rintro rfl
  exact absurd (List.all_eq_true.mp small '-' inside) (by decide)

end Tags

/-! ## Rows -/

section Rows

variable {n : Tree} {ns : List Tree} {w name attributes t : List Char}

@[simp] theorem contents_cons (n : Tree) (ns : List Tree) :
    contents (n :: ns) = n.content ++ contents ns := List.flatMap_cons

theorem brackets_of_isTag {t : List Char} (tag : IsTag t) : ∃ u, t = '<' :: u ∧ '<' ∉ u := by
  have inside {name : List Char} (named : isTagName name = true) : '<' ∉ name := fun member =>
    (namePart_apart (List.all_eq_true.mp (isTagName_iff.mp named).2 _ member)).2.1 rfl
  cases tag with
  | @opening name attributes named _ plain =>
      refine ⟨_, rfl, ?_⟩
      simp only [List.mem_append, List.mem_singleton, not_or]
      exact ⟨inside named, fun member => (plain _ member).1 rfl, by decide⟩
  | @closing name named =>
      refine ⟨_, rfl, ?_⟩
      simp only [List.mem_cons, List.mem_append, List.not_mem_nil, or_false, not_or]
      exact ⟨by decide, inside named, by decide⟩

theorem tag?_opening {children : List Tree} (named : isTagName name = true)
    (ends : ∀ c ∈ attributes.head?, isWhite c = true ∨ c = '/') :
    (Tree.node .htmlTag ('<' :: (name ++ (attributes ++ ['>']))) children).tag? =
      some (name.map Char.toLower, false) :=
  (if_pos rfl).trans (tagName?_opening named ends)

theorem tag?_closing {children : List Tree} (named : isTagName name = true) :
    (Tree.node .htmlTag ('<' :: '/' :: (name ++ ['>'])) children).tag? =
      some (name.map Char.toLower, true) :=
  (if_pos rfl).trans (tagName?_closing named)

/-- The closing tag of an element is found in the written form of a construct exactly if the
    construct is one. -/
theorem splitAt?_content (row : n.InRow) (letters : w.all Char.isAlphanum = true) (t : List Char) :
    (splitAt? (closing? w) (n.content ++ t)).map Prod.snd =
      if n.closes (w.map Char.toLower) then some t
      else (splitAt? (closing? w) t).map Prod.snd := by
  cases row with
  | @text u children plain =>
      have stays : (Tree.node .text u children).closes (w.map Char.toLower) = false := rfl
      have missed := splitAt?_append_of_none
        (fun c member => closing?_of_ne (plain c member).1 w) t
      rw [Tree.content, missed, stays]
      simp [Function.comp_def]
  | @tag u children tag =>
      obtain ⟨inside, rfl, plain⟩ := brackets_of_isTag tag
      have passed (missed : closing? w ('<' :: (inside ++ t)) = none) :
          (splitAt? (closing? w) ('<' :: (inside ++ t))).map Prod.snd =
            (splitAt? (closing? w) t).map Prod.snd := by
        rw [splitAt?_tag missed plain]
        simp [Function.comp_def]
      cases tag with
      | @opening name attributes named ends _ =>
          have stays : (Tree.node .htmlTag ('<' :: (name ++ (attributes ++ ['>']))) children).closes
              (w.map Char.toLower) = false := by
            rw [Tree.closes, tag?_opening named ends]
            simp
          obtain ⟨⟨c, rest, rfl, _⟩, parts⟩ := isTagName_iff.mp named
          rw [List.all_cons, Bool.and_eq_true] at parts
          rw [stays]
          exact passed (closing?_opening parts.1 w _)
      | @closing name named =>
          have tag := closing?_tag letters (isTagName_iff.mp named).2 t
          have written : ('/' :: (name ++ ['>'])) ++ t = '/' :: (name ++ '>' :: t) := by simp
          rw [Tree.closes, tag?_closing named]
          by_cases same : w.map Char.toLower = name.map Char.toLower
          · rw [if_pos (by simp [same])]
            rw [if_pos same] at tag
            rw [Tree.content, List.cons_append, written, splitAt?, tag]
            rfl
          · rw [if_neg (by simpa using Ne.symm same)]
            rw [if_neg same, ← written] at tag
            exact passed tag

/-- What is left behind the closing tag of an element is the same in a row and in its written
    form. -/
theorem splitAt?_contents (row : ∀ n ∈ ns, n.InRow) (letters : w.all Char.isAlphanum = true) :
    (splitAt? (closing? w) (contents ns)).map Prod.snd =
      (behindClosing? (w.map Char.toLower) ns).map contents := by
  induction ns with
  | nil => rfl
  | cons n rest ih =>
      obtain ⟨first, others⟩ := List.forall_mem_cons.mp row
      rw [contents_cons, splitAt?_content first letters, ih others, behindClosing?]
      split <;> rfl

theorem opensDenied?_opening {children : List Tree} (named : isTagName name = true)
    (ends : ∀ c ∈ attributes.head?, isWhite c = true ∨ c = '/') :
    (Tree.node .htmlTag ('<' :: (name ++ (attributes ++ ['>']))) children).opensDenied? =
      if isDenied (name.map Char.toLower) then some (name.map Char.toLower) else none := by
  rw [Tree.opensDenied?, tag?_opening named ends]

/-- An opening tag is taken for that of a denied element if its name, up to its first hyphen, is the
    name of one. -/
theorem deniedOpening?_opening (named : isTagName name = true)
    (ends : ∀ c ∈ attributes.head?, isWhite c = true ∨ c = '/')
    (plain : ∀ c ∈ attributes, c ≠ '<' ∧ c ≠ '>') (t : List Char) :
    ∃ stem more, name = stem ++ more ∧ stem.all Char.isAlphanum = true ∧
      (more = [] ∨ more.head? = some '-') ∧
      deniedOpening? ('<' :: (name ++ (attributes ++ ['>'])) ++ t) =
        if isDenied (stem.map Char.toLower) then some (stem, t) else none := by
  obtain ⟨stem, more, rfl, some, letters, stops, hyphen⟩ := exists_stem named ends
  have parts := (isTagName_iff.mp named).2
  have bracket : '>' ∉ more ++ attributes := by
    rw [List.mem_append]
    rintro (inside | behind)
    · have part := List.all_eq_true.mp parts _ (List.mem_append_right stem inside)
      exact (namePart_apart part).2.2.1 rfl
    · exact (plain _ behind).2 rfl
  rw [← List.append_assoc] at stops
  have read := deniedOpening?_tag some letters stops bracket t
  exact ⟨stem, more, rfl, letters, hyphen, by simpa using read⟩

/-- A construct that opens a denied element is written as an opening tag of it. -/
theorem deniedOpening?_content (row : n.InRow) (opens : n.opensDenied? = some name)
    (t : List Char) : ∃ w, w.map Char.toLower = name ∧ w.all Char.isAlphanum = true ∧
      deniedOpening? (n.content ++ t) = some (w, t) := by
  cases row with
  | text => cases opens
  | tag tag =>
      cases tag with
      | @opening written attributes named ends plain =>
          rw [opensDenied?_opening named ends] at opens
          split at opens
          · next denied =>
              obtain ⟨stem, more, rfl, letters, hyphen, read⟩ :=
                deniedOpening?_opening named ends plain t
              have whole := letters_of_isDenied denied (isTagName_iff.mp named).2
              obtain rfl : more = [] := by
                refine hyphen.resolve_right fun head => ?_
                rw [List.all_append, Bool.and_eq_true] at whole
                have letter := List.all_eq_true.mp whole.2 _ (List.mem_of_head? head)
                exact absurd letter (by decide)
              rw [List.append_nil] at opens denied
              rw [if_pos denied] at read
              exact ⟨stem, Option.some.inj opens, letters, read⟩
          · cases opens
      | closing named =>
          rw [Tree.opensDenied?, tag?_closing named] at opens
          cases opens

/-- A construct that opens no denied element is kept in a written row. If it extends the name of one,
    it is kept if nothing behind it closes the element. -/
theorem removeDenied_content (row : n.InRow) (rows : ∀ m ∈ ns, m.InRow)
    (plain : n.opensDenied? = none)
    (apart : ∀ d ∈ deniedNames, n.extendsName d.toList = true →
      behindClosing? d.toList ns = none) :
    removeDenied (n.content ++ contents ns) = n.content ++ removeDenied (contents ns) := by
  cases row with
  | text clear =>
      exact removeDenied_append_of_none (fun c member => deniedOpening?_of_ne (clear c member).1) _
  | @tag t children tag =>
      have kept : deniedPair? (t ++ contents ns) = none := by
        cases tag with
        | @opening name attributes named ends clear =>
            obtain ⟨stem, more, rfl, letters, hyphen, read⟩ :=
              deniedOpening?_opening named ends clear (contents ns)
            split at read
            · next denied =>
                rw [opensDenied?_opening named ends] at plain
                have goesOn : more.head? = some '-' := by
                  refine hyphen.resolve_left ?_
                  rintro rfl
                  rw [List.append_nil, if_pos denied] at plain
                  cases plain
                obtain ⟨d, member, same⟩ := List.any_eq_true.mp denied
                have extended := apart d member (by
                  obtain ⟨behind, rfl⟩ := List.head?_eq_some_iff.mp goesOn
                  rw [Tree.extendsName, tag?_opening named ends, beq_iff_eq.mp same]
                  simp)
                rw [beq_iff_eq.mp same] at extended
                have unclosed := splitAt?_contents rows letters
                rw [extended] at unclosed
                rw [deniedPair?, read]
                exact unclosed
            · exact deniedPair?_of_not_opening read
        | closing => exact deniedPair?_of_not_opening (deniedOpening?_closing _)
      obtain ⟨inside, rfl, clear⟩ := brackets_of_isTag tag
      exact removeDenied_tag kept clear

theorem SpansClose.of_append {front : List Tree} (closed : SpansClose (front ++ ns)) :
    SpansClose ns := by
  induction front with
  | nil => exact closed
  | cons n rest ih => exact ih closed.2

/-- Where behind each tag that opens a denied element stands one that closes it, and behind none
    that only extends the name of one, the spans that are dropped from a row are the pairs that are
    removed from its written form. -/
theorem removeDenied_contents (row : ∀ n ∈ ns, n.InRow) (closed : SpansClose ns)
    (apart : ns.Pairwise fun n m =>
      ∀ d ∈ deniedNames, n.extendsName d.toList = true → m.closes d.toList = false) :
    removeDenied (contents ns) = contents (dropDeniedSpans ns) := by
  fun_induction dropDeniedSpans ns with
  | case1 =>
      rw [contents, List.flatMap_nil, removeDenied]
  | case2 n rest plain ih =>
      obtain ⟨first, others⟩ := List.forall_mem_cons.mp row
      obtain ⟨here, behind⟩ := List.pairwise_cons.mp apart
      rw [contents_cons, contents_cons, removeDenied_content first others plain,
        ih others closed.2 behind]
      intro d member extended
      exact behindClosing?_eq_none.mpr fun m inside => here m inside d member extended
  | case3 n rest name opens behind found ih =>
      obtain ⟨first, others⟩ := List.forall_mem_cons.mp row
      obtain ⟨w, rfl, letters, read⟩ := deniedOpening?_content first opens (contents rest)
      have ends := splitAt?_contents others letters
      rw [found] at ends
      have pair : deniedPair? (n.content ++ contents rest) = some (contents behind) := by
        rw [deniedPair?, read]
        exact ends
      obtain ⟨inside, closing, rfl, _⟩ := behindClosing?_eq_some.mp found
      have left : (closing :: behind).Sublist (inside ++ closing :: behind) :=
        List.sublist_append_right _ _
      rw [contents_cons, removeDenied_pair pair]
      exact ih (fun m member => others m (left.subset (List.mem_cons_of_mem closing member)))
        closed.2.of_append.2 ((List.pairwise_cons.mp apart).2.sublist left).of_cons
  | case4 n rest name opens unclosed =>
      obtain ⟨m, inside, closes⟩ := closed.1 name opens
      rw [behindClosing?_eq_none.mp unclosed m inside] at closes
      cases closes

/-- A form with a script that goes on behind it, and a tag that is not closed and extends the name
    of a denied element. -/
theorem removeDenied_contents_form :
    let text (t : String) : Tree := .node .text t.toList []
    let tag (t : String) : Tree := .node .htmlTag t.toList []
    let siblings := [text "a", tag "<Form class=x>", tag "<script>", tag "</FORM>", text "b",
      tag "<style-x/>", tag "</script>"]
    (∀ n ∈ siblings, n.InRow) ∧ SpansClose siblings ∧
      (siblings.Pairwise fun n m =>
        ∀ d ∈ deniedNames, n.extendsName d.toList = true → m.closes d.toList = false) ∧
      removeDenied (contents siblings) = contents (dropDeniedSpans siblings) ∧
      removeDenied (contents siblings) = "ab<style-x/></script>".toList := by
  intro text tag siblings
  have opening (name attributes : String) (named : isTagName name.toList = true)
      (ends : ∀ c ∈ attributes.toList.head?, isWhite c = true ∨ c = '/')
      (plain : ∀ c ∈ attributes.toList, c ≠ '<' ∧ c ≠ '>') {t : List Char}
      (written : t = '<' :: (name.toList ++ (attributes.toList ++ ['>']))) :
      (Tree.node .htmlTag t []).InRow := written ▸ .tag (.opening named ends plain)
  have closing (name : String) (named : isTagName name.toList = true) {t : List Char}
      (written : t = '<' :: '/' :: (name.toList ++ ['>'])) :
      (Tree.node .htmlTag t []).InRow := written ▸ .tag (.closing named)
  have row : ∀ n ∈ siblings, n.InRow := by
    simp only [siblings, List.forall_mem_cons]
    refine ⟨.text (by simp), ?_, ?_, ?_, .text (by simp), ?_, ?_, nofun⟩
    · exact opening "Form" " class=x" (by decide) (by simp [isWhite]) (by simp) (by decide)
    · exact opening "script" "" (by decide) (by simp) (by simp) (by decide)
    · exact closing "FORM" (by decide) (by decide)
    · exact opening "style-x" "/" (by decide) (by simp) (by simp) (by decide)
    · exact closing "script" (by decide) (by decide)
  have closed : SpansClose siblings := by decide +kernel
  have apart : siblings.Pairwise fun n m =>
      ∀ d ∈ deniedNames, n.extendsName d.toList = true → m.closes d.toList = false := by
    decide +kernel
  exact ⟨row, closed, apart, removeDenied_contents row closed apart, by decide +kernel⟩

/-- A tag that only extends the name of a denied element is kept among constructs, and taken for the
    beginning of a pair in the written form. -/
theorem extended_name_is_removed :
    let tag (t : String) : Tree := .node .htmlTag t.toList []
    let siblings : List Tree := [tag "<script-x>", .node .text "a".toList [], tag "</script>"]
    (∀ n ∈ siblings, n.InRow) ∧ SpansClose siblings ∧ dropDeniedSpans siblings = siblings ∧
      contents siblings = "<script-x>a</script>".toList ∧ removeDenied (contents siblings) = [] ∧
      plainText ['\n'] (contents siblings) = .ok [] := by
  intro tag siblings
  have begins : "<script-x>".toList = '<' :: ("script-x".toList ++ ([] ++ ['>'])) := by decide
  have ends : "</script>".toList = '<' :: '/' :: ("script".toList ++ ['>']) := by decide
  refine ⟨?_, by decide +kernel, ?_, by decide, by decide +kernel, by decide +kernel⟩
  · simp only [siblings, tag, List.forall_mem_cons, begins, ends]
    exact ⟨.tag (.opening (by decide) nofun nofun), .text (by simp), .tag (.closing (by decide)),
      nofun⟩
  · rw [dropDeniedSpans_plain (by decide), dropDeniedSpans_plain (by decide),
      dropDeniedSpans_plain (by decide), dropDeniedSpans]

end Rows

end Markdown

end Gemtext
