import Gemtext.Html.PlainText

/-! # Refused markup

Reading raw HTML only ever goes on with a suffix of the text it was given, and the values of
attributes are parts of that text. So what it refuses, a section with a bad keyword or a decimal
reference with too many digits, is found somewhere in the text, and a text without either is always
read.
-/

namespace Gemtext

open Text

namespace Text

variable {t rest : List Char}

theorem dropPrefix?_suffix {lead : List Char} (h : dropPrefix? lead t = some rest) : rest <:+ t :=
  dropPrefix?_eq_some_iff.mp h ▸ List.suffix_append lead rest

theorem dropWord?_suffix {word : List Char} (h : dropWord? word t = some rest) : rest <:+ t := by
  induction word generalizing t with
  | nil =>
      obtain rfl := Option.some.inj h
      exact List.suffix_refl t
  | cons w ws ih =>
      cases t with
      | nil => cases h
      | cons c t =>
          rw [dropWord?] at h
          split at h
          · exact (ih h).trans (List.suffix_cons c t)
          · cases h

theorem splitAt?_suffix {found? : List Char → Option (List Char)} {before : List Char}
    (leaves : ∀ {t rest}, found? t = some rest → rest <:+ t)
    (h : splitAt? found? t = some (before, rest)) : rest <:+ t := by
  obtain ⟨place, rfl, found⟩ := splitAt?_eq_some h
  exact (leaves found).trans (List.suffix_append before place)

theorem dropThrough?_suffix {mark : List Char} (h : dropThrough? mark t = some rest) : rest <:+ t := by
  obtain ⟨⟨before, behind⟩, found, rfl⟩ := Option.map_eq_some_iff.mp h
  exact splitAt?_suffix dropPrefix?_suffix found

end Text

namespace Html

variable {t rest : List Char}

/-! ## What is refused -/

/-- A text is refused where it begins with a section that has a bad keyword, or with a decimal
    reference that has too many digits. -/
inductive Refuses (t : List Char) : Rejection → Prop where
  | badKeyword {cause : Rejection} :
      "<![".toList <+: t → readSection t = .error cause → Refuses t cause
  | longNumber : isLongReference t = true → Refuses t .longReference

/-- Somewhere in a text stands something that is refused. -/
def HoldsRefused (t : List Char) (cause : Rejection) : Prop :=
  ∃ place, place <:+ t ∧ Refuses place cause

theorem Refuses.holds {cause : Rejection} (h : Refuses t cause) : HoldsRefused t cause :=
  ⟨t, List.suffix_refl t, h⟩

theorem HoldsRefused.of_suffix {cause : Rejection} (h : HoldsRefused rest cause)
    (suffix : rest <:+ t) : HoldsRefused t cause := by
  obtain ⟨place, inside, refused⟩ := h
  exact ⟨place, inside.trans suffix, refused⟩

theorem isLongReference_iff : isLongReference t = true ↔
    ∃ u, t = "&#".toList ++ u ∧ digitLimit < (u.takeWhile Char.isDigit).length := by
  unfold isLongReference
  constructor
  · intro long
    split at long
    · next u found => exact ⟨u, dropPrefix?_eq_some_iff.mp found, of_decide_eq_true long⟩
    · cases long
  · rintro ⟨u, rfl, long⟩
    rw [dropPrefix?_eq_some_iff.mpr rfl]
    exact decide_eq_true long

theorem isLongReference_append (h : isLongReference t = true) (u : List Char) :
    isLongReference (t ++ u) = true := by
  obtain ⟨v, rfl, long⟩ := isLongReference_iff.mp h
  refine isLongReference_iff.mpr ⟨v ++ u, List.append_assoc _ _ _, Nat.lt_of_lt_of_le long ?_⟩
  rw [List.takeWhile_append]
  split
  · next all =>
      rw [all, List.length_append]
      exact Nat.le_add_right _ _
  · exact Nat.le_refl _

theorem hasLongReference_iff :
    hasLongReference t = true ↔ ∃ place, place <:+ t ∧ isLongReference place = true := by
  induction t with
  | nil => simp [hasLongReference, isLongReference, dropPrefix?]
  | cons c t ih => simp [hasLongReference, ih, List.suffix_cons_iff, or_and_right, exists_or]

/-- A part of a text with a long reference in it makes the text refused. -/
theorem holdsRefused_of_infix {value : List Char} (long : hasLongReference value = true)
    (inside : value <:+: t) : HoldsRefused t .longReference := by
  obtain ⟨place, ⟨before, rfl⟩, begins⟩ := hasLongReference_iff.mp long
  obtain ⟨first, last, rfl⟩ := inside
  refine ⟨place ++ last, ⟨first ++ before, by simp⟩, .longNumber ?_⟩
  exact isLongReference_append begins last

/-! ## Tags -/

theorem skipTagGap_suffix (t : List Char) : skipTagGap t <:+ t := by
  induction t with
  | nil => exact List.suffix_refl []
  | cons c t ih =>
      rw [skipTagGap]
      split
      · exact ih.trans (List.suffix_cons c t)
      · exact List.suffix_refl _

/-- Where several equal signs stand before a text, the last of them stands right before it. -/
theorem equalSign_suffix (some : t.dropWhile (· == '=') ≠ t) :
    '=' :: t.dropWhile (· == '=') <:+ t := by
  induction t with
  | nil => exact absurd rfl some
  | cons c t ih =>
      rw [List.dropWhile_cons] at some ⊢
      split at some
      · next isMark =>
          obtain rfl : c = '=' := by simpa using isMark
          rw [if_pos isMark]
          by_cases more : t.dropWhile (· == '=') = t
          · exact more.symm ▸ List.suffix_refl _
          · exact (ih more).trans (List.suffix_cons '=' t)
      · exact absurd rfl some

/-- A value behind equal signs without a blank in between begins right behind the last of them. -/
theorem equalSign_value_suffix {value : List Char}
    (begins : (t.dropWhile (· == '=')).dropWhile isWhite = value)
    (together : ¬ value.length < (t.dropWhile (· == '=')).length)
    (some : t.dropWhile (· == '=') ≠ t) : '=' :: value <:+ t := by
  have behind : value <:+ t.dropWhile (· == '=') := begins ▸ List.dropWhile_suffix isWhite
  rw [behind.eq_of_length_le (Nat.not_lt.mp together)]
  exact equalSign_suffix some

/-- The value of an attribute is a part of the text, and what is left is a suffix of it. -/
theorem readValue?_inside {value : List Char} (h : readValue? t = some (value, rest)) :
    value <:+: t ∧ rest <:+ t := by
  have marks : t.dropWhile isWhite <:+ t := List.dropWhile_suffix _
  have behind := (List.dropWhile_suffix (· == '=')).trans marks
  have begins := (List.dropWhile_suffix isWhite).trans behind
  have unquoted {u : List Char} (inside : u <:+ t) :
      (u.takeWhile fun c => !(c == '>' || isWhite c)) <:+: t ∧
        (u.dropWhile fun c => !(c == '>' || isWhite c)) <:+ t :=
    ⟨(List.takeWhile_prefix _).isInfix.trans inside.isInfix, (List.dropWhile_suffix _).trans inside⟩
  unfold readValue? at h
  dsimp only at h
  split at h
  · cases h
  · next some =>
      split at h
      · cases h
        exact ⟨List.nil_infix, List.nil_suffix⟩
      · next q u starts =>
          rw [starts] at begins h
          split at h
          · have inside := (List.suffix_cons q u).trans begins
            split at h
            · next c rest' closes =>
                cases h
                have quoted : c :: rest <:+ u := closes ▸ List.dropWhile_suffix _
                exact ⟨(List.takeWhile_prefix _).isInfix.trans inside.isInfix,
                  (List.suffix_cons c rest).trans (quoted.trans inside)⟩
            · split at h
              · cases h
                exact ⟨List.nil_infix, begins⟩
              · next together =>
                  split at h
                  · cases h
                    have marked : '=' :: (q :: u) <:+ t := by
                      refine (equalSign_value_suffix starts together fun none => some ?_).trans marks
                      rw [none, Nat.sub_self]
                    have whole := (List.takeWhile_prefix (l := q :: u)
                      fun c => !(c == '>' || isWhite c))
                    exact ⟨((List.prefix_cons_inj '=').mpr whole).isInfix.trans marked.isInfix,
                      (unquoted begins).2⟩
                  · cases h
          · cases h
            exact unquoted begins

theorem readAttribute?_inside {before : Char} {value : List Char}
    (h : readAttribute? before t = some (value, rest)) : value <:+: t ∧ rest <:+ t := by
  unfold readAttribute? at h
  split at h
  · cases h
  · next c u =>
      split at h
      · cases h
      · have name := (List.dropWhile_suffix fun d => !(isWhite d || d == '/' || d == '=' || d == '>')
          ).trans (List.suffix_cons c u)
        cases h
        cases read : readValue? (u.dropWhile fun d => !(isWhite d || d == '/' || d == '=' || d == '>')) with
        | none => exact ⟨List.nil_infix, (skipTagGap_suffix _).trans name⟩
        | some parts =>
            obtain ⟨inside, behind⟩ := readValue?_inside read
            exact ⟨inside.trans name.isInfix, (skipTagGap_suffix _).trans (behind.trans name)⟩

theorem readAttributes_inside (before : Char) (t : List Char) :
    (∀ value ∈ (readAttributes before t).1, value <:+: t) ∧ (readAttributes before t).2 <:+ t := by
  fun_induction readAttributes before t with
  | case1 before t value rest read _ others ih =>
      obtain ⟨own, behind⟩ := readAttribute?_inside read
      exact ⟨List.forall_mem_cons.mpr
        ⟨own, fun value member => (ih.1 value member).trans behind.isInfix⟩, ih.2.trans behind⟩
  | case2 before t => exact ⟨nofun, List.suffix_refl t⟩
  | case3 before t => exact ⟨nofun, List.suffix_refl t⟩

/-- A construct that ends leaves a suffix of the text. -/
def Construct.Leaves (t : List Char) : Construct → Prop
  | .read _ rest => rest <:+ t
  | .unfinished => True

/-- A tag is unfinished, or it ends and leaves a suffix of the text, unless one of its values, which
    are parts of the text, holds a long reference. -/
theorem readOpening_cases (t : List Char) : readOpening t = .ok .unfinished ∨
    ∃ (values : List (List Char)) (found : List Event) (rest : List Char),
      (∀ value ∈ values, value <:+: t) ∧ rest <:+ t ∧
      readOpening t =
        if values.any hasLongReference then .error .longReference else .ok (.read found rest) := by
  have name := (List.dropWhile_suffix isTagChar).trans (List.drop_suffix 1 t)
  have gap := (skipTagGap_suffix _).trans name
  unfold readOpening
  dsimp only
  generalize skipTagGap _ = u at gap
  generalize lastPassed _ _ u = before
  obtain ⟨inside, behind⟩ := readAttributes_inside before u
  generalize readAttributes before u = attributes at inside behind
  have values : ∀ value ∈ attributes.1, value <:+: t :=
    fun value member => (inside value member).trans gap.isInfix
  have left := behind.trans gap
  split
  · exact .inl rfl
  · next rest ends =>
      exact .inr ⟨_, _, _, values, (List.suffix_cons '>' rest).trans (ends ▸ left), rfl⟩
  · next rest ends =>
      exact .inr ⟨_, _, _, values,
        ((List.drop_suffix 1 rest).trans (List.suffix_cons '/' rest)).trans (ends ▸ left), rfl⟩
  · next c rest _ _ ends =>
      split
      · exact .inl rfl
      · exact .inr ⟨_, _, _, values, ends ▸ left, rfl⟩

theorem readOpening_leaves {c : Construct} (h : readOpening t = .ok c) : c.Leaves t := by
  rcases readOpening_cases t with same | ⟨values, found, rest, _, leaves, same⟩
  · rw [same] at h
    exact Except.ok.inj h ▸ trivial
  · rw [same] at h
    split at h
    · cases h
    · exact Except.ok.inj h ▸ leaves

theorem readOpening_error {cause : Rejection} (h : readOpening t = .error cause) :
    HoldsRefused t cause := by
  rcases readOpening_cases t with same | ⟨values, found, rest, inside, _, same⟩
  · rw [same] at h
    cases h
  · rw [same] at h
    split at h
    · next long =>
        obtain ⟨value, member, holds⟩ := List.any_eq_true.mp long
        exact Except.error.inj h ▸ holdsRefused_of_infix holds (inside value member)
    · cases h

theorem behindBracket?_suffix (h : behindBracket? t = some rest) : rest <:+ t :=
  dropThrough?_suffix h

theorem plainClosing?_suffix {name : List Char} (h : plainClosing? t = some (name, rest)) :
    rest <:+ t := by
  have inside := (List.dropWhile_suffix isWhite).trans (List.drop_suffix 2 t)
  unfold plainClosing? at h
  split at h
  · cases h
  · next c u begins =>
      split at h
      · cases h
      · split at h
        · next rest' ends =>
            obtain ⟨_, rfl⟩ := Prod.mk.inj (Option.some.inj h)
            have behind := (List.dropWhile_suffix isWhite).trans (List.dropWhile_suffix isClosingChar (l := u))
            rw [ends] at behind
            exact (List.suffix_cons '>' rest').trans
              (behind.trans ((List.suffix_cons c u).trans (begins ▸ inside)))
        · cases h

theorem readClosing_leaves (t : List Char) : (readClosing t).Leaves t := by
  unfold readClosing
  split
  · trivial
  · next rest found =>
      have bracket : rest <:+ t := (behindBracket?_suffix found).trans (List.drop_suffix 1 t)
      split
      · next name behind closing => exact plainClosing?_suffix closing
      · split
        · exact bracket
        · split
          · exact bracket
          · exact bracket
        · trivial

/-! ## Hidden markup -/

/-- The rest behind blanks and a bracket. -/
theorem suffix_of_blanks {c : Char} (h : t.dropWhile isWhite = c :: rest) : rest <:+ t :=
  (List.suffix_cons c rest).trans (h ▸ List.dropWhile_suffix isWhite)

theorem commentEnd?_suffix (h : commentEnd? t = some rest) : rest <:+ t := by
  unfold commentEnd? at h
  split at h
  · next u =>
      split at h
      · next rest' ends =>
          obtain rfl := Option.some.inj h
          exact (suffix_of_blanks ends).trans ((List.suffix_cons '-' u).trans (List.suffix_cons '-' _))
      · cases h
  · cases h

theorem sectionEnd?_suffix {double : Bool} (h : sectionEnd? double t = some rest) : rest <:+ t := by
  unfold sectionEnd? at h
  split at h
  · next u =>
      refine List.IsSuffix.trans ?_ (List.suffix_cons ']' u)
      split at h
      · next rest' ends =>
          split at h
          · cases h
          · exact Option.some.inj h ▸ suffix_of_blanks ends
      · next v ends =>
          refine List.IsSuffix.trans ?_ (suffix_of_blanks ends)
          split at h
          · next rest' ends' =>
              split at h
              · exact Option.some.inj h ▸ suffix_of_blanks ends'
              · cases h
          · cases h
      · cases h
  · cases h

theorem hiddenUpTo_leaves {found : Option (List Char)} (h : ∀ rest, found = some rest → rest <:+ t) :
    (hiddenUpTo found).Leaves t := by
  cases found with
  | none => trivial
  | some rest => exact h rest rfl

theorem readSection_leaves {c : Construct} (h : readSection t = .ok c) : c.Leaves t := by
  have behind {double : Bool} {content rest : List Char}
      (found : splitAt? (sectionEnd? double) (t.drop 3) = some (content, rest)) : rest <:+ t :=
    (splitAt?_suffix sectionEnd?_suffix found).trans (List.drop_suffix 3 t)
  unfold readSection at h
  dsimp only at h
  split at h
  · exact Except.ok.inj h ▸ trivial
  · split at h
    · cases h
    · split at h
      · exact Except.ok.inj h ▸ trivial
      · split at h
        · obtain rfl := Except.ok.inj h
          split
          · next content rest found => exact behind found
          · trivial
        · split at h
          · obtain rfl := Except.ok.inj h
            split
            · next content rest found => exact behind found
            · trivial
          · cases h

theorem readDeclaration_leaves {c : Construct} (h : readDeclaration t = .ok c) : c.Leaves t := by
  unfold readDeclaration at h
  split at h
  · exact readSection_leaves h
  · have inside := List.drop_suffix 2 t
    split at h
    · refine Except.ok.inj h ▸ hiddenUpTo_leaves fun rest found => ?_
      exact (behindBracket?_suffix found).trans ((List.drop_suffix 7 _).trans inside)
    · refine Except.ok.inj h ▸ hiddenUpTo_leaves fun rest found => ?_
      exact (behindBracket?_suffix found).trans inside

theorem readBracket?_leaves {c : Construct} (h : readBracket? t = .ok (some c)) : c.Leaves t := by
  unfold readBracket? at h
  split at h
  · next d u =>
      have inside : u <:+ '<' :: d :: u := (List.suffix_cons d u).trans (List.suffix_cons '<' _)
      split at h
      · cases read : readOpening ('<' :: d :: u) with
        | error e =>
            rw [read] at h
            cases h
        | ok c' =>
            rw [read] at h
            exact Option.some.inj (Except.ok.inj h) ▸ readOpening_leaves read
      · split at h
        · exact Option.some.inj (Except.ok.inj h) ▸ readClosing_leaves _
        · split at h
          · split at h
            · next v comment =>
                refine Option.some.inj (Except.ok.inj h) ▸ hiddenUpTo_leaves fun rest found => ?_
                obtain ⟨⟨before, behind⟩, ends, rfl⟩ := Option.map_eq_some_iff.mp found
                exact (splitAt?_suffix commentEnd?_suffix ends).trans
                  ((dropPrefix?_suffix comment).trans inside)
            · cases read : readDeclaration ('<' :: d :: u) with
              | error e =>
                  rw [read] at h
                  cases h
              | ok c' =>
                  rw [read] at h
                  exact Option.some.inj (Except.ok.inj h) ▸ readDeclaration_leaves read
          · split at h
            · refine Option.some.inj (Except.ok.inj h) ▸ hiddenUpTo_leaves fun rest found => ?_
              exact (behindBracket?_suffix found).trans inside
            · cases h
  · cases h

/-- Of all that begins with a bracket, only a tag and a section are refused. -/
theorem readBracket?_error {cause : Rejection} (h : readBracket? t = .error cause) :
    HoldsRefused t cause := by
  unfold readBracket? at h
  split at h
  · next d u =>
      split at h
      · cases read : readOpening ('<' :: d :: u) with
        | error e =>
            rw [read] at h
            exact Except.error.inj h ▸ readOpening_error read
        | ok c =>
            rw [read] at h
            cases h
      · split at h
        · cases h
        · split at h
          · next isMark =>
              obtain rfl : d = '!' := by simpa using isMark
              split at h
              · cases h
              · have failed : readDeclaration ('<' :: '!' :: u) = .error cause := by
                  cases read : readDeclaration ('<' :: '!' :: u) with
                  | error e =>
                      rw [read] at h
                      cases h
                      rfl
                  | ok c =>
                      rw [read] at h
                      cases h
                unfold readDeclaration at failed
                split at failed
                · next v begins =>
                    obtain rfl : u = '[' :: v := begins
                    exact Refuses.holds (.badKeyword ⟨v, rfl⟩ failed)
                · split at failed <;> cases failed
          · split at h <;> cases h
  · cases h

/-! ## Moves -/

/-- A move leaves a suffix of the text. -/
def Move.Leaves (t : List Char) : Move → Prop
  | .go _ rest _ | .stop _ rest => rest <:+ t

theorem takeForText_leaves (t : List Char) : (takeForText t).Leaves t := by
  have inside := List.drop_suffix 1 t
  unfold takeForText
  dsimp only
  split
  · next rest found => exact (behindBracket?_suffix found).trans inside
  · split
    · exact inside
    · exact (List.dropWhile_suffix _).trans inside

theorem dropSemicolon_suffix (t : List Char) : dropSemicolon t <:+ t := by
  unfold dropSemicolon
  split
  · exact List.suffix_cons _ _
  · exact List.suffix_refl _

/-- A number that is read leaves a suffix of the text. If it has no character, its decimal digits
    are too many. -/
theorem numericReference?_spec {character : Option Char}
    (h : numericReference? t = some (character, rest)) :
    rest <:+ t ∧ (character = none → digitLimit < (t.takeWhile Char.isDigit).length) := by
  have behind (isDigit : Char → Bool) {u v : List Char} {d : Char}
      (ends : u.dropWhile isDigit = d :: v) : dropSemicolon (d :: v) <:+ u :=
    (dropSemicolon_suffix _).trans (ends ▸ List.dropWhile_suffix isDigit)
  unfold numericReference? at h
  dsimp only at h
  split at h
  · cases h
  · next d u =>
      split at h
      · split at h
        · cases h
        · next ends =>
            split at h
            · cases h
            · cases h
              exact ⟨(behind isHexDigit ends).trans (List.suffix_cons d u), by simp⟩
      · split at h
        · cases h
        · next ends =>
            split at h
            · cases h
            · cases h
              exact ⟨behind Char.isDigit ends, by simp⟩

theorem referenceName?_suffix {name : List Char} (h : referenceName? t = some (name, rest)) :
    rest <:+ t := by
  unfold referenceName? at h
  split at h
  · cases h
  · next c u =>
      split at h
      · cases h
      · dsimp only at h
        split at h
        · next d v ends =>
            obtain ⟨_, rfl⟩ := Prod.mk.inj (Option.some.inj h)
            exact ends ▸ List.dropWhile_suffix isNameChar
        · split at h
          · cases h
          · obtain ⟨_, rfl⟩ := Prod.mk.inj (Option.some.inj h)
            exact List.drop_suffix _ _

theorem rawTextEnd?_suffix {name : List Char} (h : rawTextEnd? name t = some rest) : rest <:+ t := by
  unfold rawTextEnd? at h
  split at h
  · next u =>
      split at h
      · next v word =>
          split at h
          · next rest' ends =>
              obtain rfl := Option.some.inj h
              exact (suffix_of_blanks ends).trans ((dropWord?_suffix word).trans
                ((List.dropWhile_suffix isWhite).trans
                  ((List.suffix_cons '/' u).trans (List.suffix_cons '<' _))))
          · cases h
      · cases h
  · cases h

theorem moveInRawText_leaves (name t : List Char) : (moveInRawText name t).Leaves t := by
  unfold moveInRawText
  split
  · exact List.suffix_refl t
  · next before rest found =>
      have behind := splitAt?_suffix rawTextEnd?_suffix found
      dsimp only
      split
      · exact behind
      · exact behind

theorem moveAtReference_leaves {last : Bool} {m : Move} (h : moveAtReference last t = .ok m) :
    m.Leaves t := by
  have inside := List.drop_suffix 1 t
  unfold moveAtReference at h
  split at h
  · exact Except.ok.inj h ▸ List.suffix_refl t
  · next u begins =>
      have behind : u <:+ t := (List.suffix_cons '#' u).trans (begins ▸ inside)
      split at h
      · next c rest found =>
          exact Except.ok.inj h ▸ (numericReference?_spec found).1.trans behind
      · cases h
      · obtain rfl := Except.ok.inj h
        split
        · exact behind
        · exact List.suffix_refl t
  · next c u _ begins =>
      rw [begins] at inside
      split at h
      · next name rest found =>
          exact Except.ok.inj h ▸
            (dropSemicolon_suffix rest).trans ((referenceName?_suffix found).trans inside)
      · obtain rfl := Except.ok.inj h
        split
        · refine show _ <:+ t from ?_
          split
          · exact inside
          · exact List.suffix_refl t
        · exact inside

/-- Of all that begins with an ampersand, only a long reference is refused. -/
theorem moveAtReference_error {last : Bool} {cause : Rejection}
    (h : moveAtReference last ('&' :: t) = .error cause) : HoldsRefused ('&' :: t) cause := by
  unfold moveAtReference at h
  split at h
  · cases h
  · next u begins =>
      obtain rfl : t = '#' :: u := begins
      split at h
      · cases h
      · next rest found =>
          have long := (numericReference?_spec found).2 rfl
          exact Except.error.inj h ▸
            (Refuses.longNumber (isLongReference_iff.mpr ⟨u, rfl, long⟩)).holds
      · cases h
  · split at h <;> cases h

theorem moveAtBracket_leaves {last : Bool} {m : Move} (h : moveAtBracket last t = .ok m) :
    m.Leaves t := by
  unfold moveAtBracket at h
  split at h
  · cases h
  · next found rest read => exact Except.ok.inj h ▸ readBracket?_leaves read
  · obtain rfl := Except.ok.inj h
    split
    · exact takeForText_leaves t
    · exact List.suffix_refl t
  · obtain rfl := Except.ok.inj h
    split
    · exact List.suffix_refl t
    · exact List.drop_suffix 1 t

theorem moveAtBracket_error {last : Bool} {cause : Rejection}
    (h : moveAtBracket last t = .error cause) : HoldsRefused t cause := by
  unfold moveAtBracket at h
  split at h
  · next e failed => exact Except.error.inj h ▸ readBracket?_error failed
  · cases h
  · cases h
  · cases h

theorem move_leaves {last : Bool} {mode : Mode} {m : Move} (h : move last mode t = .ok m) :
    m.Leaves t := by
  unfold move at h
  split at h
  · exact Except.ok.inj h ▸ moveInRawText_leaves _ _
  · exact Except.ok.inj h ▸ List.suffix_refl []
  · next c u =>
      split at h
      · exact moveAtBracket_leaves h
      · split at h
        · exact moveAtReference_leaves h
        · exact Except.ok.inj h ▸ List.dropWhile_suffix _

theorem move_error {last : Bool} {mode : Mode} {cause : Rejection}
    (h : move last mode t = .error cause) : HoldsRefused t cause := by
  unfold move at h
  split at h
  · cases h
  · cases h
  · next c u =>
      split at h
      · exact moveAtBracket_error h
      · split at h
        · next isMark =>
            obtain rfl : c = '&' := by simpa using isMark
            exact moveAtReference_error h
        · cases h

/-! ## Passes -/

theorem pass_leaves {last : Bool} {mode next : Mode} {found : List Event}
    (h : pass last mode t = .ok (found, rest, next)) : rest <:+ t := by
  fun_induction pass last mode t generalizing found rest next with
  | case1 mode t e failed => cases h
  | case2 mode t found' rest' moved =>
      cases h
      exact move_leaves moved
  | case3 mode t found' rest' next' moved _ e failed ih => cases h
  | case4 mode t found' rest' next' moved _ more rest'' mode' passed ih =>
      cases h
      exact (ih passed).trans (move_leaves moved)
  | case5 mode t found' rest' next' moved _ =>
      cases h
      exact move_leaves moved

theorem pass_error {last : Bool} {mode : Mode} {cause : Rejection}
    (h : pass last mode t = .error cause) : HoldsRefused t cause := by
  fun_induction pass last mode t with
  | case1 mode t e failed =>
      cases h
      exact move_error failed
  | case2 mode t found rest moved => cases h
  | case3 mode t found rest next moved _ e failed ih =>
      cases h
      exact (ih failed).of_suffix (move_leaves moved)
  | case4 mode t found rest next moved _ more rest' mode' passed ih => cases h
  | case5 mode t found rest next moved _ => cases h

theorem events_error {cause : Rejection} (h : events t = .error cause) : HoldsRefused t cause := by
  unfold events at h
  split at h
  · next e failed => exact Except.error.inj h ▸ pass_error failed
  · next first rest mode passed =>
      split at h
      · next e failed => exact Except.error.inj h ▸ (pass_error failed).of_suffix (pass_leaves passed)
      · split at h <;> cases h

/-- The plain text of raw HTML is given unless something that is refused stands outside its denied
    elements. -/
theorem plainText_error {lineBreak html : List Char} {cause : Rejection}
    (h : plainText lineBreak html = .error cause) :
    HoldsRefused (joinLines [' '] (removeDenied html)) cause := by
  unfold plainText at h
  split at h
  · cases h
  · split at h
    · next e failed => exact Except.error.inj h ▸ events_error failed
    · cases h

end Html

end Gemtext
