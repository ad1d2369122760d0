import Mathlib.Data.List.Basic
import Gemtext.Html.PlainText
import Gemtext.Proofs.RefusedMarkup

/-! # Removing denied pairs

A tag is read up to its closing bracket, and what stands behind has no influence on how it is read.
So what is left of a text when its denied pairs are removed holds no further pair, as long as no
pair is removed behind an angle bracket that is still open. A pair inside such a bracket may leave
parts of a tag side by side that were none before.
-/

namespace Gemtext

namespace Text

theorem splitAt?_eq_none {found? : List Char → Option (List Char)} {t : List Char} :
    splitAt? found? t = none ↔ ∀ place, place <:+ t → found? place = none := by
  induction t with
  | nil => simp [splitAt?, List.suffix_nil]
  | cons c t ih =>
      rw [splitAt?]
      constructor
      · intro missed place inside
        split at missed
        · cases missed
        · next first =>
            rcases List.suffix_cons_iff.mp inside with rfl | behind
            · exact first
            · exact ih.mp (Option.map_eq_none_iff.mp missed) place behind
      · intro missed
        rw [missed _ (List.suffix_refl _)]
        exact Option.map_eq_none_iff.mpr
          (ih.mpr fun place inside => missed place (inside.trans (List.suffix_cons c t)))

/-! ## Text up to a bracket -/

/-- The rest of a text behind a word, whose characters match those of the text one by one. -/
def dropMatched? (same : Char → Char → Bool) : (word : List Char) → List Char → Option (List Char)
  | [], t => some t
  | _ :: _, [] => none
  | w :: ws, c :: t => if same w c then dropMatched? same ws t else none

theorem dropWord?_eq_dropMatched? (word t : List Char) :
    dropWord? word t = dropMatched? sameLetter word t := by
  fun_induction dropWord? word t <;> simp_all [dropMatched?]

theorem dropMatched?_suffix {same : Char → Char → Bool} {word t rest : List Char}
    (h : dropMatched? same word t = some rest) : rest <:+ t := by
  fun_induction dropMatched? same word t with
  | case1 t => exact Option.some.inj h ▸ List.suffix_refl t
  | case2 | case4 => cases h
  | case3 w ws c t _ ih => exact (ih h).trans (List.suffix_cons c t)

section Bracket

variable {t : List Char} (closed : '>' ∈ t) (v : List Char)

include closed

theorem dropWhile_append_of_bracket {p : Char → Bool} (stops : p '>' = false) :
    (t ++ v).dropWhile p = t.dropWhile p ++ v ∧ '>' ∈ t.dropWhile p := by
  induction t with
  | nil => cases closed
  | cons c t ih =>
      rw [List.cons_append, List.dropWhile_cons, List.dropWhile_cons]
      split
      · next skipped =>
          refine ih ((List.mem_cons.mp closed).resolve_left ?_)
          rintro rfl
          exact Bool.false_ne_true (stops.symm.trans skipped)
      · exact ⟨rfl, closed⟩

theorem dropMatched?_append_of_bracket {same : Char → Char → Bool} {word : List Char}
    (stops : ∀ w ∈ word, same w '>' = false) :
    dropMatched? same word (t ++ v) = (dropMatched? same word t).map (· ++ v) ∧
      ∀ rest, dropMatched? same word t = some rest → '>' ∈ rest := by
  induction word generalizing t with
  | nil =>
      refine ⟨rfl, ?_⟩
      rintro _ ⟨rfl⟩
      exact closed
  | cons w ws ih =>
      obtain ⟨stop, stops⟩ := List.forall_mem_cons.mp stops
      cases t with
      | nil => cases closed
      | cons c t =>
          rw [List.cons_append, dropMatched?, dropMatched?]
          split
          · next matched =>
              refine ih ((List.mem_cons.mp closed).resolve_left ?_) stops
              rintro rfl
              exact Bool.false_ne_true (stop.symm.trans matched)
          · exact ⟨rfl, nofun⟩

end Bracket

end Text

namespace Html

open Text

variable {name t u v rest : List Char}

/-! ## Tags -/

/-- A recogniser of tags. A tag goes from an opening to a closing bracket, and what stands behind the
    first closing bracket has no influence on whether it is recognised and as what. -/
structure ReadsTag {α : Type} (found? : List Char → Option (α × List Char)) : Prop where
  begins : ∀ {t a rest}, found? t = some (a, rest) → ∃ u, t = '<' :: u
  ends : ∀ {t a rest}, found? t = some (a, rest) → '>' :: rest <:+ t
  append : ∀ {t} v, '>' ∈ t → found? (t ++ v) = (found? t).map fun p => (p.1, p.2 ++ v)

/-- A tag that was read is read again in front of any other text. -/
theorem ReadsTag.exists_tag {α : Type} {found? : List Char → Option (α × List Char)}
    (reads : ReadsTag found?) {a : α} (found : found? t = some (a, rest)) :
    ∃ u, t = '<' :: (u ++ '>' :: rest) ∧ '>' ∉ u ∧
      ∀ v, found? ('<' :: (u ++ '>' :: v)) = some (a, v) := by
  obtain ⟨inside, rfl⟩ := reads.begins found
  have closed : '>' ∈ inside :=
    (List.mem_cons.mp ((reads.ends found).subset List.mem_cons_self)).resolve_left (by decide)
  obtain ⟨u, behind, rfl, first⟩ := List.eq_append_cons_of_mem closed
  have extended (v : List Char) : found? ('<' :: (u ++ '>' :: v)) =
      (found? ('<' :: (u ++ ['>']))).map fun p => (p.1, p.2 ++ v) := by
    rw [← reads.append v (by simp), List.cons_append, List.append_assoc]
    rfl
  obtain ⟨⟨_, left⟩, alone, same⟩ := Option.map_eq_some_iff.mp ((extended behind).symm.trans found)
  obtain ⟨rfl, rfl⟩ := Prod.mk.inj same
  obtain ⟨x, tag⟩ := reads.ends alone
  have outside : '>' ∉ '<' :: u := List.not_mem_cons_of_ne_of_not_mem (by decide) first
  obtain ⟨_, _, rfl⟩ := (List.append_cons_inj_of_notMem outside List.not_mem_nil).mp tag.symm
  refine ⟨u, rfl, first, fun v => ?_⟩
  rw [extended, alone]
  rfl

/-- The names of denied elements hold no character that a bracket might be taken for. -/
theorem deniedNames_no_bracket :
    ∀ d ∈ deniedNames, ∀ c ∈ d.toList, c ≠ '>' ∧ sameLetter c '>' = false := by
  have each : ∀ d ∈ deniedNames, d.toList.all (fun c => c != '>' && !sameLetter c '>') = true := by
    decide +kernel
  intro d member c inside
  simpa using List.all_eq_true.mp (each d member) c inside

theorem dropSame?_eq_dropMatched? (name t : List Char) :
    dropSame? name t = dropMatched? sameLower name t := by
  fun_induction dropSame? name t <;> simp_all [dropMatched?]

/-- A name is read off the text in front of the rest, character by character. -/
theorem readName?_eq_some {word : List Char} (found : readName? word t = some (name, rest)) :
    t = name ++ rest ∧ ∀ a ∈ name, ∃ w ∈ word, sameLetter w a = true := by
  have matched {word t rest : List Char} (found : dropWord? word t = some rest) :
      t = t.take word.length ++ rest ∧
        ∀ a ∈ t.take word.length, ∃ w ∈ word, sameLetter w a = true := by
    induction word generalizing t with
    | nil =>
        cases found
        exact ⟨rfl, nofun⟩
    | cons w ws ih =>
        cases t with
        | nil => cases found
        | cons c t =>
            rw [dropWord?] at found
            split at found
            · next same =>
                obtain ⟨whole, each⟩ := ih found
                refine ⟨congrArg (c :: ·) whole, List.forall_mem_cons.mpr ⟨⟨w, by simp, same⟩, ?_⟩⟩
                intro a member
                obtain ⟨w', inside, same'⟩ := each a member
                exact ⟨w', List.mem_cons_of_mem w inside, same'⟩
            · cases found
  unfold readName? at found
  split at found
  · next behind word =>
      split at found
      · obtain ⟨rfl, rfl⟩ := Prod.mk.inj (Option.some.inj found)
        exact matched word
      · cases found
  · cases found

theorem readName?_append_of_bracket {word : List Char} (closed : '>' ∈ t)
    (stops : ∀ w ∈ word, sameLetter w '>' = false) (v : List Char) :
    readName? word (t ++ v) = (readName? word t).map fun p => (p.1, p.2 ++ v) := by
  obtain ⟨extended, closes⟩ := dropMatched?_append_of_bracket closed v stops
  rw [← dropWord?_eq_dropMatched?, ← dropWord?_eq_dropMatched?] at extended
  unfold readName?
  rw [extended]
  cases found : dropWord? word t with
  | none => rfl
  | some rest =>
      have long : word.length ≤ t.length := dropWord?_length found ▸ Nat.le_add_right _ _
      rw [dropWord?_eq_dropMatched?] at found
      obtain ⟨c, rest, rfl⟩ := List.exists_cons_of_ne_nil (List.ne_nil_of_mem (closes rest found))
      simp only [Option.map_some, List.cons_append, nameEnds, List.take_append_of_le_length long]
      by_cases word : isWordChar c = true <;> simp [word]

theorem readNames?_append_of_bracket {names : List String} (closed : '>' ∈ t)
    (stops : ∀ d ∈ names, ∀ c ∈ d.toList, sameLetter c '>' = false) (v : List Char) :
    names.findSome? (fun d => readName? d.toList (t ++ v)) =
      (names.findSome? fun d => readName? d.toList t).map fun p => (p.1, p.2 ++ v) := by
  induction names with
  | nil => rfl
  | cons d names ih =>
      obtain ⟨first, others⟩ := List.forall_mem_cons.mp stops
      rw [List.findSome?_cons, List.findSome?_cons, readName?_append_of_bracket closed first]
      cases readName? d.toList t with
      | none => exact ih others
      | some found => rfl

/-- What is left behind a name that was read off a text with a bracket still holds the bracket. -/
theorem bracket_mem_of_readName? {word : List Char} (closed : '>' ∈ t)
    (stops : ∀ w ∈ word, sameLetter w '>' = false)
    (found : readName? word t = some (name, rest)) : '>' ∈ rest := by
  obtain ⟨rfl, matched⟩ := readName?_eq_some found
  refine (List.mem_append.mp closed).resolve_left fun inside => ?_
  obtain ⟨w, member, same⟩ := matched _ inside
  exact Bool.false_ne_true ((stops w member).symm.trans same)

theorem deniedOpening?_readsTag : ReadsTag deniedOpening? where
  begins := by
    intro t name rest found
    unfold deniedOpening? at found
    split at found
    · exact ⟨_, rfl⟩
    · cases found
  ends := by
    intro t name rest found
    unfold deniedOpening? at found
    split at found
    · next t =>
        split at found
        · next written behind named =>
            obtain ⟨d, _, word⟩ := List.exists_of_findSome?_eq_some named
            have inside : behind <:+ t.dropWhile isWhite :=
              (readName?_eq_some word).1 ▸ List.suffix_append _ _
            split at found
            · next c after left =>
                have first := List.head?_dropWhile_not (· != '>') behind
                rw [left] at first
                obtain rfl : c = '>' := by simpa using first
                obtain ⟨_, rfl⟩ := Prod.mk.inj (Option.some.inj found)
                refine List.IsSuffix.trans (left ▸ List.dropWhile_suffix _) (inside.trans ?_)
                exact (List.dropWhile_suffix _).trans (List.suffix_cons '<' t)
            · cases found
        · cases found
    · cases found
  append := by
    intro t v closed
    cases t with
    | nil => cases closed
    | cons c t =>
        by_cases opens : c = '<'
        · subst opens
          replace closed := (List.mem_cons.mp closed).resolve_left (by decide)
          obtain ⟨blanks, closed⟩ := dropWhile_append_of_bracket closed v (p := isWhite) (by decide)
          have stops := fun d member c inside => (deniedNames_no_bracket d member c inside).2
          rw [List.cons_append, deniedOpening?, deniedOpening?, blanks,
            readNames?_append_of_bracket closed stops]
          cases found : deniedNames.findSome? fun d => readName? d.toList (t.dropWhile isWhite) with
          | none => rfl
          | some named =>
              obtain ⟨name, behind⟩ := named
              obtain ⟨d, member, word⟩ := List.exists_of_findSome?_eq_some found
              have left := bracket_mem_of_readName? closed (stops d member) word
              obtain ⟨attributes, closes⟩ :=
                dropWhile_append_of_bracket left v (p := (· != '>')) (by decide)
              obtain ⟨c, after, ends⟩ := List.exists_cons_of_ne_nil (List.ne_nil_of_mem closes)
              simp only [Option.map_some, attributes, ends, List.cons_append]
        · simp [deniedOpening?, opens]

/-- A closing tag is read like this if its name holds nothing that a bracket is taken for. -/
theorem closing?_readsTag (stops : ∀ a ∈ name, sameLower a '>' = false) :
    ReadsTag fun t => (closing? name t).map ((), ·) where
  begins := by
    intro t u rest found
    obtain ⟨_, closes, _⟩ := Option.map_eq_some_iff.mp found
    unfold closing? at closes
    split at closes
    · exact ⟨_, rfl⟩
    · cases closes
  ends := by
    intro t u rest found
    obtain ⟨rest', closes, same⟩ := Option.map_eq_some_iff.mp found
    obtain ⟨_, rfl⟩ := Prod.mk.inj same
    unfold closing? at closes
    split at closes
    · next t =>
        split at closes
        · next u slash =>
            split at closes
            · next v named =>
                split at closes
                · next w bracket =>
                    obtain rfl := Option.some.inj closes
                    rw [dropSame?_eq_dropMatched?] at named
                    have behindName : '>' :: w <:+ v := bracket ▸ List.dropWhile_suffix isWhite
                    have behindSlash : v <:+ u :=
                      (dropMatched?_suffix named).trans (List.dropWhile_suffix isWhite)
                    refine (behindName.trans behindSlash).trans ?_
                    exact (suffix_of_blanks slash).trans (List.suffix_cons '<' t)
                · cases closes
            · cases closes
        · cases closes
    · cases closes
  append := by
    intro t v closed
    -- Blanks, the slash and the name are passed over one after another, each in front of the bracket.
    cases t with
    | nil => cases closed
    | cons c t =>
        by_cases opens : c = '<'
        · subst opens
          replace closed := (List.mem_cons.mp closed).resolve_left (by decide)
          obtain ⟨blanks, closed⟩ := dropWhile_append_of_bracket closed v (p := isWhite) (by decide)
          rw [List.cons_append, closing?, closing?, blanks]
          obtain ⟨c, u, begins⟩ := List.exists_cons_of_ne_nil (List.ne_nil_of_mem closed)
          rw [begins] at closed ⊢
          by_cases slash : c = '/'
          · subst slash
            replace closed := (List.mem_cons.mp closed).resolve_left (by decide)
            obtain ⟨blanks, closed⟩ := dropWhile_append_of_bracket closed v (p := isWhite) (by decide)
            obtain ⟨word, left⟩ := dropMatched?_append_of_bracket closed v stops
            rw [← dropSame?_eq_dropMatched?, ← dropSame?_eq_dropMatched?] at word
            simp only [List.cons_append, blanks, word]
            cases named : dropSame? name (u.dropWhile isWhite) with
            | none => rfl
            | some behind =>
                have closed := left behind (dropSame?_eq_dropMatched? _ _ ▸ named)
                obtain ⟨blanks, closed⟩ :=
                  dropWhile_append_of_bracket closed v (p := isWhite) (by decide)
                obtain ⟨c, w, ends⟩ := List.exists_cons_of_ne_nil (List.ne_nil_of_mem closed)
                simp only [Option.map_some, blanks, ends, List.cons_append]
                by_cases bracket : c = '>' <;> simp [bracket]
          · simp [slash]
        · simp [closing?, opens]

/-- The name in an opening tag of a denied element holds nothing that a bracket is taken for. -/
theorem deniedOpening?_no_bracket (found : deniedOpening? t = some (name, rest)) :
    ∀ a ∈ name, sameLower a '>' = false := by
  intro a member
  unfold deniedOpening? at found
  split at found
  · split at found
    · next written behind named =>
        obtain ⟨d, denied, word⟩ := List.exists_of_findSome?_eq_some named
        split at found
        · obtain ⟨rfl, _⟩ := Prod.mk.inj (Option.some.inj found)
          obtain ⟨w, inside, same⟩ := (readName?_eq_some word).2 a member
          have plain := (deniedNames_no_bracket d denied w inside).1
          simp only [sameLetter, Bool.or_eq_true, Bool.and_eq_true, beq_iff_eq] at same
          have bracket : lowerLetter '>' = '>' := by decide
          rw [sameLower, bracket, beq_eq_false_iff_ne]
          rcases same with (lowered | ⟨_, rfl⟩) | ⟨_, rfl⟩
          · exact lowered ▸ plain
          · decide
          · decide
        · cases found
    · cases found
  · cases found

/-! ## Pairs -/

/-- Where a text begins with a pair, the pair is an opening tag and a closing tag behind it. -/
theorem deniedPair?_eq_some (found : deniedPair? t = some rest) :
    ∃ name behind place, deniedOpening? t = some (name, behind) ∧ place <:+ behind ∧
      closing? name place = some rest := by
  unfold deniedPair? at found
  split at found
  · next name behind opens =>
      obtain ⟨⟨before, rest⟩, closes, rfl⟩ := Option.map_eq_some_iff.mp found
      obtain ⟨place, rfl, closed⟩ := splitAt?_eq_some closes
      exact ⟨name, _, place, opens, List.suffix_append before place, closed⟩
  · cases found

theorem deniedPair?_suffix (found : deniedPair? t = some rest) : rest <:+ t := by
  obtain ⟨name, behind, place, opens, inside, closes⟩ := deniedPair?_eq_some found
  have closing := closing?_readsTag (deniedOpening?_no_bracket opens)
  have first : behind <:+ t := (List.suffix_cons '>' behind).trans (deniedOpening?_readsTag.ends opens)
  have second : rest <:+ place := (List.suffix_cons '>' rest).trans
    (closing.ends (Option.map_eq_some_iff.mpr ⟨rest, closes, rfl⟩))
  exact second.trans (inside.trans first)

/-- A text begins with no pair if nothing behind its opening tag closes it. -/
theorem deniedPair?_eq_none (opens : deniedOpening? t = some (name, rest)) :
    deniedPair? t = none ↔ ∀ place, place <:+ rest → closing? name place = none := by
  rw [deniedPair?, opens, ← splitAt?_eq_none]
  exact Option.map_eq_none_iff

theorem removeDenied_pair (found : deniedPair? t = some rest) : removeDenied t = removeDenied rest := by
  cases t with
  | nil => cases found
  | cons c t =>
      rw [removeDenied]
      split
      · next rest' again => rw [Option.some.inj (again.symm.trans found)]
      · next none => cases none.symm.trans found

theorem removeDenied_kept {c : Char} (none : deniedPair? (c :: t) = none) :
    removeDenied (c :: t) = c :: removeDenied t := by
  rw [removeDenied]
  split
  · next rest found => cases none.symm.trans found
  · rfl

theorem deniedOpening?_of_ne {c : Char} (other : c ≠ '<') (t : List Char) :
    deniedOpening? (c :: t) = none := by
  simp [deniedOpening?, other]

theorem deniedPair?_of_not_opening {t : List Char} (plain : deniedOpening? t = none) :
    deniedPair? t = none := by
  rw [deniedPair?, plain]

theorem removeDenied_append_of_none {u : List Char}
    (none : ∀ c ∈ u, ∀ rest, deniedOpening? (c :: rest) = none) (t : List Char) :
    removeDenied (u ++ t) = u ++ removeDenied t := by
  induction u with
  | nil => rfl
  | cons c u ih =>
      obtain ⟨first, others⟩ := List.forall_mem_cons.mp none
      rw [List.cons_append, removeDenied_kept (deniedPair?_of_not_opening (first _)), ih others]
      rfl

/-- Without a bracket there is nothing to be removed. -/
theorem removeDenied_of_no_bracket (plain : '<' ∉ t) : removeDenied t = t := by
  have none : ∀ c ∈ t, ∀ rest, deniedOpening? (c :: rest) = none :=
    fun c member => deniedOpening?_of_ne fun same => plain (same ▸ member)
  simpa [removeDenied] using removeDenied_append_of_none none []

theorem removeDenied_length_le (t : List Char) : (removeDenied t).length ≤ t.length := by
  fun_induction removeDenied t with
  | case1 => exact Nat.le_refl _
  | case2 c t rest found ih => exact Nat.le_trans ih (Nat.le_of_lt (deniedPair?_length found))
  | case3 c t none ih => exact Nat.succ_le_succ ih

/-- Nothing is removed from a text exactly if it holds no pair. -/
theorem removeDenied_eq_self : removeDenied t = t ↔ splitAt? deniedPair? t = none := by
  rw [splitAt?_eq_none]
  constructor
  · intro same place inside
    fun_induction removeDenied t with
    | case1 => exact List.suffix_nil.mp inside ▸ rfl
    | case2 c t rest found ih =>
        have shorter := Nat.lt_of_le_of_lt (removeDenied_length_le rest) (deniedPair?_length found)
        exact absurd (congrArg List.length same) (Nat.ne_of_lt shorter)
    | case3 c t none ih =>
        rcases List.suffix_cons_iff.mp inside with rfl | behind
        · exact none
        · exact ih (List.cons.inj same).2 behind
  · intro none
    induction t with
    | nil => rw [removeDenied]
    | cons c t ih =>
        rw [removeDenied_kept (none _ (List.suffix_refl _)),
          ih fun place inside => none place (inside.trans (List.suffix_cons c t))]

/-! ## Pairs that are removed outside of tags -/

/-- Pairs are removed from a text only where no angle bracket is open in what was kept. `isOpen`
    tells whether one is open in front of the text. -/
inductive CutsApart : (isOpen : Bool) → List Char → Prop where
  | nil {isOpen : Bool} : CutsApart isOpen []
  | cut {t rest : List Char} : deniedPair? t = some rest → CutsApart false rest → CutsApart false t
  | keep {isOpen : Bool} {c : Char} {t : List Char} : deniedPair? (c :: t) = none →
      CutsApart (c == '<' || (isOpen && c != '>')) t → CutsApart isOpen (c :: t)

namespace CutsApart

variable {isOpen : Bool}

/-- Up to the bracket that closes an open tag, everything is kept. -/
theorem open_tag (apart : CutsApart true t) (left : removeDenied t = u ++ '>' :: v)
    (first : '>' ∉ u) : ∃ w, t = u ++ '>' :: w ∧ CutsApart false w ∧ removeDenied w = v := by
  generalize opened : true = isOpen at apart
  induction apart generalizing u with
  | nil =>
      rw [removeDenied] at left
      cases u <;> cases left
  | cut => cases opened
  | @keep isOpen c t none apart ih =>
      subst opened
      rw [removeDenied_kept none] at left
      cases u with
      | nil =>
          obtain ⟨rfl, rfl⟩ := List.cons.inj left
          exact ⟨t, rfl, by simpa using apart, rfl⟩
      | cons d u =>
          obtain ⟨rfl, behind⟩ := List.cons.inj left
          have stays : (c == '<' || (true && c != '>')) = true := by
            have other : c ≠ '>' := fun same => first (same ▸ List.mem_cons_self)
            simp [other]
          obtain ⟨w, rfl, closed, same⟩ :=
            ih behind (fun member => first (List.mem_cons_of_mem c member)) stays.symm
          exact ⟨w, rfl, closed, same⟩

/-- A tag that is read in what is kept, from a kept bracket on, is read in the text itself. -/
theorem read_tag {α : Type} {found? : List Char → Option (α × List Char)} (reads : ReadsTag found?)
    {c : Char} (apart : CutsApart (c == '<' || (isOpen && c != '>')) t) {a : α}
    (found : found? (c :: removeDenied t) = some (a, rest)) :
    ∃ w, found? (c :: t) = some (a, w) ∧ CutsApart false w ∧ removeDenied w = rest := by
  obtain ⟨u, tag, first, again⟩ := reads.exists_tag found
  obtain ⟨rfl, left⟩ := List.cons.inj tag
  obtain ⟨w, rfl, closed, same⟩ := apart.open_tag left first
  exact ⟨w, again w, closed, same⟩

/-- Where nothing in a text closes an element, nothing in what is left of it does. -/
theorem no_closing (apart : CutsApart isOpen t) (stops : ∀ a ∈ name, sameLower a '>' = false)
    (unclosed : ∀ place, place <:+ t → closing? name place = none) :
    ∀ place, place <:+ removeDenied t → closing? name place = none := by
  induction apart with
  | nil => rwa [removeDenied]
  | @cut t rest found apart ih =>
      rw [removeDenied_pair found]
      exact ih fun place inside => unclosed place (inside.trans (deniedPair?_suffix found))
  | @keep isOpen c t kept apart ih =>
      rw [removeDenied_kept kept]
      intro place inside
      rcases List.suffix_cons_iff.mp inside with rfl | behind
      · by_contra closes
        obtain ⟨rest, closes⟩ := Option.ne_none_iff_exists'.mp closes
        obtain ⟨w, closed, _⟩ := apart.read_tag (closing?_readsTag stops) (a := ())
          (Option.map_eq_some_iff.mpr ⟨rest, closes, rfl⟩)
        rw [unclosed _ (List.suffix_refl _)] at closed
        cases closed
      · exact ih (fun place inside => unclosed place (inside.trans (List.suffix_cons c t))) place behind

/-- What is left of a text whose pairs are removed outside of tags begins nowhere with a pair. -/
theorem no_pair (apart : CutsApart isOpen t) :
    ∀ place, place <:+ removeDenied t → deniedPair? place = none := by
  induction apart with
  | nil =>
      rw [removeDenied]
      exact fun place inside => List.suffix_nil.mp inside ▸ rfl
  | @cut t rest found apart ih => rwa [removeDenied_pair found]
  | @keep isOpen c t kept apart ih =>
      rw [removeDenied_kept kept]
      intro place inside
      rcases List.suffix_cons_iff.mp inside with rfl | behind
      · by_contra pair
        obtain ⟨rest, pair⟩ := Option.ne_none_iff_exists'.mp pair
        obtain ⟨name, behind, place, opens, within, closes⟩ := deniedPair?_eq_some pair
        obtain ⟨w, opened, apart', rfl⟩ := apart.read_tag deniedOpening?_readsTag opens
        have unclosed := apart'.no_closing (deniedOpening?_no_bracket opens)
          ((deniedPair?_eq_none opened).mp kept)
        rw [unclosed place within] at closes
        cases closes
      · exact ih place behind

end CutsApart

/-- Where no pair is removed inside an open bracket, the removal of denied pairs is complete: no pair
    is left, and a second removal changes nothing. -/
theorem removeDenied_complete (apart : CutsApart false t) :
    splitAt? deniedPair? (removeDenied t) = none ∧
      removeDenied (removeDenied t) = removeDenied t := by
  have none := splitAt?_eq_none.mpr apart.no_pair
  exact ⟨none, removeDenied_eq_self.mpr none⟩

/-- A form behind a tag that is closed. -/
theorem removeDenied_complete_form :
    let t := "<p><Form>x</form >y".toList
    CutsApart false t ∧ removeDenied t = "<p>y".toList ∧
      splitAt? deniedPair? (removeDenied t) = none ∧ removeDenied (removeDenied t) = removeDenied t := by
  intro t
  have form : deniedPair? "<Form>x</form >y".toList = some ['y'] := by decide +kernel
  have apart : CutsApart false t :=
    .keep (by decide +kernel) (.keep (by decide +kernel) (.keep (by decide +kernel)
      (.cut form (.keep (by decide +kernel) .nil))))
  exact ⟨apart, by decide +kernel, removeDenied_complete apart⟩

/-- A pair inside an open bracket leaves the parts of another pair side by side. -/
theorem removeDenied_joins_tags :
    let t := "<fo<form></form>rm>x</form>".toList
    removeDenied t = "<form>x</form>".toList ∧
      splitAt? deniedPair? (removeDenied t) = some ([], []) ∧
      removeDenied (removeDenied t) ≠ removeDenied t ∧ plainText ['\n'] t = .ok ['x'] := by
  decide +kernel

end Html

end Gemtext
