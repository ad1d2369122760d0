import Gemtext.Proofs.DeniedPairs

/-! # Rows of tags and texts

In a row of tags and texts a denied element ends at the first closing tag of its name, whichever
element that tag was written for. The other tags are read one by one and shown nowhere, so that the
plain text of a row is made of the texts outside of its denied pairs.
-/

namespace Gemtext

namespace Text

theorem splitAt?_append_of_none {found? : List Char → Option (List Char)} {u : List Char}
    (missed : ∀ c ∈ u, ∀ rest, found? (c :: rest) = none) (t : List Char) :
    splitAt? found? (u ++ t) = (splitAt? found? t).map fun parts => (u ++ parts.1, parts.2) := by
  induction u with
  | nil => simp
  | cons c u ih =>
      obtain ⟨first, others⟩ := List.forall_mem_cons.mp missed
      rw [List.cons_append, splitAt?, first, ih others]
      simp [Function.comp_def]

end Text

namespace Html

open Text

/-! ## Names and tags -/

/-- Some elements that only lose their tags. -/
def ordinaryNames : List String := ["p", "div", "b", "i", "span"]

abbrev ElementName := {name : String // name ∈ ordinaryNames ++ deniedNames}

namespace ElementName

variable (n m : ElementName) (t : List Char)

def text : List Char := n.1.toList

def denied : Bool := isDenied n.text

def openingTag : List Char := '<' :: (n.text ++ ['>'])

def closingTag : List Char := '<' :: '/' :: (n.text ++ ['>'])

/-- Names are written in small letters of ASCII. -/
theorem text_letters : ∀ c ∈ n.text, c.isLower = true := by
  have each : ∀ s ∈ ordinaryNames ++ deniedNames, s.toList.all Char.isLower = true := by decide +kernel
  exact List.all_eq_true.mp (each n.1 n.2)

theorem text_lower : n.text ≠ [] ∧ lower n.text = n.text ∧ n.text.map Char.toLower = n.text := by
  have each : ∀ s ∈ ordinaryNames ++ deniedNames, s.toList ≠ [] ∧ lower s.toList = s.toList ∧
      s.toList.map Char.toLower = s.toList := by
    decide +kernel
  exact each n.1 n.2

theorem bracket_notMem_text : '<' ∉ n.text := fun member =>
  absurd (n.text_letters _ member) (by decide)

theorem deniedOpening?_openingTag : deniedOpening? (n.openingTag ++ t) =
    if n.denied then some (n.text, t) else none := by
  have alone : ∀ s ∈ ordinaryNames ++ deniedNames, deniedOpening? ('<' :: (s.toList ++ ['>'])) =
      if isDenied s.toList then some (s.toList, []) else none := by
    decide +kernel
  rw [deniedOpening?_readsTag.append t (by simp [openingTag]), openingTag]
  rw [show deniedOpening? ('<' :: (n.text ++ ['>'])) = _ from alone n.1 n.2]
  unfold denied text
  split <;> rfl

theorem deniedOpening?_closingTag : deniedOpening? (n.closingTag ++ t) = none := by
  have alone : ∀ s ∈ ordinaryNames ++ deniedNames,
      deniedOpening? ('<' :: '/' :: (s.toList ++ ['>'])) = none := by
    decide +kernel
  rw [deniedOpening?_readsTag.append t (by simp [closingTag]), closingTag]
  exact Option.map_eq_none_iff.mpr (alone n.1 n.2)

theorem text_readsTag : ReadsTag fun t => (closing? n.text t).map ((), ·) := by
  have each : ∀ s ∈ ordinaryNames ++ deniedNames,
      s.toList.all (fun a => !sameLower a '>') = true := by
    decide +kernel
  refine closing?_readsTag fun a member => ?_
  simpa using List.all_eq_true.mp (each n.1 n.2) a member

theorem closing?_append {u : List Char} (closed : '>' ∈ u) :
    closing? n.text (u ++ t) = (closing? n.text u).map (· ++ t) := by
  have extended := n.text_readsTag.append t closed
  simp only [Option.map_map] at extended
  cases alone : closing? n.text u <;> cases whole : closing? n.text (u ++ t) <;>
    simp_all

theorem closing?_closingTag :
    closing? n.text (m.closingTag ++ t) = if m = n then some t else none := by
  have alone : ∀ s ∈ ordinaryNames ++ deniedNames, ∀ s' ∈ ordinaryNames ++ deniedNames,
      closing? s.toList ('<' :: '/' :: (s'.toList ++ ['>'])) = if s' = s then some [] else none := by
    decide +kernel
  rw [n.closing?_append t (by simp [closingTag]), closingTag]
  rw [show closing? n.text ('<' :: '/' :: (m.text ++ ['>'])) = _ from alone n.1 n.2 m.1 m.2]
  simp only [Subtype.ext_iff]
  split <;> rfl

theorem closing?_openingTag : closing? n.text (m.openingTag ++ t) = none := by
  have alone : ∀ s ∈ ordinaryNames ++ deniedNames, ∀ s' ∈ ordinaryNames ++ deniedNames,
      closing? s.toList ('<' :: (s'.toList ++ ['>'])) = none := by
    decide +kernel
  rw [n.closing?_append t (by simp [openingTag]), openingTag]
  exact Option.map_eq_none_iff.mpr (alone n.1 n.2 m.1 m.2)

end ElementName

/-! ## Tags and texts in a row -/

/-- A text that shows and that no markup is read in. -/
structure Leaf where
  text : List Char
  plain : ∀ c ∈ text, c ≠ '<' ∧ c ≠ '>' ∧ c ≠ '&' ∧ c ≠ '\n' ∧ c ≠ '\r'
  shows : isBlank text = false

inductive Token where
  | opening (name : ElementName)
  | closing (name : ElementName)
  | text (leaf : Leaf)

def Token.written : Token → List Char
  | .opening n => n.openingTag
  | .closing n => n.closingTag
  | .text l => l.text

def written (ts : List Token) : List Char := ts.flatMap Token.written

/-- What is left when all tags are taken away. -/
def leavesIn (ts : List Token) : List Leaf :=
  ts.filterMap fun
    | .text l => some l
    | _ => none

def textOf (ls : List Leaf) : List Char := ls.flatMap Leaf.text

/-- Behind each opening tag stands a closing tag of its name. -/
def AllClosed : List Token → Prop
  | [] => True
  | .opening n :: ts => .closing n ∈ ts ∧ AllClosed ts
  | _ :: ts => AllClosed ts

/-- The denied element that is open behind a token. It was open in front of the token, or the token
    opens it. The first closing tag of its name closes it. -/
def pairAfter : Option ElementName → Token → Option ElementName
  | none, .opening n => if n.denied then some n else none
  | some m, .closing n => if n = m then none else some m
  | pair, _ => pair

/-- The tokens that stand outside of denied pairs, with a pair open in front of the first or none. -/
def outsidePairs (pair : Option ElementName) : List Token → List Token
  | [] => []
  | a :: as =>
      if pair.isNone && (pairAfter pair a).isNone then a :: outsidePairs (pairAfter pair a) as
      else outsidePairs (pairAfter pair a) as

theorem closing?_of_ne {c : Char} (other : c ≠ '<') (name t : List Char) :
    closing? name (c :: t) = none := by
  simp [closing?, other]

theorem removeDenied_tag {u t : List Char} (kept : deniedPair? ('<' :: (u ++ t)) = none)
    (inside : '<' ∉ u) : removeDenied ('<' :: (u ++ t)) = '<' :: (u ++ removeDenied t) := by
  rw [removeDenied_kept kept]
  refine congrArg ('<' :: ·) (removeDenied_append_of_none (fun c member => ?_) t)
  exact deniedOpening?_of_ne (fun same => inside (same ▸ member))

theorem splitAt?_tag {name u t : List Char} (missed : closing? name ('<' :: (u ++ t)) = none)
    (inside : '<' ∉ u) : splitAt? (closing? name) ('<' :: (u ++ t)) =
      (splitAt? (closing? name) t).map fun parts => ('<' :: (u ++ parts.1), parts.2) := by
  rw [splitAt?, missed, splitAt?_append_of_none fun c member => closing?_of_ne
    (fun same => inside (same ▸ member)) name]
  simp [Function.comp_def]

section Written

variable {a : Token} {ts : List Token}

@[simp] theorem written_cons (a : Token) (ts : List Token) :
    written (a :: ts) = a.written ++ written ts := List.flatMap_cons

/-- Outside of pairs a token is kept if it opens none. -/
theorem removeDenied_token (outside : pairAfter none a = none) (t : List Char) :
    removeDenied (a.written ++ t) = a.written ++ removeDenied t := by
  cases a with
  | opening n =>
      have kept : n.denied = false := by simpa [pairAfter] using outside
      refine removeDenied_tag (deniedPair?_of_not_opening ((n.deniedOpening?_openingTag t).trans ?_))
        (by simpa using n.bracket_notMem_text)
      simp [kept]
  | closing n =>
      exact removeDenied_tag (deniedPair?_of_not_opening (n.deniedOpening?_closingTag t))
        (by simpa using n.bracket_notMem_text)
  | text l =>
      exact removeDenied_append_of_none (fun c member => deniedOpening?_of_ne (l.plain c member).1) t

theorem splitAt?_token {n : ElementName} (other : a ≠ .closing n) (t : List Char) :
    splitAt? (closing? n.text) (a.written ++ t) =
      (splitAt? (closing? n.text) t).map fun parts => (a.written ++ parts.1, parts.2) := by
  cases a with
  | opening m =>
      exact splitAt?_tag (n.closing?_openingTag m t) (by simpa using m.bracket_notMem_text)
  | closing m =>
      have differs : m ≠ n := fun same => other (congrArg Token.closing same)
      exact splitAt?_tag ((n.closing?_closingTag m t).trans (if_neg differs))
        (by simpa using m.bracket_notMem_text)
  | text l =>
      exact splitAt?_append_of_none (fun c member => closing?_of_ne (l.plain c member).1 n.text) t

theorem splitAt?_closingTag (n : ElementName) (t : List Char) :
    splitAt? (closing? n.text) (n.closingTag ++ t) = some ([], t) := by
  have found := (n.closing?_closingTag n t).trans (if_pos rfl)
  rw [ElementName.closingTag, List.cons_append] at found ⊢
  rw [splitAt?, found]

theorem pairAfter_none_eq_some {n : ElementName} (opens : pairAfter none a = some n) :
    a = .opening n ∧ n.denied = true := by
  cases a with
  | opening m =>
      rw [pairAfter] at opens
      split at opens
      · next denied => exact ⟨by rw [Option.some.inj opens], Option.some.inj opens ▸ denied⟩
      · cases opens
  | closing m | text l => cases opens

theorem pairAfter_of_ne {n : ElementName} (other : a ≠ .closing n) :
    pairAfter (some n) a = some n := by
  cases a with
  | opening m | text l => rfl
  | closing m => exact if_neg fun same => other (congrArg Token.closing same)

theorem outsidePairs_append (pair : Option ElementName) (as bs : List Token) :
    outsidePairs pair (as ++ bs) =
      outsidePairs pair as ++ outsidePairs (as.foldl pairAfter pair) bs := by
  induction as generalizing pair with
  | nil => rfl
  | cons a as ih =>
      rw [List.cons_append, outsidePairs, outsidePairs, ih]
      split <;> rfl

theorem outsidePairs_unclosed {n : ElementName} {ts : List Token} (unclosed : .closing n ∉ ts) :
    ts.foldl pairAfter (some n) = some n ∧ outsidePairs (some n) ts = [] := by
  induction ts with
  | nil => exact ⟨rfl, rfl⟩
  | cons a ts ih =>
      have stays := pairAfter_of_ne fun same => unclosed (same ▸ List.mem_cons_self)
      rw [List.foldl_cons, outsidePairs, stays]
      exact ih fun member => unclosed (List.mem_cons_of_mem a member)

theorem AllClosed.of_cons (closed : AllClosed (a :: ts)) : AllClosed ts := by
  cases a with
  | opening n => exact closed.2
  | closing n | text l => exact closed

/-- The removal of denied pairs from a row of tags and texts leaves the tokens outside of pairs. -/
theorem removeDenied_written (closed : AllClosed ts) :
    removeDenied (written ts) = written (outsidePairs none ts) ∧
      ∀ n, .closing n ∈ ts → ∃ before rest,
        splitAt? (closing? n.text) (written ts) = some (before, rest) ∧
          removeDenied rest = written (outsidePairs (some n) ts) := by
  induction ts with
  | nil => exact ⟨by rw [written, List.flatMap_nil, removeDenied]; rfl, fun n member => by cases member⟩
  | cons a ts ih =>
      obtain ⟨kept, cut⟩ := ih closed.of_cons
      constructor
      · cases after : pairAfter none a with
        | none =>
            rw [written_cons, removeDenied_token after, kept, outsidePairs, after]
            exact (written_cons a _).symm
        | some n =>
            obtain ⟨rfl, denied⟩ := pairAfter_none_eq_some after
            obtain ⟨before, rest, found, left⟩ := cut n closed.1
            have pair : deniedPair? (written (.opening n :: ts)) = some rest := by
              rw [written_cons, Token.written, deniedPair?, n.deniedOpening?_openingTag, denied]
              exact congrArg (Option.map Prod.snd) found
            rw [removeDenied_pair pair, left, outsidePairs, after]
            rfl
      · intro n member
        by_cases ends : a = .closing n
        · subst ends
          refine ⟨[], written ts, splitAt?_closingTag n _, ?_⟩
          rw [kept, outsidePairs, pairAfter, if_pos rfl]
          rfl
        · have behind := (List.mem_cons.mp member).resolve_left (Ne.symm ends)
          obtain ⟨before, rest, found, left⟩ := cut n behind
          refine ⟨a.written ++ before, rest, ?_, ?_⟩
          · rw [written_cons, splitAt?_token ends, found]
            rfl
          · rw [left, outsidePairs, pairAfter_of_ne ends]
            rfl

end Written

/-! ## Reading a row -/

section Letters

variable {c : Char} (small : c.isLower = true)

include small

theorem isTagChar_of_isLower : isTagChar c = true := by
  by_contra other
  simp only [isTagChar, Bool.not_eq_true', Bool.not_eq_false, Bool.or_eq_true, beq_iff_eq] at other
  rcases other with ((((((rfl | rfl) | rfl) | rfl) | rfl) | rfl) | rfl) | rfl <;>
    exact absurd small (by decide)

theorem isAlpha_of_isLower : c.isAlpha = true := by
  change (c.isUpper || c.isLower) = true
  rw [small, Bool.or_true]

theorem isClosingChar_of_isLower : isClosingChar c = true := by
  have alphanumeric : c.isAlphanum = true := by
    change (c.isAlpha || c.isDigit) = true
    rw [isAlpha_of_isLower small, Bool.true_or]
  simp [isClosingChar, alphanumeric]

theorem isWhite_of_isLower : isWhite c = false := by
  change (decide ('a'.val ≤ c.val) && decide (c.val ≤ 'z'.val)) = true at small
  simp only [Bool.and_eq_true, decide_eq_true_eq, UInt32.le_iff_toNat_le] at small
  have bounds : 97 ≤ c.toNat ∧ c.toNat ≤ 122 := small
  rw [← Bool.not_eq_true]
  simp only [isWhite, Bool.or_eq_true, Bool.and_eq_true, decide_eq_true_eq, beq_iff_eq]
  omega

end Letters

/-- Small letters are read up to the bracket behind them. -/
theorem span_letters {w : List Char} (letters : ∀ c ∈ w, c.isLower = true) {p : Char → Bool}
    (reads : ∀ {c : Char}, c.isLower = true → p c = true) (stops : p '>' = false) (t : List Char) :
    (w ++ '>' :: t).takeWhile p = w ∧ (w ++ '>' :: t).dropWhile p = '>' :: t := by
  have each : ∀ c ∈ w, p c = true := fun c member => reads (letters c member)
  constructor
  · rw [List.takeWhile_append_of_pos each, List.takeWhile_cons_of_neg (by simp [stops]),
      List.append_nil]
  · rw [List.dropWhile_append_of_pos each, List.dropWhile_cons_of_neg (by simp [stops])]

theorem readOpening_openingTag (n : ElementName) (t : List Char) :
    readOpening (n.openingTag ++ t) = .ok (.read [.opening n.text] t) := by
  obtain ⟨name, behind⟩ := span_letters n.text_letters isTagChar_of_isLower (by decide) t
  have gap : skipTagGap ('>' :: t) = '>' :: t := rfl
  have attributes (before : Char) : readAttributes before ('>' :: t) = ([], '>' :: t) := by
    rw [readAttributes]
    simp [readAttribute?]
  have inside : (n.openingTag ++ t).drop 1 = n.text ++ '>' :: t := by simp [ElementName.openingTag]
  unfold readOpening
  simp only [inside, name, behind, gap, attributes, n.text_lower.2.1]
  rfl

theorem plainClosing?_closingTag (n : ElementName) (t : List Char) :
    plainClosing? (n.closingTag ++ t) = some (n.text, t) := by
  obtain ⟨c, w, name⟩ := List.exists_cons_of_ne_nil n.text_lower.1
  obtain ⟨first, others⟩ := List.forall_mem_cons.mp (name ▸ n.text_letters)
  obtain ⟨word, behind⟩ := span_letters others isClosingChar_of_isLower (by decide) t
  have inside : ((n.closingTag ++ t).drop 2).dropWhile isWhite = c :: (w ++ '>' :: t) := by
    simp [ElementName.closingTag, name, isWhite_of_isLower first]
  have bracket : ('>' :: t).dropWhile isWhite = '>' :: t :=
    List.dropWhile_cons_of_neg (by decide)
  have letter : c.isAlpha = true := isAlpha_of_isLower first
  rw [plainClosing?, inside]
  simp only [letter, Bool.not_true, Bool.false_eq_true, if_false, behind, bracket, word, ← name,
    n.text_lower.2.2]

theorem readClosing_closingTag (n : ElementName) (t : List Char) :
    readClosing (n.closingTag ++ t) = .read [.closing n.text] t := by
  have bracket : behindBracket? ((n.closingTag ++ t).drop 1) = some t := by
    have other : ∀ c ∈ '/' :: n.text, ∀ rest, dropPrefix? ['>'] (c :: rest) = none := by
      intro c member rest
      refine if_neg ?_
      rintro rfl
      rcases List.mem_cons.mp member with same | inside
      · exact absurd same (by decide)
      · exact absurd (n.text_letters _ inside) (by decide)
    have tag : (n.closingTag ++ t).drop 1 = '/' :: n.text ++ '>' :: t := by
      simp [ElementName.closingTag]
    rw [behindBracket?, dropThrough?, tag, splitAt?_append_of_none other]
    simp [splitAt?, dropPrefix?]
  rw [readClosing, bracket]
  simp only [plainClosing?_closingTag]

section Pass

variable {last : Bool} {mode next next' : Mode} {t rest left : List Char} {found more : List Event}

theorem length_lt_append {u : List Char} (some : u ≠ []) (t : List Char) :
    t.length < (u ++ t).length := by
  have long := List.length_pos_iff.mpr some
  rw [List.length_append]
  omega

theorem pass_go (moved : move last mode t = .ok (.go found rest next))
    (shorter : rest.length < t.length) (passed : pass last next rest = .ok (more, left, next')) :
    pass last mode t = .ok (found ++ more, left, next') := by
  rw [pass, moved]
  simp only [shorter, if_true, passed]

theorem move_bracket {u : List Char}
    (read : readBracket? ('<' :: u) = .ok (some (.read found rest))) :
    move last .markup ('<' :: u) = .ok (.go found rest (modeAfter found)) := by
  simp [move, moveAtBracket, read]

theorem move_openingTag {n : ElementName} (kept : n.denied = false) :
    move last .markup (n.openingTag ++ t) = .ok (.go [.opening n.text] t .markup) := by
  have mode : ∀ s ∈ ordinaryNames ++ deniedNames, isDenied s.toList = false →
      modeAfter [.opening s.toList] = .markup := by
    decide +kernel
  have after : modeAfter [.opening n.text] = .markup := mode n.1 n.2 kept
  obtain ⟨c, w, name⟩ := List.exists_cons_of_ne_nil n.text_lower.1
  have letter : c.isAlpha = true :=
    isAlpha_of_isLower (n.text_letters c (name ▸ List.mem_cons_self))
  have read := readOpening_openingTag n t
  rw [ElementName.openingTag, name] at read ⊢
  rw [name] at after
  have begins : readBracket? ('<' :: (c :: w ++ ['>']) ++ t) =
      (readOpening ('<' :: (c :: w ++ ['>']) ++ t)).map some := if_pos letter
  exact (move_bracket (begins.trans (by rw [read]; rfl))).trans (by rw [after])

theorem move_closingTag (n : ElementName) :
    move last .markup (n.closingTag ++ t) = .ok (.go [.closing n.text] t .markup) :=
  move_bracket (readClosing_closingTag n t ▸ rfl)

theorem move_text {u : List Char} (some : u ≠ []) (plain : ∀ c ∈ u, c ≠ '<' ∧ c ≠ '&')
    (ends : ∀ c ∈ t.head?, c = '<') :
    move last .markup (u ++ t) = .ok (.go [.text u] t .markup) := by
  obtain ⟨c, u, rfl⟩ := List.exists_cons_of_ne_nil some
  obtain ⟨noBracket, noMark⟩ := plain c List.mem_cons_self
  have each : ∀ d ∈ c :: u, (!(d == '<' || d == '&')) = true := by simpa using plain
  have stops : t.takeWhile (fun d => !(d == '<' || d == '&')) = [] ∧
      t.dropWhile (fun d => !(d == '<' || d == '&')) = t := by
    cases t with
    | nil => exact ⟨rfl, rfl⟩
    | cons d t =>
        obtain rfl := ends d rfl
        exact ⟨rfl, rfl⟩
  rw [List.cons_append, move]
  simp only [beq_iff_eq, noBracket, noMark, if_false]
  rw [← List.cons_append, List.takeWhile_append_of_pos each, List.dropWhile_append_of_pos each,
    stops.1, stops.2, List.append_nil]

end Pass

/-- The event of a text that was collected in front of a tag. -/
def textEvent (u : List Char) : List Event := if u.isEmpty then [] else [.text u]

/-- The events of a row of tags and texts behind a text `u`, which goes on with the texts at its head. -/
def eventsFrom (u : List Char) : List Token → List Event
  | [] => textEvent u
  | .opening n :: ts => textEvent u ++ .opening n.text :: eventsFrom [] ts
  | .closing n :: ts => textEvent u ++ .closing n.text :: eventsFrom [] ts
  | .text l :: ts => eventsFrom (u ++ l.text) ts

section Pass

variable {last : Bool} {u t left : List Char} {more : List Event} {next : Mode}

theorem pass_text (plain : ∀ c ∈ u, c ≠ '<' ∧ c ≠ '&') (ends : ∀ c ∈ t.head?, c = '<')
    (passed : pass last .markup t = .ok (more, left, next)) :
    pass last .markup (u ++ t) = .ok (textEvent u ++ more, left, next) := by
  cases u with
  | nil => exact passed
  | cons c u =>
      have some := List.cons_ne_nil c u
      exact pass_go (move_text some plain ends) (length_lt_append some t) passed

/-- A row of tags and texts is read to its end, token by token. -/
theorem pass_written {ts : List Token} (plain : ∀ c ∈ u, c ≠ '<' ∧ c ≠ '&')
    (kept : ∀ n, .opening n ∈ ts → n.denied = false) :
    pass last .markup (u ++ written ts) = .ok (eventsFrom u ts, [], .markup) := by
  induction ts generalizing u with
  | nil =>
      have passed : pass last .markup [] = .ok ([], [], .markup) := by
        rw [pass]
        rfl
      simpa [written, eventsFrom] using pass_text plain (by simp) passed
  | cons a ts ih =>
      have behind := ih (u := []) (by simp) fun n member => kept n (List.mem_cons_of_mem a member)
      cases a with
      | opening n =>
          have passed := pass_go (move_openingTag (kept n List.mem_cons_self))
            (length_lt_append (List.cons_ne_nil _ _) _) behind
          exact pass_text plain (by simp [Token.written, ElementName.openingTag]) passed
      | closing n =>
          have passed := pass_go (move_closingTag n)
            (length_lt_append (List.cons_ne_nil _ _) _) behind
          exact pass_text plain (by simp [Token.written, ElementName.closingTag]) passed
      | text l =>
          have longer : ∀ c ∈ u ++ l.text, c ≠ '<' ∧ c ≠ '&' := by
            intro c member
            rcases List.mem_append.mp member with front | inside
            · exact plain c front
            · exact ⟨(l.plain c inside).1, (l.plain c inside).2.2.1⟩
          rw [written_cons, ← List.append_assoc]
          exact ih longer fun n member => kept n (List.mem_cons_of_mem _ member)

end Pass

/-! ## The text of a row -/

theorem shrink_of_not_blank {t : List Char} (shows : isBlank t = false)
    (elements : List (List Char)) : shrink elements t = t := by
  have blank {c : Char} (h : isAsciiBlank c = true) : isWhite c = true := by
    simp only [isAsciiBlank, Bool.or_eq_true, beq_iff_eq] at h
    rcases h with (((rfl | rfl) | rfl) | rfl) | rfl <;> decide
  have some : t.all isAsciiBlank = false := by
    rw [← Bool.not_eq_true] at shows ⊢
    intro all
    exact shows (List.all_eq_true.mpr fun c member => blank (List.all_eq_true.mp all c member))
  simp [shrink, some]

theorem closeElement_subset (name : List Char) (elements : List (List Char)) :
    closeElement name elements ⊆ elements := by
  unfold closeElement
  split
  · exact ((List.drop_suffix 1 _).trans (List.dropWhile_suffix _)).subset
  · exact List.Subset.refl elements

namespace Reading

/-- Nothing was collected yet, and the open elements show their text. -/
structure Plain (r : Reading) : Prop where
  run : r.run = none
  voids : r.voids = []
  shown : ∀ name ∈ r.elements, named unshownNames name = false

/-- The reading behind a text. -/
def collect (r : Reading) (u : List Char) : Reading :=
  { r with run := if u.isEmpty then none else some u }

namespace Plain

variable {r : Reading} {u : List Char} (plain : r.Plain) (lineBreak : List Char)

include plain

theorem textOf_textEvent (es : List Event) :
    r.textOf lineBreak (textEvent u ++ es) = (r.collect u).textOf lineBreak es := by
  obtain ⟨elements, run, voids⟩ := r
  obtain rfl : run = none := plain.run
  cases u <;> rfl

theorem shown_collect (shows : u = [] ∨ isBlank u = false) : (r.collect u).shown = u := by
  have visible : r.elements.any (named unshownNames) = false :=
    List.any_eq_false.mpr fun name member => by simp [plain.shown name member]
  rcases shows with rfl | shows
  · rfl
  · cases u with
    | nil => rfl
    | cons c u => simp [Reading.shown, collect, visible, shrink_of_not_blank shows]

theorem step_opening {n : ElementName} (shows : u = [] ∨ isBlank u = false)
    (kept : n.denied = false) : ((r.collect u).step lineBreak (.opening n.text)).1 = u ∧
      ((r.collect u).step lineBreak (.opening n.text)).2.Plain := by
  have each : ∀ s ∈ ordinaryNames ++ deniedNames, named voidNames s.toList = false ∧
      s.toList ≠ "br".toList ∧ (isDenied s.toList = false → named unshownNames s.toList = false) := by
    decide +kernel
  obtain ⟨noVoid, noBreak, visible⟩ : named voidNames n.text = false ∧ n.text ≠ "br".toList ∧
    (n.denied = false → named unshownNames n.text = false) := each n.1 n.2
  have noText : breakFor lineBreak n.text = [] := if_neg (by simpa using noBreak)
  rw [step, noVoid, noText, plain.shown_collect shows]
  exact ⟨List.append_nil u, rfl, plain.voids, List.forall_mem_cons.mpr ⟨visible kept, plain.shown⟩⟩

theorem step_closing (name : List Char) (shows : u = [] ∨ isBlank u = false) :
    ((r.collect u).step lineBreak (.closing name)).1 = u ∧
      ((r.collect u).step lineBreak (.closing name)).2.Plain := by
  have others : (r.collect u).voids.contains name = false := by simp [collect, plain.voids]
  rw [step, others, plain.shown_collect shows]
  exact ⟨rfl, rfl, plain.voids,
    fun name member => plain.shown name (closeElement_subset _ _ member)⟩

end Plain

end Reading

/-- The text of a row that is read without denied elements is the text between its tags. -/
theorem textOf_eventsFrom {r : Reading} {u : List Char} {ts : List Token} (plain : r.Plain)
    (shows : u = [] ∨ isBlank u = false) (kept : ∀ n, .opening n ∈ ts → n.denied = false)
    (lineBreak : List Char) : r.textOf lineBreak (eventsFrom u ts) = u ++ textOf (leavesIn ts) := by
  induction ts generalizing r u with
  | nil =>
      have whole := plain.textOf_textEvent (u := u) lineBreak []
      rw [List.append_nil] at whole
      rw [eventsFrom, whole, Reading.textOf, plain.shown_collect shows]
      simp [textOf, leavesIn]
  | cons a ts ih =>
      have others := fun n member => kept n (List.mem_cons_of_mem a member)
      cases a with
      | opening n =>
          obtain ⟨text, next⟩ := plain.step_opening lineBreak shows (kept n List.mem_cons_self)
          rw [eventsFrom, plain.textOf_textEvent, Reading.textOf, text, ih next (.inl rfl) others]
          rfl
      | closing n =>
          obtain ⟨text, next⟩ := plain.step_closing lineBreak n.text shows
          rw [eventsFrom, plain.textOf_textEvent, Reading.textOf, text, ih next (.inl rfl) others]
          rfl
      | text l =>
          rw [eventsFrom, ih plain (.inr (by simp [l.shows])) others, List.append_assoc]
          rfl

theorem outsidePairs_kept {ts : List Token} {pair : Option ElementName} {n : ElementName}
    (member : .opening n ∈ outsidePairs pair ts) : n.denied = false := by
  induction ts generalizing pair with
  | nil => cases member
  | cons a ts ih =>
      rw [outsidePairs] at member
      split at member
      · next outside =>
          rcases List.mem_cons.mp member with rfl | behind
          · cases pair with
            | none => simpa [pairAfter] using outside
            | some m => simp at outside
          · exact ih behind
      · exact ih member

theorem written_no_break (ts : List Token) : ∀ c ∈ written ts, isBreak c = false := by
  have name (n : ElementName) : ∀ c ∈ n.text ++ ['>'], isBreak c = false := by
    refine List.forall_mem_append.mpr ⟨fun c member => ?_, List.forall_mem_singleton.mpr rfl⟩
    have small := n.text_letters c member
    rw [← Bool.not_eq_true, isBreak_iff]
    rintro (rfl | rfl) <;> cases small
  refine List.forall_mem_flatMap.mpr fun a _ => ?_
  cases a with
  | opening n => exact List.forall_mem_cons.mpr ⟨rfl, name n⟩
  | closing n => exact List.forall_mem_cons.mpr ⟨rfl, List.forall_mem_cons.mpr ⟨rfl, name n⟩⟩
  | text l =>
      intro c member
      rw [← Bool.not_eq_true, isBreak_iff]
      exact not_or.mpr (l.plain c member).2.2.2

theorem events_written {ts : List Token} (kept : ∀ n, .opening n ∈ ts → n.denied = false) :
    events (written ts) = .ok (eventsFrom [] ts) := by
  have row (last : Bool) {t : List Token} (kept : ∀ n, .opening n ∈ t → n.denied = false) :
      pass last .markup (written t) = .ok (eventsFrom [] t, [], .markup) :=
    pass_written (u := []) (by simp) kept
  have nothing : pass true .markup [] = .ok ([], [], .markup) := row true (t := []) (by simp)
  rw [events, row false kept]
  simp [nothing]

theorem plainText_eq (lineBreak html : List Char) : plainText lineBreak html =
    (events (joinLines [' '] (removeDenied html))).map (Reading.start.textOf lineBreak) := by
  unfold plainText
  split
  · next none =>
      have nothing : events (written []) = .ok (eventsFrom [] []) := events_written (by simp)
      rw [none, joinLines_nil, show events [] = .ok [] from nothing]
      rfl
  · cases events (joinLines [' '] (removeDenied html)) <;> rfl

/-- The plain text of a row is the text outside of its denied pairs. -/
theorem plainText_written {ts : List Token} (closed : AllClosed ts) (lineBreak : List Char) :
    plainText lineBreak (written ts) = .ok (textOf (leavesIn (outsidePairs none ts))) := by
  have start : Reading.start.Plain := ⟨rfl, rfl, by simp [Reading.start]⟩
  have kept : ∀ n, .opening n ∈ outsidePairs none ts → n.denied = false :=
    fun n member => outsidePairs_kept member
  rw [plainText_eq, (removeDenied_written closed).1, joinLines_eq_self (written_no_break _),
    events_written kept]
  exact congrArg Except.ok (textOf_eventsFrom start (.inl rfl) kept lineBreak)

end Html

end Gemtext
