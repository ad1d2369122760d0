import Gemtext.Proofs.Descriptions
import Gemtext.Proofs.LineBreaks
import Gemtext.Proofs.TagRow

/-! # Quoted and plain composition

Composing inside of a quote and outside of one takes the same way through a tree. The two texts
differ in the breaks only, so that a relation between them holds of whole trees as soon as it holds
of the breaks and of raw HTML, and stays when texts are put together.
-/

namespace Gemtext

open Text

/-! ## Joined texts -/

namespace Text

theorem intercalate_nil (parts : List (List Char)) : [].intercalate parts = parts.flatten := by
  induction parts with
  | nil => rfl
  | cons t rest ih =>
      cases rest with
      | nil => simp
      | cons next rest =>
          rw [List.intercalate_cons_cons, List.append_nil, ih]
          rfl

theorem intercalate_append_head (s u first : List Char) (rest : List (List Char)) :
    s.intercalate ((u ++ first) :: rest) = u ++ s.intercalate (first :: rest) := by
  cases rest <;> simp

/-- A relation that stays when texts are put together holds of texts that are joined. -/
theorem intercalate_related {R : List Char → List Char → Prop} (nil : R [] [])
    (append : ∀ {t t' q q'}, R t q → R t' q' → R (t ++ t') (q ++ q')) {sep sep' : List Char}
    (separator : R sep sep') {pairs : List (List Char × List Char)}
    (each : ∀ p ∈ pairs, R p.1 p.2) :
    R (sep.intercalate (pairs.map Prod.fst)) (sep'.intercalate (pairs.map Prod.snd)) := by
  induction pairs with
  | nil => exact nil
  | cons p rest ih =>
      obtain ⟨first, behind⟩ := List.forall_mem_cons.mp each
      cases rest with
      | nil => simpa using first
      | cons next rest =>
          simp only [List.map_cons, List.intercalate_cons_cons]
          exact append (append first separator) (ih behind)

end Text

/-! ## Alike results -/

namespace Alike

variable {α : Type} {same : α → α → Prop} {r r' : Except Error α} {a : α}

theorem exists_of_ok (h : Alike same (.ok a) r') : ∃ b, r' = .ok b ∧ same a b := by
  cases h with
  | ok related => exact ⟨_, rfl, related⟩

theorem exists_of_ok_right (h : Alike same r (.ok a)) : ∃ b, r = .ok b ∧ same b a := by
  cases h with
  | ok related => exact ⟨_, rfl, related⟩

theorem imp {same' : α → α → Prop} (h : Alike same r r') (weaker : ∀ a b, same a b → same' a b) :
    Alike same' r r' := by
  cases h with
  | ok related => exact .ok (weaker _ _ related)
  | error message => exact .error message

end Alike

/-! ## Breaks in raw HTML -/

namespace Html

namespace Reading

/-- How an event is read does not depend on what is written for a break, and it writes at most one
    break, behind everything else. -/
theorem step_break (r : Reading) (e : Event) :
    (∀ lineBreak, (r.step lineBreak e).2 = (r.step [] e).2) ∧
      ((∀ lineBreak, (r.step lineBreak e).1 = (r.step [] e).1) ∨
        ∀ lineBreak, (r.step lineBreak e).1 = (r.step [] e).1 ++ lineBreak) := by
  have tag (name : List Char) :
      (∀ lineBreak, r.shown ++ breakFor lineBreak name = r.shown ++ breakFor [] name) ∨
        ∀ lineBreak, r.shown ++ breakFor lineBreak name =
          r.shown ++ breakFor [] name ++ lineBreak := by
    unfold breakFor
    split
    · exact .inr fun _ => by rw [List.append_nil]
    · exact .inl fun _ => rfl
  cases e with
  | opening name | selfClosing name => exact ⟨fun _ => rfl, tag name⟩
  | text | closing | hidden | literal => exact ⟨fun _ => rfl, .inl fun _ => rfl⟩

theorem textOf_pieces (r : Reading) (es : List Event) :
    ∃ first rest, ∀ lineBreak : List Char,
      r.textOf lineBreak es = lineBreak.intercalate (first :: rest) := by
  induction es generalizing r with
  | nil => exact ⟨r.shown, [], fun lineBreak => by simp [textOf]⟩
  | cons e es ih =>
      obtain ⟨next, broken⟩ := r.step_break e
      obtain ⟨first, rest, behind⟩ := ih (r.step [] e).2
      rcases broken with kept | broken
      · refine ⟨(r.step [] e).1 ++ first, rest, fun lineBreak => ?_⟩
        rw [textOf, next, kept, behind, intercalate_append_head]
      · refine ⟨(r.step [] e).1, first :: rest, fun lineBreak => ?_⟩
        rw [textOf, next, broken, behind, List.intercalate_cons_cons]

end Reading

/-- Raw HTML is refused whatever is written for a break, or is read as pieces with breaks between
    them. -/
theorem plainText_pieces (html : List Char) :
    (∃ cause, ∀ lineBreak, plainText lineBreak html = .error cause) ∨
      ∃ pieces, ∀ lineBreak : List Char,
        plainText lineBreak html = .ok (lineBreak.intercalate pieces) := by
  cases read : events (joinLines [' '] (removeDenied html)) with
  | error cause => exact .inl ⟨cause, fun lineBreak => by rw [plainText_eq, read]; rfl⟩
  | ok es =>
      obtain ⟨first, rest, pieces⟩ := Reading.start.textOf_pieces es
      exact .inr ⟨first :: rest, fun lineBreak => by rw [plainText_eq, read, ← pieces]; rfl⟩

end Html

/-! ## Raw HTML in both styles -/

namespace Style

variable (markup : Bool)

def plain : Style := { markup := markup }

def inQuote : Style := { quoted := true, markup := markup }

end Style

/-- Raw HTML that is read for a composed text. -/
structure RawHtml where
  /-- Its parent is a text element. -/
  inText : Bool
  source : List Char
  deriving DecidableEq, Repr

namespace RawHtml

def text (style : Style) (raw : RawHtml) : Except Error (List Char) :=
  composeRaw style raw.inText { format := some "html".toList } raw.source

theorem text_eq (style : Style) (raw : RawHtml) :
    raw.text style = match Html.plainText style.hardBreak raw.source with
      | .error cause => .error (.rejected cause)
      | .ok t => .ok (if raw.inText then t else trim t) := by
  rw [text, composeRaw]
  exact if_pos (by decide)

/-- A block is trimmed. -/
def shown (raw : RawHtml) (t : List Char) : List Char := if raw.inText then t else trim t

/-- The two texts of raw HTML are made of the same pieces. -/
theorem text_alike {R : List Char → List Char → Prop} {raw : RawHtml}
    (read : ∀ {pieces : List (List Char)},
      (∀ lineBreak : List Char,
        Html.plainText lineBreak raw.source = .ok (lineBreak.intercalate pieces)) →
      R (raw.shown (['\n'].intercalate pieces)) (raw.shown ("\n> ".toList.intercalate pieces)))
    (markup : Bool) : Alike R (raw.text (.plain markup)) (raw.text (.inQuote markup)) := by
  rw [text_eq, text_eq]
  rcases Html.plainText_pieces raw.source with ⟨cause, refused⟩ | ⟨pieces, made⟩
  · rw [refused, refused]
    exact .error rfl
  · rw [made, made]
    exact .ok (read made)

end RawHtml

section ComposeRaw

variable {attrs : Attributes} (style : Style) (inText : Bool) (source : List Char)

theorem composeRaw_of_html (html : attrs.formats.contains "html".toList = true) :
    composeRaw style inText attrs source = RawHtml.text style ⟨inText, source⟩ := by
  rw [RawHtml.text_eq, composeRaw]
  exact if_pos html

theorem composeRaw_of_not_html (html : attrs.formats.contains "html".toList = false) :
    composeRaw style inText attrs source = .ok [] := by
  rw [composeRaw, html]
  rfl

end ComposeRaw

/-! ## Composing in both styles -/

/-- Elements whose text is made of their children. -/
def Tag.isContainer : Tag → Bool
  | footnoteReference | hardbreak | raw | subscript | superscript | literalBlock => false
  | _ => true

theorem compose_container {tag : Tag} (container : tag.isContainer = true) (style : Style)
    (inText : Bool) (attrs : Attributes) (children : List Node) :
    compose style inText (.element tag attrs children) =
      if tag = .image ∧ children = [] then .ok (joinLines style.separator (attrs.alt.getD []))
      else (composeParts style tag.isTextual children).map fun parts =>
        style.delimiter tag ++ joinParts style children parts ++ style.delimiter tag := by
  cases tag with
  | footnoteReference | hardbreak | raw | subscript | superscript | literalBlock => cases container
  | _ =>
      simp only [compose]
      cases composeParts style _ children <;> rfl

namespace Node

mutual
/-- The raw HTML that is read where a node is composed. `inText` tells whether its parent is a text
    element. -/
def rawHtml (inText : Bool) : Node → List RawHtml
  | text _ => []
  | element tag attrs children =>
      if tag = .raw then
        if attrs.formats.contains "html".toList then
          [⟨inText, (element tag attrs children).source⟩]
        else []
      else if tag.isContainer then rawHtmlIn tag.isTextual children
      else []

def rawHtmlIn (inText : Bool) : List Node → List RawHtml
  | [] => []
  | c :: rest =>
      (if c.tagIs Tag.isList then [] else c.rawHtml inText) ++ rawHtmlIn inText rest
end

theorem rawHtml_container {tag : Tag} (container : tag.isContainer = true) {inText : Bool}
    (attrs : Attributes) (children : List Node) :
    (element tag attrs children).rawHtml inText = rawHtmlIn tag.isTextual children := by
  have other : tag ≠ .raw := by
    rintro rfl
    cases container
  rw [rawHtml, if_neg other, if_pos container]

theorem mem_rawHtmlIn {inText : Bool} {ns : List Node} {c : Node} {raw : RawHtml}
    (member : c ∈ ns) (noList : c.tagIs Tag.isList = false) (inside : raw ∈ c.rawHtml inText) :
    raw ∈ rawHtmlIn inText ns := by
  induction ns with
  | nil => cases member
  | cons n rest ih =>
      rw [rawHtmlIn]
      rcases List.mem_cons.mp member with rfl | behind
      · exact List.mem_append_left _ (by simpa [noList] using inside)
      · exact List.mem_append_right _ (ih behind)

end Node

/-- The parts of a text that are not empty. -/
def someParts (parts : List (List Char)) : List (List Char) := parts.filter fun t => !t.isEmpty

theorem flatten_someParts (parts : List (List Char)) :
    (someParts parts).flatten = parts.flatten := by
  induction parts with
  | nil => rfl
  | cons t rest ih => cases t <;> simp_all [someParts]

theorem someParts_cons (t : List Char) (parts : List (List Char)) :
    someParts [t] ++ someParts parts = someParts (t :: parts) :=
  (List.filter_append [t] parts).symm

theorem composeParts_cons {c : Node} (noList : c.tagIs Tag.isList = false) (style : Style)
    (inText : Bool) (rest : List Node) : composeParts style inText (c :: rest) =
      (compose style inText c).bind fun t =>
        (composeParts style inText rest).map fun parts => someParts [t] ++ parts := by
  rw [composeParts, noList]
  cases compose style inText c with
  | error e => rfl
  | ok t =>
      cases composeParts style inText rest with
      | error e => rfl
      | ok parts => cases t <;> rfl

/-- Parts composed outside of a quote, and the same ones inside of it. Parts that are empty are left
    out of either. -/
def PartsAlike (R : List Char → List Char → Prop) (plain quoted : List (List Char)) : Prop :=
  ∃ pairs : List (List Char × List Char), (∀ p ∈ pairs, R p.1 p.2) ∧
    plain = someParts (pairs.map Prod.fst) ∧ quoted = someParts (pairs.map Prod.snd)

theorem composeParts_alike {R : List Char → List Char → Prop} {style style' : Style}
    {inText : Bool} {children : List Node}
    (each : ∀ c ∈ children, c.tagIs Tag.isList = false →
      Alike R (compose style inText c) (compose style' inText c)) :
    Alike (PartsAlike R) (composeParts style inText children)
      (composeParts style' inText children) := by
  induction children with
  | nil => exact .ok ⟨[], by simp, rfl, rfl⟩
  | cons c rest ih =>
      obtain ⟨first, others⟩ := List.forall_mem_cons.mp each
      have behind := ih others
      cases isList : c.tagIs Tag.isList with
      | true => simpa [composeParts, isList] using behind
      | false =>
          rw [composeParts_cons isList, composeParts_cons isList]
          refine (first isList).bind fun t q related => behind.map fun plain quoted parts => ?_
          obtain ⟨pairs, each, rfl, rfl⟩ := parts
          exact ⟨(t, q) :: pairs, List.forall_mem_cons.mpr ⟨related, each⟩, someParts_cons ..,
            someParts_cons ..⟩

/-- What makes a relation between plain and quoted texts hold of all that is composed. -/
structure QuoteLaws (R : List Char → List Char → Prop) : Prop where
  oneLine : ∀ {t}, (∀ c ∈ t, isBreak c = false) → R t t
  separator : R [' '] "\n> ".toList
  hardBreak : R ['\n'] "\n> ".toList
  append : ∀ {t t' q q'}, R t q → R t' q' → R (t ++ t') (q ++ q')
  joined : ∀ {plain quoted}, PartsAlike R plain quoted →
    R ([' '].intercalate plain) ("\n> ".toList.intercalate quoted)

namespace QuoteLaws

variable {R : List Char → List Char → Prop} (laws : QuoteLaws R) {markup : Bool}

include laws

theorem joinLines (t : List Char) :
    R (joinLines [' '] t) (joinLines "\n> ".toList t) := by
  obtain ⟨pieces, cut⟩ := CutAt.exists_pieces isBreakRun_atEachBreak t
  have each : ∀ p ∈ pieces.map fun piece => (piece, piece), R p.1 p.2 := by
    intro p member
    obtain ⟨piece, inside, rfl⟩ := List.mem_map.mp member
    exact laws.oneLine (cut.whole_of_mem inside)
  have related := intercalate_related (laws.oneLine (by simp)) laws.append laws.separator each
  rw [cut.eq_intercalate (joinLines_replaces _), cut.eq_intercalate (joinLines_replaces _)]
  simpa [Function.comp_def] using related

theorem flatten {plain quoted : List (List Char)} (h : PartsAlike R plain quoted) :
    R plain.flatten quoted.flatten := by
  obtain ⟨pairs, each, rfl, rfl⟩ := h
  rw [flatten_someParts, flatten_someParts]
  induction pairs with
  | nil => exact laws.oneLine (by simp)
  | cons p rest ih =>
      obtain ⟨first, behind⟩ := List.forall_mem_cons.mp each
      exact laws.append first (ih behind)

theorem joinParts {plain quoted : List (List Char)} (h : PartsAlike R plain quoted)
    (children : List Node) :
    R (joinParts (.plain markup) children plain) (joinParts (.inQuote markup) children quoted) := by
  simp only [Gemtext.joinParts]
  split
  · exact laws.joined h
  · rw [intercalate_nil, intercalate_nil]
    exact laws.flatten h

theorem delimiter (tag : Tag) :
    R ((Style.plain markup).delimiter tag) ((Style.inQuote markup).delimiter tag) := by
  refine laws.oneLine ?_
  unfold Style.delimiter
  split
  · cases tag <;> simp [Tag.delimiter, isBreak]
  · simp

/-- Composing a node inside of a quote goes along with composing it outside of one, if this holds of
    the raw HTML in it. -/
theorem compose {inText : Bool} {n : Node}
    (raws : ∀ raw ∈ n.rawHtml inText,
      Alike R (raw.text (.plain markup)) (raw.text (.inQuote markup))) :
    Alike R (compose (.plain markup) inText n) (compose (.inQuote markup) inText n) := by
  induction n using Node.rec_strong generalizing inText with
  | text t => exact .ok (laws.joinLines t)
  | element tag attrs children ih =>
      cases container : tag.isContainer with
      | true =>
          have each : ∀ c ∈ children, c.tagIs Tag.isList = false →
              Alike R (Gemtext.compose (.plain markup) tag.isTextual c)
                (Gemtext.compose (.inQuote markup) tag.isTextual c) := fun c member noList =>
            ih c member fun raw found =>
              raws raw (Node.rawHtml_container container .. ▸ Node.mem_rawHtmlIn member noList found)
          rw [compose_container container, compose_container container]
          split
          · exact .ok (laws.joinLines _)
          · exact (composeParts_alike each).map fun plain quoted parts => laws.append
              (laws.append (laws.delimiter tag) (laws.joinParts parts children))
              (laws.delimiter tag)
      | false =>
          cases tag with
          | footnoteReference =>
              rw [Gemtext.compose, Gemtext.compose]
              cases attrs.noteid with
              | none => exact .error rfl
              | some number =>
                  cases marked : footnoteMark number with
                  | error e => simpa only [marked] using .error rfl
                  | ok t => simpa only [marked] using .ok (laws.oneLine (footnoteMark_no_break marked))
          | hardbreak => exact .ok laws.hardBreak
          | raw =>
              rw [Gemtext.compose, Gemtext.compose]
              cases html : attrs.formats.contains "html".toList with
              | false =>
                  rw [composeRaw_of_not_html _ _ _ html, composeRaw_of_not_html _ _ _ html]
                  exact .ok (laws.oneLine (by simp))
              | true =>
                  rw [composeRaw_of_html _ _ _ html, composeRaw_of_html _ _ _ html]
                  refine raws _ ?_
                  rw [Node.rawHtml, if_pos rfl, if_pos html]
                  exact List.mem_singleton_self _
          | subscript | superscript =>
              refine .ok (laws.oneLine (composeScript_no_break _ ?_ ?_ _))
              all_goals simp [isBreak]
          | literalBlock => exact .ok (laws.joinLines _)
          | _ => cases container

end QuoteLaws

end Gemtext
