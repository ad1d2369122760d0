import Mathlib.Data.List.Induction
import Gemtext.Proofs.Hoisting

/-! # Lines of a page

Whatever is walked over, a page is only ever extended, and between two walks it ends at the
end of a line, also when a walk failed midway. While no walk has failed it ends with an empty
line besides, unless it holds nothing but newlines. So every block begins a line, and between
two blocks there is an empty line.

The invariant is stated of what one node writes (`Written.Tidy`). It is closed under writing
one text behind another, so it is shown once for every kind of block and carried over trees
and sessions from there.
-/

namespace Gemtext

/-! ## Texts made of whole lines -/

/-- A text that holds no unfinished line. -/
def EndsLine (t : List Char) : Prop := t = [] ∨ ['\n'] <:+ t

/-- A text behind which a block is separated from the ones before it: it ends with an empty
    line, or holds nothing but newlines. -/
def Settled (t : List Char) : Prop := (∀ c ∈ t, c = '\n') ∨ ['\n', '\n'] <:+ t

theorem EndsLine.nil : EndsLine [] := .inl rfl

theorem EndsLine.of_suffix {s t : List Char} (h : ['\n'] <:+ t) : EndsLine (s ++ t) :=
  .inr (h.trans (List.suffix_append s t))

theorem EndsLine.append {s t : List Char} (hs : EndsLine s) (ht : EndsLine t) :
    EndsLine (s ++ t) := by
  rcases ht with rfl | ends
  · simpa using hs
  · exact .of_suffix ends

theorem Settled.nil : Settled [] := .inl (by simp)

theorem Settled.of_suffix {s t : List Char} (h : ['\n', '\n'] <:+ t) : Settled (s ++ t) :=
  .inr (h.trans (List.suffix_append s t))

theorem Settled.endsLine {t : List Char} (h : Settled t) : EndsLine t := by
  rcases h with newlines | ends
  · cases t using List.reverseRec with
    | nil => exact .nil
    | append_singleton s c =>
        obtain rfl : c = '\n' := newlines c (by simp)
        exact .of_suffix (List.suffix_refl _)
  · exact .inr (List.IsSuffix.trans ⟨['\n'], rfl⟩ ends)

theorem EndsLine.settled_newline {t : List Char} (h : EndsLine t) : Settled (t ++ ['\n']) := by
  rcases h with rfl | ⟨s, rfl⟩
  · exact .inl (by simp)
  · exact .inr ⟨s, by simp⟩

theorem Settled.append_newlines {s t : List Char} (hs : Settled s) (ht : ∀ c ∈ t, c = '\n') :
    Settled (s ++ t) := by
  induction t using List.reverseRec with
  | nil => simpa using hs
  | append_singleton t c ih =>
      obtain rfl : c = '\n' := ht c (by simp)
      rw [← List.append_assoc]
      exact (ih fun d member => ht d (by simp [member])).endsLine.settled_newline

theorem Settled.append {s t : List Char} (hs : Settled s) (ht : Settled t) :
    Settled (s ++ t) := by
  rcases ht with newlines | ends
  · exact hs.append_newlines newlines
  · exact .of_suffix ends

/-! ## What a block writes -/

/-- What was written consists of whole lines, and if writing did not fail, it is settled. -/
structure Written.Tidy (w : Written) : Prop where
  endsLine : EndsLine w.text
  settled : w.error = none → Settled w.text

namespace Written

theorem Tidy.of_settled {w : Written} (h : Settled w.text) : w.Tidy := ⟨h.endsLine, fun _ => h⟩

theorem Tidy.nothing : nothing.Tidy := .of_settled .nil

theorem Tidy.fail (e : Error) : (fail e).Tidy := .of_settled .nil

theorem Tidy.ofExcept {r : Except Error (List Char)} (h : ∀ t, r = .ok t → Settled t) :
    (ofExcept r).Tidy := by
  cases r with
  | error e => exact .fail e
  | ok t => exact .of_settled (h t rfl)

theorem endsLine_andThen {a b : Written} (ha : EndsLine a.text) (hb : EndsLine b.text) :
    EndsLine (a.andThen b).text := by
  rw [andThen_text]
  split
  · exact ha.append hb
  · simpa using ha

theorem Tidy.andThen {a b : Written} (ha : a.Tidy) (hb : b.Tidy) : (a.andThen b).Tidy where
  endsLine := endsLine_andThen ha.endsLine hb.endsLine
  settled := by
    intro ok
    obtain ⟨okA, okB⟩ := andThen_error_eq_none.mp ok
    rw [andThen_text_of_ok okA]
    exact (ha.settled okA).append (hb.settled okB)

theorem closed_tidy : Closed Tidy := ⟨.nothing, .andThen⟩

theorem closed_endsLine : Closed fun w => EndsLine w.text := ⟨.nil, endsLine_andThen⟩

theorem Tidy.andThen_settling {a : Written} {t : List Char} (ha : EndsLine a.text)
    (ht : ∀ s, EndsLine s → Settled (s ++ t)) : (a.andThen ⟨t, none⟩).Tidy where
  endsLine := by
    rw [andThen_text]
    split
    · exact (ht _ ha).endsLine
    · simpa using ha
  settled := by
    intro ok
    rw [andThen_text_of_ok (andThen_error_eq_none.mp ok).1]
    exact ht _ ha

end Written

open Written

theorem linkGroup_tidy (d : Document) (links : List Node) (kind : Tag) :
    (linkGroup d links kind).Tidy := by
  refine .ofExcept fun t h => ?_
  obtain ⟨lines, _, rfl⟩ := map_eq_ok.mp h
  split
  · exact .nil
  · exact .of_suffix (List.suffix_refl _)

theorem linkBlock_tidy (d : Document) (n : Node) : (linkBlock d n).Tidy := by
  unfold linkBlock
  split
  · exact .fail _
  · exact ((linkGroup_tidy ..).andThen (linkGroup_tidy ..)).andThen (linkGroup_tidy ..)

theorem linkBlock_of_no_links {d : Document} {n : Node} (none : n.links = []) :
    linkBlock d n = .nothing := by
  rw [linkBlock, Document.links, none, Document.follow_nil]
  rfl

theorem quoteChunks_tidy (children : List Node) : (quoteChunks children).Tidy := by
  refine closed_tidy.quoteChunks fun c _ => .ofExcept fun t h => ?_
  obtain ⟨text, _, rfl⟩ := map_eq_ok.mp h
  split
  · exact .nil
  · exact .of_suffix (List.suffix_refl _)

/-! ### Lists

A list writes whole lines at every level. Only the newline behind the outermost list makes it
settled. -/

theorem itemHead_endsLine (ordered : Bool) (level number : Nat) (attrs : Attributes)
    (children : List Node) : EndsLine (itemHead ordered level number attrs children).text := by
  have gap : ∀ isTerm : Bool, EndsLine (if isTerm ∧ 1 < number then ['\n'] else []) := by
    intro isTerm
    split
    · exact .inr (List.suffix_refl _)
    · exact .nil
  unfold itemHead
  split
  · exact gap _
  · refine .append (gap _) ?_
    split
    · exact .nil
    · exact .of_suffix (List.suffix_refl _)

/-- An item writes whole lines, and so does a list inside an item. -/
theorem listItem_endsLine (n : Node) :
    (∀ ordered level number, EndsLine (listItem ordered level number n).text) ∧
      ∀ level, EndsLine (innerList level n).text := by
  induction n using Node.rec_strong with
  | text t => exact ⟨fun _ _ _ => .nil, fun _ => .nil⟩
  | element tag attrs children ih =>
      constructor
      · intro ordered level number
        rw [listItem]
        split
        · exact .nil
        · split
          · exact .nil
          · exact endsLine_andThen (itemHead_endsLine ..)
              (closed_endsLine.innerLists fun c member => (ih c member).2 _)
      · intro level
        rw [innerList]
        split
        · exact closed_endsLine.listItems (fun c member number => (ih c member).1 _ _ _) 1
        · exact .nil

theorem listItems_endsLine (ordered : Bool) (level number : Nat) (items : List Node) :
    EndsLine (listItems ordered level number items).text :=
  closed_endsLine.listItems (fun c _ => (listItem_endsLine c).1 ordered level) number

/-! ### Other blocks -/

theorem tableBody_endsLine (children : List Node) : EndsLine (tableBody children).text := by
  unfold tableBody
  cases tableOf children with
  | error e => exact .nil
  | ok table =>
      change EndsLine (toggle ++ ['\n'] ++ table.draw ++ if table.draw.isEmpty then [] else ['\n'])
      split
      · next none =>
          rw [List.isEmpty_iff.mp none, List.append_nil, List.append_nil]
          exact .of_suffix (List.suffix_refl _)
      · exact .of_suffix (List.suffix_refl _)

theorem literalText_settled (attrs : Attributes) (source : List Char) :
    Settled (literalText attrs source) :=
  .of_suffix (List.suffix_refl _)

theorem headingText_tidy (clamp : Option Int) (n : Node) : (headingText clamp n).Tidy := by
  unfold headingText
  dsimp only
  split
  · exact .fail _
  · refine .ofExcept fun t h => ?_
    obtain ⟨line, _, rfl⟩ := map_eq_ok.mp h
    exact .of_suffix (List.suffix_refl _)

theorem blockOf_settled (t : List Char) : Settled (blockOf t) := by
  unfold blockOf
  split
  · exact .nil
  · exact .of_suffix (List.suffix_refl _)

theorem rawText_settled {attrs : Attributes} {source t : List Char}
    (h : rawText attrs source = .ok t) : Settled t := by
  unfold rawText at h
  dsimp only at h
  split at h
  · cases h
    split
    · exact .nil
    · exact .of_suffix (List.suffix_refl _)
  · split at h
    · split at h
      · cases h
      · cases h
        split
        · exact .nil
        · exact .of_suffix (List.suffix_refl _)
    · cases h
      exact .nil

theorem header_settled (metadata : Option Metadata) :
    Settled ((metadata.map Metadata.header).getD []) := by
  cases metadata with
  | none => exact .nil
  | some m =>
      cases m with
      | mk title date =>
          have titled : Settled ("# ".toList ++ title ++ "\n\n".toList) :=
            .of_suffix (List.suffix_refl _)
          cases date with
          | none => exact titled.append .nil
          | some date => exact titled.append (.of_suffix (List.suffix_refl _))

/-! ## Walks -/

/-- Whatever is hoisted, a walk writes whole lines if the links are written in such, and if it
    does not fail, what it wrote is settled. -/
theorem writeWith_tidy {hoist : Node → Written} (links : ∀ n, (hoist n).Tidy) (w : Walk)
    (n : Node) : (Walk.writeWith hoist w n).Tidy := by
  induction n using Node.rec_strong with
  | text t => exact .nothing
  | element tag attrs children ih =>
      cases tag with
      | footnote => exact .nothing
      | blockQuote => exact (quoteChunks_tidy children).andThen (links _)
      | bulletList | enumeratedList | definitionList =>
          refine .andThen (a := if isLinksOnlyList children then _ else _) ?_ (links _)
          split
          · exact .nothing
          · exact .andThen_settling (listItems_endsLine ..) fun _ => EndsLine.settled_newline
      | document =>
          exact .andThen (a := ⟨_, none⟩) (.of_settled (header_settled w.metadata))
            (closed_tidy.writeAllWith ih)
      | heading => exact headingText_tidy ..
      | listItem => exact .fail _
      | literalBlock => exact .of_settled (literalText_settled ..)
      | paragraph =>
          refine .andThen (a := if isLinksOnlyParagraph children then _ else _) ?_
            (links _)
          split
          · exact .nothing
          · refine .ofExcept fun t h => ?_
            obtain ⟨text, _, rfl⟩ := map_eq_ok.mp h
            exact blockOf_settled text
      | raw => exact .ofExcept fun t => rawText_settled
      | table =>
          have closing (s : List Char) : Settled (s ++ (toggle ++ "\n\n".toList)) :=
            .of_suffix (List.suffix_append toggle _)
          exact .andThen (.andThen_settling (tableBody_endsLine children) fun s _ => closing s)
            (links _)
      | transition =>
          have rule : Settled ("---\n\n".toList) := .inr ⟨"---".toList, rfl⟩
          exact .of_settled rule
      | _ => exact closed_tidy.writeAllWith ih

/-- Whatever a walk goes over, it writes whole lines, and if it does not fail, what it wrote is
    settled. -/
theorem write_tidy (w : Walk) (n : Node) : (w.write n).Tidy := by
  rw [← Walk.writeWith_linkBlock]
  exact writeWith_tidy (linkBlock_tidy w.document) w n

theorem bare_tidy (w : Walk) (n : Node) : (w.bare n).Tidy :=
  writeWith_tidy (fun _ => .nothing) w n

/-- Elements that write nothing of their own, so that a walk only goes on to what is inside. -/
def Tag.isTransparent : Tag → Bool
  | document | paragraph | blockQuote | bulletList | enumeratedList | definitionList | listItem
  | literalBlock | table | footnote | transition | raw | heading => false
  | _ => true

/-- A walk over a tree comes to a node inside it when it has written this text. -/
inductive Walk.Reaches (w : Walk) : Node → List Char → Node → Prop where
  | here (n : Node) : w.Reaches n [] n
  | inside {tag : Tag} {attrs : Attributes} {before behind : List Node} {c n : Node}
      {t : List Char} : tag.isTransparent = true → (w.writeAll before).error = none →
      w.Reaches c t n →
      w.Reaches (.element tag attrs (before ++ c :: behind)) ((w.writeAll before).text ++ t) n
  | inDocument {attrs : Attributes} {before behind : List Node} {c n : Node} {t : List Char} :
      (w.writeAll before).error = none → w.Reaches c t n →
      w.Reaches (.element .document attrs (before ++ c :: behind))
        ((w.metadata.map Metadata.header).getD [] ++ (w.writeAll before).text ++ t) n

theorem Walk.write_transparent {w : Walk} {tag : Tag} (h : tag.isTransparent = true)
    (attrs : Attributes) (children : List Node) :
    w.write (.element tag attrs children) = w.writeAll children := by
  cases tag <;> first | rfl | cases h

theorem Walk.prefix_writeAll {w : Walk} {before behind : List Node} {c : Node} {t : List Char}
    (ok : (w.writeAll before).error = none) (h : t <+: (w.write c).text) :
    (w.writeAll before).text ++ t <+: (w.writeAll (before ++ c :: behind)).text := by
  rw [writeAll_append, Written.andThen_text_of_ok ok, List.prefix_append_right_inj]
  exact h.trans (Written.text_prefix_andThen ..)

/-- What a walk writes of a node stands right behind what it had written when it came to it. -/
theorem Walk.Reaches.prefix_write {w : Walk} {m n : Node} {t : List Char} (h : w.Reaches m t n) :
    t ++ (w.write n).text <+: (w.write m).text := by
  induction h with
  | here n => exact List.prefix_refl _
  | inside transparent ok _ ih =>
      rw [write_transparent transparent, List.append_assoc]
      exact prefix_writeAll ok ih
  | inDocument ok _ ih =>
      rw [List.append_assoc, List.append_assoc]
      exact (List.prefix_append_right_inj _).mpr (prefix_writeAll ok ih)

/-- A walk comes to every node with whole lines that are settled. -/
theorem Walk.Reaches.settled {w : Walk} {m n : Node} {t : List Char} (h : w.Reaches m t n) :
    Settled t := by
  induction h with
  | here n => exact .nil
  | inside _ ok _ ih => exact ((closed_tidy.writeAll fun c _ => write_tidy w c).settled ok).append ih
  | inDocument ok _ ih =>
      exact ((header_settled w.metadata).append
        ((closed_tidy.writeAll fun c _ => write_tidy w c).settled ok)).append ih

/-! ## Sessions -/

namespace Page

/-- Walks over nodes of documents, one after another. A walk that fails ends there, and the
    next one goes on behind what it wrote. -/
def walks (p : Page) : List (Document × Node) → Page
  | [] => p
  | (d, n) :: rest => (p.walk d n).1.walks rest

/-- No walk of a session fails. -/
def Unfailing (p : Page) : List (Document × Node) → Prop
  | [] => True
  | (d, n) :: rest => (p.walk d n).2 = none ∧ (p.walk d n).1.Unfailing rest

def walkIn (p : Page) (d : Document) : Walk := ⟨d, p.metadata, p.clamp⟩

theorem prefix_walks (p : Page) (steps : List (Document × Node)) :
    p.body <+: (p.walks steps).body := by
  induction steps generalizing p with
  | nil => exact List.prefix_refl _
  | cons step rest ih => exact (List.prefix_append _ _).trans (ih (p.walk step.1 step.2).1)

theorem walks_endsLine {p : Page} (h : EndsLine p.body) (steps : List (Document × Node)) :
    EndsLine (p.walks steps).body := by
  induction steps generalizing p with
  | nil => exact h
  | cons step rest ih => exact ih (h.append (write_tidy _ step.2).endsLine)

theorem walks_settled {p : Page} (h : Settled p.body) {steps : List (Document × Node)}
    (ok : p.Unfailing steps) : Settled (p.walks steps).body := by
  induction steps generalizing p with
  | nil => exact h
  | cons step rest ih => exact ih (h.append ((write_tidy _ step.2).settled ok.1)) ok.2

end Page

theorem dropEndBreaks_not_endsLine (t : List Char) : ¬ ['\n'] <:+ Text.dropEndBreaks t := by
  intro ends
  have first : ['\n'] <+: t.reverse.dropWhile (· == '\n') := List.reverse_suffix.mp ends
  have kept := List.head?_dropWhile_not (· == '\n') t.reverse
  obtain ⟨rest, same⟩ := first
  rw [← same] at kept
  cases kept

/-- A finished page ends with one newline, unless it is empty. -/
theorem endOnce_endsLine {t : List Char} (h : EndsLine t) :
    EndsLine (Text.endOnce t) ∧ ¬ ['\n', '\n'] <:+ Text.endOnce t := by
  rcases h with rfl | ⟨s, rfl⟩
  · exact ⟨.nil, by simp [Text.endOnce]⟩
  · have last : (s ++ ['\n']).getLast? = some '\n' := List.getLast?_concat
    rw [Text.endOnce, if_pos last]
    refine ⟨.of_suffix (List.suffix_refl _), ?_⟩
    rintro ⟨front, same⟩
    have one : front ++ ['\n'] = Text.dropEndBreaks (s ++ ['\n']) :=
      List.append_cancel_right (by rw [← same]; simp)
    exact dropEndBreaks_not_endsLine _ ⟨front, one⟩

/-- Over every session of walks on one page, failed or not, over any nodes of any documents: the
    page is only extended; it ends at the end of a line, and while no walk has failed it is
    settled; and so it is wherever a further walk comes to a node, behind which the text of that
    node stands. A rendered document is empty or ends with one newline. -/
theorem session_lines (settings : Settings) (metadata : Option Metadata)
    (steps more : List (Document × Node)) :
    let start := Page.begin settings metadata
    let page := start.walks steps
    page.body <+: (page.walks more).body ∧ EndsLine page.body ∧
      (start.Unfailing steps → Settled page.body) ∧
      (∀ d n t m, (page.walkIn d).Reaches n t m →
        page.body ++ t ++ ((page.walkIn d).write m).text <+: (page.walk d n).1.body ∧
          EndsLine (page.body ++ t) ∧ (start.Unfailing steps → Settled (page.body ++ t))) ∧
      ∀ d t, render d settings metadata = .ok t → EndsLine t ∧ ¬ ['\n', '\n'] <:+ t := by
  intro start page
  have ends : EndsLine page.body := Page.walks_endsLine .nil steps
  have settled (ok : start.Unfailing steps) : Settled page.body := Page.walks_settled .nil ok
  refine ⟨page.prefix_walks more, ends, settled, fun d n t m reached => ⟨?_, ?_, ?_⟩, ?_⟩
  · rw [List.append_assoc]
    exact (List.prefix_append_right_inj _).mpr reached.prefix_write
  · exact ends.append reached.settled.endsLine
  · exact fun ok => (settled ok).append reached.settled
  · intro d t rendered
    obtain ⟨_, _, rfl⟩ := render_eq_ok.mp rendered
    exact endOnce_endsLine (write_tidy _ d.root).endsLine

/-- Two quotes leave a settled page. Behind a quote and a walk that failed at a stray item, a page
    still ends at the end of a line, and a further quote only extends it. -/
theorem session_lines_quotes :
    let quote := Node.element .blockQuote {} [.element .paragraph {} [.text ['x']]]
    let stray := Node.element .listItem {} []
    let start := Page.begin {} none
    Settled (start.walks [({}, quote), ({}, quote)]).body ∧
      EndsLine (start.walks [({}, quote), ({}, stray)]).body ∧
      (start.walks [({}, quote), ({}, stray)]).body <+:
        ((start.walks [({}, quote), ({}, stray)]).walks [({}, quote)]).body ∧
      EndsLine "> x\n".toList := by
  intro quote stray start
  have written (w : Walk) : w.write quote = ⟨"> x\n\n".toList, none⟩ := by
    change (quoteChunks quote.children).andThen (linkBlock w.document quote) = _
    rw [linkBlock_of_no_links rfl]
    rfl
  have quotes := session_lines {} none [({}, quote), ({}, quote)] []
  have behindStray := session_lines {} none [({}, quote), ({}, stray)] [({}, quote)]
  have unfailing : start.Unfailing [({}, quote), ({}, quote)] := by
    simp only [Page.Unfailing, Page.walk, written, and_self]
  have rendered : render ⟨[quote], []⟩ {} none = .ok "> x\n".toList := by
    have whole (w : Walk) : w.write (.element .document {} [quote]) =
        Written.andThen ⟨(w.metadata.map Metadata.header).getD [], none⟩
          ((w.write quote).andThen .nothing) := rfl
    rw [render_eq_ok, Document.root, whole, written]
    exact ⟨rfl, rfl, rfl⟩
  exact ⟨quotes.2.2.1 unfailing, behindStray.2.1, behindStray.1,
    (quotes.2.2.2.2 _ _ rendered).1⟩

end Gemtext
