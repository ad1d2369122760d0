import Gemtext.Text.Case
import Gemtext.Text.Search
import Gemtext.Text.Word

/-! # Denied elements

Some elements are removed with everything inside: scripts, style sheets, forms and
their like. In raw HTML a denied pair is an opening tag of such an element, any text,
and the first closing tag that repeats the name as it was written, in any case. Blanks
may stand behind the angle bracket and around the slash. Pairs are removed from the
left, and what is left over is not looked at again.
-/

namespace Gemtext.Html

open Text

/-- The elements that are removed with their content. -/
def deniedNames : List String :=
  ["script", "style", "form", "iframe", "canvas", "dialog", "progress", "fieldset"]

def isDenied (name : List Char) : Bool := deniedNames.any (·.toList == name)

/-- Whether a name that was just read ends here, and does not run on into `t`. -/
def nameEnds : (t : List Char) → Bool
  | [] => true
  | c :: _ => !isWordChar c

/-- A name read from the head of a text, as it is written there, and the rest behind it.
The name is given in lower case letters. -/
def readName? (name t : List Char) : Option (List Char × List Char) :=
  match dropWord? name t with
  | some rest => if nameEnds rest then some (t.take name.length, rest) else none
  | none => none

/-- The rest behind an opening tag of a denied element at the head, with the name as it
is written. -/
def deniedOpening? : (t : List Char) → Option (List Char × List Char)
  | '<' :: t =>
    match deniedNames.findSome? fun name => readName? name.toList (t.dropWhile isWhite) with
    | some (name, rest) =>
      match rest.dropWhile (· != '>') with
      | _ :: after => some (name, after)
      | [] => none
    | none => none
  | _ => none

/-- Two letters that closing tags do not tell apart. -/
def sameLower (a b : Char) : Bool := lowerLetter a == lowerLetter b

/-- The rest behind `name` at the head, in any case. -/
def dropSame? : (name : List Char) → List Char → Option (List Char)
  | [], t => some t
  | _ :: _, [] => none
  | a :: as, b :: t => if sameLower a b then dropSame? as t else none

/-- The rest behind the closing tag of `name` at the head. -/
def closing? (name : List Char) : (t : List Char) → Option (List Char)
  | '<' :: t =>
    match t.dropWhile isWhite with
    | '/' :: t =>
      match dropSame? name (t.dropWhile isWhite) with
      | some t =>
        match t.dropWhile isWhite with
        | '>' :: rest => some rest
        | _ => none
      | none => none
    | _ => none
  | _ => none

def deniedPair? (t : List Char) : Option (List Char) :=
  match deniedOpening? t with
  | some (name, rest) => (splitAt? (closing? name) rest).map Prod.snd
  | none => none

theorem dropWord?_length {word t rest : List Char} (h : dropWord? word t = some rest) :
    t.length = word.length + rest.length := by
  induction word generalizing t with
  | nil => simp_all [dropWord?]
  | cons w ws ih =>
    cases t with
    | nil => simp [dropWord?] at h
    | cons c t =>
      rw [dropWord?] at h
      split at h
      · have := ih h
        simp only [List.length_cons]
        omega
      · cases h

theorem dropSame?_length {name t rest : List Char} (h : dropSame? name t = some rest) :
    t.length = name.length + rest.length := by
  induction name generalizing t with
  | nil => simp_all [dropSame?]
  | cons a as ih =>
    cases t with
    | nil => simp [dropSame?] at h
    | cons b t =>
      rw [dropSame?] at h
      split at h
      · have := ih h
        simp only [List.length_cons]
        omega
      · cases h

theorem length_dropWhile_le (p : Char → Bool) (t : List Char) :
    (t.dropWhile p).length ≤ t.length :=
  (List.dropWhile_sublist p).length_le

/-- An opening tag takes up at least one character. -/
theorem deniedOpening?_length {t name rest : List Char}
    (h : deniedOpening? t = some (name, rest)) : rest.length < t.length := by
  unfold deniedOpening? at h
  split at h
  · next t =>
    split at h
    · next name' behind hn =>
      obtain ⟨d, _, hd⟩ := List.exists_of_findSome?_eq_some hn
      split at h
      · next c after ha =>
        obtain ⟨rfl, rfl⟩ := Prod.mk.inj (Option.some.inj h)
        have h1 := length_dropWhile_le (· != '>') behind
        have h2 := length_dropWhile_le isWhite t
        rw [ha, List.length_cons] at h1
        unfold readName? at hd
        split at hd
        · next hw =>
          split at hd
          · obtain ⟨_, rfl⟩ := Prod.mk.inj (Option.some.inj hd)
            have h3 := dropWord?_length hw
            simp only [List.length_cons]
            omega
          · cases hd
        · cases hd
      · cases h
    · cases h
  · cases h

/-- A closing tag leaves no more than it was given. -/
theorem closing?_length {name t rest : List Char} (h : closing? name t = some rest) :
    rest.length ≤ t.length := by
  unfold closing? at h
  split at h
  · next t =>
    split at h
    · next u hu =>
      split at h
      · next v hv =>
        split at h
        · next w hw =>
          obtain rfl := Option.some.inj h
          have h1 := length_dropWhile_le isWhite t
          have h2 := length_dropWhile_le isWhite u
          have h3 := length_dropWhile_le isWhite v
          have h4 := dropSame?_length hv
          rw [hu, List.length_cons] at h1
          rw [hw, List.length_cons] at h3
          simp only [List.length_cons]
          omega
        · cases h
      · cases h
    · cases h
  · cases h

/-- A denied pair takes up at least one character. -/
theorem deniedPair?_length {t rest : List Char} (h : deniedPair? t = some rest) :
    rest.length < t.length := by
  unfold deniedPair? at h
  split at h
  · next name behind ho =>
    obtain ⟨⟨before, r⟩, hs, rfl⟩ := Option.map_eq_some_iff.1 h
    obtain ⟨place, rfl, hp⟩ := splitAt?_eq_some hs
    have h1 := deniedOpening?_length ho
    have h2 := closing?_length hp
    rw [List.length_append] at h1
    show r.length < t.length
    omega
  · cases h

/-- Removes the denied pairs of a text, from the left. -/
def removeDenied : (t : List Char) → List Char
  | [] => []
  | c :: t =>
    match _h : deniedPair? (c :: t) with
    | some rest => removeDenied rest
    | none => c :: removeDenied t
termination_by t => t.length
decreasing_by
  · exact deniedPair?_length _h
  · exact Nat.lt_succ_self _

end Gemtext.Html
