import Gemtext.Html.Reference
import Gemtext.Text.Blank
import Gemtext.Text.Case
import Gemtext.Text.Search

/-! # Markup

Raw HTML is read as a list of events: pieces of text, tags, hidden markup such as
comments, and sections of literal characters. Reading is lenient. Text is read in two
passes: the first stops where something might still be completed by more input, and the
second goes on from there, knowing that nothing more will come, and takes what is
unfinished for text.

Two kinds of markup are refused: a section `<![` with a keyword that does not exist, and a
decimal character reference with too many digits, in the text or in the value of an attribute.
-/

namespace Gemtext.Html

open Text

inductive Rejection where
  /-- A section begins with an unknown keyword. -/
  | unknownKeyword (keyword : List Char)
  /-- A section begins with something that is no keyword. -/
  | expectedKeyword (found : List Char)
  /-- The number of a character has too many digits to be read. -/
  | longReference
  deriving DecidableEq, Repr

inductive Event where
  | text (t : List Char)
  | opening (name : List Char)
  | selfClosing (name : List Char)
  | closing (name : List Char)
  /-- A comment, a declaration or an instruction. -/
  | hidden
  /-- A section of literal characters. -/
  | literal (t : List Char)
  deriving DecidableEq, Repr

/-- How the reader takes what comes next: as markup, or as the content of an element that
only its own closing tag ends. -/
inductive Mode where
  | markup
  | rawText (name : List Char)
  deriving DecidableEq, Repr

inductive Construct where
  /-- It ends, with these events, and leaves the rest. -/
  | read (events : List Event) (rest : List Char)
  /-- Its end is missing. -/
  | unfinished

/-! ## Tags -/

/-- The characters of a tag name behind its first letter. -/
def isTagChar (c : Char) : Bool :=
  !(c == '\t' || c == '\n' || c == '\r' || c == '\x0c' || c == ' ' || c == '/' || c == '>' ||
    c == '\x00')

/-- Skips blanks, and slashes that do not close the tag. -/
def skipTagGap : List Char → List Char
  | [] => []
  | c :: t =>
    if isWhite c || (c == '/' && t.head? != some '>') then skipTagGap t else c :: t

/-- The last character that was passed on the way from `t` to its end piece `rest`. -/
def lastPassed (before : Char) (t rest : List Char) : Char :=
  (t.take (t.length - rest.length)).getLastD before

/-- Reads the value of an attribute, if `t` begins with one, and gives the rest. A quote
without its partner begins no value: then the value is empty behind blanks, and otherwise
it begins with the last of several equal signs. -/
def readValue? (t : List Char) : Option (List Char × List Char) :=
  let unquoted (t : List Char) :=
    let stays (c : Char) := !(c == '>' || isWhite c)
    (t.takeWhile stays, t.dropWhile stays)
  let marks := t.dropWhile isWhite
  let behind := marks.dropWhile (· == '=')
  let count := marks.length - behind.length
  let value := behind.dropWhile isWhite
  if count = 0 then none
  else
    match value with
    | [] => some ([], [])
    | q :: t =>
      if q == '\x27' || q == '\x22' then
        match t.dropWhile (· != q) with
        | _ :: rest => some (t.takeWhile (· != q), rest)
        | [] =>
          if value.length < behind.length then some ([], value)
          else if 2 ≤ count then some ('=' :: (unquoted value).1, (unquoted value).2)
          else none
      else some (unquoted value)

/-- A character behind which an attribute may begin. -/
def separatesAttributes (c : Char) : Bool := c == '\x27' || c == '\x22' || c == '/' || isWhite c

/-- Reads an attribute. Gives its value, which is empty if it has none, and the rest behind
it and the gap that follows it. -/
def readAttribute? (before : Char) (t : List Char) : Option (List Char × List Char) :=
  match t with
  | [] => none
  | c :: rest =>
    if !separatesAttributes before || isWhite c || c == '/' || c == '>' then none
    else
      let behind := rest.dropWhile fun d => !(isWhite d || d == '/' || d == '=' || d == '>')
      let read := (readValue? behind).getD ([], behind)
      some (read.1, skipTagGap read.2)

/-- Reads attributes for as long as they follow one another. Gives their values and the
rest. -/
def readAttributes (before : Char) (t : List Char) : List (List Char) × List Char :=
  match readAttribute? before t with
  | some (value, rest) =>
    if rest.length < t.length then
      let others := readAttributes (lastPassed before t rest) rest
      (value :: others.1, others.2)
    else ([], t)
  | none => ([], t)
termination_by t.length

/-- Reads a tag that begins with `<` and a letter. Where a character follows that fits
nowhere, the whole stays text. The references in its attributes have to be readable all the
same, unless it is unfinished. -/
def readOpening (t : List Char) : Except Rejection Construct :=
  let inside := t.drop 1
  let written := inside.takeWhile isTagChar
  let behindName := inside.dropWhile isTagChar
  let name := lower written
  let gap := skipTagGap behindName
  let attributes := readAttributes (lastPassed (written.getLastD '<') behindName gap) gap
  let ended (events : List Event) (rest : List Char) : Except Rejection Construct :=
    if attributes.1.any hasLongReference then .error .longReference else .ok (.read events rest)
  match attributes.2 with
  | [] => .ok .unfinished
  | '>' :: rest => ended [.opening name] rest
  | '/' :: rest => ended [.selfClosing name] (rest.drop 1)
  | c :: rest =>
    if c.isAlpha || c == '=' then .ok .unfinished
    else ended [.text (t.take (t.length - (c :: rest).length))] (c :: rest)

def behindBracket? (t : List Char) : Option (List Char) := dropThrough? ['>'] t

/-- A character of a name in a well-formed closing tag, behind the first letter. -/
def isClosingChar (c : Char) : Bool :=
  c.isAlphanum || c == '-' || c == '.' || c == ':' || c == '_'

/-- Reads a closing tag that is well formed: a name between blanks. -/
def plainClosing? (t : List Char) : Option (List Char × List Char) :=
  match (t.drop 2).dropWhile isWhite with
  | [] => none
  | c :: u =>
    if !c.isAlpha then none
    else
      match (u.dropWhile isClosingChar).dropWhile isWhite with
      | '>' :: rest => some ((c :: u.takeWhile isClosingChar).map Char.toLower, rest)
      | _ => none

/-- Reads what begins with `</`. A name may be followed by anything up to the bracket;
without a name it is hidden markup. -/
def readClosing (t : List Char) : Construct :=
  match behindBracket? (t.drop 1) with
  | none => .unfinished
  | some rest =>
    match plainClosing? t with
    | some (name, rest) => .read [.closing name] rest
    | none =>
      match t.drop 2 with
      | '>' :: _ => .read [] rest
      | c :: u =>
        if c.isAlpha then .read [.closing (lower ((c :: u).takeWhile isTagChar))] rest
        else .read [.hidden] rest
      | [] => .unfinished

/-! ## Hidden markup -/

/-- The end of a comment: two hyphens and a bracket, with blanks before the bracket. -/
def commentEnd? : List Char → Option (List Char)
  | '-' :: '-' :: t =>
    match t.dropWhile isWhite with
    | '>' :: rest => some rest
    | _ => none
  | _ => none

/-- The end of a section that holds only text: one or, with `double`, two square brackets
and a bracket, with blanks between. -/
def sectionEnd? (double : Bool) : List Char → Option (List Char)
  | ']' :: t =>
    match t.dropWhile isWhite with
    | '>' :: rest => if double then none else some rest
    | ']' :: u =>
      match u.dropWhile isWhite with
      | '>' :: rest => if double then some rest else none
      | _ => none
    | _ => none
  | _ => none

/-- Hidden markup that leaves `rest`, if its end was found. -/
def hiddenUpTo : Option (List Char) → Construct
  | some rest => .read [.hidden] rest
  | none => .unfinished

def sectionEvent (content : List Char) : Event :=
  match dropPrefix? "CDATA[".toList ((content.take 6).map Char.toUpper) with
  | some _ => .literal (content.drop 6)
  | none => .hidden

/-- Reads a section, which begins with `<![` and a keyword. -/
def readSection (t : List Char) : Except Rejection Construct :=
  let inside := t.drop 3
  let isKeywordChar (c : Char) := c.isAlphanum || c == '-' || c == '_' || c == '.'
  let upTo (double : Bool) : Construct :=
    match splitAt? (sectionEnd? double) inside with
    | some (content, rest) => .read [sectionEvent content] rest
    | none => .unfinished
  match inside with
  | [] => .ok .unfinished
  | c :: _ =>
    if !c.isAlpha then .error (.expectedKeyword (t.take 20))
    else
      let behind := (inside.dropWhile isKeywordChar).dropWhile isWhite
      let keyword := ((inside.takeWhile isKeywordChar).map Char.toLower)
      if behind.isEmpty then .ok .unfinished
      else if ["temp", "cdata", "ignore", "include", "rcdata"].any (·.toList == keyword) then
        .ok (upTo true)
      else if ["if", "else", "endif"].any (·.toList == keyword) then .ok (upTo false)
      else .error (.unknownKeyword (inside.take (inside.length - behind.length)))

/-- Reads a declaration, which begins with `<!` and is no comment. -/
def readDeclaration (t : List Char) : Except Rejection Construct :=
  match t.drop 2 with
  | '[' :: _ => readSection t
  | u =>
    if (dropWord? "doctype".toList u).isSome then .ok (hiddenUpTo (behindBracket? (u.drop 7)))
    else .ok (hiddenUpTo (behindBracket? u))

/-- Reads what begins with an opening bracket, except a bracket that begins nothing. -/
def readBracket? (t : List Char) : Except Rejection (Option Construct) :=
  match t with
  | '<' :: c :: u =>
    if c.isAlpha then (readOpening t).map some
    else if c == '/' then .ok (some (readClosing t))
    else if c == '!' then
      match dropPrefix? "--".toList u with
      | some v => .ok (some (hiddenUpTo ((splitAt? commentEnd? v).map Prod.snd)))
      | none => (readDeclaration t).map some
    else if c == '?' then .ok (some (hiddenUpTo (behindBracket? u)))
    else .ok none
  | _ => .ok none

/-! ## Passes over the text -/

inductive Move where
  /-- Gives events and goes on with the rest. -/
  | go (events : List Event) (rest : List Char) (mode : Mode)
  /-- Gives events and stops before the rest. -/
  | stop (events : List Event) (rest : List Char)

/-- An unfinished construct that nothing will complete is text up to its first bracket, or
up to the next construct. -/
def takeForText (t : List Char) : Move :=
  let inside := t.drop 1
  match behindBracket? inside with
  | some rest => .go [.text (t.take (t.length - rest.length))] rest .markup
  | none =>
    match inside.dropWhile (· != '<') with
    | [] => .go [.text (t.take 1)] inside .markup
    | rest => .go [.text (t.take (t.length - rest.length))] rest .markup

def modeAfter : List Event → Mode
  | [.opening name] =>
    if name == "script".toList || name == "style".toList then .rawText name else .markup
  | _ => .markup

def moveAtBracket (last : Bool) (t : List Char) : Except Rejection Move :=
  match readBracket? t with
  | .error e => .error e
  | .ok (some (.read events rest)) => .ok (.go events rest (modeAfter events))
  | .ok (some .unfinished) => .ok (if last then takeForText t else .stop [] t)
  | .ok none =>
    .ok (match t.drop 1 with
      | [] => .stop [] t
      | rest => .go [.text ['<']] rest .markup)

def moveAtReference (last : Bool) (t : List Char) : Except Rejection Move :=
  match t.drop 1 with
  | [] => .ok (.stop [] t)
  | '#' :: u =>
    match numericReference? u with
    | some (some c, rest) => .ok (.go [.text [c]] rest .markup)
    | some (none, _) => .error .longReference
    | none => .ok (if t.contains ';' then .stop [.text ['&', '#']] u else .stop [] t)
  | c :: u =>
    match referenceName? (c :: u) with
    | some (name, rest) => .ok (.go [.text (expandName name)] (dropSemicolon rest) .markup)
    | none =>
      .ok (if c.isAlpha then .stop [] (if last && u.isEmpty then c :: u else t)
        else .go [.text ['&']] (c :: u) .markup)

/-- The closing tag of an element whose content is raw text. -/
def rawTextEnd? (name : List Char) : List Char → Option (List Char)
  | '<' :: '/' :: t =>
    match dropWord? name (t.dropWhile isWhite) with
    | some u =>
      match u.dropWhile isWhite with
      | '>' :: rest => some rest
      | _ => none
    | none => none
  | _ => none

/-- The move inside an element whose content is raw text. A closing tag ends the element
if its name is written in ASCII letters. -/
def moveInRawText (name t : List Char) : Move :=
  match splitAt? (rawTextEnd? name) t with
  | none => .stop [] t
  | some (before, rest) =>
    let tag := (t.drop before.length).take (t.length - before.length - rest.length)
    let content := if before.isEmpty then [] else [Event.text before]
    if (plainClosing? tag).isSome then .go (content ++ [.closing name]) rest .markup
    else .go (content ++ [.text tag]) rest (.rawText name)

/-- The next move. `last` says that nothing more will come. -/
def move (last : Bool) (mode : Mode) (t : List Char) : Except Rejection Move :=
  match mode, t with
  | .rawText name, t => .ok (moveInRawText name t)
  | .markup, [] => .ok (.stop [] [])
  | .markup, c :: u =>
    if c == '<' then moveAtBracket last (c :: u)
    else if c == '&' then moveAtReference last (c :: u)
    else
      let plain (d : Char) := !(d == '<' || d == '&')
      .ok (.go [.text ((c :: u).takeWhile plain)] ((c :: u).dropWhile plain) .markup)

/-- What one pass reads, what it leaves, and the mode it leaves it in. -/
def pass (last : Bool) (mode : Mode) (t : List Char) :
    Except Rejection (List Event × List Char × Mode) :=
  match move last mode t with
  | .error e => .error e
  | .ok (.stop events rest) => .ok (events, rest, mode)
  | .ok (.go events rest next) =>
    if rest.length < t.length then
      match pass last next rest with
      | .error e => .error e
      | .ok (more, rest, mode) => .ok (events ++ more, rest, mode)
    else .ok (events, rest, next)
termination_by t.length

/-- The events of a text. What the second pass leaves is text, unless it stands in an
element that is never closed. -/
def events (t : List Char) : Except Rejection (List Event) :=
  match pass false .markup t with
  | .error e => .error e
  | .ok (first, rest, mode) =>
    match pass true mode rest with
    | .error e => .error e
    | .ok (second, rest, mode) =>
      match mode with
      | .rawText _ => .ok (first ++ second)
      | .markup => .ok (first ++ second ++ if rest.isEmpty then [] else [.text rest])

end Gemtext.Html
