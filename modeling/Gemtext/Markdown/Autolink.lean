import Gemtext.Text.Search
import Gemtext.Text.Split
import Gemtext.Url.Parts

/-! # Addresses in angle brackets

An address or an e-mail address in angle brackets is a link that shows the address itself.
A line feed may stand before the closing bracket.
-/

namespace Gemtext.Markdown.Autolink

open Text

def dropLastBreak (t : List Char) : List Char :=
  if t.getLast? = some '\n' then t.dropLast else t

/-- Whether a text is an address with a scheme of two to 32 characters. -/
def isAddress (t : List Char) : Bool :=
  let isSchemeChar (c : Char) := c.isAlphanum || c == '+' || c == '.' || c == '-'
  let scheme := t.takeWhile isSchemeChar
  match t.dropWhile isSchemeChar with
  | ':' :: rest =>
    (scheme.head?.any Char.isAlpha) && 2 ≤ scheme.length && scheme.length ≤ 32 &&
      (dropLastBreak rest).all fun c => 0x20 < c.toNat && c != '<' && c != '>'
  | _ => false

/-- Whether a text is one part of the host of an e-mail address. -/
def isDomainLabel (label : List Char) : Bool :=
  label.length ≤ 63 && label.all (fun c => c.isAlphanum || c == '-') &&
    label.head?.any Char.isAlphanum && label.getLast?.any Char.isAlphanum

/-- A character of an e-mail address before the at sign. -/
def isMailboxChar (c : Char) : Bool :=
  c.isAlphanum || ".!#$%&'*+/=?^_\x7b|\x7d~-".toList.contains c || c == '\x60'

def isMailAddress (t : List Char) : Bool :=
  match t.dropWhile isMailboxChar with
  | '@' :: host =>
    !(t.takeWhile isMailboxChar).isEmpty &&
      (splitWhere (· == '.') (dropLastBreak host)).all isDomainLabel
  | _ => false

/-- The destination of the link that a text in angle brackets is. -/
def destination? (t : List Char) : Option (List Char) :=
  if isAddress t then some (Url.written t)
  else if isMailAddress t then some (Url.written ("mailto:".toList ++ t))
  else none

/-- A link in angle brackets at the head of a text: its destination, what it shows, and
the number of its characters. -/
def read? (t : List Char) : Option (List Char × List Char × Nat) :=
  match t with
  | '<' :: t =>
    let inner := t.takeWhile fun c => c != '<' && c != '>'
    match t.drop inner.length, destination? inner with
    | '>' :: _, some href =>
      if Url.isAllowed href then some (href, Url.displayed inner, inner.length + 2) else none
    | _, _ => none
  | _ => none

end Gemtext.Markdown.Autolink
