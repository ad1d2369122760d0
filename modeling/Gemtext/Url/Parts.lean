import Gemtext.Text.Case
import Gemtext.Text.Search
import Gemtext.Text.Split
import Gemtext.Url.Percent
import Gemtext.Url.Punycode

/-! # Addresses

An address has a scheme, the name of a user, a host, the number of a service there, and the
rest: path, query and fragment. This module takes addresses apart and puts them together
again. Doing both changes an address in a few places only: blanks around it go, and so do the
marks of an empty user or service.

The written form of an address is in ASCII. Its displayed form reads escapes and the ASCII
form of hosts back. Neither form touches the host of a scheme that need not have one.
-/

namespace Gemtext

open Text

/-- The parts of an address. A part that is missing is empty. -/
structure Url where
  /-- The scheme with its colon. -/
  scheme : List Char := []
  /-- Whether two slashes stand before the user and the host. -/
  slashes : Bool := false
  user : List Char := []
  /-- The host. A numeric one has lost its brackets. -/
  host : List Char := []
  /-- The digits behind a colon that number a service at the host. -/
  service : List Char := []
  /-- Path, query and fragment. -/
  tail : List Char := []
  deriving DecidableEq, Repr

namespace Url

def isSchemeChar (c : Char) : Bool :=
  c.isDigit || "+.-".toList.contains c || (lowerLetter c).isAlpha || c == '\u017F' ||
    c == '\u0131'

/-- A character that a host does not hold. -/
def endsHost (c : Char) : Bool :=
  "%/?;#'\x7b\x7d|\\^<>\" \r\n\t".toList.contains c || c == '\x60'

/-- A character that ends the user and the host. -/
def endsAuthority (c : Char) : Bool := c == '/' || c == '?' || c == '#'

/-- A character that the label of a host may hold. -/
def isLabelChar (c : Char) : Bool := c.isAlphanum || c == '+' || c == '-' || c == '_'

/-- Whether the label of a host may stay. Its characters past ASCII are not looked at. -/
def isLabel (label : List Char) : Bool :=
  label.length ≤ 63 && label.all fun c => isLabelChar c || 127 < c.toNat

/-- The scheme that an address begins with, and what follows it. -/
def splitScheme (t : List Char) : List Char × List Char :=
  let name := t.takeWhile isSchemeChar
  match t.dropWhile isSchemeChar with
  | ':' :: rest => if name.isEmpty then ([], t) else (name ++ [':'], rest)
  | _ => ([], t)

/-- The user before the last at sign of the authority, and what follows the sign. -/
def splitUser (t : List Char) : List Char × List Char :=
  let authority := t.takeWhile (!endsAuthority ·)
  match authority.reverse.dropWhile (· != '@') with
  | [] => ([], t)
  | _ :: user => (user.reverse, t.drop (user.length + 1))

/-- The host with the number behind it, and what follows. A colon at the end is left to what
follows. -/
def splitHost (t : List Char) : List Char × List Char :=
  let host := t.takeWhile (!endsHost ·)
  let host := if host.getLast? = some ':' then host.dropLast else host
  (host, t.drop host.length)

/-- The host, and the digits behind its last colon if nothing else follows it. -/
def splitService (host : List Char) : List Char × List Char :=
  let back := host.reverse
  match back.dropWhile Char.isDigit with
  | ':' :: name => (name.reverse, (back.takeWhile Char.isDigit).reverse)
  | _ => (host, [])

/-- The labels of a host as far as they may stay, and what is left of the others. -/
def splitLabels : List (List Char) → List (List Char) × List Char
  | [] => ([], [])
  | label :: labels =>
    if isLabel label then
      let (more, left) := splitLabels labels
      (label :: more, left)
    else
      let stays := (label.takeWhile isLabelChar).take 63
      ([stays], joinWith ['.'] (label.drop stays.length :: labels))

def isBracketed (host : List Char) : Bool :=
  host.head? == some '[' && host.getLast? == some ']'

/-- The host that a name gives, and what is left of the name. A host that is too long is
dropped. -/
def checkHost (name : List Char) : List Char × List Char :=
  let (host, left) :=
    if isBracketed name then (name, [])
    else
      let (labels, left) := splitLabels (splitWhere (· == '.') name)
      (joinWith ['.'] labels, left)
  if 255 < host.length then ([], left)
  else if isBracketed name then (host.tail.dropLast, left)
  else (host, left)

/-- A scheme whose addresses never have a host. -/
def isHostless (scheme : List Char) : Bool := scheme == "javascript:".toList

/-- A scheme whose addresses have a host behind two slashes only. -/
def needsSlashes (scheme : List Char) : Bool :=
  ["http:", "https:", "ftp:", "gopher:", "file:"].contains (String.ofList scheme)

def ofText (t : List Char) : Url :=
  let (scheme, rest) := splitScheme (trim t)
  let slashes := (dropPrefix? ['/', '/'] rest).isSome
  if isHostless scheme then { scheme, tail := rest }
  else if slashes || !(scheme.isEmpty || needsSlashes scheme) then
    let (user, rest) := splitUser (if slashes then rest.drop 2 else rest)
    let (host, rest) := splitHost rest
    let (name, service) := splitService host
    let (host, left) := checkHost name
    { scheme, slashes, user, host, service, tail := left ++ rest }
  else { scheme, tail := rest }

def toText (u : Url) : List Char :=
  u.scheme ++ (if u.slashes then ['/', '/'] else []) ++
    (if u.user.isEmpty then [] else u.user ++ ['@']) ++
    (if u.host.contains ':' then '[' :: u.host ++ [']'] else u.host) ++
    (if u.service.isEmpty then [] else ':' :: u.service) ++ u.tail

/-- Whether the labels of the host are those of a host name. -/
def hasHostName (u : Url) : Bool :=
  !u.host.isEmpty &&
    (u.scheme.isEmpty || ["http:", "https:", "mailto:"].contains (String.ofList u.scheme))

/-- Full stops of all scripts separate the labels of a host name. -/
def separatesLabels (c : Char) : Bool :=
  c == '.' || c == '\u3002' || c == '\uFF0E' || c == '\uFF61'

/-- Changes each label of a host name. It stays as it is if one of them cannot be changed. -/
def mapLabels (f : List Char → Option (List Char)) (u : Url) : Url :=
  if u.hasHostName then
    match (splitWhere separatesLabels u.host).mapM f with
    | some labels => { u with host := joinWith ['.'] labels }
    | none => u
  else u

/-- The mark of a label that is written in ASCII. -/
def asciiMark : List Char := "xn--".toList

def asciiLabel (label : List Char) : List Char :=
  if label.all fun c => c.toNat ≤ 0x7E then label else asciiMark ++ Punycode.encode label

/-- A label whose ASCII form is read back. -/
def readLabel? (label : List Char) : Option (List Char) :=
  match dropPrefix? asciiMark label with
  | some rest => Punycode.decode? (lower rest)
  | none => some label

def written (t : List Char) : List Char :=
  encode ((ofText t).mapLabels fun label => some (asciiLabel label)).toText

def displayed (t : List Char) : List Char := decode ((ofText t).mapLabels readLabel?).toText

/-- The beginnings of addresses that are not allowed. -/
def deniedStarts : List (List Char) :=
  ["vbscript:", "javascript:", "file:", "data:"].map String.toList

/-- The beginnings of addresses that are allowed all the same: data that is an image. -/
def imageStarts : List (List Char) :=
  ["data:image/gif;", "data:image/png;", "data:image/jpeg;", "data:image/webp;"].map
    String.toList

def isAllowed (t : List Char) : Bool :=
  let t := lower (trim t)
  let starts (leads : List (List Char)) := leads.any fun lead => (dropPrefix? lead t).isSome
  !starts deniedStarts || starts imageStarts

end Url

end Gemtext
