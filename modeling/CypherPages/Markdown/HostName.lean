import CypherPages.Number.Numeral
import CypherPages.Text.Lower
import CypherPages.Text.Punycode

/-! # The parts of an address

An address is cut at its scheme, its user, its host and its port, and put together again. What
is no host name does not stay in the host: where a label goes wrong, the host ends, and the port
moves to that place. In the address itself the labels of a host name are written in ASCII; to
readers they are shown in their own script. -/

namespace CypherPages.Markdown

/-- The parts of an address. Each of them may be empty. -/
structure AddressParts where
  /-- The scheme, with its colon. -/
  scheme : Text
  /-- Whether two slashes stand before the host. -/
  hasSlashes : Bool
  user : Text
  /-- The host, without the brackets that enclose it. -/
  host : Text
  port : Text
  rest : Text

namespace AddressParts

/-- Whether a character can stand in the name of a scheme. Four letters beyond ASCII that differ
from one of ASCII in case only are among them. -/
def isSchemeChar (c : Char) : Bool :=
  ('a' ≤ c && c ≤ 'z') || ('A' ≤ c && c ≤ 'Z') || Numeral.isDigit c ||
    ['.', '+', '-', '\u0130', '\u0131', '\u017f', '\u212a'].contains c

/-- The scheme of an address with its colon, and what stands after it. -/
def cutScheme (t : Text) : Text × Text :=
  match t.takeWhile isSchemeChar, t.dropWhile isSchemeChar with
  | c :: scheme, ':' :: rest => (c :: scheme ++ [':'], rest)
  | _, _ => ([], t)

/-- The schemes whose addresses have a host only behind slashes. -/
def slashedSchemes : List Text := ["http:", "https:", "ftp:", "gopher:", "file:"].map (·.toList)

/-- The user that an authority starts with, up to the last at sign, and what stands after it. -/
def cutUser (t : Text) : Text × Text :=
  let authority : Text := t.takeWhile fun c => c != '/' && c != '?' && c != '#'
  let user := authority.dropEndWhile (· != '@')
  (user.dropLast, t.drop user.length)

def hostEnds : List Char :=
  ['%', '/', '?', ';', '#', '\'', '\x7b', '\x7d', '|', '\\', '^', Char.ofNat 0x60, '<', '>', '"',
    ' ', '\r', '\n', '\t']

/-- The host with its port that a text starts with, and what stands after it. A colon before the
end is not part of it. -/
def cutHost (t : Text) : Text × Text :=
  let upToEnd := t.takeWhile fun c => !hostEnds.contains c
  let length := if upToEnd.getLast? == some ':' then upToEnd.length - 1 else upToEnd.length
  (t.take length, t.drop length)

/-- A host and the port behind its last colon, if nothing but digits stands there. -/
def cutPort (t : Text) : Text × Text :=
  let digits := (t.reverse.takeWhile Numeral.isDigit).reverse
  match t.reverse.drop digits.length with
  | ':' :: host => (host.reverse, digits)
  | _ => (t, [])

def isLabelChar (c : Char) : Bool :=
  ('a' ≤ c && c ≤ 'z') || ('A' ≤ c && c ≤ 'Z') || Numeral.isDigit c || ['+', '-', '_'].contains c

def isLabel (t : Text) : Bool :=
  t.length ≤ 63 && t.all fun c => isLabelChar c || 0x80 ≤ c.toNat

/-- The labels of a host up to the first that may be none, which is cut where it goes wrong. -/
def validLabels : List Text → List Text
  | [] => []
  | label :: rest =>
    if isLabel label then label :: validLabels rest else [(label.takeWhile isLabelChar).take 63]

/-- How long a host name may be. A longer one is left out. -/
def maxHostLength : Nat := 255

/-- The host name that a host starts with, and what stands after it. A host in brackets is kept,
without them. -/
def cutName (host : Text) : Text × Text :=
  let limited := fun (name : Text) => if maxHostLength < name.length then [] else name
  if host.head? == some '[' && host.getLast? == some ']' then
    (((limited host).drop 1).dropLast, [])
  else
    let name : Text := ['.'].intercalate (validLabels (host.splitOn '.'))
    let passed := host.drop name.length
    (limited name, passed)

def ofText (t : Text) : AddressParts :=
  let (scheme, rest) := cutScheme t
  let hasScript := scheme == "javascript:".toList
  let slashed := "//".toList.isPrefixOf rest
  let hasSlashes := slashed && !hasScript
  let rest := if hasSlashes then rest.drop 2 else rest
  if !hasScript && (slashed || (!scheme.isEmpty && !slashedSchemes.contains scheme)) then
    let (user, rest) := cutUser rest
    let (authority, rest) := cutHost rest
    let (host, port) := cutPort authority
    let (name, passed) := cutName host
    ⟨scheme, hasSlashes, user, name, port, passed ++ rest⟩
  else ⟨scheme, hasSlashes, [], [], [], rest⟩

/-- An address from its parts, the host in brackets if there is a colon in it. `write` is how the
other parts and the host within its brackets are written. -/
def toText (write : Text → Text) (parts : AddressParts) : Text :=
  let slashes := if parts.hasSlashes then ['/', '/'] else []
  let user := if parts.user.isEmpty then [] else parts.user ++ ['@']
  let port := if parts.port.isEmpty then [] else ':' :: parts.port
  let host := if parts.host.contains ':' then '[' :: write parts.host ++ [']'] else write parts.host
  write (parts.scheme ++ slashes ++ user) ++ host ++ write (port ++ parts.rest)

/-- The schemes whose hosts are names; an address without a scheme is like one of these. -/
def namedSchemes : List Text := [[], "http:".toList, "https:".toList, "mailto:".toList]

end AddressParts

def asciiLabel (label : Text) : Text :=
  if label.any fun c => 0x7e < c.toNat then Punycode.labelMark ++ Punycode.encode label else label

def scriptLabel? (label : Text) : Option Text :=
  match Punycode.labelMark.isPrefixOf? label with
  | some coded => Punycode.decode? (Text.lower coded)
  | none => some label

/-- The parts of an address, with each label of a host name replaced if all of them can be. -/
def AddressParts.mapLabels (f : Text → Option Text) (parts : AddressParts) : AddressParts :=
  if namedSchemes.contains parts.scheme && !parts.host.isEmpty then
    match (parts.host.splitOnP Punycode.isLabelSeparator).mapM f with
    | some labels => { parts with host := ['.'].intercalate labels }
    | none => parts
  else parts

/-- The parts of an address, with its host name in ASCII. -/
def AddressParts.inAscii (parts : AddressParts) : AddressParts :=
  parts.mapLabels fun label => some (asciiLabel label)

/-- The parts of an address, with its host name in its own script, if it has a name in ASCII for
one. -/
def AddressParts.inScript (parts : AddressParts) : AddressParts := parts.mapLabels scriptLabel?

end CypherPages.Markdown
