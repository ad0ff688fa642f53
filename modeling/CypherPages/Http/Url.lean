import CypherPages.Html.Tag
import CypherPages.Http.DomainName
import CypherPages.Http.HostNumber
import CypherPages.Text.Blank
import CypherPages.Text.DecimalDigit
import CypherPages.Text.Percent

/-! # Addresses of requests

The address of a request is cut into its parts, each of which is put into its usual form: the
scheme and the host in lower case, the host in ASCII, the path without dot segments, all other
characters that may not stand in a part as percent escapes. Not every text is an address. -/

namespace CypherPages

/-- An address, each part in its usual form. -/
structure Url where
  scheme : Text
  user : Text
  host : Text
  /-- The port, unless it is the usual one of the scheme. -/
  port : Option Int
  path : Text
  query : Option Text
  fragment : Option Text
  deriving DecidableEq

namespace Url

/-- Why a text is no address. -/
inductive Problem
  | tooLong
  /-- A part of the address has become too long. -/
  | longPart (name : String)
  /-- A control character, with its position. -/
  | control (c : Char) (position : Nat)
  | dottedHost (host : Text)
  | colonedHost (host : Text)
  | namedHost (host : Text)
  | port (digits : Text)
  /-- A path without a host before it starts with two slashes. -/
  | slashes
  /-- A path without a host before it starts with a colon. -/
  | colon
  deriving DecidableEq

def Problem.message : Problem → Text
  | .tooLong => "URL too long".toList
  | .longPart name => "URL component '".toList ++ name.toList ++ "' too long".toList
  | .control c position =>
    "Invalid non-printable ASCII character in URL, ".toList ++ Text.quoted [c] ++
      " at position ".toList ++ Text.decimal position ++ ['.']
  | .dottedHost host => "Invalid IPv4 address: ".toList ++ host.quoted
  | .colonedHost host => "Invalid IPv6 address: ".toList ++ host.quoted
  | .namedHost host => "Invalid IDNA hostname: ".toList ++ host.quoted
  | .port digits => "Invalid port: ".toList ++ digits.quoted
  | .slashes => "Relative URLs cannot have a path starting with '//'".toList
  | .colon => "Relative URLs cannot have a path starting with ':'".toList

/-! ### Characters -/

def isControl (c : Char) : Bool := c.toNat < 0x20 || c.toNat == 0x7f

/-- Whether a character can stand in the name of a scheme, behind the first. -/
def isSchemeChar (c : Char) : Bool :=
  Html.isLetter c || Numeral.isDigit c || ['+', '.', '-'].contains c

/-- Whether a character stands for itself in every part of an address. -/
def isUnreserved (c : Char) : Bool :=
  Html.isLetter c || Numeral.isDigit c || ['-', '.', '_', '~'].contains c

/-- Whether a character is visible in ASCII and none of some others. -/
def isVisibleBut (others : String) (c : Char) : Bool :=
  0x20 < c.toNat && c.toNat < 0x7f && !others.toList.contains c

def isFragmentChar (c : Char) : Bool := c != Char.ofNat 0x60 && isVisibleBut "\"<>" c

def isQueryChar (c : Char) : Bool := isVisibleBut "\"#<>" c

def isPathChar (c : Char) : Bool := c != Char.ofNat 0x60 && isVisibleBut "\"#<>?\x7b\x7d" c

def isUserChar (c : Char) : Bool := isPathChar c && isVisibleBut "/;=@[\\]^|" c

def isHostChar (c : Char) : Bool :=
  isUnreserved c || c == Char.ofNat 0x60 || "!$&'()*+,;=\"\x7b\x7d%|\\".toList.contains c

/-! ### Parts -/

/-- The scheme in front of a colon, which may be empty, and the text behind the colon. -/
def cutScheme (t : Text) : Text × Text :=
  let scheme := if t.head?.any Html.isLetter then t.takeWhile isSchemeChar else []
  match t.drop scheme.length with
  | ':' :: rest => (scheme, rest)
  | _ => ([], t)

/-- The authority behind two slashes, and the text behind it. -/
def cutAuthority : Text → Text × Text
  | '/' :: '/' :: rest =>
    let authority := rest.takeWhile fun c => c != '/' && c != '?' && c != '#'
    (authority, rest.drop authority.length)
  | t => ([], t)

/-- The user in front of the last at sign, and the text behind it. -/
def cutUser (t : Text) : Text × Text :=
  let user := t.dropEndWhile (· != '@')
  (user.dropLast, t.drop user.length)

/-- The host in front of a colon, and the text behind the colon. A host in brackets may hold
colons. -/
def cutHost (t : Text) : Text × Text :=
  let host :=
    if t.head? == some '[' && t.contains ']' then t.dropEndWhile (· != ']')
    else t.takeWhile (· != ':')
  let rest := t.drop host.length
  (host, if rest.head? == some ':' then rest.drop 1 else rest)

/-- The part of a text behind the first occurrence of a mark, if there is one. -/
def behind? (mark : Char) (t : Text) : Option Text :=
  match t.dropWhile (· != mark) with
  | [] => none
  | _ :: rest => some rest

def normalizeHost (host : Text) : Except Problem Text :=
  if HostNumber.looksDotted host then
    if HostNumber.isDotted host then .ok host else .error (.dottedHost host)
  else if host.head? == some '[' && host.getLast? == some ']' then
    let inner := (host.drop 1).dropLast
    if HostNumber.isColoned inner then .ok inner else .error (.colonedHost host)
  else if host.all Text.isAscii then .ok (Percent.encode isHostChar host.lower)
  else (DomainName.encode host.lower).mapError fun _ => .namedHost host

/-- The port that a scheme implies. -/
def usualPort? (scheme : Text) : Option Int :=
  [("ftp", 21), ("http", 80), ("https", 443), ("ws", 80), ("wss", 443)].lookup
    (String.ofList scheme)

/-- The number of a port: digits of any script, perhaps with a sign and with blanks around. -/
def portNumber? (t : Text) : Option Int :=
  Numeral.integer? (t.trim.map asciiDigit)

/-- A port in its usual form: nothing where the scheme implies it. -/
def normalizePort (scheme port : Text) : Except Problem (Option Int) :=
  if port.isEmpty then .ok none
  else
    match portNumber? port with
    | none => .error (.port port)
    | some n => .ok (if usualPort? scheme == some n then none else some n)

/-- The segments of a path without those that are dots. Two dots take the segment before them
along, but not the empty one in front of a path from the root. -/
def withoutDots (passed : List Text) : List Text → List Text
  | [] => passed.reverse
  | segment :: rest =>
    if segment == ['.'] then withoutDots passed rest
    else if segment == ['.', '.'] then
      withoutDots (if passed == [[]] then passed else passed.drop 1) rest
    else withoutDots (segment :: passed) rest

def normalizePath (path : Text) : Text := ['/'].intercalate (withoutDots [] (path.splitOn '/'))

/-- How long an address may be. -/
def maxLength : Nat := 65536

def ofText (t : Text) : Except Problem Url := do
  if maxLength < t.length then throw .tooLong
  match t.find? isControl with
  | some c => throw (.control c (t.takeWhile (· != c)).length)
  | none =>
    let (scheme, rest) := cutScheme t
    let (authority, rest) := cutAuthority rest
    let path := rest.takeWhile fun c => c != '?' && c != '#'
    let beforeFragment := rest.takeWhile (· != '#')
    let (user, hostAndPort) := cutUser authority
    let (host, port) := cutHost hostAndPort
    let host ← normalizeHost host
    let port ← normalizePort scheme port
    let isBare := scheme.isEmpty && user.isEmpty && host.isEmpty && port.isNone
    if isBare && "//".toList.isPrefixOf path then throw .slashes
    if isBare && path.head? == some ':' then throw .colon
    return {
      scheme := scheme.map Char.toLower
      user := Percent.encode isUserChar user
      host, port
      path := Percent.encode isPathChar (if isBare then path else normalizePath path)
      query := (behind? '?' beforeFragment).map (Percent.encode isQueryChar)
      fragment := (behind? '#' rest).map (Percent.encode isFragmentChar) }

/-- Whether an address names its host. -/
def isAbsolute (url : Url) : Bool := !url.scheme.isEmpty && !url.host.isEmpty

/-- The address that is asked for: where an address does not name its host, its path and its
query from the root. -/
def target (url : Url) : Except Problem Url :=
  let path := '/' :: url.path.dropWhile (· == '/')
  if url.isAbsolute then .ok url
  else if maxLength < path.length then .error (.longPart "path")
  else if url.query.any fun query => maxLength < query.length then .error (.longPart "query")
  else .ok ⟨[], [], [], none, path, url.query, none⟩

def hostAndPort (url : Url) : Text :=
  (if url.host.contains ':' then '[' :: url.host ++ [']'] else url.host) ++
    match url.port with
    | none => []
    | some n => ':' :: Text.signedDecimal n

def authority (url : Url) : Text :=
  (if url.user.isEmpty then [] else url.user ++ ['@']) ++ url.hostAndPort

def toText (url : Url) : Text :=
  let optional := fun (mark : Char) (part : Option Text) =>
    match part with
    | none => ([] : Text)
    | some t => mark :: t
  let authority := url.authority
  (if url.scheme.isEmpty then [] else url.scheme ++ [':']) ++
    (if authority.isEmpty then [] else '/' :: '/' :: authority) ++ url.path ++
    optional '?' url.query ++ optional '#' url.fragment

/-- Why the host of an address cannot be called. -/
inductive HostProblem
  /-- The name in ASCII stands for no name. -/
  | name (problem : DomainName.Problem)
  /-- The host and the port, which are not in ASCII. -/
  | notAscii (hostAndPort : Text)
  deriving DecidableEq

def HostProblem.message : HostProblem → Text
  | .name problem => problem.message
  | .notAscii hostAndPort =>
    let start := (hostAndPort.takeWhile Text.isAscii).length
    let foreign := (hostAndPort.drop start).takeWhile fun c => !Text.isAscii c
    let place := match foreign with
      | [c] => " '".toList ++ Text.codePointEscape c ++ "' in position ".toList ++
          Text.decimal start
      | _ => "s in position ".toList ++ Text.decimal start ++ '-' ::
          Text.decimal (start + foreign.length - 1)
    "'ascii' codec can't encode character".toList ++ place ++
      ": ordinal not in range(128)".toList

/-- Check that a host can be called: its name in ASCII stands for a name, and its zone is in
ASCII. -/
def checkHost (url : Url) : Except HostProblem Unit :=
  if Punycode.labelMark.isPrefixOf url.host then (DomainName.check url.host).mapError .name
  else if url.hostAndPort.all Text.isAscii then .ok ()
  else .error (.notAscii url.hostAndPort)

end Url

end CypherPages
