import CypherPages.Json.Writer
import CypherPages.Query.Client

/-! # Messages

A request as the octets that go to a server, and the response in the octets that come back. One
connection serves one request: the response ends where the connection ends, unless its body
comes in chunks that say so. -/

namespace CypherPages.Http

/-- Where on the network a request goes. -/
structure Destination where
  host : Text
  port : Nat
  /-- What is asked of the host. -/
  target : Text
  deriving DecidableEq

/-- The destination that an address names, none if its scheme is not the plain one. -/
def Destination.ofUrl? (url : Url) : Option Destination :=
  if url.scheme == "http".toList then
    let path := if url.path.isEmpty then ['/'] else url.path
    let query := (url.query.map ('?' :: ·)).getD []
    some ⟨url.host, (url.port.getD 80).toNat, path ++ query⟩
  else none

/-- A line of the head of a message. -/
def headLine (t : Text) : Text := t ++ ['\r', '\n']

/-- A request as it goes to its destination. -/
def requestOctets (destination : Destination) (request : Request) : Octets :=
  let body := Encoding.utf8 ((Json.object [("query".toList, .string request.query)]).write .compact)
  Encoding.utf8 (headLine (request.method ++ ' ' :: destination.target ++ " HTTP/1.1".toList) ++
    headLine ("Host: ".toList ++ destination.host ++ ':' :: Text.decimal destination.port) ++
    headLine ("Accept: ".toList ++ request.accept) ++
    headLine ("Content-Type: ".toList ++ request.contentType) ++
    headLine ("Content-Length: ".toList ++ Text.decimal body.length) ++
    headLine "Connection: close".toList ++ headLine []) ++ body

/-- What stands before and after the first empty line. -/
def splitHead : Octets → Octets × Octets
  | 0x0d :: 0x0a :: 0x0d :: 0x0a :: body => ([], body)
  | octet :: rest =>
    let (head, body) := splitHead rest
    (octet :: head, body)
  | [] => ([], [])

/-- The value of the hexadecimal digits that octets start with. -/
def leadingHex (octets : Octets) : Nat :=
  Hexadecimal.ofDigits
    ((octets.map fun octet => Char.ofNat octet.toNat).takeWhile Hexadecimal.isDigit)

/-- The content of a body in chunks. A chunk without content is the last. -/
def joinChunks (octets : Octets) : Octets :=
  match octets.dropWhile (· != 0x0a), leadingHex octets with
  | _ :: rest, size + 1 =>
    rest.take (size + 1) ++
      if (rest.drop (size + 3)).length < octets.length then joinChunks (rest.drop (size + 3))
      else []
  | _, _ => []
  termination_by octets.length
  decreasing_by assumption

structure Response where
  status : Nat
  reason : Text
  body : Octets
  deriving DecidableEq

/-- The response in the octets that a connection brought, if they begin with a status line. -/
def Response.ofOctets? (octets : Octets) : Option Response :=
  let (head, body) := splitHead octets
  let lines := (Text.lines (head.map fun octet => Char.ofNat octet.toNat)).map
    fun line => line.filter (· != '\r')
  let chunked := lines.any fun line =>
    line.map Char.toLower == "transfer-encoding: chunked".toList
  match lines with
  | first :: _ =>
    let stated := (first.dropWhile (· != ' ')).drop 1
    let code := stated.takeWhile Numeral.isDigit
    if "HTTP/".toList.isPrefixOf first && code.length = 3 then
      some ⟨Numeral.ofDigits code, (stated.drop 4).filter (·.toNat < 0x80),
        if chunked then joinChunks body else body⟩
    else none
  | [] => none

end CypherPages.Http
