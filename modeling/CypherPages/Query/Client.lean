import CypherPages.Http.Reason
import CypherPages.Json.Reader
import CypherPages.Query.Result
import CypherPages.Text.Encoding

/-! # The query client

A client posts queries and reads results. It uses the connection that it was given, or makes
one of its own when it needs one and none is open; it closes only what it made. -/

namespace CypherPages

structure Request where
  method : Text
  url : Url
  contentType : Text
  accept : Text
  query : Text
  deriving DecidableEq

/-- The address of the query service at an endpoint. -/
def cypherUrl (endpoint : Text) : Text :=
  endpoint.dropEndWhile (· == '/') ++ "/api/v1/cypher".toList

/-- The request that submits a query, unchanged, to an endpoint. The endpoint has to make an
address of a host that can be called. -/
def Request.submit (endpoint query : Text) : Except QueryError Request := do
  let stated ← (Url.ofText (cypherUrl endpoint)).mapError .address
  let url ← stated.target.mapError .address
  url.checkHost.mapError .host
  let json := "application/json".toList
  return ⟨"POST".toList, url, json, json, query⟩

/-- What becomes of a request. -/
inductive Reply
  /-- A response, which may state a reason phrase of its own. -/
  | response (status : Int) (reason : Option Text) (body : Octets)
  /-- The transport gave up waiting. -/
  | gaveUp
  /-- The transport failed in another way. -/
  | failed (kind message : Text)
  /-- Something outside the transport went wrong. -/
  | crashed (kind message : Text)
  /-- Nothing, ever. -/
  | silence

/-- Why a body that was not read holds no result. A body that nests too deeply is not one that
makes no sense: reading it ran out of stack. -/
def QueryError.ofFailure (text : Text) (failure : Json.Failure) : QueryError :=
  match failure with
  | .tooDeep _ => .unexpected "RecursionError".toList (failure.message text)
  | _ => .shape (.unreadable (failure.message text))

/-- The result in the body of a response. -/
def readBody (decoder : Json.Decoder) (body : Octets) : Except QueryError QueryResult :=
  match Encoding.decode decoder.half body with
  | .error detail => .error (.shape (.unreadable detail))
  | .ok text =>
    match Json.readDecoded decoder text with
    | .error failure => .error (.ofFailure text failure)
    | .ok payload => (QueryResult.ofPayload payload).mapError .shape

/-- What the reply to a request for an address means to a query that may take `timeout`
seconds. -/
def Reply.outcome (timeout : Binary64) (decoder : Json.Decoder) (url : Url) :
    Reply → Except QueryError QueryResult
  | .response status reason body =>
    if !url.isAbsolute then .error (.unknownHost url.toText)
    else if Http.isSuccess status then readBody decoder body
    else .error (.status status (Http.reasonPhrase reason status))
  | .gaveUp | .silence => .error (.timeout timeout)
  | .failed kind message => .error (.transport (messageOrKind kind message))
  | .crashed kind message => .error (.unexpected kind message)

/-- Whether a timeout leaves time to make a request at all. -/
def leavesTime (timeout : Binary64) : Bool := !(timeout.isZero || timeout.isNegative)

/-- The request that a query makes, if there is time for one. -/
def prepare (timeout : Binary64) (endpoint query : Text) : Except QueryError Request :=
  if leavesTime timeout then Request.submit endpoint query else .error (.timeout timeout)

/-- The requests that a query makes: one at most. -/
def requestsFor (timeout : Binary64) (endpoint query : Text) : List Request :=
  (prepare timeout endpoint query).toOption.toList

/-- The outcome of a query to a server. -/
def queryOutcome (timeout : Binary64) (decoder : Json.Decoder) (endpoint query : Text)
    (server : Request → Reply) : Except QueryError QueryResult := do
  let request ← prepare timeout endpoint query
  (server request).outcome timeout decoder request.url

/-- The connections that a client has used. -/
structure Connections where
  /-- Whether the client was given its connection. -/
  given : Bool
  /-- For each connection, oldest first, whether it is closed. -/
  closed : List Bool
  /-- Whether the client holds the last of them. -/
  holding : Bool
  deriving DecidableEq

namespace Connections

/-- A client starts with the connection it was given, or with none. -/
def start (given : Bool) : Connections := ⟨given, if given then [false] else [], given⟩

/-- Make sure that the client holds a connection. -/
def acquire (connections : Connections) : Connections :=
  if connections.holding then connections
  else { connections with closed := connections.closed ++ [false], holding := true }

/-- Close the connection that the client holds, if the client made it. -/
def release (connections : Connections) : Connections :=
  if connections.given || !connections.holding then connections
  else { connections with closed := connections.closed.dropLast ++ [true], holding := false }

end Connections

/-- A client: the time a query may take, how it reads responses, and its connections. -/
structure Client where
  timeout : Binary64
  decoder : Json.Decoder
  connections : Connections

namespace Client

def start (timeout : Binary64) (decoder : Json.Decoder) (given : Bool) : Client :=
  ⟨timeout, decoder, .start given⟩

/-- Run a query whose request, if it is made, meets with `reply`: the outcome, the requests
made, and the client after it. -/
def execute (client : Client) (endpoint query : Text) (reply : Reply) :
    Except QueryError QueryResult × List Request × Client :=
  (queryOutcome client.timeout client.decoder endpoint query fun _ => reply,
    requestsFor client.timeout endpoint query,
    { client with connections := client.connections.acquire })

def close (client : Client) : Client :=
  { client with connections := client.connections.release }

end Client

end CypherPages
