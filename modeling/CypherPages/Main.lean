import CypherPages.CommandLine.Execution
import CypherPages.Http.Message
import Std.Async.DNS
import Std.Async.System
import Std.Async.TCP
import Std.Async.Timer

/-! # The program

The commands on real files and real connections. What is done with files, settings and replies
is decided elsewhere; here the surroundings of a command are gathered, and what its execution
changes in them is carried out. -/

namespace CypherPages.CommandLine

def usage : String :=
  "usage: cypher-pages build INPUT [-o FILE] [--title TITLE] [--format FORMAT]\n" ++
    "       cypher-pages filter [FORMAT]\n" ++
    "       cypher-pages run INPUT [-o FILE] [--timeout SECONDS] [--endpoint URL]"

def environment : IO (List (Text × Text)) := do
  let pairs ← Std.Internal.UV.System.osEnviron
  return pairs.toList.map fun (name, value) => (name.toList, value.toList)

/-- A place as the system writes it. -/
def Place.toName (place : Place) : String := String.ofList ('/' :: ['/'].intercalate place)

/-- The places that names lead through from a place, the one they lead to last. -/
def passed (place : Place) : List Text → List Place
  | [] => [place]
  | name :: rest =>
    place :: passed (if name = "..".toList then place.dropLast else place ++ [name]) rest

/-- A tree with the directory or the file at a place of the system, if one is there. The text of
a file is fetched only if it is to be read. -/
def lookAt (toRead : Bool) (tree : FileTree) (place : Place) : IO FileTree := do
  let path := (← IO.currentDir) / Place.toName place
  if ← path.isDir then
    return { tree with directories := place :: tree.directories }
  else if tree.isFile place || !(← path.pathExists) then return tree
  else
    let text ← if toRead then IO.FS.readFile path else pure ""
    return { tree with files := tree.files.set place text.toList }

/-- A tree with what stands where a name leads through, and with the file that it leads to, if
that is to be read. -/
def survey (toRead : Bool) (tree : FileTree) (name : Text) : IO FileTree := do
  let path := Path.ofText name
  let places := passed (if path.isAbsolute then [] else tree.current) path.names
  let tree ← places.dropLast.foldlM (lookAt false) tree
  if toRead then places.getLast?.toList.foldlM (lookAt true) tree
  else
    return { tree with directories :=
      (← places.getLast?.toList.foldlM (lookAt false) tree).directories }

/-- What a connection brings until the other side ends it. -/
partial def received (socket : Std.Async.TCP.Socket.Client) (octets : Octets) :
    Std.Async.Async Octets := do
  match ← socket.recv? 65536 with
  | some more => received socket (octets ++ more.toList)
  | none => return octets

/-- What becomes of a request on a connection of its own. -/
def converse (request : Request) : Std.Async.Async Reply := do
  match Http.Destination.ofUrl? request.url with
  | none =>
    return .failed "UnsupportedProtocol".toList
      "Request URL is missing an 'http://' or 'https://' protocol.".toList
  | some destination =>
    let addresses ← Std.Async.DNS.getAddrInfo (String.ofList destination.host) ""
    let some address := addresses[0]? | return .failed "ConnectError".toList []
    let port := UInt16.ofNat destination.port
    let socket ← Std.Async.TCP.Socket.Client.mk
    socket.connect (match address with
      | .v4 host => .v4 ⟨host, port⟩
      | .v6 host => .v6 ⟨host, port⟩)
    socket.send ⟨(Http.requestOctets destination request).toArray⟩
    match Http.Response.ofOctets? (← received socket []) with
    | some response => return .response response.status (some response.reason) response.body
    | none => return .failed "RemoteProtocolError".toList []

/-- What becomes of a request within a time in seconds. -/
def exchange (seconds : Binary64) (request : Request) : IO Reply := do
  let attempt : Std.Async.Async Reply := do
    try
      converse request
    catch error =>
      return .failed "ConnectError".toList (toString error).toList
  match milliseconds seconds with
  | .ok limit =>
    let silence : Std.Async.Async Reply := do
      Std.Async.sleep ⟨limit⟩
      return .silence
    have : Inhabited Reply := ⟨.silence⟩
    Std.Async.Async.block (Std.Async.Async.race attempt silence)
  | .error _ => Std.Async.Async.block attempt

/-- The replies to requests, as a function of the request. -/
def replies (timeouts : List Binary64) (requests : List Request) : IO (Request → Reply) := do
  let answered ← requests.mapM fun request => do
    return (request, ← exchange (timeouts.headD .nan) request)
  return fun request => (answered.lookup request).getD .silence

namespace Command

/-- What a command finds around it, with a server that does not answer. -/
def surroundings (command : Command) : IO Surroundings := do
  let current := (Path.ofText (← IO.currentDir).toString.toList).names
  let usable := fun (name : Text) => !name.contains '\x00'
  let files ← (settingsFile :: command.input?.toList.filter usable).foldlM (survey true)
    ⟨current, [], []⟩
  let files ← (command.output?.toList.filter usable).foldlM (survey false) files
  let input ← if command.input?.isNone then (← IO.getStdin).readToEnd else pure ""
  return ⟨← environment, files, input.toList, fun _ => .silence⟩

/-- Execute a command on real files and connections. The requests of a run do not depend on the
replies to them. -/
def perform (command : Command) : IO Outcome := do
  let found ← command.surroundings
  let unanswered := command.execute found
  let server ← replies unanswered.timeouts unanswered.requests
  let outcome := command.execute { found with server }
  for (place, text) in outcome.files.files do
    if found.files.files.get? place != some text then
      IO.FS.writeFile (Place.toName place) (String.ofList text)
  IO.print (String.ofList outcome.printed)
  return outcome

end Command

/-- Make a command of the arguments and execute it. -/
def mainWith (arguments : List Text) : IO UInt32 := do
  match Command.read arguments with
  | .error .help =>
    IO.println usage
    return UInt32.ofNat Halt.help.status
  | .error .usage =>
    IO.eprintln usage
    return UInt32.ofNat Halt.usage.status
  | .ok command =>
    match (← command.perform).failure with
    | none => return 0
    | some failure =>
      IO.eprintln (String.ofList ((failure.logLine? command).getD "the command failed".toList))
      return 1

end CypherPages.CommandLine

def main (arguments : List String) : IO UInt32 :=
  CypherPages.CommandLine.mainWith (arguments.map String.toList)
