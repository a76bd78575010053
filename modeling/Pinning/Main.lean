import Pinning.Command.Run
import Pinning.Http.Wire
import Std.Async.DNS
import Std.Async.TCP
/-!
The program on an operating system. It looks at the files that its arguments mention, carries the
command out with the replies that it has, and sends the requests that this leads to until all are
sent. Equal requests count as replied to alike. Connections are plain; a service that asks for
encryption cannot be reached.
-/

set_option autoImplicit false
set_option relaxedAutoImplicit false

namespace Pinning.Main

open Http (Request Reply)

/-- Receive until the other side closes the connection. -/
partial def receiveAll (socket : Std.Async.TCP.Socket.Client) (received : ByteArray) :
    Std.Async.Async ByteArray := do
  match ← socket.recv? 65536 with
  | some more => receiveAll socket (received ++ more)
  | none => pure received

def socketAddress (port : UInt16) : Std.Net.IPAddr → Std.Net.SocketAddress
  | .v4 addr => .v4 { addr, port }
  | .v6 addr => .v6 { addr, port }

def hostName (host : Url.Host) : String :=
  String.ofList (host.render.filter fun c => c != '[' && c != ']')

def talk (request : Request) (address : Std.Net.SocketAddress) : Std.Async.Async Reply := do
  let socket ← Std.Async.TCP.Socket.Client.mk
  socket.connect address
  socket.send ⟨(Http.Wire.requestBytes request).toArray⟩
  let received ← receiveAll socket ByteArray.empty
  pure (Http.Wire.replyOf received.toList)

def fetchPlain (request : Request) (authority : Url.Authority) : IO Reply := do
  let port := authority.port.getD 80
  let addresses ←
    (Std.Async.DNS.getAddrInfo (hostName authority.host) (toString port)).block
  match addresses.toList with
  | [] => pure .broken
  | address :: _ => (talk request (socketAddress (UInt16.ofNat port) address)).block

/-- Send a request. Whatever goes wrong on the way breaks the connection. -/
def fetch (request : Request) : IO Reply :=
  match request.url.scheme, request.url.authority with
  | "http", some authority => try fetchPlain request authority catch _ => pure .broken
  | _, _ => pure .broken

def networkOf (known : List (Request × Reply)) : Http.Network := fun request =>
  match known.lookup request with
  | some reply => .replied reply
  | none => .withheld false

/-- The requests that were not sent yet. A request that is made twice is sent twice. -/
def unsent (known : List (Request × Reply)) (events : List Event) : List Request :=
  let made := events.filterMap fun
    | .request request => some request
    | _ => none
  known.foldl (fun requests (request, _) => requests.erase request) made

/-- Carry out an activity, fetching what it asks for. -/
partial def perform {α : Type} (activity : Http.Network → Activity α)
    (known : List (Request × Reply)) : IO α := do
  let course := (activity (networkOf known)).course false
  match course.outcome, unsent known course.events with
  | .returned value, [] => pure value
  | _, requests =>
    let tasks ← requests.mapM fun request => (fetch request).asTask
    let replies ← tasks.mapM fun task => IO.ofExcept task.get
    perform activity (known ++ requests.zip replies)

def look (path : String) : IO (Option Files.Entry) := do
  try
    let isDirectory := (← (← IO.FS.realPath path).metadata).type == .dir
    if isDirectory then pure (some .directory)
    else pure (some (.file (← IO.FS.readBinFile path).toList))
  catch _ => pure none

def filesAt (paths : List String) : IO Files := do
  let places := ((paths.flatMap Files.placesOf).filter (!Files.isAbove ·)).map Files.pathOf
  let entries ← places.eraseDups.filterMapM fun path => do
    pure ((← look path).map fun entry => (path, entry))
  pure ⟨SortedMap.ofList entries⟩

def pathsOf : Command → List String
  | .resolve options => options.config :: options.output.toList
  | .init _ => [Config.fileName]
  | _ => []

def store (before after : Files) : IO Unit :=
  after.entries.entries.forM fun (path, entry) =>
    match entry with
    | .directory => pure ()
    | .file bytes =>
      if before.entries.get? path = some entry then pure ()
      else IO.FS.writeBinFile path ⟨bytes.toArray⟩

end Pinning.Main

open Pinning Pinning.Main in
def main (arguments : List String) : IO UInt32 := do
  let protocol ← IO.getEnv "PKGRESOLVE_PROTOCOL"
  let paths := ((Command.ofArguments? protocol arguments).map pathsOf).getD []
  let files ← filesAt paths
  let ending ← perform (fun network => Command.runArguments network files protocol arguments) []
  IO.eprint ending.errors
  IO.print ending.output
  store files ending.files
  pure (UInt32.ofNat ending.exitCode)
