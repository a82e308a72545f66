import DeviceGateway.Cli.Launch
import DeviceGateway.Cli.Serving
import Std.Async.Signal
import Std.Async.System
import Std.Async.TCP
import Std.Async.Timer
import Std.Sync.Channel
import Std.Time

/-!
# The program

Reads files, the environment and the clock, moves octets between the network and the gateway, and
prints. One loop takes what happens, in its order, and lets the gateway take a step. Connections are
not encrypted here: a gateway with TLS does not come to run.
-/

namespace DeviceGateway.Cli

open Std.Async

/-! ### Files and addresses -/

def readSource : Option String → IO Config.Source
  | none => return .absent
  | some path => do
    try
      return .file (← IO.FS.readBinFile path).toList
    catch
      | .noFileOrDirectory .. => return .absent
      | _ => return .unreadable

/-- The contents of those files that can be read. -/
def readFiles (paths : List String) : IO TlsMaterial.Files := do
  let mut files : List (String × Bytes) := []
  for path in paths do
    try
      files := (path, (← IO.FS.readBinFile path).toList) :: files
    catch _ => pure ()
  return fun path => files.lookup path

def ofNetwork : Std.Net.SocketAddress → SocketAddress
  | .v4 a => ⟨.v4 a.addr.octets[0] a.addr.octets[1] a.addr.octets[2] a.addr.octets[3], a.port, 0⟩
  | .v6 a => ⟨.v6 ⟨a.addr.segments.toList, by simp⟩, a.port, 0⟩

def toNetwork (a : SocketAddress) : Std.Net.SocketAddress :=
  match a.ip with
  | .v4 b c d e => .v4 ⟨.ofParts b c d e, a.port⟩
  | .v6 g => .v6 ⟨⟨⟨g.toList.toArray, by simp [g.length_eq]⟩⟩, a.port⟩

/-- A socket that listens on an address, or why there is none. -/
def listen (a : SocketAddress) : IO (Except String TCP.Socket.Server) := do
  try
    let server ← TCP.Socket.Server.mk
    server.bind (toNetwork a)
    server.listen 1024
    return .ok server
  catch e => return .error (toString e)

/-! ### The log -/

def print (line : String) : IO Unit := do
  let time ← Std.Time.PlainDateTime.now
  let stdout ← IO.getStdout
  stdout.putStrLn (time.format "uuuu-MM-dd'T'HH:mm:ss.SSSSSS" ++ " " ++ line)
  stdout.flush

def printNotices (l : Launch) (ns : List Notice) : IO Unit := do
  for n in ns do
    if l.filter.shows n.level then
      print (l.filter.line n.level (n.text ConnectionId.label))

/-! ### What happens -/

inductive Occurrence
  | connected (client : TCP.Socket.Client) (address : SocketAddress)
  | notConnected (reason : String)
  | signal (connection : ConnectionId) (s : Signal)
  | notWritten (connection : ConnectionId) (reason : String)
  | tick
  | interrupted

instance : Inhabited Occurrence := ⟨.tick⟩

abbrev Occurrences := Std.Channel Occurrence

/-- How often the gateway looks at the clock when nothing else happens, in milliseconds. -/
def tickLength : Std.Time.Millisecond.Offset := 100

partial def acceptAll (happened : Occurrences) (server : TCP.Socket.Server) : Async Unit := do
  let occurrence ← try
      let client ← server.accept
      pure (.connected client (ofNetwork (← client.getPeerName)))
    catch e => pure (.notConnected (toString e))
  discard <| happened.send occurrence
  acceptAll happened server

partial def readAll (happened : Occurrences) (c : ConnectionId) (client : TCP.Socket.Client) :
    Async Unit := do
  let s ← try
      match ← client.recv? 8192 with
      | some b => pure (Signal.bytes b.toList)
      | none => pure .endOfStream
    catch e => pure (.readFailure (toString e))
  discard <| happened.send (.signal c s)
  match s with
  | .bytes _ => readAll happened c client
  | _ => return

partial def tickAll (happened : Occurrences) : Async Unit := do
  (← Sleep.mk tickLength).wait
  discard <| happened.send .tick
  tickAll happened

def awaitInterrupt (happened : Occurrences) : Async Unit := do
  let waiter ← Std.Async.Signal.Waiter.mk .sigint false
  discard <| await (← waiter.wait)
  discard <| happened.send .interrupted

def write (happened : Occurrences) (c : ConnectionId) (client : TCP.Socket.Client) (b : Bytes) :
    Async Unit := do
  try
    client.send ⟨b.toArray⟩
  catch e => discard <| happened.send (.notWritten c (toString e))

def hangUp (client : TCP.Socket.Client) : Async Unit := do
  try
    client.shutdown
  catch _ => return

/-! ### The loop -/

/-- What the loop works with. -/
structure Running where
  launch : Launch
  service : Service Unit
  address : SocketAddress
  happened : Occurrences
  gateway : Gateway Unit
  clients : Index ConnectionId TCP.Socket.Client := ∅
  /-- the connections to which writing failed -/
  broken : Index ConnectionId String := ∅

namespace Running

/-- Prints what there is to say, and forgets it. -/
def report (r : Running) : IO Running := do
  printNotices r.launch (Serving.said r.gateway)
  return { r with gateway := { r.gateway with journal := {} } }

def now : IO Duration := return ⟨← IO.monoNanosNow⟩

/-- Sends to the network what connections wrote, and lets go of those that ended. -/
def perform (as : Activities) (r : Running) : IO Running := do
  let mut r := r
  for (c, a) in as.inOrder do
    if let some client := r.clients.get? c then
      if !a.written.isEmpty then
        discard <| Async.toIO (write r.happened c client a.written)
      if a.departure.isSome then
        discard <| Async.toIO (hangUp client)
        r := { r with clients := r.clients.erase c, broken := r.broken.erase c }
  r.report

def step (signals : List (ConnectionId × Signal)) (r : Running) : IO Running := do
  let (as, g) := Serving.step r.service r.broken.get? (← now) signals r.gateway
  { r with gateway := g }.perform as

def connect (client : TCP.Socket.Client) (address : SocketAddress) (r : Running) : IO Running := do
  try
    client.noDelay
  catch _ => pure ()
  let (c, g) := r.gateway.accept r.service (← now) address
  discard <| Async.toIO (readAll r.happened c client)
  { r with gateway := g, clients := r.clients.insert c client }.step []

def close (r : Running) : IO Unit := do
  let (as, g) := Serving.close r.service r.address (← now) (r.gateway.note .interrupted)
  discard <| { r with gateway := g }.perform as

partial def loop (r : Running) : IO Unit := do
  match ← r.happened.sync.recv with
  | .connected client address => loop (← r.connect client address)
  | .notConnected reason =>
    loop (← { r with gateway := r.gateway.note (.acceptFailed reason) }.report)
  | .signal c s => loop (← r.step [(c, s)])
  | .notWritten c reason => loop (← { r with broken := r.broken.insert c reason }.step [])
  | .tick => loop (← r.step [])
  | .interrupted => r.close

end Running

/-- Runs a gateway until the program is interrupted. -/
def serve (l : Launch) (server : TCP.Socket.Server) : IO Unit := do
  let address := ofNetwork (← server.getSockName)
  let happened ← Std.Channel.new
  discard <| Async.toIO (awaitInterrupt happened)
  discard <| Async.toIO (acceptAll happened server)
  discard <| Async.toIO (tickAll happened)
  let r : Running := {
    launch := l, service := l.service, address, happened
    gateway := Serving.start l.settings address }
  (← r.report).loop

end DeviceGateway.Cli

open DeviceGateway DeviceGateway.Cli in
def main (args : List String) : IO UInt32 := do
  let parallelism := max 1 (← Std.Async.System.getCPUInfo).size
  let env := (← Std.Internal.UV.System.osEnviron).toList
  let source ← match Request.ofArguments args with
    | .run o => readSource o.configFile
    | _ => pure .absent
  let finish (r : Report) : IO UInt32 := do
    r.stdout.forM IO.println
    r.log.forM print
    if let some f := r.failure then IO.eprintln f.message
    return r.exitCode.toUInt32
  match Start.launch? parallelism env (fun _ => source) args with
  | .error r => finish r
  | .ok l =>
    let listening ← listen l.settings.address
    let paths := l.settings.tls.map fun t => [t.certificate, t.key] ++ t.clientAuthority.toList
    let files ← readFiles (paths.getD [])
    let refusal := match listening with
      | .ok _ => none
      | .error reason => some reason
    match Start.ofLaunch ⟨parallelism, files, fun _ => refusal⟩ l, listening with
    | .over r, _ => finish r
    | .running l none, .ok server =>
      l.log.forM print
      serve l server
      return 0
    | .running l _, _ =>
      l.log.forM print
      IO.eprintln "Error: connections with TLS are not served"
      return 1
