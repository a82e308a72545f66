import DeviceGateway.Charset
import DeviceGateway.Connection.Error
import DeviceGateway.Duration
import DeviceGateway.Net.Address
import DeviceGateway.Outbound.Message
import DeviceGateway.Packet.Basic
import DeviceGateway.Text.Quoted

/-!
# Log

What is worth a line in the log, with its level and its words. A line names connections; how a
connection is named is left to whoever writes the line (`Notice.text`).
-/

namespace DeviceGateway

inductive Level
  | error
  | warn
  | info
  | debug
  | trace
  deriving DecidableEq, Repr

namespace Level

/-- The word for a level. -/
def word : Level → String
  | error => "error"
  | warn => "warn"
  | info => "info"
  | debug => "debug"
  | trace => "trace"

/-- The level at the front of a line. -/
def name (l : Level) : String := l.word.toUpper

/-- How many levels are more severe. -/
def rank : Level → Nat
  | error => 0
  | warn => 1
  | info => 2
  | debug => 3
  | trace => 4

def all : List Level := [error, warn, info, debug, trace]

def ofWord? (word : String) : Option Level := all.find? (·.word = word)

/-- Whether a log of level `l` has lines of level `m`. -/
def shows (l m : Level) : Bool := m.rank ≤ l.rank

end Level

/-- The end of a hook that gave up, with a text if there was one. -/
structure Panic where
  text? : Option String := none
  deriving DecidableEq, Repr

def Panic.text (p : Panic) : String := p.text?.getD "non-string panic payload"

/-- A call of a hook. -/
inductive HookCall
  | verifier (connection : ConnectionId) (clientId : String)
  | identityMapping (connection : ConnectionId) (clientId : String)
  | onlineListener (connection : ConnectionId) (identity : String)
  | offlineListener (connection : ConnectionId) (identity : String)
  | messageHandler (connection : ConnectionId) (topic : String)
  deriving DecidableEq, Repr

namespace HookCall

def hook : HookCall → String
  | verifier .. => "verifier"
  | identityMapping .. => "identity mapping"
  | onlineListener .. => "online listener"
  | offlineListener .. => "offline listener"
  | messageHandler .. => "message handler"

def context (label : ConnectionId → String) : HookCall → String
  | verifier c id | identityMapping c id => s!"{label c} client '{id}'"
  | onlineListener c id | offlineListener c id => s!"{label c} '{id}'"
  | messageHandler c topic => s!"{label c} topic '{topic}'"

end HookCall

/-- Why a message to a device was dropped. -/
inductive DropReason
  | emptyTopic
  | emptyContent
  | notConnected
  | notEncoded (e : EncodeError)
  deriving DecidableEq, Repr

/-- What is said about a dropped message on a topic. -/
def DropReason.text (topic : String) : DropReason → String
  | emptyTopic => "dropping outbound message with empty topic"
  | emptyContent => s!"dropping outbound message with empty content on '{topic}'"
  | notConnected => s!"not connected, dropping message on '{topic}'"
  | notEncoded e => s!"cannot encode PUBLISH on '{topic}': {e.message}"

/-- A connection with the identity of its device, `-` before there is one. -/
structure Peer where
  connection : ConnectionId
  identity : Option String
  deriving DecidableEq, Repr

def Peer.text (label : ConnectionId → String) (p : Peer) : String :=
  let identity := p.identity.getD "-"
  s!"{label p.connection} [{identity}]"

inductive Notice
  -- hooks
  | panicked (call : HookCall) (panic : Panic)
  -- sessions
  | online (identity : String) (connection : ConnectionId) (address : SocketAddress)
  | offline (identity : String) (connection : ConnectionId)
  | replaced (connection previous : ConnectionId) (identity : String)
  -- credentials
  | anonymous (clientId : String)
  | unknownUser (username clientId : String)
  | unreadableHash
  -- messages to devices
  | queued (connection : ConnectionId) (topic : String)
  | dropped (connection : ConnectionId) (topic : String) (reason : DropReason)
  -- messages from devices
  | workerStarted
  | workerAbandons (count : Nat)
  | workerStopped
  -- connections
  | accepted (connection : ConnectionId) (address : SocketAddress)
  | connect (connection : ConnectionId) (address : SocketAddress) (packet : Connect)
  | beforeConnect (connection : ConnectionId) (address : SocketAddress) (packet : String)
  | rejected (connection : ConnectionId) (address : SocketAddress) (clientId : String)
      (username : Option String)
  | noIdentity (connection : ConnectionId) (address : SocketAddress) (clientId : String)
  | publish (peer : Peer) (packet : Publish)
  | queueFull (peer : Peer) (capacity : Nat) (topic : String)
  | queueClosed (peer : Peer) (topic : String)
  | subscribe (peer : Peer) (packetId : UInt16) (filters : List String)
  | unsubscribe (peer : Peer) (packetId : UInt16) (filters : List String)
  | disconnect (peer : Peer)
  | ignored (peer : Peer) (packet : String)
  | notSent (peer : Peer) (packet : String) (error : SendError)
  | closedByPeer (peer : Peer)
  | writerClosed (peer : Peer)
  | ended (peer : Peer) (idleTimeout : Duration) (error : ConnectionError)
  | tornDown (peer : Peer)
  -- the gateway
  | listening (address : SocketAddress) (secure : Bool) (acceptThreads : Nat)
      (idleTimeout : Duration) (charset : Charset)
  | acceptStarted (n : Nat)
  | acceptFailed (reason : String)
  | acceptStopped (n : Nat)
  | interrupted
  | closing
  | stopped (address : SocketAddress)
  -- the echo application
  | arrived (identity : String) (connection : ConnectionId) (address : SocketAddress)
  | departed (identity : String) (connection : ConnectionId)
  | notEchoed (connection : ConnectionId) (address : SocketAddress) (error : PublishError)
  deriving DecidableEq, Repr

namespace Notice

def level : Notice → Level
  | panicked .. | acceptFailed .. => .error
  | unreadableHash | beforeConnect .. | rejected .. | noIdentity .. | queueFull .. | queueClosed ..
  | notSent .. | dropped .. | notEchoed .. | ended _ _ (.protocol _) | ended _ _ (.decode _) =>
    .warn
  | online .. | offline .. | workerStarted | workerStopped | listening .. | interrupted | closing
  | stopped .. | arrived .. | departed .. | ended _ _ (.io _) | ended _ _ .idleTimeout => .info
  | _ => .debug

def packetIdText : Option UInt16 → String
  | some n => s!"Some({n})"
  | none => "None"

def text (label : ConnectionId → String) : Notice → String
  | panicked call p => s!"{call.hook} panicked ({call.context label}): {p.text}"
  | online id c a => s!"'{id}' online on {label c} from {a.text}"
  | offline id c => s!"'{id}' offline from {label c}"
  | replaced c d id => s!"{label c} replaces {label d} for '{id}'"
  | anonymous id => s!"anonymous connect from {id}"
  | unknownUser u id => s!"unknown user '{u}' for client {id}"
  | unreadableHash => "unparseable password hash"
  | queued c topic => s!"{label c}: queued PUBLISH on '{topic}'"
  | dropped c topic reason => s!"{label c}: {reason.text topic}"
  | workerStarted => "queue worker started"
  | workerAbandons n => s!"queue worker abandoning {n} message(s)"
  | workerStopped => "queue worker stopped"
  | accepted c a => s!"{label c} accepted from {a.text}"
  | connect c a p =>
    s!"{label c} CONNECT from {a.text} (client_id: '{p.clientId}', level: {p.level.label}, " ++
      s!"keep_alive: {p.keepAlive}s)"
  | beforeConnect c a p => s!"{label c} from {a.text}: {p} before CONNECT"
  | rejected c a id u =>
    s!"{label c} from {a.text}: credentials rejected for client '{id}' (user: {Quoted.option u})"
  | noIdentity c a id => s!"{label c} from {a.text}: no identity for client '{id}', not registered"
  | publish peer p =>
    s!"{peer.text label} PUBLISH '{p.topic}' qos={p.qos.label} id={packetIdText p.packetId} " ++
      s!"({p.payload.length} bytes)"
  | queueFull peer n topic =>
    s!"{peer.text label} message queue full ({n}), dropping message on '{topic}'"
  | queueClosed peer topic =>
    s!"{peer.text label} message queue closed, dropping message on '{topic}'"
  | subscribe peer n filters => s!"{peer.text label} SUBSCRIBE id={n} {Quoted.list filters}"
  | unsubscribe peer n filters => s!"{peer.text label} UNSUBSCRIBE id={n} {Quoted.list filters}"
  | disconnect peer => s!"{peer.text label} DISCONNECT"
  | ignored peer p => s!"{peer.text label} ignoring {p}"
  | notSent peer p e => s!"{peer.text label} failed to send {p}: {e.message}"
  | closedByPeer peer => s!"{peer.text label} closed by peer"
  | writerClosed peer => s!"{peer.text label} writer closed"
  | ended peer _ (.io text) => s!"{peer.text label} I/O error: {text}"
  | ended peer limit .idleTimeout => s!"{peer.text label} idle for {limit.text}, closing"
  | ended peer _ .shutdown => s!"{label peer.connection} shut down"
  | ended peer _ e => s!"{peer.text label} closed: {e.message}"
  | tornDown peer => s!"{peer.text label} torn down"
  | listening a secure n limit charset =>
    let how := if secure then " with TLS" else ""
    s!"listening on {a.text}{how} (accept tasks: {n}, idle timeout: {limit.text}, " ++
      s!"charset: {charset.name})"
  | acceptStarted n => s!"accept task {n} started"
  | acceptFailed reason => s!"failed to accept TCP connection: {reason}"
  | acceptStopped n => s!"accept task {n} stopped"
  | interrupted => "Received Ctrl+C, shutting down"
  | closing => "closing gateway"
  | stopped a => s!"gateway on {a.text} stopped"
  | arrived id c a => s!"{id} online on {label c} from {a.text}"
  | departed id c => s!"{id} offline ({label c})"
  | notEchoed c a e => s!"echo to {label c} ({a.text}) failed: {e.message label}"

/-- The line that a notice makes, with its level before it. -/
def line (label : ConnectionId → String) (n : Notice) : String :=
  s!"{n.level.name} {n.text label}"

end Notice

/-- The lines of a log of the given level, for notices in reverse. -/
def logLines (label : ConnectionId → String) (level : Level) (notices : List Notice) :
    List String :=
  (notices.reverse.filter fun n => level.shows n.level).map (Notice.line label)

end DeviceGateway
