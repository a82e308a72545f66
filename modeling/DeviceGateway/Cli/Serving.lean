import DeviceGateway.Cli.Launch
import DeviceGateway.Gateway.Round
import DeviceGateway.Inbound.Worker

/-!
# Serving

What the program does while it runs: a gateway whose application answers every message on the topic
with `_reply` behind it, and says in the log who comes and goes. `Launch.service` is what the gateway
runs with, and `Serving.step` is a round of the gateway together with what the application does about
the messages of the round.
-/

namespace DeviceGateway

/-- The application that answers every message with its content. -/
def Handler.echo {π : Type} : Handler Unit π :=
  { silent () with
    message := fun _ m => .send (m.replyOf (m.topic ++ "_reply") m.content) fun _ => .done () }

/-- What stays the same while the gateway of a launch runs. -/
def Cli.Launch.service (l : Launch) : Service Unit where
  charset := l.settings.charset
  packetLimit := Packet.decoderLimit l.settings.maxPacketSize
  idleTimeout := l.settings.idleTimeout
  verifier := if l.credentials.enabled then some l.credentials.verifier else none
  handler := .echo

namespace Cli.Serving

variable (svc : Service Unit)

/-- What the application says about a coming or going, before that is noted. -/
def remark? : Notice → Option Notice
  | .online identity c a => some (.arrived identity c a)
  | .offline identity c => some (.departed identity c)
  | _ => none

/-- The notices in order, with what the application says. -/
def said (g : Gateway Unit) : List Notice :=
  g.journal.notices.reverse.flatMap fun n => (remark? n).toList ++ [n]

/-- Hands a message to the application, which says if it cannot answer. -/
def deliver (w : Surroundings Outbound) (m : Inbound ConnectionId) : Surroundings Outbound :=
  let w := Inbox.handle svc.handler .table m w
  match w.journal.entries with
  | .event (.message _ _ _ [.error e]) :: _ => w.note (.notEchoed m.connection m.address e)
  | _ => w

def deliverAll (g : Gateway Unit) : Gateway Unit :=
  { g with
    toSurroundings := g.queue.waiting.foldl (deliver svc) g.toSurroundings
    queue := g.queue.emptied }

/-- Notes how connections ended. -/
def noteEndings (as : Activities) (g : Gateway Unit) : Gateway Unit :=
  g.noteAll <| as.inOrder.filterMap fun (c, a) =>
    match a.departure with
    | some ⟨identity, .error e⟩ => some (.ended ⟨c, identity⟩ svc.idleTimeout e)
    | _ => none

/-- A gateway that listens on an address, with its worker. -/
def start (s : Settings) (address : SocketAddress) : Gateway Unit :=
  (Gateway.start s.charset s.queueCapacity).noteAll
    [.workerStarted,
      .listening address s.tls.isSome s.acceptThreads s.idleTimeout s.charset,
      .acceptStarted 0]

/-- A step of a running gateway. -/
def step (failure : ConnectionId → Option String) (now : Duration)
    (signals : List (ConnectionId × Signal)) (g : Gateway Unit) : Activities × Gateway Unit :=
  let (as, g) := g.round svc failure now signals
  let (bs, g) := (deliverAll svc g).round svc failure now []
  let as := as.append bs
  (as, noteEndings svc as g)

/-- The last step of a gateway on an address, in which every connection ends. -/
def close (address : SocketAddress) (now : Duration) (g : Gateway Unit) :
    Activities × Gateway Unit :=
  let g := (g.note .closing).closeAll
  let (as, g) := g.round svc (fun _ => none) now []
  let g := noteEndings svc as g
  let (b, w) := Inbox.stop ⟨g.queue, .stopping⟩ g.toSurroundings
  let g := { g with toSurroundings := w, queue := b.queue }
  (as, g.noteAll [.acceptStopped 0, .stopped address])

end Cli.Serving

end DeviceGateway
