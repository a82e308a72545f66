import DeviceGateway.Proofs.Gateway.Delivery
import DeviceGateway.Proofs.Panics

/-!
# What comes of a hook that gives up

Nothing but a line in the log. Two gateways stand beside each other (`Gateway.Beside`) when they are the
same but for what was noted, and so do services (`Service.Beside`) when the handler of the one does what
that of the other does but does not give up, and their verifiers let in the same clients. Every step
keeps gateways beside each other, through all packets, turns and leaves (`Course.Beside.step`), and the
lines that come are those of the calls that give up (`Course.panics`). So services that are beside one and
the same cannot be told apart but by their logs (`Course.panics_contained`).
-/

namespace DeviceGateway

variable {ε : Type}

/-! ### The calls that give up in a course -/

/-- The listeners that give up on a packet, latest first. -/
def Occasion.panics (svc : Service ε) (o : Occasion ε) : List HookPanic :=
  match o.packet with
  | .connect q =>
    match Gateway.admission svc o.gateway.journal.entries q with
    | .established identity =>
      Presence.onlinePanics svc.handler .table (Gateway.arrivalOf o.id o.connection q identity)
        (o.gateway.inquired svc o.id o.connection q).toPresence
    | _ => []
  | _ => []

namespace Gateway

variable (svc : Service ε) (c : ConnectionId) (g : Gateway ε)

def tearDownPanics : List HookPanic :=
  match g.connection? c with
  | some conn => Presence.offlinePanics svc.handler .table c (g.leaving c conn)
  | none => []

/-- Those that give up on the packets of a turn, and before them the one on the leave, if the turn ends
the connection. -/
def turnPanics (failure : Option String) (now : Duration) (signal : Signal) : List HookPanic :=
  match g.connection? c with
  | some conn =>
    let t := g.respond svc failure now c conn signal
    (if t.ended.isSome then t.gateway.tearDownPanics svc c else []) ++
      (g.occasionsOfTurn svc c now signal).reverse.flatMap (Occasion.panics svc)
  | none => []

def workPanics : List HookPanic :=
  (g.queue.dequeue?.bind fun r => Inbox.panic? svc.handler .table r.1 g.toSurroundings).toList

end Gateway

namespace Course

def panicsOfStep (svc : Service ε) (s : Course ε) : Action → List HookPanic
  | .turn c signal now failure => s.gateway.turnPanics svc c failure now signal
  | .shutDown c => if c ∈ s.accepted then s.gateway.tearDownPanics svc c else []
  | .work => s.gateway.workPanics svc
  | _ => []

/-- The calls of listeners and of the message handler that give up in a course, latest first. -/
def panics (svc : Service ε) : List Action → Course ε → List HookPanic
  | [], _ => []
  | a :: as, s => panics svc as (s.step svc a) ++ s.panicsOfStep svc a

end Course

/-! ### Gateways beside each other -/

/-- The handler of `svc₀` does what that of `svc` does and does not give up. The verifiers let in the same
clients, and if `S` holds they note the same. -/
structure Service.Beside (S : Prop) (svc₀ svc : Service ε) : Prop where
  charset : svc.charset = svc₀.charset
  packetLimit : svc.packetLimit = svc₀.packetLimit
  idleTimeout : svc.idleTimeout = svc₀.idleTimeout
  handler : svc₀.handler = svc.handler.calm
  admits : ∀ past q, Gateway.admits svc past q = Gateway.admits svc₀ past q
  asked : ∀ q past, Gateway.asked svc q past = Gateway.asked svc₀ q past
  notices : S → ∀ c past q, Gateway.verdictNotices svc c past q = Gateway.verdictNotices svc₀ c past q

theorem Service.Beside.admission {S : Prop} {svc₀ svc : Service ε} (h : svc₀.Beside S svc)
    (past : List Journal.Entry) (q : Connect) :
    Gateway.admission svc past q = Gateway.admission svc₀ past q := by
  unfold Gateway.admission
  rw [h.admits, h.asked, h.handler]
  rfl

theorem Journal.interleaved_noteAll {ls : List Notice} {j₀ j : Journal}
    (h : Interleaved ls j₀.notices j.notices) (ns : List Notice) :
    Interleaved ls (j₀.noteAll ns).notices (j.noteAll ns).notices := by
  induction ns generalizing j₀ j with
  | nil => exact h
  | cons n ns ih => exact ih (h.right n)

namespace Gateway

structure Beside (S : Prop) (ps : List HookPanic) (g₀ g : Gateway ε) : Prop extends
    presence : Presence.Beside S ps g₀.toPresence g.toPresence where
  connections : g.connections = g₀.connections
  queue : g.queue = g₀.queue
  next : g.next = g₀.next

variable {S : Prop} {ps : List HookPanic} {svc₀ svc : Service ε} {g₀ g : Gateway ε} {c : ConnectionId}
  {conn : Connection} {p : Packet}

namespace Beside

theorem connection? (h : Beside S ps g₀ g) (c : ConnectionId) : g.connection? c = g₀.connection? c :=
  congrArg (·.get? c) h.connections

theorem note (h : Beside S ps g₀ g) (n : Notice) : Beside S ps (g₀.note n) (g.note n) :=
  { h with notices := fun hs => (h.notices hs).right n }

theorem noteAll {ns₀ ns : List Notice} (h : Beside S ps g₀ g) (hn : S → ns = ns₀) :
    Beside S ps (g₀.noteAll ns₀) (g.noteAll ns) :=
  { h with
    entries := (entries_noteAll ns).trans (h.entries.trans (entries_noteAll ns₀).symm)
    notices := fun hs => hn hs ▸ Journal.interleaved_noteAll (h.notices hs) ns }

theorem judged (hsvc : svc₀.Beside S svc) (h : Beside S ps g₀ g) (c : ConnectionId) (conn : Connection)
    (q : Connect) : Beside S ps (g₀.judged svc₀ c conn q) (g.judged svc c conn q) := by
  have hconsulted : Beside S ps (g₀.consulted svc₀ q) (g.consulted svc q) :=
    { h with entries := (congrArg (asked svc q) h.entries).trans (hsvc.asked q _) }
  refine hconsulted.noteAll fun hs => ?_
  rw [h.entries, hsvc.notices hs]

theorem inquired (hsvc : svc₀.Beside S svc) (h : Beside S ps g₀ g) (c : ConnectionId)
    (conn : Connection) (q : Connect) :
    Beside S ps (g₀.inquired svc₀ c conn q) (g.inquired svc c conn q) :=
  let hjudged := h.judged hsvc c conn q
  { hjudged with entries := congrArg (List.cons _) hjudged.entries }

theorem setOutbound (h : Beside S ps g₀ g) (o : Outbound) :
    Beside S ps { g₀ with outbound := o } { g with outbound := o } :=
  { h with outbound := rfl }

theorem setConnection (h : Beside S ps g₀ g) (c : ConnectionId) (conn : Connection) :
    Beside S ps (g₀.setConnection c conn) (g.setConnection c conn) :=
  { h with connections := congrArg (·.modify c fun _ => conn) h.connections }

theorem reply (h : Beside S ps g₀ g) (c : ConnectionId) (conn : Connection) (p : Packet) :
    Beside S ps (g₀.reply c conn p) (g.reply c conn p) := by
  unfold Gateway.reply
  rw [h.outbound]
  cases g₀.outbound.send conn.writer p with
  | ok o => exact h.setOutbound o
  | error e => exact h.note _

theorem answer (h : Beside S ps g₀ g) (c : ConnectionId) (conn : Connection) (p : Packet) :
    Beside S ps (g₀.answer c conn p) (g.answer c conn p) := by
  unfold Gateway.answer
  cases answer? p with
  | some a => exact h.reply c conn a
  | none => exact h

theorem deliver (hsvc : svc₀.Beside S svc) (h : Beside S ps g₀ g) (c : ConnectionId) (conn : Connection)
    (p : Packet) : Beside S ps (g₀.deliver svc₀ c conn p) (g.deliver svc c conn p) := by
  unfold Gateway.deliver enqueue
  cases p with
  | publish p =>
    rw [hsvc.charset, h.queue]
    dsimp only
    rcases g₀.queue.enqueue ⟨c, p.topic, svc₀.charset.decode p.payload, conn.address, c⟩ with (_ | _) | q
    · exact h.note _
    · exact h.note _
    · exact { h with queue := rfl }
  | _ => exact h

theorem establish (hsvc : svc₀.Beside S svc) (h : Beside S ps g₀ g) (c : ConnectionId) (conn : Connection)
    (q : Connect) (i : String) :
    Beside S (Presence.onlinePanics svc.handler .table (arrivalOf c conn q i) g.toPresence ++ ps)
      (g₀.establish svc₀ c conn q i) (g.establish svc c conn q i) := by
  have hp := h.presence.online svc.handler (arrivalOf c conn q i)
  rw [← hsvc.handler] at hp
  have hg : Beside S _ { g₀ with toPresence := (Presence.online svc₀.handler .table _ g₀.toPresence).2 }
      { g with toPresence := (Presence.online svc.handler .table _ g.toPresence).2 } :=
    { hp with connections := h.connections, queue := h.queue, next := h.next }
  exact (hg.setConnection c { conn with identity := some i }).reply c { conn with identity := some i } _

theorem handle (hsvc : svc₀.Beside S svc) (h : Beside S ps g₀ g) (c : ConnectionId) (conn : Connection)
    (p : Packet) : (g.handle svc c conn p).1 = (g₀.handle svc₀ c conn p).1 ∧
      Beside S (Occasion.panics svc ⟨c, conn, g, p⟩ ++ ps) (g₀.handle svc₀ c conn p).2
        (g.handle svc c conn p).2 := by
  cases p using connectCases with
  | connect q =>
    have hinquired := h.inquired hsvc c conn q
    rw [handle_connect, handle_connect, connect_eq, connect_eq]
    simp only [Occasion.panics]
    rw [h.entries, hsvc.admission]
    cases admission svc₀ g₀.journal.entries q with
    | rejected => exact ⟨rfl, (h.judged hsvc c conn q).note _⟩
    | unidentified panic => exact ⟨rfl, (hinquired.note _).note _⟩
    | established i => exact ⟨rfl, hinquired.establish hsvc c conn q i⟩
  | other p hp =>
    have hnone : Occasion.panics svc ⟨c, conn, g, p⟩ = [] := by
      cases p with
      | connect q => exact absurd rfl (hp q)
      | _ => rfl
    rw [handle_eq hp, handle_eq hp, hnone]
    exact ⟨rfl, ((h.noteAll fun _ => rfl).answer c conn p).deliver hsvc c conn p⟩

theorem handleAll (hsvc : svc₀.Beside S svc) (h : Beside S ps g₀ g) (c : ConnectionId)
    (packets : List Packet) : (g.handleAll svc c packets).1 = (g₀.handleAll svc₀ c packets).1 ∧
      Beside S ((occasions svc c packets g).reverse.flatMap (Occasion.panics svc) ++ ps)
        (g₀.handleAll svc₀ c packets).2 (g.handleAll svc c packets).2 := by
  induction packets generalizing g₀ g ps with
  | nil => exact ⟨rfl, h⟩
  | cons p packets ih =>
    rw [Gateway.handleAll, Gateway.handleAll, occasions, h.connection?]
    cases g₀.connection? c with
    | none => exact ⟨rfl, h⟩
    | some conn =>
      obtain ⟨hended, hafter⟩ := h.handle hsvc c conn p
      dsimp only
      rw [List.reverse_cons, List.flatMap_append, List.flatMap_singleton, List.append_assoc]
      generalize Occasion.panics svc ⟨c, conn, g, p⟩ = panics at hafter ⊢
      generalize g.handle svc c conn p = r at hended hafter ⊢
      generalize g₀.handle svc₀ c conn p = r₀ at hended hafter ⊢
      obtain ⟨ended, g'⟩ := r
      obtain ⟨ended₀, g₀'⟩ := r₀
      obtain rfl : ended = ended₀ := hended
      -- the rest is handled in what the first packet left, and both sides go on or neither does
      cases ended with
      | none => exact ih hafter
      | some e => exact ⟨rfl, hafter⟩

theorem receive (hsvc : svc₀.Beside S svc) (h : Beside S ps g₀ g) (c : ConnectionId) (conn : Connection)
    (b : Bytes) :
    let d := Drained.ofBuffer svc.packetLimit (conn.unread ++ b)
    (g.receive svc c conn b).1 = (g₀.receive svc₀ c conn b).1 ∧
      Beside S ((occasions svc c d.packets (g.setConnection c { conn with unread := d.rest })).reverse.flatMap
          (Occasion.panics svc) ++ ps)
        (g₀.receive svc₀ c conn b).2 (g.receive svc c conn b).2 := by
  intro d
  obtain ⟨hended, hafter⟩ := (h.setConnection c { conn with unread := d.rest }).handleAll hsvc c d.packets
  unfold Gateway.receive
  rw [← hsvc.packetLimit]
  dsimp only
  generalize Gateway.handleAll svc c d.packets _ = r at hended hafter ⊢
  generalize Gateway.handleAll svc₀ c d.packets _ = r₀ at hended hafter ⊢
  obtain ⟨ended, g'⟩ := r
  obtain ⟨ended₀, g₀'⟩ := r₀
  obtain rfl : ended = ended₀ := hended
  cases ended <;> exact ⟨rfl, hafter⟩

theorem leaving (h : Beside S ps g₀ g) (c : ConnectionId) (conn : Connection) :
    Presence.Beside S ps (g₀.leaving c conn) (g.leaving c conn) := by
  unfold Gateway.leaving
  rw [h.outbound]
  exact h.presence.setOutbound _

theorem tearDown (hsvc : svc₀.Beside S svc) (h : Beside S ps g₀ g) (c : ConnectionId) :
    Beside S (g.tearDownPanics svc c ++ ps) (g₀.tearDown svc₀ c) (g.tearDown svc c) := by
  unfold Gateway.tearDown tearDownPanics
  rw [h.connection?]
  cases g₀.connection? c with
  | none => exact h
  | some conn =>
    have hp := (h.leaving c conn).offline svc.handler c
    rw [← hsvc.handler] at hp
    have hg : Beside S _
        { g₀ with
          toPresence := (Presence.offline svc₀.handler .table c (g₀.leaving c conn)).2
          connections := g₀.connections.erase c }
        { g with
          toPresence := (Presence.offline svc.handler .table c (g.leaving c conn)).2
          connections := g.connections.erase c } :=
      { hp with
        connections := congrArg (·.erase c) h.connections
        queue := h.queue
        next := h.next }
    exact hg.note _

end Beside

/-! ### Turns -/

/-- Two turns that came to the same, in gateways beside each other. -/
structure TurnBeside (S : Prop) (ps : List HookPanic) (t₀ t : Turn ε) : Prop where
  written : t.written = t₀.written
  ended : t.ended = t₀.ended
  identity : t.identity = t₀.identity
  gateway : Beside S ps t₀.gateway t.gateway

namespace Beside

theorem flush (h : Beside S ps g₀ g) (failure : Option String) (conn : Connection) :
    TurnBeside S ps (g₀.flush failure conn) (g.flush failure conn) := by
  unfold Gateway.flush
  rw [h.outbound]
  obtain ⟨b, o⟩ := g₀.outbound.take conn.writer
  cases failure with
  | none => exact ⟨rfl, rfl, rfl, h.setOutbound o⟩
  | some e =>
    dsimp only
    split <;> exact ⟨rfl, rfl, rfl, h.setOutbound o⟩

theorem respond (hsvc : svc₀.Beside S svc) (h : Beside S ps g₀ g) (failure : Option String) (now : Duration)
    (hc : g₀.connection? c = some conn) (signal : Signal) :
    TurnBeside S ((g.occasionsOfTurn svc c now signal).reverse.flatMap (Occasion.panics svc) ++ ps)
      (g₀.respond svc₀ failure now c conn signal) (g.respond svc failure now c conn signal) := by
  cases signal with
  | bytes b =>
    obtain ⟨hended, hafter⟩ := h.receive hsvc c { conn with deadline := now + svc.idleTimeout } b
    obtain ⟨hwritten, hflushed, hidentity, hgateway⟩ :=
      hafter.flush failure { conn with deadline := now + svc.idleTimeout }
    simp only [Gateway.respond, occasionsOfTurn, h.connection?, hc]
    rw [← hsvc.idleTimeout]
    exact ⟨hwritten, by rw [hflushed, hended], hidentity, hgateway⟩
  | writer =>
    have hflush := h.flush failure conn
    have hopen : g.isWriterOpen conn = g₀.isWriterOpen conn := by
      unfold isWriterOpen
      rw [h.outbound]
    simp only [Gateway.respond, occasionsOfTurn]
    rw [hopen, hflush.ended]
    split
    · exact hflush
    · exact ⟨hflush.written, rfl, hflush.identity, hflush.gateway.note _⟩
  | endOfStream => exact ⟨rfl, rfl, rfl, h.note _⟩
  | readFailure e => exact ⟨rfl, rfl, rfl, h⟩
  | clock => exact ⟨rfl, rfl, rfl, h⟩

theorem turn (hsvc : svc₀.Beside S svc) (h : Beside S ps g₀ g) (failure : Option String) (now : Duration)
    (c : ConnectionId) (signal : Signal) :
    TurnBeside S (g.turnPanics svc c failure now signal ++ ps) (g₀.turn svc₀ failure now c signal)
      (g.turn svc failure now c signal) := by
  unfold Gateway.turn turnPanics
  rw [h.connection?]
  cases hc : g₀.connection? c with
  | none => exact ⟨rfl, rfl, rfl, h⟩
  | some conn =>
    obtain ⟨hwritten, hended, hidentity, hgateway⟩ := h.respond hsvc failure now hc signal
    dsimp only
    rw [hended, List.append_assoc]
    split
    · refine ⟨hwritten, rfl, ?_, hgateway.tearDown hsvc c⟩
      rw [hgateway.connection?]
    · exact ⟨hwritten, hended, hidentity, hgateway⟩

/-! ### Other steps -/

theorem accept (hsvc : svc₀.Beside S svc) (h : Beside S ps g₀ g) (now : Duration) (address : SocketAddress) :
    (g.accept svc now address).1 = (g₀.accept svc₀ now address).1 ∧
      Beside S ps (g₀.accept svc₀ now address).2 (g.accept svc now address).2 := by
  unfold Gateway.accept
  rw [h.outbound, h.next, h.connections, hsvc.idleTimeout]
  refine ⟨rfl, Beside.note ?_ _⟩
  exact { h with outbound := rfl, connections := rfl, next := rfl }

theorem publish (h : Beside S ps g₀ g) (m : OutboundMessage) :
    Beside S ps (g₀.publish m).2 (g.publish m).2 :=
  { (h.presence.toBeside.publish m).2, h with }

theorem work (hsvc : svc₀.Beside S svc) (h : Beside S ps g₀ g) :
    Beside S (g.workPanics svc ++ ps) (g₀.work svc₀) (g.work svc) := by
  unfold Gateway.work workPanics Inbox.work
  rw [hsvc.handler, h.queue]
  dsimp only
  cases g₀.queue.dequeue? with
  | none => exact h
  | some r => exact { h.presence.toBeside.handle svc.handler r.1, h with queue := rfl }

theorem stopWorker (h : Beside S ps g₀ g) : Beside S ps g₀.stopWorker g.stopWorker := by
  unfold Gateway.stopWorker Inbox.stop
  rw [h.queue]
  exact { (h.note _).note _ with queue := rfl }

end Beside

end Gateway

namespace Course

variable {S : Prop} {ps : List HookPanic} {svc₀ svc : Service ε} {s₀ s : Course ε}

structure Beside (S : Prop) (ps : List HookPanic) (s₀ s : Course ε) : Prop where
  gateway : Gateway.Beside S ps s₀.gateway s.gateway
  accepted : s.accepted = s₀.accepted
  gone : s.gone = s₀.gone

theorem Beside.step (hsvc : svc₀.Beside S svc) (h : Beside S ps s₀ s) (a : Action) :
    Beside S (s.panicsOfStep svc a ++ ps) (s₀.step svc₀ a) (s.step svc a) := by
  cases a with
  | accept now address =>
    obtain ⟨hc, hg⟩ := h.gateway.accept hsvc now address
    exact ⟨hg, congrArg₂ List.cons hc h.accepted, h.gone⟩
  | turn c signal now failure =>
    obtain ⟨-, hended, -, hg⟩ := h.gateway.turn hsvc failure now c signal
    refine ⟨hg, h.accepted, ?_⟩
    show (if _ then _ else _) = (if _ then _ else _)
    rw [hended, h.gone]
  | shutDown c =>
    simp only [Course.step, panicsOfStep]
    rw [h.accepted]
    split
    · exact ⟨h.gateway.tearDown hsvc c, rfl, congrArg (List.cons c) h.gone⟩
    · exact h
  | publish m => exact ⟨h.gateway.publish m, h.accepted, h.gone⟩
  | closeAll =>
    have hclosed : s.gateway.closeAll = { s.gateway with outbound := s₀.gateway.outbound.closeAll } := by
      rw [Gateway.closeAll, h.gateway.outbound]
    refine ⟨?_, h.accepted, h.gone⟩
    show Gateway.Beside S ps _ s.gateway.closeAll
    rw [hclosed]
    exact h.gateway.setOutbound _
  | work => exact ⟨h.gateway.work hsvc, h.accepted, h.gone⟩
  | stopWorker => exact ⟨h.gateway.stopWorker, h.accepted, h.gone⟩

theorem Beside.run (hsvc : svc₀.Beside S svc) (h : Beside S ps s₀ s) (as : List Action) :
    Beside S (panics svc as s ++ ps) (Course.run svc₀ as s₀) (Course.run svc as s) := by
  induction as generalizing s₀ s ps with
  | nil => exact h
  | cons a as ih =>
    rw [panics, List.append_assoc]
    exact ih (h.step hsvc a)

theorem Beside.refl (s : Course ε) : Beside S [] s s where
  gateway :=
    { outbound := rfl, entries := rfl, notices := fun _ => .refl _, registry := rfl,
      connections := rfl, queue := rfl, next := rfl }
  accepted := rfl
  gone := rfl

theorem Beside.given (hsvc : svc₀.Beside S svc) (h : Beside S ps s₀ s) (as : List Action) :
    given svc as s = given svc₀ as s₀ := by
  induction as generalizing s₀ s ps with
  | nil => rfl
  | cons a as ih =>
    -- a message is given to the handler as it is taken from the queue, before the handler does anything
    have hstep : s.givenAtStep svc a = s₀.givenAtStep svc₀ a := by
      cases a with
      | work => rw [givenAtStep, givenAtStep, Gateway.given?_eq, Gateway.given?_eq, h.gateway.queue]
      | _ => rfl
    rw [Course.given, Course.given, hstep, ih (h.step hsvc a)]

/-- From `s` on, two services come to the same but for what is noted: the same registry with the same
sessions, the same connections, writers, messages that wait, calls and messages that were given, the
same connections that are gone. Whatever turn comes next, a device gets to read the same, and the
connection ends for the same reason or not at all. -/
structure Indistinct (svc svc' : Service ε) (as : List Action) (s : Course ε) : Prop where
  registry : (run svc' as s).gateway.registry = (run svc as s).gateway.registry
  connections : (run svc' as s).gateway.connections = (run svc as s).gateway.connections
  outbound : (run svc' as s).gateway.outbound = (run svc as s).gateway.outbound
  queue : (run svc' as s).gateway.queue = (run svc as s).gateway.queue
  entries : (run svc' as s).gateway.journal.entries = (run svc as s).gateway.journal.entries
  next : (run svc' as s).gateway.next = (run svc as s).gateway.next
  accepted : (run svc' as s).accepted = (run svc as s).accepted
  gone : (run svc' as s).gone = (run svc as s).gone
  given : Course.given svc' as s = Course.given svc as s
  turn : ∀ c signal now failure,
    let t := (run svc as s).gateway.turn svc failure now c signal
    let t' := (run svc' as s).gateway.turn svc' failure now c signal
    t'.written = t.written ∧ t'.ended = t.ended ∧ t'.identity = t.identity

/-- Services that are beside one and the same are indistinct. -/
theorem indistinct {svc' : Service ε} (h : svc₀.Beside S svc) (h' : svc₀.Beside S svc') (as : List Action)
    (s : Course ε) : Indistinct svc svc' as s := by
  have hrun := (Beside.refl (S := S) s).run h as
  have hrun' := (Beside.refl (S := S) s).run h' as
  exact {
    registry := hrun'.gateway.registry.trans hrun.gateway.registry.symm
    connections := hrun'.gateway.connections.trans hrun.gateway.connections.symm
    outbound := hrun'.gateway.outbound.trans hrun.gateway.outbound.symm
    queue := hrun'.gateway.queue.trans hrun.gateway.queue.symm
    entries := hrun'.gateway.entries.trans hrun.gateway.entries.symm
    next := hrun'.gateway.next.trans hrun.gateway.next.symm
    accepted := hrun'.accepted.trans hrun.accepted.symm
    gone := hrun'.gone.trans hrun.gone.symm
    given := (Beside.given h' (.refl s) as).trans (Beside.given h (.refl s) as).symm
    turn := fun c signal now failure => by
      have ht := hrun.gateway.turn h failure now c signal
      have ht' := hrun'.gateway.turn h' failure now c signal
      exact ⟨ht'.written.trans ht.written.symm, ht'.ended.trans ht.ended.symm,
        ht'.identity.trans ht.identity.symm⟩ }

/-- A hook that gives up has no other effect than a line in the log. Let two handlers do the same, where
either may give up behind that in any calls of its listeners and of its message handler, and let any
actions be taken. Then the gateways cannot be told apart but by their logs. Each has the lines that are
there if nothing gives up, and in between one error for each call that does, both in their order. And if
two verifiers let in the same clients in view of the same calls, be it that the one gives up where the
other turns away, the gateways cannot be told apart but by their logs either. -/
theorem panics_contained (svc : Service ε) (charset : Charset) (capacity : Nat) (as : List Action)
    (h' : Handler ε ConnectionId) (hh : h'.calm = svc.handler.calm) (v v' : Verifier)
    (hv : ∀ a, (v' a).admits = (v a).admits) :
    let svc' := { svc with handler := h' }
    let calm := { svc with handler := svc.handler.calm }
    let s := start charset capacity
    let lines := (run calm as s).gateway.journal.notices
    Indistinct svc svc' as s ∧
    Interleaved ((panics svc as s).map HookPanic.notice) lines (run svc as s).gateway.journal.notices ∧
    Interleaved ((panics svc' as s).map HookPanic.notice) lines
      (run svc' as s).gateway.journal.notices ∧
    (∀ p : HookPanic, p.notice.level = .error) ∧
    Indistinct { svc with verifier := some v } { svc with verifier := some v' } as s := by
  intro svc' calm s lines
  have hsvc : calm.Beside True svc :=
    ⟨rfl, rfl, rfl, rfl, fun _ _ => rfl, fun _ _ => rfl, fun _ _ _ _ => rfl⟩
  have hsvc' : calm.Beside True svc' :=
    ⟨rfl, rfl, rfl, hh.symm, fun _ _ => rfl, fun _ _ => rfl, fun _ _ _ _ => rfl⟩
  have hverifier :
      Service.Beside False { calm with verifier := some v } { svc with verifier := some v } :=
    ⟨rfl, rfl, rfl, rfl, fun _ _ => rfl, fun _ _ => rfl, False.elim⟩
  have hverifier' :
      Service.Beside False { calm with verifier := some v } { svc with verifier := some v' } :=
    ⟨rfl, rfl, rfl, rfl, fun past q => hv ⟨Gateway.login q, past⟩, fun _ _ => rfl, False.elim⟩
  have hrun := (Beside.refl s).run hsvc as
  have hrun' := (Beside.refl s).run hsvc' as
  rw [List.append_nil] at hrun hrun'
  exact ⟨indistinct hsvc hsvc' as s, hrun.gateway.notices trivial, hrun'.gateway.notices trivial,
    HookPanic.level_notice, indistinct hverifier hverifier' as s⟩

/-- A device comes and goes. The listeners give up both times, which leaves two lines in the log and
nothing else. -/
theorem panics_contained_loud :
    let panic : Panic := ⟨some "no"⟩
    let loud : Handler Unit ConnectionId :=
      { fresh := ()
        identify := fun _ clientId => .ok clientId
        online := fun _ _ => .done () (some panic)
        offline := fun _ _ => .done () (some panic)
        message := fun _ _ => .done () (some panic) }
    let svc : Service Unit := { packetLimit := 16, idleTimeout := ⟨5⟩, handler := .silent () }
    let hello : Bytes :=
      [0x10, 0x0D, 0x00, 0x04, 0x4D, 0x51, 0x54, 0x54, 0x04, 0x02, 0x00, 0x3C, 0x00, 0x01, 0x64]
    let as : List Action := [.accept ⟨0⟩ ⟨.v4 127 0 0 1, 4000, 0⟩, .turn ⟨1⟩ (.bytes hello) ⟨1⟩ none,
      .turn ⟨1⟩ .endOfStream ⟨2⟩ none]
    let s : Course Unit := start .utf8 1
    let svc' := { svc with handler := loud }
    let called : List HookPanic :=
      [⟨.offlineListener ⟨1⟩ "d", panic⟩, ⟨.onlineListener ⟨1⟩ "d", panic⟩]
    Indistinct svc svc' as s ∧ panics svc' as s = called ∧
      Interleaved (called.map HookPanic.notice) (run svc as s).gateway.journal.notices
        (run svc' as s).gateway.journal.notices ∧
      Indistinct { svc with verifier := some fun _ => ⟨.ok false, []⟩ }
        { svc with verifier := some fun _ => ⟨.error panic, []⟩ } as s := by
  intro panic loud svc hello as s svc' called
  have hcalled : panics svc' as s = called := by decide +kernel
  obtain ⟨hsame, -, hnotices, -, hverifier⟩ := panics_contained svc .utf8 1 as loud rfl
    (fun _ => ⟨.ok false, []⟩) (fun _ => ⟨.error panic, []⟩) (fun _ => rfl)
  refine ⟨hsame, hcalled, ?_, hverifier⟩
  rw [← hcalled]
  exact hnotices

end Course

end DeviceGateway
