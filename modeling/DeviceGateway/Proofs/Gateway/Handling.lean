import DeviceGateway.Gateway.Exchange
import DeviceGateway.Proofs.Outbound.Table

/-!
# What a packet can come to

Every packet but CONNECT is noted, answered and, if it is a message, put into the queue
(`handle_eq`). A CONNECT comes to one of three things (`Admission`, `connect_eq`), and only one of
them touches more than the journal: the connection becomes that of an identity. So that is all that
a packet can do to the connections and the sessions (`handle_cases`).

Handling does not look at what is unread on a connection or at its deadline (`handle_touch`). That is
what lets a packet be handled before or after more octets are read.
-/

namespace DeviceGateway

/-- The connection with other octets unread and another deadline. -/
def Connection.touch (φ : Bytes → Bytes) (ψ : Duration → Duration) (conn : Connection) : Connection :=
  { conn with unread := φ conn.unread, deadline := ψ conn.deadline }

namespace Gateway

variable {ε : Type} {svc : Service ε} {c : ConnectionId} {conn : Connection} {g : Gateway ε}
  {p : Packet} {u v : Bytes} {φ : Bytes → Bytes} {ψ : Duration → Duration}

/-! ### Packets other than CONNECT -/

@[elab_as_elim]
theorem connectCases {motive : Packet → Prop} (connect : ∀ q, motive (.connect q))
    (other : ∀ p, (∀ q, p ≠ .connect q) → motive p) (p : Packet) : motive p := by
  cases p with
  | connect q => exact connect q
  | _ => exact other _ fun q h => by cases h

/-- How a packet other than CONNECT ends the connection, if it does. -/
def ending? : Packet → Option Ending
  | .disconnect => some (.ok ())
  | _ => none

/-- The answer to a packet other than CONNECT. -/
def answer? : Packet → Option Packet
  | .publish p => acknowledgement? p
  | .pubRel id => some (.pubComp id)
  | .subscribe id subscriptions => some (.subAck id (subscriptions.map fun s => .granted s.qos))
  | .unsubscribe id _ => some (.unsubAck id)
  | .pingReq => some .pingResp
  | _ => none

/-- What is noted about a packet other than CONNECT before it is answered. -/
def notices (c : ConnectionId) (conn : Connection) (p : Packet) : List Notice :=
  let peer : Peer := ⟨c, conn.identity⟩
  (if conn.identity.isNone then [.beforeConnect c conn.address p.name] else []) ++ match p with
    | .publish p => [.publish peer p]
    | .subscribe id subscriptions => [.subscribe peer id (subscriptions.map (·.filter))]
    | .unsubscribe id filters => [.unsubscribe peer id filters]
    | .disconnect => [.disconnect peer]
    | .pubRel _ | .pingReq => []
    | p => [.ignored peer p.name]

def answer (c : ConnectionId) (conn : Connection) (p : Packet) (g : Gateway ε) : Gateway ε :=
  match answer? p with
  | some a => g.reply c conn a
  | none => g

/-- Puts the message of a packet into the queue, if it carries one. -/
def deliver (svc : Service ε) (c : ConnectionId) (conn : Connection) (p : Packet)
    (g : Gateway ε) : Gateway ε :=
  match p with
  | .publish p => g.enqueue c conn ⟨c, p.topic, svc.charset.decode p.payload, conn.address, c⟩
  | _ => g

theorem handle_eq (hp : ∀ q, p ≠ .connect q) : g.handle svc c conn p =
    (ending? p, ((g.noteAll (notices c conn p)).answer c conn p).deliver svc c conn p) := by
  unfold handle notices
  cases p with
  | connect q => exact absurd rfl (hp q)
  | publish q => cases hi : conn.identity <;> simp only [takeMessage, hi] <;> rfl
  | _ => cases hi : conn.identity <;> rfl

/-! ### CONNECT -/

/-- What becomes of a client that connects. -/
inductive Admission
  | rejected
  | unidentified (panic : Panic)
  | established (identity : String)

/-- Whether the verifier, if there is one, lets a client in; `past` are the calls before. -/
def admits (svc : Service ε) (past : List Journal.Entry) (p : Connect) : Bool :=
  svc.verifier.all fun v => (v ⟨login p, past⟩).admits

/-- The calls that were made when the verifier, if there is one, was asked about a client. -/
def asked (svc : Service ε) (p : Connect) (past : List Journal.Entry) : List Journal.Entry :=
  (svc.verifier.map fun _ => .verify (login p)).toList ++ past

def admission (svc : Service ε) (past : List Journal.Entry) (p : Connect) : Admission :=
  if admits svc past p then
    match svc.handler.identify (asked svc p past) p.clientId with
    | .ok identity => .established identity
    | .error panic => .unidentified panic
  else .rejected

/-- What is noted while the verifier is asked. -/
def verdictNotices (svc : Service ε) (c : ConnectionId) (past : List Journal.Entry) (p : Connect) :
    List Notice :=
  match svc.verifier with
  | none => []
  | some v => (v ⟨login p, past⟩).notices ++ match (v ⟨login p, past⟩).accepted with
    | .ok _ => []
    | .error panic => [.panicked (.verifier c p.clientId) panic]

theorem noteAll_append (ns ms : List Notice) : g.noteAll (ns ++ ms) = (g.noteAll ns).noteAll ms := by
  simp only [noteAll, Journal.noteAll, List.foldl_append]

theorem record_noteAll (ns : List Notice) (e : Journal.Entry) :
    (g.noteAll ns).record e = (g.record e).noteAll ns := by
  induction ns generalizing g with
  | nil => rfl
  | cons n ns ih => exact ih (g := g.note n)

theorem entries_noteAll (ns : List Notice) : (g.noteAll ns).journal.entries = g.journal.entries := by
  show (ns.foldl Journal.note g.journal).entries = _
  induction ns generalizing g with
  | nil => rfl
  | cons n ns ih => exact ih (g := g.note n)

/-- The gateway with the call of the verifier, if there is one, recorded. -/
def consulted (svc : Service ε) (p : Connect) (g : Gateway ε) : Gateway ε :=
  { g with journal := { g.journal with entries := asked svc p g.journal.entries } }

/-- The gateway when the verifier gave its verdict on a client. -/
def judged (svc : Service ε) (c : ConnectionId) (conn : Connection) (p : Connect) (g : Gateway ε) :
    Gateway ε :=
  (g.consulted svc p).noteAll (.connect c conn.address p :: verdictNotices svc c g.journal.entries p)

/-- The gateway when the client was also asked for its identity. -/
def inquired (svc : Service ε) (c : ConnectionId) (conn : Connection) (p : Connect) (g : Gateway ε) :
    Gateway ε :=
  (g.judged svc c conn p).record (.identify p.clientId)

theorem entries_judged (c : ConnectionId) (conn : Connection) (p : Connect) :
    (g.judged svc c conn p).journal.entries = asked svc p g.journal.entries :=
  entries_noteAll _

theorem verify_eq (p : Connect) : (g.note (.connect c conn.address p)).verify svc c p =
    (admits svc g.journal.entries p, g.judged svc c conn p) := by
  unfold verify admits judged consulted verdictNotices asked
  cases svc.verifier with
  | none => rfl
  | some v =>
    dsimp only
    rw [← List.cons_append, noteAll_append]
    show ((v ⟨login p, g.journal.entries⟩).admits, _) = (_, _)
    cases h : (v ⟨login p, g.journal.entries⟩).accepted <;>
      simp only [show (g.note (.connect c conn.address p)).journal.entries = g.journal.entries from rfl,
        h] <;> rfl

theorem handle_connect (p : Connect) :
    g.handle svc c conn (.connect p) = g.connect svc c conn p := rfl

theorem connect_eq (p : Connect) : g.connect svc c conn p =
    match admission svc g.journal.entries p with
    | .rejected => (some (.error (.protocol .notAuthorized)),
        (g.judged svc c conn p).note (.rejected c conn.address p.clientId p.username))
    | .unidentified panic => (none, ((g.inquired svc c conn p).note
        (.panicked (.identityMapping c p.clientId) panic)).note (.noIdentity c conn.address p.clientId))
    | .established identity => (none, (g.inquired svc c conn p).establish svc c conn p identity) := by
  unfold connect admission
  simp only [verify_eq]
  cases admits svc g.journal.entries p with
  | false => rfl
  | true =>
    simp only [entries_judged, if_true]
    cases svc.handler.identify (asked svc p g.journal.entries) p.clientId <;> rfl

/-! ### What is kept -/

/-- The connections, the sessions and the shape of the table are the same. -/
structure Keeps (g g' : Gateway ε) : Prop where
  connections : g'.connections = g.connections
  registry : g'.registry = g.registry
  next : g'.next = g.next
  table : g.outbound.SameTable g'.outbound

namespace Keeps

variable {g' g'' : Gateway ε}

theorem refl : Keeps g g := ⟨rfl, rfl, rfl, .refl⟩

theorem trans (h : Keeps g g') (h' : Keeps g' g'') : Keeps g g'' :=
  ⟨h'.connections.trans h.connections, h'.registry.trans h.registry, h'.next.trans h.next,
    h.table.trans h'.table⟩

/-- The journal does not count. -/
theorem journal (j : Journal) : Keeps g { g with journal := j } := ⟨rfl, rfl, rfl, .refl⟩

theorem reply : Keeps g (g.reply c conn p) := by
  unfold Gateway.reply
  split
  · exact ⟨rfl, rfl, rfl, .send ‹_›⟩
  · exact ⟨rfl, rfl, rfl, .refl⟩

theorem answer : Keeps g (g.answer c conn p) := by
  unfold Gateway.answer
  split
  · exact .reply
  · exact .refl

theorem deliver : Keeps g (g.deliver svc c conn p) := by
  unfold Gateway.deliver enqueue
  split
  · split <;> exact ⟨rfl, rfl, rfl, .refl⟩
  · exact .refl

end Keeps

theorem outbound_deliver : (g.deliver svc c conn p).outbound = g.outbound := by
  unfold deliver enqueue
  split
  · split <;> rfl
  · rfl

/-- An answer changes no writer but that of its connection. -/
theorem writer?_answer_of_ne {n : Nat} (hn : conn.writer ≠ n) :
    (g.answer c conn p).outbound.writer? n = g.outbound.writer? n := by
  unfold answer reply
  cases answer? p with
  | none => rfl
  | some a =>
    dsimp only
    cases hs : g.outbound.send conn.writer a with
    | ok o =>
      obtain ⟨w, b, -, -, -, rfl⟩ := Outbound.send_eq_ok.1 hs
      exact List.getElem?_set_ne hn
    | error e => rfl

/-- All that a packet can do to the connections and the sessions is to make the connection that of
an identity, and only CONNECT does that. -/
theorem handle_cases (svc : Service ε) (c : ConnectionId) (conn : Connection) (p : Packet)
    (g : Gateway ε) : Keeps g (g.handle svc c conn p).2 ∨ ∃ q i j, p = .connect q ∧
      g.handle svc c conn p = (none, { g with journal := j }.establish svc c conn q i) := by
  cases p using connectCases with
  | connect q =>
    rw [handle_connect, connect_eq]
    cases admission svc g.journal.entries q with
    | rejected => exact .inl (.journal _)
    | unidentified panic => exact .inl (.journal _)
    | established i => exact .inr ⟨q, i, _, rfl, rfl⟩
  | other p hp =>
    rw [handle_eq hp]
    exact .inl ((Keeps.journal _).trans (Keeps.answer.trans .deliver))

theorem connections_establish (p : Connect) (identity : String) :
    (g.establish svc c conn p identity).connections =
      g.connections.modify c fun _ => { conn with identity := some identity } :=
  Keeps.reply.connections

theorem connection?_handle (svc : Service ε) (h : g.connection? c = some conn) (p : Packet) :
    ∃ i, (g.handle svc c conn p).2.connection? c = some { conn with identity := i } := by
  rcases handle_cases svc c conn p g with hg | ⟨q, i, j, -, hg⟩
  · exact ⟨conn.identity, (congrArg (·.get? c) hg.connections).trans h⟩
  · refine ⟨some i, ?_⟩
    rw [hg, connection?]
    dsimp only
    rw [connections_establish, Index.get?_modify, if_pos rfl]
    exact congrArg (Option.map _) h

/-- What every packet keeps, packets in a row keep. -/
theorem handleAll_keeps {P : Gateway ε → Prop}
    (hP : ∀ g conn p, g.connection? c = some conn → P g → P (g.handle svc c conn p).2)
    (ps : List Packet) (hg : P g) : P (g.handleAll svc c ps).2 := by
  induction ps generalizing g with
  | nil => exact hg
  | cons p ps ih =>
    rw [handleAll]
    cases hc : g.connection? c with
    | none => exact hg
    | some conn =>
      have hp := hP g conn p hc hg
      dsimp only
      generalize g.handle svc c conn p = r at hp ⊢
      rcases r with ⟨_ | e, g'⟩
      · exact ih hp
      · exact hp

theorem gateway_receive (b : Bytes) : (g.receive svc c conn b).2 =
    let d := Drained.ofBuffer svc.packetLimit (conn.unread ++ b)
    ((g.setConnection c { conn with unread := d.rest }).handleAll svc c d.packets).2 := by
  unfold receive
  dsimp only
  generalize Gateway.handleAll .. = r
  rcases r with ⟨_ | e, g'⟩ <;> rfl

/-! ### What handling does not look at -/

/-- The gateway with other octets unread on a connection and another deadline for it. -/
def touch (c : ConnectionId) (φ : Bytes → Bytes) (ψ : Duration → Duration) (g : Gateway ε) :
    Gateway ε :=
  { g with connections := g.connections.modify c (.touch φ ψ) }

def setUnread (c : ConnectionId) (u : Bytes) : Gateway ε → Gateway ε := touch c (fun _ => u) id

theorem connection?_touch (h : g.connection? c = some conn) :
    (g.touch c φ ψ).connection? c = some (conn.touch φ ψ) := by
  show (g.connections.modify c _).get? c = _
  rw [Index.get?_modify, if_pos rfl]
  exact congrArg (Option.map _) h

theorem connection?_setUnread (h : g.connection? c = some conn) :
    (g.setUnread c u).connection? c = some { conn with unread := u } :=
  connection?_touch h

theorem setConnection_eq_touch (φ : Bytes → Bytes) (ψ : Duration → Duration)
    (h : g.connection? c = some conn) : g.setConnection c (conn.touch φ ψ) = g.touch c φ ψ := by
  have : g.connections.modify c (fun _ => conn.touch φ ψ) = g.connections.modify c (.touch φ ψ) :=
    Index.modify_congr h rfl
  rw [setConnection, this, touch]

theorem setConnection_eq_setUnread (h : g.connection? c = some conn) :
    g.setConnection c { conn with unread := u } = g.setUnread c u :=
  setConnection_eq_touch (fun _ => u) id h

theorem touch_touch {φ' : Bytes → Bytes} {ψ' : Duration → Duration} :
    (g.touch c φ ψ).touch c φ' ψ' = g.touch c (φ' ∘ φ) (ψ' ∘ ψ) := by
  simp only [touch, Index.modify_modify]
  rfl

theorem setUnread_setUnread : (g.setUnread c u).setUnread c v = g.setUnread c v := touch_touch

theorem reply_touch :
    (g.touch c φ ψ).reply c (conn.touch φ ψ) p = (g.reply c conn p).touch c φ ψ := by
  unfold reply
  cases h : g.outbound.send conn.writer p with
  | ok o => simp only [touch, Connection.touch, h]
  | error e =>
    simp only [touch, Connection.touch, h]
    rfl

theorem answer_touch :
    (g.touch c φ ψ).answer c (conn.touch φ ψ) p = (g.answer c conn p).touch c φ ψ := by
  unfold answer
  cases answer? p with
  | none => rfl
  | some a => exact reply_touch

theorem deliver_touch :
    (g.touch c φ ψ).deliver svc c (conn.touch φ ψ) p = (g.deliver svc c conn p).touch c φ ψ := by
  unfold deliver enqueue
  cases p with
  | publish p =>
    rcases h : g.queue.enqueue ⟨c, p.topic, svc.charset.decode p.payload, conn.address, c⟩ with
      (_ | _) | _ <;> simp only [touch, Connection.touch, h] <;> rfl
  | _ => rfl

theorem establish_touch (p : Connect) (identity : String) :
    (g.touch c φ ψ).establish svc c (conn.touch φ ψ) p identity =
      (g.establish svc c conn p identity).touch c φ ψ := by
  unfold establish
  dsimp only
  rw [← reply_touch]
  simp only [touch, setConnection, Index.modify_modify]
  rfl

theorem connect_touch (p : Connect) : (g.touch c φ ψ).connect svc c (conn.touch φ ψ) p =
    ((g.connect svc c conn p).1, (g.connect svc c conn p).2.touch c φ ψ) := by
  rw [connect_eq, connect_eq, show (g.touch c φ ψ).journal = g.journal from rfl]
  cases admission svc g.journal.entries p with
  | rejected => rfl
  | unidentified panic => rfl
  | established i => exact congrArg (Prod.mk none) (establish_touch (g := g.inquired svc c conn p) p i)

theorem handle_touch (φ : Bytes → Bytes) (ψ : Duration → Duration) :
    (g.touch c φ ψ).handle svc c (conn.touch φ ψ) p =
      ((g.handle svc c conn p).1, (g.handle svc c conn p).2.touch c φ ψ) := by
  cases p using connectCases with
  | connect q => exact connect_touch q
  | other p hp =>
    rw [handle_eq hp, handle_eq hp, ← deliver_touch, ← answer_touch]
    rfl

theorem handle_setUnread : (g.setUnread c u).handle svc c { conn with unread := u } p =
    ((g.handle svc c conn p).1, (g.handle svc c conn p).2.setUnread c u) :=
  handle_touch (fun _ => u) id

end Gateway

end DeviceGateway
