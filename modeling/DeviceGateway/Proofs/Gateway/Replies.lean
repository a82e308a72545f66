import DeviceGateway.Proofs.Gateway.Answers
import DeviceGateway.Proofs.Gateway.Course

/-!
# What a device gets to read

The packets that are answered are those at the front of the stream, up to the first that ends the
connection, and for each CONNECT the verifier and the identity mapping say what they say after the
calls until then (`Gateway.Follows`). So it is for one read, and from it for a connection that takes
turns (`Gateway.converse`), by induction on the turns; each turn finds an empty writer and the octets
that the one before it left.
-/

namespace DeviceGateway

variable {ε : Type}

/-- What was made of the elements of a list, in their order, up to the first that stops. -/
inductive UpTo {α β : Type} (source : β → α) (stops : β → Bool) : List α → List β → Prop
  | nil : UpTo source stops [] []
  | last {b : β} {as : List α} (hb : stops b) : UpTo source stops (source b :: as) [b]
  | cons {b : β} {as : List α} {bs : List β} (hb : stops b = false) :
    UpTo source stops as bs → UpTo source stops (source b :: as) (b :: bs)

namespace UpTo

variable {α β γ : Type} {source : β → α} {stops : β → Bool} {as : List α} {bs : List β}

theorem append {as' : List α} {bs' : List β} (h : UpTo source stops as bs)
    (hopen : bs.any stops = false) (h' : UpTo source stops as' bs') :
    UpTo source stops (as ++ as') (bs ++ bs') := by
  induction h with
  | nil => exact h'
  | last hb =>
    rw [List.any_cons, hb] at hopen
    cases hopen
  | cons hb _ ih =>
    rw [List.any_cons, hb, Bool.false_or] at hopen
    exact .cons hb (ih hopen)

/-- Behind one that stops nothing counts. -/
theorem append_right (h : UpTo source stops as bs) (hstopped : bs.any stops = true) (as' : List α) :
    UpTo source stops (as ++ as') bs := by
  induction h with
  | nil => cases hstopped
  | last hb => exact .last hb
  | cons hb _ ih =>
    rw [List.any_cons, hb, Bool.false_or] at hstopped
    exact .cons hb (ih hstopped)

theorem of_map {f : γ → β} {cs : List γ} (h : UpTo source stops as (cs.map f)) :
    UpTo (fun x => source (f x)) (fun x => stops (f x)) as cs := by
  induction cs generalizing as with
  | nil =>
    cases h
    exact .nil
  | cons x cs ih =>
    rw [List.map_cons] at h
    generalize hbs : cs.map f = bs at h
    cases h with
    | last hb =>
      obtain rfl := List.map_eq_nil_iff.1 hbs
      exact last (show stops (f x) = true from hb)
    | cons hb hrest => exact cons (show stops (f x) = false from hb) (ih (hbs ▸ hrest))

end UpTo

namespace Handled

variable (h : Handled ε)

/-- What the verifier said, if it was asked; it is asked before any other hook. -/
def verdict? : Option (Except Panic Bool) :=
  match h.calls with
  | .verify _ answer :: _ => some answer
  | _ => none

/-- A DISCONNECT ends the connection, and so does a CONNECT that the verifier turned away. -/
def ends : Bool :=
  match h.packet, h.verdict? with
  | .connect _, some (.ok false) | .connect _, some (.error _) | .disconnect, _ => true
  | _, _ => false

end Handled

/-- What a connection takes and writes while it takes turns. -/
structure Dialogue (ε : Type) extends Reception ε where
  written : Bytes := []

namespace Gateway

variable {svc : Service ε} {g : Gateway ε} {c : ConnectionId} {conn : Connection} {p : Packet}
  {ps : List Packet} {b : Bytes}

/-- Whether a packet ends the connection that comes after the calls of `past`. -/
def ends (svc : Service ε) (past : List Journal.Entry) : Packet → Bool
  | .connect q => !admits svc past q
  | .disconnect => true
  | _ => false

theorem ended_handle (svc : Service ε) (c : ConnectionId) (conn : Connection) (p : Packet)
    (g : Gateway ε) : (g.handle svc c conn p).1.isSome = ends svc g.journal.entries p := by
  cases p using connectCases with
  | connect q =>
    rw [handle_connect, connect_eq, ends, admission]
    cases admits svc g.journal.entries q with
    | false => rfl
    | true => cases svc.handler.identify (asked svc q g.journal.entries) q.clientId <;> rfl
  | other p hp =>
    rw [handle_eq hp]
    cases p with
    | connect q => exact absurd rfl (hp q)
    | _ => rfl

/-! ### What the application is asked -/

/-- What is asked about a packet that comes after the calls of `past`, with the answers: the verifier,
if there is one, and for a client that it lets in the identity mapping. -/
def questions (svc : Service ε) (past : List Journal.Entry) : Packet → List (Call ε ConnectionId)
  | .connect q =>
    (svc.verifier.map fun v => Call.verify (login q) (v ⟨login q, past⟩).accepted).toList ++
      if admits svc past q then
        [.identify q.clientId (svc.handler.identify (asked svc q past) q.clientId)]
      else []
  | _ => []

/-- The calls of a packet are these questions, and then listeners. -/
theorem exists_calls_eq (svc : Service ε) (c : ConnectionId) (conn : Connection) (g : Gateway ε)
    (p : Packet) : ∃ told, calls svc c conn g p = questions svc g.journal.entries p ++ told ∧
      ∀ call ∈ told, call.event?.isSome := by
  cases p with
  | connect q =>
    simp only [calls, questions, admission, List.append_assoc]
    cases admits svc g.journal.entries q with
    | false => exact ⟨[], rfl, List.forall_mem_nil _⟩
    | true =>
      cases svc.handler.identify (asked svc q g.journal.entries) q.clientId with
      | error panic => exact ⟨[], rfl, List.forall_mem_nil _⟩
      | ok i => exact ⟨_, rfl, fun call => Presence.isSome_event?_of_mem_listeners⟩
  | _ => exact ⟨[], rfl, List.forall_mem_nil _⟩

/-- What is asked tells whether a packet ends the connection. -/
theorem ends_of_calls {h : Handled ε} {past : List Journal.Entry} {told : List (Call ε ConnectionId)}
    (hcalls : h.calls = questions svc past h.packet ++ told) : h.ends = ends svc past h.packet := by
  obtain ⟨p, calls⟩ := h
  obtain rfl : calls = questions svc past p ++ told := hcalls
  cases p with
  | connect q =>
    unfold Handled.ends Handled.verdict? questions ends admits
    cases svc.verifier with
    | none => rfl
    | some v =>
      simp only [Option.map_some, Option.toList_some, List.cons_append, Option.all_some,
        Verdict.admits]
      rcases (v ⟨login q, past⟩).accepted with panic | _ | _ <;> rfl
  | _ => rfl

/-- Packets were handled one after the other, the first of them after the calls of `past`. Each was
asked about after the calls until then, and the journal gained its calls. -/
inductive Consulted (svc : Service ε) :
    List Journal.Entry → List (Handled ε) → List Journal.Entry → Prop
  | nil {past} : Consulted svc past [] past
  | cons {past past' past'' h hs told} (hcalls : h.calls = questions svc past h.packet ++ told)
      (htold : ∀ call ∈ told, call.event?.isSome) (hrecorded : Presence.Recorded h.calls past past') :
    Consulted svc past' hs past'' → Consulted svc past (h :: hs) past''

theorem Consulted.append {past past' past'' : List Journal.Entry} {hs ks : List (Handled ε)}
    (h : Consulted svc past hs past') (hk : Consulted svc past' ks past'') :
    Consulted svc past (hs ++ ks) past'' := by
  induction h with
  | nil => exact hk
  | cons hcalls htold hrecorded _ ih => exact .cons hcalls htold hrecorded (ih hk)

/-! ### A stream -/

/-- The packets of a stream were handled up to the first that ends the connection, which a CONNECT does
if the verifier turns it away. Until then the entries of the journal went from `past` to `past'`. The
connection ended if there is such a packet, or if what is behind the packets is wrong. -/
structure Follows (svc : Service ε) (past past' : List Journal.Entry) (d : Drained)
    (hs : List (Handled ε)) (ended : Option Ending) : Prop where
  packets : UpTo Handled.packet Handled.ends d.packets hs
  consulted : Consulted svc past hs past'
  ended : ended.isSome = (hs.any Handled.ends || d.failure.isSome)

theorem follows_handleEach (svc : Service ε) (h : g.connection? c = some conn) (ps : List Packet) :
    Follows svc g.journal.entries (handleEach svc c ps g).gateway.journal.entries ⟨ps, [], none⟩
      (handleEach svc c ps g).handled (handleEach svc c ps g).ended := by
  induction ps generalizing g conn with
  | nil => exact ⟨.nil, .nil, rfl⟩
  | cons p ps ih =>
    obtain ⟨i, hi⟩ := connection?_handle svc h p
    obtain ⟨told, hcalls, htold⟩ := exists_calls_eq svc c conn g p
    have hend : (g.handle svc c conn p).1.isSome = (⟨p, calls svc c conn g p⟩ : Handled ε).ends :=
      (ended_handle svc c conn p g).trans (ends_of_calls (h := ⟨p, _⟩) hcalls).symm
    rw [handleEach_cons h]
    cases he : (g.handle svc c conn p).1 with
    | some e =>
      rw [he] at hend
      refine ⟨.last hend.symm, .cons hcalls htold recorded_handle .nil, ?_⟩
      rw [Reception.andThen_of_ended rfl, List.any_cons, ← hend]
      rfl
    | none =>
      rw [he] at hend
      have hrest := ih hi
      refine ⟨.cons hend.symm hrest.packets, .cons hcalls htold recorded_handle hrest.consulted, ?_⟩
      rw [Reception.andThen_of_open rfl, List.singleton_append, List.any_cons, ← hend]
      exact hrest.ended

namespace Follows

variable {past past' past'' : List Journal.Entry} {hs ks : List (Handled ε)} {ended : Option Ending}
  {limit : Nat} {d : Drained}

theorem of_open (h : Follows svc past past' d hs none) :
    hs.any Handled.ends = false ∧ d.failure = none := by
  obtain ⟨hany, hf⟩ := Bool.or_eq_false_iff.1 h.ended.symm
  exact ⟨hany, by simpa using hf⟩

theorem of_ended (h : Follows svc past past' (.ofBuffer limit b) hs ended) (he : ended.isSome)
    (x : Bytes) : Follows svc past past' (.ofBuffer limit (b ++ x)) hs ended := by
  obtain ⟨hps, hconsulted, hended⟩ := h
  cases hf : (Drained.ofBuffer limit b).failure with
  | some e =>
    rw [Drained.ofBuffer_append_of_failure hf]
    exact ⟨hps, hconsulted, hended⟩
  | none =>
    -- then a packet ended the connection, and those behind it do not count
    rw [he, hf, Option.isSome_none, Bool.or_false] at hended
    rw [Drained.ofBuffer_append hf]
    refine ⟨hps.append_right hended.symm _, hconsulted, ?_⟩
    rw [he, ← hended, Bool.true_or]

theorem append (h : Follows svc past past' (.ofBuffer limit b) hs none) (x : Bytes)
    (hx : Follows svc past' past'' (.ofBuffer limit ((Drained.ofBuffer limit b).rest ++ x)) ks ended) :
    Follows svc past past'' (.ofBuffer limit (b ++ x)) (hs ++ ks) ended := by
  obtain ⟨hany, hf⟩ := h.of_open
  rw [Drained.ofBuffer_append hf]
  refine ⟨h.packets.append hany hx.packets, h.consulted.append hx.consulted, ?_⟩
  rw [hx.ended, List.any_append, hany, Bool.false_or]

end Follows

theorem follows_read (svc : Service ε) (h : g.connection? c = some conn) (b : Bytes) :
    Follows svc g.journal.entries (read svc c b g).gateway.journal.entries
      (.ofBuffer svc.packetLimit (conn.unread ++ b)) (read svc c b g).handled
      (read svc c b g).ended := by
  rw [read_eq h]
  set d := Drained.ofBuffer svc.packetLimit (conn.unread ++ b)
  have hps := follows_handleEach svc h d.packets
  have hended := hps.ended
  rw [Option.isSome_none, Bool.or_false] at hended
  refine ⟨hps.packets, hps.consulted, ?_⟩
  show (Option.orElse _ _).isSome = (List.any (handleEach svc c d.packets g).handled _ || _)
  rw [← hended]
  cases (handleEach svc c d.packets g).ended <;> cases d.failure <;> rfl

/-! ### Turns -/

/-- Reading is the same whatever the deadline is. -/
theorem receive_eq (h : g.connection? c = some conn) (deadline : Duration) (b : Bytes) :
    g.receive svc c { conn with deadline } b =
      ((read svc c b g).ended, (read svc c b g).gateway.touch c id fun _ => deadline) := by
  set d := Drained.ofBuffer svc.packetLimit (conn.unread ++ b) with hd
  have hg : g.setConnection c { conn with unread := d.rest, deadline } =
      g.touch c (fun _ => d.rest) fun _ => deadline :=
    setConnection_eq_touch (fun _ => d.rest) (fun _ => deadline) h
  have heach : handleEach svc c d.packets (g.touch c (fun _ => d.rest) fun _ => deadline) =
      (handleEach svc c d.packets g).map (.touch c (fun _ => d.rest) fun _ => deadline) :=
    handleEach_touch h _ _ d.packets
  have hall : Gateway.handleAll svc c d.packets (g.touch c (fun _ => d.rest) fun _ => deadline) =
      ((handleEach svc c d.packets g).ended,
        (handleEach svc c d.packets g).gateway.touch c (fun _ => d.rest) fun _ => deadline) :=
    Prod.ext (congrArg Reception.ended heach) (congrArg Reception.gateway heach)
  have htouch : ∀ g : Gateway ε, (g.setUnread c d.rest).touch c id (fun _ => deadline) =
      g.touch c (fun _ => d.rest) fun _ => deadline := fun g => touch_touch
  rw [read_eq h, receive]
  dsimp only
  rw [← hd, hg, hall, ← htouch]
  rcases handleEach svc c d.packets g with ⟨hs, _ | e, g'⟩ <;> rfl

/-- What a turn writes is what reading left in the writer. -/
theorem turn_bytes (svc : Service ε) (h : g.connection? c = some conn) (now : Duration) (b : Bytes) :
    let r := read svc c b g
    let t := g.turn svc none now c (.bytes b)
    let taken := r.gateway.outbound.take conn.writer
    t.written = taken.1 ∧ t.ended = r.ended ∧ (r.ended = none → t.gateway.outbound = taken.2 ∧
      t.gateway.journal = r.gateway.journal ∧ ∃ i e, t.gateway.connection? c = some { conn with
        identity := i
        deadline := e
        unread := (Drained.ofBuffer svc.packetLimit (conn.unread ++ b)).rest }) := by
  intro r t taken
  have hrespond : g.respond svc none now c conn (.bytes b) =
      { written := taken.1
        ended := r.ended
        gateway := { r.gateway.touch c id fun _ => now + svc.idleTimeout with outbound := taken.2 } } := by
    simp only [respond, receive_eq h, flush]
    rfl
  obtain ⟨i, hi⟩ := connection?_read svc h b
  have ht : t = g.turn svc none now c (.bytes b) := rfl
  rw [turn, h] at ht
  dsimp only at ht
  rw [hrespond] at ht
  rw [ht]
  cases r.ended with
  | some e => exact ⟨rfl, rfl, fun he => absurd he (Option.some_ne_none e)⟩
  | none => exact ⟨rfl, rfl, fun _ => ⟨rfl, rfl, i, _, connection?_touch hi⟩⟩

/-- Octets come in pieces, each in a turn of its own, up to the end of the connection. -/
def converse (svc : Service ε) (c : ConnectionId) : List (Duration × Bytes) → Gateway ε → Dialogue ε
  | [], g => { handled := [], ended := none, gateway := g }
  | (now, b) :: turns, g =>
    let t := g.turn svc none now c (.bytes b)
    let hs := (read svc c b g).handled
    match t.ended with
    | none =>
      let d := converse svc c turns t.gateway
      { d with handled := hs ++ d.handled, written := t.written ++ d.written }
    | some e => { handled := hs, ended := some e, gateway := t.gateway, written := t.written }

theorem follows_converse (svc : Service ε) (h : g.connection? c = some conn)
    (turns : List (Duration × Bytes))
    (hu : turns = [] → Packet.decode svc.packetLimit conn.unread = .ok none) :
    ∃ past, Follows svc g.journal.entries past
      (.ofBuffer svc.packetLimit (conn.unread ++ (turns.map (·.2)).flatten))
      (converse svc c turns g).handled (converse svc c turns g).ended := by
  induction turns generalizing g conn with
  | nil =>
    rw [List.map_nil, List.flatten_nil, List.append_nil, Drained.ofBuffer_of_none (hu rfl)]
    exact ⟨_, .nil, .nil, rfl⟩
  | cons turn turns ih =>
    obtain ⟨now, x⟩ := turn
    obtain ⟨-, hended, hg⟩ := turn_bytes svc h now x
    have hread := follows_read svc h x
    rw [List.map_cons, List.flatten_cons, ← List.append_assoc, converse, hended]
    cases he : (read svc c x g).ended with
    | some e => exact ⟨_, (he ▸ hread).of_ended rfl _⟩
    | none =>
      rw [he] at hread
      obtain ⟨-, hjournal, i, e, hconn⟩ := hg he
      -- where the connection is open, no packet was left that is complete
      obtain ⟨past, hbehind⟩ := ih hconn fun _ => Drained.decode_rest hread.of_open.2
      rw [hjournal] at hbehind
      exact ⟨past, hread.append _ hbehind⟩

/-- What a connection writes is what waited, and then the answers to the packets of the stream. -/
theorem written_converse (h : g.connection? c = some conn) (turns : List (Duration × Bytes))
    (hb : g.outbound.OwnBuffer c conn.writer b) (hwaits : turns = [] → b = [])
    (hsilent : Silent c (converse svc c turns g).handled) :
    (converse svc c turns g).written =
      b ++ (converse svc c turns g).handled.flatMap Handled.answer := by
  induction turns generalizing g conn b with
  | nil => exact (hwaits rfl).symm ▸ rfl
  | cons turn turns ih =>
    obtain ⟨now, x⟩ := turn
    obtain ⟨hw, hended, hg⟩ := turn_bytes svc h now x
    rw [converse, hended] at hsilent ⊢
    cases he : (read svc c x g).ended with
    | some e =>
      rw [he] at hsilent
      obtain ⟨htaken, -⟩ := (ownBuffer_read h hb x hsilent).take
      exact hw.trans htaken
    | none =>
      rw [he] at hsilent
      obtain ⟨hfirst, hrest⟩ := List.forall_mem_append.1 hsilent
      obtain ⟨htaken, hempty⟩ := (ownBuffer_read h hb x hfirst).take
      obtain ⟨houtbound, -, i, e, hconn⟩ := hg he
      -- the turn took all that waited, so the next one begins with an empty writer
      have hlater := ih hconn (houtbound ▸ hempty) (fun _ => rfl) hrest
      dsimp only
      rw [hw, htaken, hlater, List.flatMap_append, List.nil_append, List.append_assoc]

theorem encode_of_mem {limit : Nat} {stream : Bytes} (hp : p ∈ (Drained.ofBuffer limit stream).packets) :
    (∀ a, answer? p = some a → a.encode = .ok p.answerOctets) ∧
      ∀ q, p = .publish q → q.qos ≠ .atMostOnce → ∃ id, q.packetId = some id ∧ id ≠ 0 := by
  obtain ⟨b, n, hd⟩ := Drained.exists_decode_of_mem hp
  refine ⟨fun a => Packet.encode_answer (Packet.remainingLength_le_of_decode hd), ?_⟩
  rintro q rfl hq
  obtain ⟨f, -, -, -, -, hbody⟩ := Packet.frame_of_decode hd
  obtain ⟨-, hvalid, -⟩ := Packet.decodeBody_eq_ok.1 hbody
  exact hvalid.of_acknowledged hq

end Gateway

namespace Course

/-- A device gets exactly the answers to its packets. In any state that a gateway can come to, let
octets come on a connection whose writer is open, while nothing is published to the device. They are
handled as packets up to the first that ends the connection, or to what is wrong; for each CONNECT the
verifier and the identity mapping say what becomes of it, in view of all calls before. The octets that
the writer gains are the answers to these packets in their order. When the connection takes turns,
it writes what waited and these answers, also if it ends, as long as writing does not fail. Every
answer can be encoded. -/
theorem replies_exact (svc : Service ε) (charset : Charset) (capacity : Nat) (as : List Action)
    {c : ConnectionId} {conn : Connection} {w : Writer}
    (hc : (run svc as (start charset capacity)).gateway.connection? c = some conn)
    (hw : (run svc as (start charset capacity)).gateway.outbound.writer? conn.writer = some w)
    (hopen : w.isOpen) (turn : Duration × Bytes) (turns : List (Duration × Bytes)) :
    let g := (run svc as (start charset capacity)).gateway
    let stream := ((turn :: turns).map (·.2)).flatten
    let drained := Drained.ofBuffer svc.packetLimit (conn.unread ++ stream)
    let r := Gateway.read svc c stream g
    let d := Gateway.converse svc c (turn :: turns) g
    (Gateway.Follows svc g.journal.entries r.gateway.journal.entries drained r.handled r.ended ∧
      (Gateway.Silent c r.handled →
        ∃ w', r.gateway.outbound.writer? conn.writer = some w' ∧ w'.isOpen ∧
          w'.buffer = w.buffer ++ r.handled.flatMap Handled.answer)) ∧
    ((∃ past, Gateway.Follows svc g.journal.entries past drained d.handled d.ended) ∧
      (Gateway.Silent c d.handled →
        d.written = w.buffer ++ d.handled.flatMap Handled.answer)) ∧
    ∀ p ∈ drained.packets, (∀ a, Gateway.answer? p = some a → a.encode = .ok p.answerOctets) ∧
      ∀ q, p = .publish q → q.qos ≠ .atMostOnce → ∃ id, q.packetId = some id ∧ id ≠ 0 := by
  intro g stream drained r d
  have hlinked : g.Linked := ((Ledger.start charset capacity).run as).linked
  have hb : g.outbound.OwnBuffer c conn.writer w.buffer := by
    refine ⟨fun e he => ?_, w, hw, hopen, rfl⟩
    rw [hlinked.route] at he
    exact hlinked.writer_inj e c _ he (by rw [Gateway.writerOf?, hc]; rfl)
  have hne : turn :: turns ≠ [] := List.cons_ne_nil _ _
  refine ⟨⟨Gateway.follows_read svc hc stream, fun hsilent => ?_⟩,
    ⟨Gateway.follows_converse svc hc (turn :: turns) (absurd · hne), fun hsilent => ?_⟩,
    fun p hp => Gateway.encode_of_mem hp⟩
  · exact (Gateway.ownBuffer_read hc hb stream hsilent).waits
  · exact Gateway.written_converse hc (turn :: turns) hb (absurd · hne) hsilent

/-- A device that connects, sends a PINGREQ and disconnects, all at once. -/
theorem replies_exact_connect :
    let svc : Service Unit := { packetLimit := 16, idleTimeout := ⟨5⟩, handler := .silent () }
    let g := (run svc [.accept ⟨0⟩ ⟨.v4 127 0 0 1, 4000, 0⟩] (start .utf8 1)).gateway
    let stream := [0x10, 0x0D, 0x00, 0x04, 0x4D, 0x51, 0x54, 0x54, 0x04, 0x02, 0x00, 0x3C, 0x00, 0x01,
      0x64, 0xC0, 0x00, 0xE0, 0x00]
    let d := Gateway.converse svc ⟨1⟩ [(⟨1⟩, stream)] g
    d.handled.map (·.packet) = [.connect { clientId := "d" }, .pingReq, .disconnect] ∧
      d.ended.isSome ∧ d.written = [0x20, 0x02, 0x00, 0x00, 0xD0, 0x00] := by
  intro svc g stream d
  have hconnect : Packet.decode 16 stream = .ok (some (.connect { clientId := "d" }, 15)) := by rfl
  have hping : Packet.decode 16 [0xC0, 0x00, 0xE0, 0x00] = .ok (some (.pingReq, 2)) := by rfl
  have hdisconnect : Packet.decode 16 [0xE0, 0x00] = .ok (some (.disconnect, 2)) := by rfl
  have hnone : Packet.decode 16 [] = .ok none := by rfl
  have hdrained : Drained.ofBuffer 16 stream =
      ⟨[.connect { clientId := "d" }, .pingReq, .disconnect], [], none⟩ := by
    have hbehind : stream.drop 15 = [0xC0, 0x00, 0xE0, 0x00] := rfl
    simp [Drained.ofBuffer_of_packet hconnect, Drained.ofBuffer_of_packet hping,
      Drained.ofBuffer_of_packet hdisconnect, Drained.ofBuffer_of_none hnone, hbehind]
  have hc : g.connection? ⟨1⟩ = some ⟨⟨.v4 127 0 0 1, 4000, 0⟩, 0, none, [], ⟨5⟩⟩ := rfl
  obtain ⟨-, ⟨⟨past, hfollows⟩, hwritten⟩, -⟩ := replies_exact svc .utf8 1
    [.accept ⟨0⟩ ⟨.v4 127 0 0 1, 4000, 0⟩] hc (w := {}) rfl rfl (⟨1⟩, stream) []
  have hfollows : Gateway.Follows svc g.journal.entries past (.ofBuffer 16 stream) d.handled d.ended :=
    hfollows
  have hread : Gateway.read svc ⟨1⟩ stream g = (Gateway.handleEach svc ⟨1⟩
      [.connect { clientId := "d" }, .pingReq, .disconnect] g).setUnread ⟨1⟩ [] := by
    rw [Gateway.read_eq hc]
    show ((Gateway.handleEach svc _ (Drained.ofBuffer 16 stream).packets g).closedBy
      (Drained.ofBuffer 16 stream).failure).setUnread _ (Drained.ofBuffer 16 stream).rest = _
    rw [hdrained, Reception.closedBy_none]
  have hhandled : d.handled = (Gateway.read svc ⟨1⟩ stream g).handled := by
    obtain ⟨-, hended, -⟩ := Gateway.turn_bytes svc hc ⟨1⟩ stream
    show (Gateway.converse svc ⟨1⟩ [(⟨1⟩, stream)] g).handled = _
    rw [Gateway.converse, hended, hread]
    rfl
  have hsilent : Gateway.Silent ⟨1⟩ d.handled := by
    rw [hhandled, hread]
    unfold Gateway.Silent
    decide
  have hended := hfollows.ended
  rw [hdrained, hhandled, hread] at hended
  refine ⟨?_, hended, ?_⟩
  · rw [hhandled, hread]
    rfl
  · rw [show d.written = _ from hwritten hsilent, show (Gateway.converse ..).handled = _ from hhandled,
      hread]
    rfl

end Course

end DeviceGateway
