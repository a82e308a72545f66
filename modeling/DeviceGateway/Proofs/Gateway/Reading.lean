import DeviceGateway.Proofs.Gateway.Handling
import DeviceGateway.Proofs.Hooks
import DeviceGateway.Proofs.Packet.Stream
import Mathlib.Tactic.Set

/-!
# Reading in pieces

A `Reception` is what reading comes to: the packets that were handled, each with the hooks that were
called meanwhile, the end of the connection if there was one, and the gateway behind it. It does not
matter how the octets are cut into reads. When the first read leaves the connection open, reading
more is the same as having read it at once (`read_append`); when it ends the connection, more octets
are not looked at (`read_append_of_ended`). `readAll_agrees` is the induction on the pieces. That a
packet is handled before what is behind it is decoded makes no difference either
(`read_agrees_readPacket`).

What is left unread behind an end is out of reach, and nothing is said about it.
-/

namespace DeviceGateway

structure Handled (ε : Type) where
  packet : Packet
  calls : List (Call ε ConnectionId)

structure Reception (ε : Type) where
  handled : List (Handled ε)
  ended : Option Ending
  gateway : Gateway ε

namespace Reception

variable {ε : Type} {r s t : Reception ε} {c : ConnectionId} {u : Bytes}
  {next next' : Gateway ε → Reception ε}

/-- Goes on behind a reception, unless that ended the connection. -/
def andThen (r : Reception ε) (next : Gateway ε → Reception ε) : Reception ε :=
  match r.ended with
  | none => { next r.gateway with handled := r.handled ++ (next r.gateway).handled }
  | some _ => r

/-- The reception with an end for what is wrong behind the packets. -/
def closedBy (failure : Option DecodeError) (r : Reception ε) : Reception ε :=
  { r with ended := r.ended <|> failure.map fun e => .error (.decode e) }

@[simp] theorem closedBy_none : r.closedBy none = r := by
  simp [closedBy]

theorem ended_closedBy {failure : Option DecodeError} :
    (r.closedBy failure).ended = none ↔ r.ended = none ∧ failure = none := by
  simp [closedBy]

theorem closedBy_of_ended {failure : Option DecodeError} (h : r.ended.isSome) :
    r.closedBy failure = r := by
  rcases r with ⟨hs, _ | e, g⟩
  · cases h
  · rfl

def map (f : Gateway ε → Gateway ε) (r : Reception ε) : Reception ε :=
  { r with gateway := f r.gateway }

def setUnread (c : ConnectionId) (u : Bytes) : Reception ε → Reception ε := map (.setUnread c u)

theorem setUnread_setUnread {v : Bytes} : (r.setUnread c u).setUnread c v = r.setUnread c v :=
  congrArg (fun g => { r with gateway := g }) Gateway.setUnread_setUnread

/-- Two receptions on a connection that differ at most in what is unread behind its end. -/
structure Agrees (c : ConnectionId) (r s : Reception ε) : Prop where
  handled : r.handled = s.handled
  ended : r.ended = s.ended
  elsewhere : r.gateway.setUnread c [] = s.gateway.setUnread c []
  whileOpen : r.ended = none → r.gateway = s.gateway

theorem andThen_of_ended (h : r.ended.isSome) : r.andThen next = r := by
  rcases r with ⟨hs, _ | e, g⟩
  · cases h
  · rfl

theorem andThen_of_open (h : r.ended = none) :
    r.andThen next = { next r.gateway with handled := r.handled ++ (next r.gateway).handled } := by
  rcases r with ⟨hs, _ | e, g⟩
  · rfl
  · cases h

theorem andThen_congr (h : r.ended = none → next r.gateway = next' r.gateway) :
    r.andThen next = r.andThen next' := by
  rcases r with ⟨hs, _ | e, g⟩
  · rw [andThen_of_open rfl, andThen_of_open rfl, h rfl]
  · rfl

theorem andThen_assoc :
    (r.andThen next).andThen next' = r.andThen fun g => (next g).andThen next' := by
  rcases r with ⟨hs, _ | e, g⟩
  · rcases hn : next g with ⟨hs', _ | e, g'⟩ <;> simp [andThen, hn]
  · rfl

theorem andThen_map {f : Gateway ε → Gateway ε}
    (h : r.ended = none → next (f r.gateway) = (next r.gateway).map f) :
    (r.map f).andThen next = (r.andThen next).map f := by
  rcases r with ⟨hs, _ | e, g⟩
  · have h : next (f g) = (next g).map f := h rfl
    simp only [andThen, map, h]
  · rfl

namespace Agrees

theorem refl : Agrees c r r := ⟨rfl, rfl, rfl, fun _ => rfl⟩

theorem symm (h : Agrees c r s) : Agrees c s r :=
  ⟨h.handled.symm, h.ended.symm, h.elsewhere.symm, fun he => (h.whileOpen (h.ended.trans he)).symm⟩

theorem trans (h : Agrees c r s) (h' : Agrees c s t) : Agrees c r t :=
  ⟨h.handled.trans h'.handled, h.ended.trans h'.ended, h.elsewhere.trans h'.elsewhere,
    fun he => (h.whileOpen he).trans (h'.whileOpen (h.ended.symm.trans he))⟩

/-- Behind an end, what is unread is the only difference there may be. -/
theorem setUnread (h : r.ended.isSome) : Agrees c (r.setUnread c u) r :=
  ⟨rfl, rfl, Gateway.setUnread_setUnread, fun he => absurd h (by rw [show r.ended = none from he]; nofun)⟩

theorem andThen (h : r.ended = none → Agrees c (next r.gateway) (next' r.gateway)) :
    Agrees c (r.andThen next) (r.andThen next') := by
  rcases r with ⟨hs, _ | e, g⟩
  · have h := h rfl
    exact ⟨congrArg (hs ++ ·) h.handled, h.ended, h.elsewhere, h.whileOpen⟩
  · exact .refl

end Agrees

end Reception

namespace Gateway

variable {ε : Type} (svc : Service ε) (c : ConnectionId)

/-- What a device arrives with when it is let in under an identity. -/
def arrivalOf (c : ConnectionId) (conn : Connection) (p : Connect) (identity : String) :
    Arrival ConnectionId :=
  ⟨identity, c, conn.address, p.username, p.password, c⟩

/-- The hooks that are called while a packet is handled, in order. -/
def calls (conn : Connection) (g : Gateway ε) : Packet → List (Call ε ConnectionId)
  | .connect p =>
    (svc.verifier.map fun v =>
        Call.verify (login p) (v ⟨login p, g.journal.entries⟩).accepted).toList ++
      match admission svc g.journal.entries p with
      | .rejected => []
      | .unidentified panic => [.identify p.clientId (.error panic)]
      | .established identity => .identify p.clientId (.ok identity) ::
          Presence.listeners svc.handler .table (arrivalOf c conn p identity)
            (g.inquired svc c conn p).toPresence
  | _ => []

/-- The packets that `handleAll` handles, with the calls of each. -/
def handled : List Packet → Gateway ε → List (Handled ε)
  | [], _ => []
  | p :: ps, g =>
    match g.connection? c with
    | none => []
    | some conn => ⟨p, calls svc c conn g p⟩ :: match g.handle svc c conn p with
      | (none, g) => handled ps g
      | _ => []

def handleEach (ps : List Packet) (g : Gateway ε) : Reception ε :=
  ⟨handled svc c ps g, (g.handleAll svc c ps).1, (g.handleAll svc c ps).2⟩

/-- Takes octets from a connection as `receive` does. -/
def read (b : Bytes) (g : Gateway ε) : Reception ε :=
  match g.connection? c with
  | none => ⟨[], none, g⟩
  | some conn =>
    let d := Drained.ofBuffer svc.packetLimit (conn.unread ++ b)
    let received := g.receive svc c conn b
    ⟨handled svc c d.packets (g.setConnection c { conn with unread := d.rest }), received.1, received.2⟩

/-- Takes octets, decodes one packet and handles it, and reads on if the connection is still open. -/
def readPacket (conn : Connection) (b : Bytes) (g : Gateway ε) : Reception ε :=
  match Packet.decode svc.packetLimit (conn.unread ++ b) with
  | .error e => ⟨[], some (.error (.decode e)), g⟩
  | .ok none => ⟨[], none, g.setUnread c (conn.unread ++ b)⟩
  | .ok (some (p, n)) =>
    let conn := { conn with unread := (conn.unread ++ b).drop n }
    let g := g.setUnread c conn.unread
    (⟨[⟨p, calls svc c conn g p⟩], (g.handle svc c conn p).1, (g.handle svc c conn p).2⟩ :
      Reception ε).andThen (read svc c [])

/-- Takes octets in pieces, up to the end of the connection. -/
def readAll : List Bytes → Gateway ε → Reception ε
  | [], g => ⟨[], none, g⟩
  | b :: bs, g => (read svc c b g).andThen (readAll bs)

variable {svc c} {conn : Connection} {g : Gateway ε} {p : Packet} {ps : List Packet}
  {b u : Bytes}

/-! ### Calls and journal -/

theorem entries_reply : (g.reply c conn p).journal.entries = g.journal.entries := by
  unfold reply
  split <;> rfl

theorem entries_of_ne_connect (hp : ∀ q, p ≠ .connect q) :
    (g.handle svc c conn p).2.journal.entries = g.journal.entries := by
  rw [handle_eq hp, ← entries_noteAll (g := g) (notices c conn p)]
  generalize g.noteAll (notices c conn p) = g
  have hanswer : (g.answer c conn p).journal.entries = g.journal.entries := by
    unfold answer
    split
    · exact entries_reply
    · rfl
  rw [← hanswer]
  generalize g.answer c conn p = g
  unfold deliver enqueue
  split
  · split <;> rfl
  · rfl

/-- The verifier, if there is one, was asked. -/
theorem recorded_asked (q : Connect) (past : List Journal.Entry) :
    Presence.Recorded (svc.verifier.map fun v =>
      (Call.verify (login q) (v ⟨login q, past⟩).accepted : Call ε ConnectionId)).toList
    past (asked svc q past) := by
  unfold asked
  cases svc.verifier with
  | none => exact .refl
  | some v => exact ⟨[_], rfl, rfl⟩

/-- The journal gains the entries of the calls, and nothing else. -/
theorem recorded_handle : Presence.Recorded (calls svc c conn g p) g.journal.entries
    (g.handle svc c conn p).2.journal.entries := by
  cases p using connectCases with
  | connect q =>
    refine (recorded_asked q g.journal.entries).trans ?_
    rw [handle_connect, connect_eq, ← entries_judged c conn]
    have hidentify : ∀ answer, Presence.Recorded [(.identify q.clientId answer : Call ε ConnectionId)]
        (g.judged svc c conn q).journal.entries (g.inquired svc c conn q).journal.entries :=
      fun answer => ⟨[_], rfl, rfl⟩
    cases admission svc g.journal.entries q with
    | rejected => exact .refl
    | unidentified panic => exact hidentify _
    | established i =>
      have honline := Presence.recorded_online (h := svc.handler) (a := arrivalOf c conn q i)
        (p := (g.inquired svc c conn q).toPresence) fun via m w => Surroundings.entries_publish w m
      refine (hidentify (.ok i)).trans ?_
      show Presence.Recorded _ _ (Gateway.reply _ _ _ _).journal.entries
      rw [entries_reply]
      exact honline
  | other p hp =>
    rw [entries_of_ne_connect hp]
    cases p with
    | connect q => exact absurd rfl (hp q)
    | _ => exact .refl

/-! ### Packets in a row -/

theorem handleEach_cons (h : g.connection? c = some conn) : handleEach svc c (p :: ps) g =
    (⟨[⟨p, calls svc c conn g p⟩], (g.handle svc c conn p).1, (g.handle svc c conn p).2⟩ :
      Reception ε).andThen (handleEach svc c ps) := by
  rw [handleEach, handled, handleAll, h]
  rcases hg : g.handle svc c conn p with ⟨_ | e, g'⟩ <;> simp only [hg] <;> rfl

theorem connection?_handleEach (svc : Service ε) (h : g.connection? c = some conn) (ps : List Packet) :
    ∃ i, (handleEach svc c ps g).gateway.connection? c = some { conn with identity := i } := by
  induction ps generalizing g conn with
  | nil => exact ⟨conn.identity, h⟩
  | cons p ps ih =>
    rw [handleEach_cons h]
    obtain ⟨i, hi⟩ := connection?_handle svc h p
    cases he : (g.handle svc c conn p).1 with
    | some e => exact ⟨i, hi⟩
    | none =>
      obtain ⟨j, hj⟩ := ih hi
      exact ⟨j, hj⟩

theorem handleEach_append (h : g.connection? c = some conn) (ps qs : List Packet) :
    handleEach svc c (ps ++ qs) g = (handleEach svc c ps g).andThen (handleEach svc c qs) := by
  induction ps generalizing g conn with
  | nil => rfl
  | cons p ps ih =>
    rw [List.cons_append, handleEach_cons h, handleEach_cons h, Reception.andThen_assoc]
    obtain ⟨i, hi⟩ := connection?_handle svc h p
    exact Reception.andThen_congr fun _ => ih hi

theorem handleEach_touch (h : g.connection? c = some conn) (φ : Bytes → Bytes)
    (ψ : Duration → Duration) (ps : List Packet) :
    handleEach svc c ps (g.touch c φ ψ) = (handleEach svc c ps g).map (.touch c φ ψ) := by
  induction ps generalizing g conn with
  | nil => rfl
  | cons p ps ih =>
    obtain ⟨i, hi⟩ := connection?_handle svc h p
    rw [handleEach_cons h, handleEach_cons (connection?_touch h), handle_touch,
      ← Reception.andThen_map fun _ => ih hi]
    rfl

theorem handleEach_setUnread (h : g.connection? c = some conn) (ps : List Packet) :
    handleEach svc c ps (g.setUnread c u) = (handleEach svc c ps g).setUnread c u :=
  handleEach_touch h _ _ ps

/-! ### One read -/

theorem read_eq (h : g.connection? c = some conn) (b : Bytes) : read svc c b g =
    let d := Drained.ofBuffer svc.packetLimit (conn.unread ++ b)
    ((handleEach svc c d.packets g).closedBy d.failure).setUnread c d.rest := by
  set d := Drained.ofBuffer svc.packetLimit (conn.unread ++ b) with hd
  have hg : g.setConnection c { conn with unread := d.rest } = g.setUnread c d.rest :=
    setConnection_eq_setUnread h
  rw [read, h]
  dsimp only
  show _ = ((handleEach svc c d.packets g).setUnread c d.rest).closedBy d.failure
  rw [← hd, ← handleEach_setUnread h, receive, ← hd, hg, handleEach]
  rcases (g.setUnread c d.rest).handleAll svc c d.packets with ⟨_ | e, g'⟩ <;> rfl

theorem connection?_read (svc : Service ε) (h : g.connection? c = some conn) (b : Bytes) :
    ∃ i, (read svc c b g).gateway.connection? c = some { conn with
      identity := i
      unread := (Drained.ofBuffer svc.packetLimit (conn.unread ++ b)).rest } := by
  rw [read_eq h]
  obtain ⟨i, hi⟩ := connection?_handleEach svc h _
  exact ⟨i, connection?_setUnread hi⟩

/-- Where a read leaves the connection open, reading on is like having read more at once. -/
theorem read_append (h : g.connection? c = some conn) (he : (read svc c b g).ended = none)
    (x : Bytes) : read svc c (b ++ x) g = (read svc c b g).andThen (read svc c x) := by
  obtain ⟨i, hconn⟩ := connection?_read svc h b
  obtain ⟨j, hlive⟩ := connection?_handleEach svc h
    (Drained.ofBuffer svc.packetLimit (conn.unread ++ b)).packets
  rw [read_eq h] at he hconn
  rw [read_eq h, read_eq h, ← List.append_assoc]
  dsimp only at he hconn ⊢
  obtain ⟨he, hf⟩ := Reception.ended_closedBy.1 he
  rw [Drained.ofBuffer_append hf, handleEach_append h]
  set d := Drained.ofBuffer svc.packetLimit (conn.unread ++ b)
  set d' := Drained.ofBuffer svc.packetLimit (d.rest ++ x) with hd'
  rw [hf, Reception.closedBy_none] at hconn ⊢
  have hread : read svc c x ((handleEach svc c d.packets g).setUnread c d.rest).gateway =
      ((handleEach svc c d'.packets (handleEach svc c d.packets g).gateway).closedBy
        d'.failure).setUnread c d'.rest := by
    rw [read_eq hconn]
    dsimp only
    rw [← hd']
    show ((handleEach svc c d'.packets ((handleEach svc c d.packets g).gateway.setUnread c
      _)).closedBy _).setUnread c _ = _
    rw [handleEach_setUnread hlive]
    exact Reception.setUnread_setUnread (r := (handleEach svc c d'.packets _).closedBy _)
  have hr : ((handleEach svc c d.packets g).setUnread c d.rest).ended = none := he
  rw [Reception.andThen_of_open hr, Reception.andThen_of_open he, hread]
  rfl

/-- Where a read ends the connection, more octets make no difference. -/
theorem read_append_of_ended (h : g.connection? c = some conn)
    (he : (read svc c b g).ended.isSome) (x : Bytes) :
    (read svc c (b ++ x) g).Agrees c (read svc c b g) := by
  rw [read_eq h] at he ⊢
  rw [read_eq h, ← List.append_assoc]
  dsimp only at he ⊢
  set d := Drained.ofBuffer svc.packetLimit (conn.unread ++ b)
  set r := handleEach svc c d.packets g
  -- a packet ended the connection, or what is behind the packets did; either does so again
  have hagain : ∃ u,
      let d' := Drained.ofBuffer svc.packetLimit (conn.unread ++ b ++ x)
      ((handleEach svc c d'.packets g).closedBy d'.failure).setUnread c d'.rest =
        (r.closedBy d.failure).setUnread c u := by
    cases hf : d.failure with
    | some e =>
      rw [Drained.ofBuffer_append_of_failure hf]
      exact ⟨d.rest ++ x, by rw [← hf]⟩
    | none =>
      have hr : r.ended.isSome := by
        rw [hf, Reception.closedBy_none] at he
        exact he
      rw [Drained.ofBuffer_append hf]
      dsimp only
      rw [handleEach_append h, Reception.andThen_of_ended hr, Reception.closedBy_none,
        Reception.closedBy_of_ended hr]
      exact ⟨_, rfl⟩
  obtain ⟨u, hu⟩ := hagain
  have he : (r.closedBy d.failure).ended.isSome := he
  exact hu ▸ (Reception.Agrees.setUnread he).trans (Reception.Agrees.setUnread he).symm

/-- Reading takes one packet at a time off what is unread, and handles it before it looks at what is
behind it. -/
theorem read_agrees_readPacket (h : g.connection? c = some conn) (b : Bytes) :
    (read svc c b g).Agrees c (readPacket svc c conn b g) := by
  rw [read_eq h, readPacket]
  cases hd : Packet.decode svc.packetLimit (conn.unread ++ b) with
  | error e =>
    rw [Drained.ofBuffer_of_error hd]
    exact .setUnread rfl
  | ok first =>
    rcases first with _ | ⟨p, n⟩
    · rw [Drained.ofBuffer_of_none hd]
      exact .refl
    · rw [Drained.ofBuffer_of_packet hd]
      dsimp only
      set d := Drained.ofBuffer svc.packetLimit ((conn.unread ++ b).drop n) with hrest
      obtain ⟨i, hi⟩ := connection?_handle svc h p
      rw [handle_setUnread, handleEach_cons h]
      cases he : (g.handle svc c conn p).1 with
      | some e => exact (Reception.Agrees.setUnread rfl).trans (Reception.Agrees.setUnread rfl).symm
      | none =>
        have hread : read svc c [] ((g.handle svc c conn p).2.setUnread c ((conn.unread ++ b).drop n)) =
            ((handleEach svc c d.packets (g.handle svc c conn p).2).closedBy d.failure).setUnread c
              d.rest := by
          rw [read_eq (connection?_setUnread hi)]
          dsimp only
          rw [List.append_nil, ← hrest, handleEach_setUnread hi]
          exact Reception.setUnread_setUnread (r := (handleEach svc c d.packets _).closedBy _)
        rw [Reception.andThen_of_open rfl, Reception.andThen_of_open rfl, hread]
        exact .refl

/-! ### All reads -/

/-- How the octets are cut makes no difference. -/
theorem readAll_agrees (h : g.connection? c = some conn) (b : Bytes) (bs : List Bytes) :
    (readAll svc c (b :: bs) g).Agrees c (read svc c (b ++ bs.flatten) g) := by
  induction bs generalizing b g conn with
  | nil =>
    have : readAll svc c [b] g = read svc c b g := by
      rcases hr : read svc c b g with ⟨hs, _ | e, g'⟩ <;> simp [readAll, Reception.andThen, hr]
    rw [this, List.flatten_nil, List.append_nil]
    exact .refl
  | cons b' bs ih =>
    rw [readAll, List.flatten_cons]
    cases he : (read svc c b g).ended with
    | none =>
      obtain ⟨i, hi⟩ := connection?_read svc h b
      rw [read_append h he]
      exact .andThen fun _ => ih hi b'
    | some e =>
      rw [Reception.andThen_of_ended (he ▸ rfl)]
      exact (read_append_of_ended h (he ▸ rfl) _).symm

/-- However the octets from a device are cut into reads, the same packets are handled with the same
calls of hooks, the connection ends in the same way or stays open, and the gateway is the same but
for what is unread behind an end. While the connection is open that is the same too, and it is the
beginning of one packet at most. Behind an end no octet has an effect. And to read is to decode one
packet, to handle it, and to read on behind it unless it ended the connection. -/
theorem reads_agree (svc : Service ε) (h : g.connection? c = some conn) (b : Bytes) (bs : List Bytes) :
    let whole := read svc c (b :: bs).flatten g
    let cut := readAll svc c (b :: bs) g
    cut.handled = whole.handled ∧ cut.ended = whole.ended ∧
    cut.gateway.setUnread c [] = whole.gateway.setUnread c [] ∧
    (cut.ended = none → cut.gateway = whole.gateway ∧
      ∃ conn', cut.gateway.connection? c = some conn' ∧
        Packet.decode svc.packetLimit conn'.unread = .ok none ∧
        conn'.unread.length < 5 + svc.packetLimit) ∧
    (cut.ended.isSome → ∀ x, (read svc c ((b :: bs).flatten ++ x) g).Agrees c cut) ∧
    whole.Agrees c (readPacket svc c conn (b :: bs).flatten g) := by
  intro whole cut
  have hcut : cut.Agrees c whole := readAll_agrees h b bs
  refine ⟨hcut.handled, hcut.ended, hcut.elsewhere, fun he => ⟨hcut.whileOpen he, ?_⟩,
    fun he x => ?_, read_agrees_readPacket h _⟩
  · obtain ⟨i, hi⟩ := connection?_read svc h (b :: bs).flatten
    have hopen : whole.ended = none := hcut.ended.symm.trans he
    rw [show whole = _ from read_eq h _] at hopen
    have hrest := Drained.decode_rest (Reception.ended_closedBy.1 hopen).2
    exact ⟨_, hcut.whileOpen he ▸ hi, hrest, Packet.length_lt_of_decode_eq_none hrest⟩
  · exact (read_append_of_ended h (hcut.ended ▸ he) x).trans hcut.symm

/-- A PINGREQ in two pieces, with a DISCONNECT and a stray octet behind it. -/
theorem reads_agree_pingReq :
    let svc : Service Unit := { packetLimit := 16, idleTimeout := ⟨5⟩, handler := .silent () }
    let g := ((start .utf8 1).accept svc ⟨0⟩ ⟨.v4 127 0 0 1, 4000, 0⟩).2
    let cut := readAll svc ⟨1⟩ [[0xC0], [0x00, 0xE0], [0x00, 0xC0]] g
    (g.connection? ⟨1⟩).isSome ∧ cut.handled.map (·.packet) = [.pingReq, .disconnect] ∧
      cut.ended = some (.ok ()) ∧
      ∀ x, (read svc ⟨1⟩ ([0xC0, 0x00, 0xE0, 0x00, 0xC0] ++ x) g).ended = some (.ok ()) := by
  intro svc g cut
  have hping : Packet.decode 16 [0xC0, 0x00, 0xE0, 0x00, 0xC0] = .ok (some (.pingReq, 2)) := by rfl
  have hdisconnect : Packet.decode 16 [0xE0, 0x00, 0xC0] = .ok (some (.disconnect, 2)) := by rfl
  have hrest : Packet.decode 16 [0xC0] = .ok none := by rfl
  have hd : Drained.ofBuffer 16 [0xC0, 0x00, 0xE0, 0x00, 0xC0] =
      ⟨[.pingReq, .disconnect], [0xC0], none⟩ := by
    simp [Drained.ofBuffer_of_packet hping, Drained.ofBuffer_of_packet hdisconnect,
      Drained.ofBuffer_of_none hrest]
  have hwhole : read svc ⟨1⟩ [0xC0, 0x00, 0xE0, 0x00, 0xC0] g =
      (handleEach svc ⟨1⟩ [.pingReq, .disconnect] g).setUnread ⟨1⟩ [0xC0] := by
    have hconn : g.connection? ⟨1⟩ = some ⟨⟨.v4 127 0 0 1, 4000, 0⟩, 0, none, [], ⟨5⟩⟩ := rfl
    rw [read_eq hconn]
    show ((handleEach svc _ (Drained.ofBuffer 16 [0xC0, 0x00, 0xE0, 0x00, 0xC0]).packets g).closedBy
      (Drained.ofBuffer 16 [0xC0, 0x00, 0xE0, 0x00, 0xC0]).failure).setUnread _
      (Drained.ofBuffer 16 [0xC0, 0x00, 0xE0, 0x00, 0xC0]).rest = _
    rw [hd, Reception.closedBy_none]
  obtain ⟨hhandled, hended, -, -, hbehind, -⟩ :=
    reads_agree svc (c := ⟨1⟩) (g := g) rfl [0xC0] [[0x00, 0xE0], [0x00, 0xC0]]
  have hended : cut.ended = some (.ok ()) := hended.trans (congrArg Reception.ended hwhole)
  refine ⟨rfl, ?_, hended, fun x => ?_⟩
  · rw [hhandled]
    exact congrArg (fun r => r.handled.map (·.packet)) hwhole
  · exact (hbehind (hended ▸ rfl) x).ended.trans hended

end Gateway

end DeviceGateway
