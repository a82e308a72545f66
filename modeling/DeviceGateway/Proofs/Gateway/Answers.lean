import DeviceGateway.Proofs.Gateway.Reading
import DeviceGateway.Proofs.Packet.RoundTrip

/-!
# Answers

The octets that answer a packet (`Packet.answerOctets`, `Handled.answer`) do not depend on the queue
or on the sessions, only for a CONNECT on what the hooks say. They go to the writer of the connection
(`Gateway.ownBuffer_handle`), and nothing else does while the listeners publish nothing to the
connection (`Gateway.Silent`).
-/

namespace DeviceGateway

variable {ε : Type}

namespace Packet

variable {p a : Packet} {b : Bytes} {limit n : Nat}

/-! ### Answers as octets -/

theorem encode_of_octets (hb : p.body = [.octets b]) (hlen : p.remainingLength ≤ VarInt.max) :
    p.encode = .ok (p.firstOctet :: (VarInt.groups 4 p.remainingLength ++ b)) :=
  (encode_eq_ok hlen).2 ⟨b, by rw [hb]; simp [Piece.encodeAll_singleton, Piece.encode], rfl⟩

theorem length_le_foldr (subs : List Subscription) :
    subs.length ≤ subs.foldr (fun s n => textLength s.filter + 1 + n) 0 := by
  induction subs with
  | nil => exact Nat.le_refl 0
  | cons s subs ih =>
    rw [List.length_cons, List.foldr_cons]
    omega

/-- The octets that answer a packet other than CONNECT. -/
def answerOctets : Packet → Bytes
  | publish p =>
    match p.qos, p.packetId with
    | .atLeastOnce, some id => 0x40 :: 0x02 :: Field.encodeU16 id
    | .exactlyOnce, some id => 0x50 :: 0x02 :: Field.encodeU16 id
    | _, _ => []
  | pubRel id => 0x70 :: 0x02 :: Field.encodeU16 id
  | subscribe id subs =>
    0x90 :: (VarInt.groups 4 (2 + subs.length) ++ (Field.encodeU16 id ++ subs.map (·.qos.octet)))
  | unsubscribe id _ => 0xB0 :: 0x02 :: Field.encodeU16 id
  | pingReq => [0xD0, 0x00]
  | _ => []

/-- The answer to a packet that was read can be written, and these are its octets. -/
theorem encode_answer (hlen : p.remainingLength ≤ VarInt.max) (ha : Gateway.answer? p = some a) :
    a.encode = .ok p.answerOctets := by
  have htwo : 2 ≤ VarInt.max := by decide
  cases p with
  | publish q =>
    rcases q with ⟨dup, _ | _ | _, retain, topic, _ | id, payload⟩ <;> cases ha
    · exact encode_of_octets rfl htwo
    · exact encode_of_octets rfl htwo
  | subscribe id subs =>
    cases ha
    have hle : 2 + subs.length ≤ VarInt.max := by
      have := length_le_foldr subs
      rw [remainingLength] at hlen
      omega
    have hcodes : (subAck id (subs.map fun s => .granted s.qos)).remainingLength = 2 + subs.length := by
      rw [remainingLength, List.length_map]
    rw [encode_of_octets rfl (hcodes ▸ hle), hcodes, List.map_map]
    rfl
  | pubRel id | unsubscribe id _ =>
    cases ha
    exact encode_of_octets rfl htwo
  | pingReq =>
    cases ha
    rfl
  | _ => cases ha

theorem answerOctets_of_none (ha : Gateway.answer? p = none) : p.answerOctets = [] := by
  cases p with
  | publish q =>
    rcases q with ⟨dup, _ | _ | _, retain, topic, _ | id, payload⟩ <;> first | rfl | cases ha
  | connect _ | connAck _ _ | pubAck _ | pubRec _ | pubComp _ | subAck _ _ | unsubAck _ | pingResp
  | disconnect => rfl
  | _ => cases ha

end Packet

/-! ### What is answered -/

namespace Handled

variable (h : Handled ε)

/-- What the identity mapping said, if it was asked. -/
def identified? : Option (Except Panic String) :=
  h.calls.findSome? fun
    | .identify _ answer => some answer
    | _ => none

/-- The octets that go to the device. A CONNECT is answered once it has an identity. -/
def answer : Bytes :=
  match h.packet with
  | .connect _ =>
    match h.identified? with
    | some (.ok _) => [0x20, 0x02, 0x00, 0x00]
    | _ => []
  | p => p.answerOctets

end Handled

namespace Gateway

variable {svc : Service ε} {g : Gateway ε} {c : ConnectionId} {conn : Connection} {p : Packet}
  {ps : List Packet} {b : Bytes}

/-! ### What waits in the writer -/

theorem ownBuffer_reply {a : Packet} {e : Bytes} (hb : g.outbound.OwnBuffer c conn.writer b)
    (he : a.encode = .ok e) : (g.reply c conn a).outbound.OwnBuffer c conn.writer (b ++ e) := by
  obtain ⟨o, hs, ho⟩ := hb.send he
  rw [reply, hs]
  exact ho

theorem ownBuffer_establish {q : Connect} {i : String} (hb : g.outbound.OwnBuffer c conn.writer b)
    (hsilent : ∀ call ∈ Presence.listeners svc.handler .table (arrivalOf c conn q i) g.toPresence,
      ∀ m ∈ call.messages, m.connection ≠ c) :
    (g.establish svc c conn q i).outbound.OwnBuffer c conn.writer (b ++ [0x20, 0x02, 0x00, 0x00]) := by
  have hp : (g.toPresence.online svc.handler .table (arrivalOf c conn q i)).2.outbound.OwnBuffer c
      conn.writer b :=
    Presence.online_keeps (J := fun o => o.OwnBuffer c conn.writer b) (P := fun m => m.connection ≠ c)
      (fun via m w hm hw => w.ownBuffer_publish hm hw) hsilent hb
  exact ownBuffer_reply (a := .connAck false .accepted) hp rfl

theorem identified?_connect (q : Connect) :
    (⟨.connect q, calls svc c conn g (.connect q)⟩ : Handled ε).identified? =
      match admission svc g.journal.entries q with
      | .rejected => none
      | .unidentified panic => some (.error panic)
      | .established i => some (.ok i) := by
  unfold Handled.identified? calls
  dsimp only
  rw [List.findSome?_append]
  cases svc.verifier <;> cases admission svc g.journal.entries q <;> rfl

theorem ownBuffer_handle (hlen : p.remainingLength ≤ VarInt.max)
    (hb : g.outbound.OwnBuffer c conn.writer b)
    (hsilent : ∀ call ∈ calls svc c conn g p, ∀ m ∈ call.messages, m.connection ≠ c) :
    (g.handle svc c conn p).2.outbound.OwnBuffer c conn.writer
      (b ++ (⟨p, calls svc c conn g p⟩ : Handled ε).answer) := by
  cases p using connectCases with
  | connect q =>
    show (g.connect svc c conn q).2.outbound.OwnBuffer c conn.writer (b ++ match Handled.identified? _ with
      | some (.ok _) => _ | _ => [])
    rw [identified?_connect, connect_eq]
    simp only [calls] at hsilent
    cases ha : admission svc g.journal.entries q with
    | rejected => exact (List.append_nil b).symm ▸ hb
    | unidentified panic => exact (List.append_nil b).symm ▸ hb
    | established i =>
      -- the listeners come before the answer, and leave the writer alone
      rw [ha] at hsilent
      refine ownBuffer_establish (g := g.inquired svc c conn q) hb fun call hcall => ?_
      exact hsilent call (List.mem_append_right _ (List.mem_cons_of_mem _ hcall))
  | other p hp =>
    have hanswer : (⟨p, calls svc c conn g p⟩ : Handled ε).answer = p.answerOctets := by
      cases p with
      | connect q => exact absurd rfl (hp q)
      | _ => rfl
    rw [handle_eq hp, outbound_deliver, hanswer, answer]
    cases ha : answer? p with
    | none =>
      rw [Packet.answerOctets_of_none ha, List.append_nil]
      exact hb
    | some a => exact ownBuffer_reply hb (Packet.encode_answer hlen ha)

/-- The listeners that were called publish nothing to the connection. -/
def Silent (c : ConnectionId) (hs : List (Handled ε)) : Prop :=
  ∀ h ∈ hs, ∀ call ∈ h.calls, ∀ m ∈ call.messages, m.connection ≠ c

theorem ownBuffer_handleEach (h : g.connection? c = some conn)
    (hps : ∀ p ∈ ps, p.remainingLength ≤ VarInt.max) (hb : g.outbound.OwnBuffer c conn.writer b)
    (hsilent : Silent c (handleEach svc c ps g).handled) :
    (handleEach svc c ps g).gateway.outbound.OwnBuffer c conn.writer
      (b ++ (handleEach svc c ps g).handled.flatMap Handled.answer) := by
  induction ps generalizing g conn b with
  | nil => exact (List.append_nil b).symm ▸ hb
  | cons p ps ih =>
    obtain ⟨i, hi⟩ := connection?_handle svc h p
    obtain ⟨hp, hps⟩ := List.forall_mem_cons.1 hps
    rw [handleEach_cons h] at hsilent ⊢
    cases he : (g.handle svc c conn p).1 with
    | some e =>
      rw [he, Reception.andThen_of_ended rfl] at hsilent
      rw [Reception.andThen_of_ended rfl, List.flatMap_singleton]
      exact ownBuffer_handle hp hb (hsilent _ (List.mem_singleton_self _))
    | none =>
      rw [he, Reception.andThen_of_open rfl] at hsilent
      rw [Reception.andThen_of_open rfl, List.flatMap_append, List.flatMap_singleton,
        ← List.append_assoc]
      obtain ⟨hfirst, hrest⟩ := List.forall_mem_cons.1 hsilent
      have hbehind := ih hi hps (ownBuffer_handle hp hb hfirst) hrest
      exact hbehind

theorem ownBuffer_read (h : g.connection? c = some conn) (hb : g.outbound.OwnBuffer c conn.writer b)
    (x : Bytes) (hsilent : Silent c (read svc c x g).handled) :
    (read svc c x g).gateway.outbound.OwnBuffer c conn.writer
      (b ++ (read svc c x g).handled.flatMap Handled.answer) := by
  rw [read_eq h] at hsilent ⊢
  have hlen : ∀ p ∈ (Drained.ofBuffer svc.packetLimit (conn.unread ++ x)).packets,
      p.remainingLength ≤ VarInt.max := fun p hp => by
    obtain ⟨_, _, hd⟩ := Drained.exists_decode_of_mem hp
    exact Packet.remainingLength_le_of_decode hd
  exact ownBuffer_handleEach h hlen hb hsilent

end Gateway

end DeviceGateway
