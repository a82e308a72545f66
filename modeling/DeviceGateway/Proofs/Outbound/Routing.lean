import DeviceGateway.Proofs.Outbound.Frames
import DeviceGateway.Proofs.Outbound.Table
import DeviceGateway.Proofs.Packet.Sizes

/-!
# Point to point

`Outbound.Published` says what a message comes to: the first condition that fails decides why it is
turned away, and one that is turned away changes nothing. This is the answer of every table that can
be built (`Outbound.publish_point_to_point`), whichever publisher the message goes through, and also
the answer of a table that has its packets written in place (`Spools.publish_spools`).
-/

namespace DeviceGateway

namespace Outbound

/-! ### The tables that there are -/

/-- What a table and its writers are asked for. -/
inductive Call
  | addWriter
  | insert (c : ConnectionId) (writer : Nat)
  | remove (c : ConnectionId)
  | close (writer : Nat)
  | closeAll
  | send (writer : Nat) (p : Packet)
  | take (writer : Nat)
  | publish (m : OutboundMessage)

/-- A connection gets a writer that is there. -/
def call (o : Outbound) : Call → Outbound
  | .addWriter => o.addWriter.2
  | .insert c n => if n < o.writers.length then o.insert c n else o
  | .remove c => o.remove c
  | .close n => o.close n
  | .closeAll => o.closeAll
  | .send n p =>
    match o.send n p with
    | .ok o' => o'
    | .error _ => o
  | .take n => (o.take n).2
  | .publish m =>
    match o.publish m with
    | .ok o' => o'
    | .error _ => o

def calls (cs : List Call) (o : Outbound) : Outbound := cs.foldl call o

/-- Every connection in the table has a writer. -/
def Sound (o : Outbound) : Prop := ∀ c n, o.route? c = some n → n < o.writers.length

namespace Sound

variable {o o' : Outbound} {n : Nat} {c : ConnectionId}

theorem empty (charset : Charset) : Sound { charset } := nofun

theorem sameTable (h : o.Sound) (hs : o.SameTable o') : o'.Sound := by
  intro c n hn
  rw [route?, hs.routes] at hn
  rw [hs.length]
  exact h c n hn

theorem addWriter (h : o.Sound) : o.addWriter.2.Sound := by
  intro c n hn
  simp only [Outbound.addWriter, List.length_append]
  exact Nat.lt_add_right 1 (h c n hn)

theorem insert (h : o.Sound) (hn : n < o.writers.length) : (o.insert c n).Sound := by
  intro d k hk
  simp only [route?, Outbound.insert, Index.get?_insert] at hk
  split at hk
  · cases hk
    exact hn
  · exact h d k hk

theorem remove (h : o.Sound) : (o.remove c).Sound := by
  intro d k hk
  simp only [route?, Outbound.remove, Index.get?_erase] at hk
  split at hk
  · cases hk
  · exact h d k hk

theorem call (h : o.Sound) (a : Call) : (o.call a).Sound := by
  cases a with
  | addWriter => exact h.addWriter
  | insert c n =>
    simp only [Outbound.call]
    split
    · exact h.insert ‹_›
    · exact h
  | remove c => exact h.remove
  | close n => exact h.sameTable (.modify _)
  | closeAll => exact h.sameTable .closeAll
  | send n p =>
    simp only [Outbound.call]
    split
    · exact h.sameTable (.send ‹_›)
    · exact h
  | take n => exact h.sameTable .take
  | publish m =>
    simp only [Outbound.call]
    split
    · exact h.sameTable (.publish ‹_›)
    · exact h

theorem calls (h : o.Sound) (cs : List Call) : (o.calls cs).Sound := by
  induction cs generalizing o with
  | nil => exact h
  | cons a cs ih => exact ih (h.call a)

end Sound

/-! ### What a message comes to -/

/-- What a message comes to, and the table behind it. -/
inductive Published (o : Outbound) (m : OutboundMessage) : Sent → Outbound → Prop
  | emptyTopic (ht : m.topic = "") : Published o m (.error .emptyTopic) o
  | emptyContent (ht : m.topic ≠ "") (hc : m.content = "") : Published o m (.error .emptyContent) o
  | notConnected (ht : m.topic ≠ "") (hc : m.content ≠ "") (hn : o.route? m.connection = none) :
      Published o m (.error (.notConnected m.connection)) o
  | closed {n v} (ht : m.topic ≠ "") (hc : m.content ≠ "") (hn : o.route? m.connection = some n)
      (hv : o.writer? n = some v) (hopen : v.isOpen = false) :
      Published o m (.error (.closed m.connection)) o
  | encode {n v e} (ht : m.topic ≠ "") (hc : m.content ≠ "") (hn : o.route? m.connection = some n)
      (hv : o.writer? n = some v) (hopen : v.isOpen = true)
      (he : (o.packetOf m).encode = .error e) : Published o m (.error (.encode e)) o
  | sent {n v frame} (ht : m.topic ≠ "") (hc : m.content ≠ "") (hn : o.route? m.connection = some n)
      (hv : o.writer? n = some v) (hopen : v.isOpen = true)
      (hframe : (o.packetOf m).encode = .ok frame) : Published o m (.ok ())
      { o with writers := o.writers.set n { v with packets := frame :: v.packets } }

variable {o : Outbound} {m : OutboundMessage}

theorem Sound.published (h : o.Sound) (m : OutboundMessage) (journal : Journal) :
    let answer := Surroundings.publish ⟨o, journal⟩ m
    Published o m answer.1 answer.2.outbound := by
  intro answer
  have hfailed : ∀ e, o.publish m = .error e → Published o m (.error e) o →
      Published o m answer.1 answer.2.outbound := by
    intro e he hp
    obtain ⟨hsent, hout⟩ := Surroundings.publish_of_error (w := ⟨o, journal⟩) he
    rw [hsent, hout]
    exact hp
  by_cases ht : m.topic = ""
  · exact hfailed _ (if_pos ht) (.emptyTopic ht)
  by_cases hc : m.content = ""
  · exact hfailed _ (by rw [publish, if_neg ht, if_pos hc]) (.emptyContent ht hc)
  cases hn : o.route? m.connection with
  | none => exact hfailed _ (by rw [publish, if_neg ht, if_neg hc, hn]) (.notConnected ht hc hn)
  | some n =>
    obtain ⟨v, hv⟩ : ∃ v, o.writer? n = some v := ⟨_, List.getElem?_eq_getElem (h _ n hn)⟩
    obtain ⟨hclosed, herror, hok⟩ := publish_of_route ht hc hn hv
    cases hopen : v.isOpen with
    | false => exact hfailed _ (hclosed hopen) (.closed ht hc hn hv hopen)
    | true =>
      cases he : (o.packetOf m).encode with
      | error e => exact hfailed _ (herror hopen e he) (.encode ht hc hn hv hopen he)
      | ok frame =>
        obtain ⟨hsent, hout⟩ := Surroundings.publish_of_ok (w := ⟨o, journal⟩) (hok hopen frame he)
        rw [hsent, hout]
        exact .sent ht hc hn hv hopen he

/-- The conditions are told apart by the first that fails. -/
theorem Published.unique {s t : Sent} {o₁ o₂ : Outbound} (h₁ : Published o m s o₁)
    (h₂ : Published o m t o₂) : s = t ∧ o₁ = o₂ := by
  cases h₁ <;> cases h₂ <;> simp_all

theorem Published.of_error {e : PublishError} {o' : Outbound} (h : Published o m (.error e) o') :
    o' = o := by
  cases h <;> rfl

/-- A message that is sent goes to the end of one writer. -/
theorem Published.extends {o' : Outbound} (h : Published o m (.ok ()) o') : ∃ n v v' frame,
    o.route? m.connection = some n ∧ o.writer? n = some v ∧ (o.packetOf m).encode = .ok frame ∧
      o'.writer? n = some v' ∧ v'.buffer = v.buffer ++ frame ∧ v'.isOpen = v.isOpen ∧
      (∀ k, k ≠ n → o'.writer? k = o.writer? k) ∧ o'.routes = o.routes ∧ o'.charset = o.charset := by
  cases h with
  | @sent n v frame ht hc hn hv hopen hframe =>
    refine ⟨n, v, { v with packets := frame :: v.packets }, frame, hn, hv, hframe, ?_, ?_, rfl,
      fun k hk => List.getElem?_set_ne (Ne.symm hk), rfl, rfl⟩
    · exact List.getElem?_set_self (List.getElem?_eq_some_iff.1 hv).1
    · simp [Writer.buffer]

/-! ### The packet of a message -/

theorem layout_packetOf : (o.packetOf m).layout = [.octets [0x30],
    .length (.ofNat (o.packetOf m).remainingLength), .text m.topic,
    .octets (o.charset.encode m.content)] := rfl

theorem exists_written_packetOf (o : Outbound) (m : OutboundMessage) :
    ∃ b, (o.packetOf m).written = 0x30 :: b := by
  rw [Packet.written, layout_packetOf]
  exact ⟨_, rfl⟩

/-- The topic comes behind the length header, so the header is there when it fails. -/
theorem encode_packetOf_of_long {header : Bytes} (ht : 65535 < (Utf8.encode m.topic).length)
    (hheader : VarInt.write (.ofNat (o.packetOf m).remainingLength) = .ok header) :
    (o.packetOf m).encode = .error .stringTooLong ∧ (o.packetOf m).written = 0x30 :: header := by
  have hlength : (Piece.length (.ofNat (o.packetOf m).remainingLength)).encode = .ok header := hheader
  have htopic : (Piece.text m.topic).encode = .error .stringTooLong := if_pos ht
  rw [Packet.encode, Packet.written, layout_packetOf]
  simp only [Piece.encodeAll, Piece.written, hlength, htopic, List.append_nil]
  exact ⟨rfl, rfl⟩

theorem exists_encode_packetOf : (∃ b, (o.packetOf m).encode = .ok b) ↔
    (UInt32.ofNat (o.packetOf m).remainingLength).toNat ≤ VarInt.max ∧
      (Utf8.encode m.topic).length ≤ 65535 := by
  rw [Packet.encode, Piece.exists_encodeAll_iff, layout_packetOf]
  simp [Piece.Writable]

end Outbound

/-! ### Writing in place -/

/-- A table whose writers keep their octets in one buffer each. -/
structure Spools where
  charset : Charset
  writers : List Spool := []
  routes : Index ConnectionId Nat := ∅

def Outbound.spools (o : Outbound) : Spools := ⟨o.charset, o.writers.map Writer.spool, o.routes⟩

namespace Spools

/-- The packet that carries a message. -/
def packetOf (t : Spools) (m : OutboundMessage) : Packet :=
  .publish { topic := m.topic, payload := t.charset.encode m.content }

def failure (c : ConnectionId) : SendError → PublishError
  | .closed => .closed c
  | .encode e => .encode e

/-- The packet is written to the end of the buffer, and cut off again if it cannot be written. -/
def publish (t : Spools) (m : OutboundMessage) : Sent × Spools :=
  if m.topic = "" then (.error .emptyTopic, t)
  else if m.content = "" then (.error .emptyContent, t)
  else
    match t.routes.get? m.connection with
    | none => (.error (.notConnected m.connection), t)
    | some n =>
      match t.writers[n]? with
      | none => (.error (.closed m.connection), t)
      | some s =>
        let (result, s) := s.send (t.packetOf m)
        (result.mapError (failure m.connection), { t with writers := t.writers.set n s })

variable {o o' : Outbound} {m : OutboundMessage} {sent : Sent} {n : Nat} {v : Writer}

theorem getElem?_spools (hv : o.writer? n = some v) : o.spools.writers[n]? = some v.spool := by
  rw [Outbound.spools, List.getElem?_map, ← Outbound.writer?, hv, Option.map_some]

theorem set_spools (hv : o.writer? n = some v) :
    { o.spools with writers := o.spools.writers.set n v.spool } = o.spools := by
  obtain ⟨hlt, hs⟩ := List.getElem?_eq_some_iff.1 (getElem?_spools hv)
  rw [← hs, List.set_getElem_self]

theorem publish_of_route {result : Except SendError Unit} {s : Spool} (ht : m.topic ≠ "")
    (hc : m.content ≠ "") (hn : o.route? m.connection = some n) (hv : o.writer? n = some v)
    (hs : v.spool.send (o.packetOf m) = (result, s)) : o.spools.publish m =
      (result.mapError (failure m.connection),
        { o.spools with writers := o.spools.writers.set n s }) := by
  rw [publish, if_neg ht, if_neg hc, show o.spools.routes.get? _ = _ from hn]
  dsimp only
  rw [getElem?_spools hv]
  dsimp only
  rw [show v.spool.send (o.spools.packetOf m) = _ from hs]

/-- To write in place gives the same answers and leaves the same octets. -/
theorem publish_spools (h : o.Published m sent o') : o.spools.publish m = (sent, o'.spools) := by
  cases h with
  | emptyTopic ht => exact if_pos ht
  | emptyContent ht hc => rw [publish, if_neg ht, if_pos hc]
  | notConnected ht hc hn => rw [publish, if_neg ht, if_neg hc, show o.spools.routes.get? _ = _ from hn]
  | @closed n v ht hc hn hv hopen =>
    have hsend : v.spool.send (o.packetOf m) = (.error .closed, v.spool) := by
      rw [Spool.send_eq, show v.spool.isOpen = false from hopen]
      rfl
    rw [publish_of_route ht hc hn hv hsend, set_spools hv]
    rfl
  | @encode n v e ht hc hn hv hopen he =>
    have hsend : v.spool.send (o.packetOf m) = (.error (.encode e), v.spool) := by
      rw [Spool.send_eq, show v.spool.isOpen = true from hopen, he]
      rfl
    rw [publish_of_route ht hc hn hv hsend, set_spools hv]
    rfl
  | @sent n v frame ht hc hn hv hopen hframe =>
    have hsend : v.spool.send (o.packetOf m) =
        (.ok (), Writer.spool { v with packets := frame :: v.packets }) := by
      rw [Spool.send_eq, show v.spool.isOpen = true from hopen, hframe]
      simp [Writer.spool, Writer.buffer, hopen]
    rw [publish_of_route ht hc hn hv hsend]
    simp only [Outbound.spools, List.map_set]
    rfl

end Spools

namespace Outbound

/-- In every table that can be built, a message is answered by the first condition that fails, and by
`ok` if none does. One that is turned away changes nothing. Of one that is sent the whole frame goes
behind what waits in the writer of the connection that the message names, and no other writer and no
entry of the table changes. This is so if the packet is written in place, too: of one that cannot be
written the first octet at least was in the buffer, and if the topic is too long the length header as
well. Which publisher a message goes through makes no difference, and the connection of a publisher
is where its own replies go. -/
theorem publish_point_to_point (charset : Charset) (cs : List Call) (journal : Journal)
    (via : ConnectionId) (m : OutboundMessage) :
    let o := calls cs { charset }
    let p := o.packetOf m
    let answer := Transport.table via m ⟨o, journal⟩
    let o' := answer.2.outbound
    (∀ sent u, Published o m sent u ↔ answer.1 = sent ∧ o' = u) ∧
    (∀ e, answer.1 = .error e → o' = o) ∧
    (answer.1 = .ok () → ∃ n v v' frame, o.route? m.connection = some n ∧ o.writer? n = some v ∧
      p.encode = .ok frame ∧ o'.writer? n = some v' ∧ v'.buffer = v.buffer ++ frame ∧
      v'.isOpen = v.isOpen ∧ (∀ k, k ≠ n → o'.writer? k = o.writer? k) ∧ o'.routes = o.routes ∧
      o'.charset = o.charset) ∧
    o.spools.publish m = (answer.1, o'.spools) ∧
    (∀ e, p.encode = .error e → ∀ buffer,
      Piece.emit p.layout buffer = (.error e, buffer ++ p.written) ∧ p.written ≠ []) ∧
    (65535 < (Utf8.encode m.topic).length → answer.1 ≠ .ok () ∧
      ∀ header, VarInt.write (.ofNat p.remainingLength) = .ok header →
        p.encode = .error .stringTooLong ∧ p.written = 0x30 :: header) ∧
    (∀ via', Transport.table via' m ⟨o, journal⟩ = answer) ∧
    ∀ topic content, Transport.reply Transport.table via topic content ⟨o, journal⟩ =
      Surroundings.publish ⟨o, journal⟩ ⟨via, topic, content⟩ := by
  intro o p answer o'
  have hsound : o.Sound := (Sound.empty charset).calls cs
  have hp : Published o m answer.1 o' := hsound.published m journal
  refine ⟨fun sent u => ⟨fun h => hp.unique h, ?_⟩, fun e he => ?_, fun hone => ?_,
    Spools.publish_spools hp, fun e he buffer => ⟨?_, ?_⟩, fun ht => ⟨fun hone => ?_, fun header =>
    encode_packetOf_of_long ht⟩, fun _ => rfl, fun _ _ => rfl⟩
  · rintro ⟨rfl, rfl⟩
    exact hp
  · rw [he] at hp
    exact hp.of_error
  · rw [hone] at hp
    exact hp.extends
  · rw [Piece.emit_eq, show Piece.encodeAll p.layout = _ from he]
    rfl
  · obtain ⟨b, hb⟩ := exists_written_packetOf o m
    rw [hb]
    exact List.cons_ne_nil _ _
  · rw [hone] at hp
    obtain ⟨-, -, -, frame, -, -, hframe, -⟩ := hp.extends
    exact absurd (exists_encode_packetOf.1 ⟨frame, hframe⟩).2 (Nat.not_le.2 ht)

end Outbound

end DeviceGateway
