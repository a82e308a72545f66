import DeviceGateway.Cli.Serving
import DeviceGateway.Proofs.Gateway.Delivery
import DeviceGateway.Proofs.Outbound.Reception
import DeviceGateway.Proofs.Outbound.Routing

/-!
# The echo from end to end

The application `Handler.echo` sends back the content of each message. A PUBLISH whose message the
queue took in is answered when the worker comes to it, if its connection can still be written to and
the answer can be written (`Gateway.Echoes`, `Gateway.echo_work`). The `k`-th message that the worker
handles is that of the `k`-th such PUBLISH (`Course.said_handled`), so the answers of one connection
come in the order of what they answer. `Course.echoes_in_order` is all of it.
-/

namespace DeviceGateway

variable {ε : Type}

/-! ### What the worker comes to -/

/-- What a message says, and to whom. -/
def Inbound.said {π : Type} (m : Inbound π) : ConnectionId × String × String :=
  (m.connection, m.topic, m.content)

/-- The PUBLISH whose message the queue takes in, with its connection. -/
def Occasion.accepted? (o : Occasion ε) : Option (ConnectionId × Publish) :=
  match o.packet with
  | .publish p => if o.hasRoom then some (o.id, p) else none
  | _ => none

theorem Occasion.said_taken? (svc : Service ε) (o : Occasion ε) : (o.taken? svc).map Inbound.said =
    o.accepted?.map fun r => (r.1, r.2.topic, svc.charset.decode r.2.payload) := by
  unfold taken? message? accepted?
  cases o.hasRoom <;> cases o.packet <;> rfl

namespace Course

variable {svc : Service ε} {s : Course ε}

/-- In the order in which they are handled, the messages are those of the first PUBLISHes that were
accepted. -/
theorem said_handled (svc : Service ε) (charset : Charset) (capacity : Nat) (as : List Action) :
    (handled svc as (start charset capacity)).map (fun r => r.2.said) <+:
      ((occasions svc as (start charset capacity)).filterMap Occasion.accepted?).map
        fun r => (r.1, r.2.topic, svc.charset.decode r.2.payload) := by
  have hgiven : given svc as (start charset capacity) ++ _ = _ :=
    given_run (.start charset capacity) as
  have hsaid := congrArg (List.map Inbound.said) hgiven
  refine ⟨(run svc as (start charset capacity)).gateway.queue.waiting.map Inbound.said, ?_⟩
  rw [List.map_append, ← map_snd_handled, List.map_map] at hsaid
  refine hsaid.trans ?_
  show List.map _ ([] ++ _) = _
  rw [List.nil_append, List.map_filterMap, List.map_filterMap]
  exact List.filterMap_congr fun o _ => o.said_taken? svc

end Course

/-! ### What was accepted -/

theorem Gateway.packet_mem_of_mem_occasions {svc : Service ε} {c : ConnectionId} {ps : List Packet}
    {g : Gateway ε} : ∀ o ∈ occasions svc c ps g, o.packet ∈ ps := by
  induction ps generalizing g with
  | nil => exact fun _ ho => absurd ho List.not_mem_nil
  | cons p ps ih =>
    rw [occasions]
    cases g.connection? c with
    | none => exact fun _ ho => absurd ho List.not_mem_nil
    | some conn =>
      refine List.forall_mem_cons.2 ⟨List.mem_cons_self, fun o ho => ?_⟩
      split at ho
      · exact List.mem_cons_of_mem p (ih o ho)
      · exact absurd ho List.not_mem_nil

namespace Course

variable {svc : Service ε} {s : Course ε}

/-- The packets of a course were decoded. -/
theorem exists_decode_of_mem_occasions (as : List Action) : ∀ o ∈ occasions svc as s,
    ∃ b n, Packet.decode svc.packetLimit b = .ok (some (o.packet, n)) := by
  induction as generalizing s with
  | nil => exact fun _ ho => absurd ho List.not_mem_nil
  | cons a as ih =>
    refine List.forall_mem_append.2 ⟨fun o ho => ?_, ih⟩
    cases a with
    | turn c signal now failure =>
      cases signal with
      | bytes b =>
        simp only [occasionsOfStep, Gateway.occasionsOfTurn] at ho
        split at ho
        · exact Drained.exists_decode_of_mem (Gateway.packet_mem_of_mem_occasions o ho)
        · exact absurd ho List.not_mem_nil
      | _ => exact absurd ho List.not_mem_nil
    | _ => exact absurd ho List.not_mem_nil

theorem valid_of_mem_accepted {as : List Action} {c : ConnectionId} {p : Publish}
    (hp : (c, p) ∈ (occasions svc as s).filterMap Occasion.accepted?) :
    (Packet.publish p).WireValid ∧ (Packet.publish p).remainingLength ≤ VarInt.max := by
  obtain ⟨o, ho, hop⟩ := List.mem_filterMap.1 hp
  obtain ⟨b, n, hd⟩ := exists_decode_of_mem_occasions as o ho
  have hpacket : o.packet = .publish p := by
    unfold Occasion.accepted? at hop
    split at hop
    · split at hop
      · obtain ⟨-, rfl⟩ := Prod.mk.inj (Option.some.inj hop)
        assumption
      · cases hop
    · cases hop
  rw [hpacket] at hd
  exact ⟨(Packet.encode_of_decode hd).1, Packet.remainingLength_le_of_decode hd⟩

end Course

/-! ### One answer -/

/-- The PUBLISH that another is answered with. It has no flags and no packet identifier. -/
def Publish.echo (charset : Charset) (p : Publish) : Publish :=
  { topic := p.topic ++ "_reply", payload := charset.encode (charset.decode p.payload) }

/-- The message that answers a PUBLISH on connection `c`. -/
def Publish.answer (charset : Charset) (c : ConnectionId) (p : Publish) : OutboundMessage :=
  ⟨c, p.topic ++ "_reply", charset.decode p.payload⟩

theorem Publish.length_topic_echo (charset : Charset) (p : Publish) :
    (Utf8.encode (p.echo charset).topic).length = (Utf8.encode p.topic).length + 6 := by
  rw [echo, Utf8.encode_append, List.length_append]
  rfl

/-- The answer is short enough for its length to be counted in 32 bits. -/
theorem Publish.remainingLength_echo_lt (charset : Charset) {p : Publish}
    (hv : (Packet.publish p).WireValid) (hp : (Packet.publish p).remainingLength ≤ VarInt.max) :
    (Packet.publish (p.echo charset)).remainingLength < UInt32.size := by
  have htopic := hv.topic.length_le
  have hpayload : p.payload.length ≤ VarInt.max := by
    simp only [Packet.remainingLength] at hp
    omega
  have hreply := Charset.length_encode_decode_le charset p.payload
  simp only [Packet.remainingLength, Packet.textLength_eq, Packet.fieldLength, length_topic_echo, UInt32.size]
  simp only [VarInt.max] at hpayload
  simp only [echo, if_true]
  omega

theorem Publish.topicFault?_echo (charset : Charset) {p : Publish}
    (hv : (Packet.publish p).WireValid) : topicFault? (p.echo charset).topic = none := by
  have hsuffix : ∀ a ∈ ['\x00', '+', '#'], a ∉ "_reply".toList := by simp
  refine topicFault?_eq_none.2 ⟨fun h => ?_, fun h => ?_, fun h => ?_⟩ <;>
    rw [echo, String.toList_append, List.mem_append] at h
  · exact h.elim hv.topic.null_free (hsuffix _ (by simp))
  · exact h.elim hv.no_plus (hsuffix _ (by simp))
  · exact h.elim hv.no_hash (hsuffix _ (by simp))

namespace Gateway

variable {g : Gateway ε} {svc : Service Unit} {c : ConnectionId} {p : Publish}

/-- What waits for a connection. -/
def bufferOf (g : Gateway ε) (c : ConnectionId) : Bytes :=
  (((g.writerOf? c).bind g.outbound.writer?).map Writer.buffer).getD []

/-- The connection can still be written to, and the answer to `p` can be written. -/
structure Echoes (g : Gateway ε) (charset : Charset) (c : ConnectionId) (p : Publish) : Prop where
  isOpen : (g.writerOf? c).bind g.outbound.isOpen? = some true
  payload : p.payload ≠ []
  topic : (Utf8.encode p.topic).length ≤ 65529
  size : (Packet.publish (p.echo charset)).remainingLength ≤ VarInt.max

/-- The application answers a message on the connection that it came on. -/
theorem outbound_work_echo (hh : svc.handler = .echo) {g : Gateway Unit} {m : Inbound ConnectionId}
    (hm : g.given? svc = some m) : (g.work svc).outbound =
      (g.toSurroundings.publish (m.replyOf (m.topic ++ "_reply") m.content)).2.outbound := by
  rw [given?_eq] at hm
  obtain ⟨⟨m', q⟩, hq, rfl⟩ := Option.map_eq_some_iff.1 hm
  simp only [work, Inbox.work, hq, Inbox.handle, hh, Handler.echo, Option.map_some]
  rfl

theorem writerOf?_work (svc : Service Unit) (g : Gateway Unit) (c : ConnectionId) :
    (g.work svc).writerOf? c = g.writerOf? c :=
  congrArg (fun i => (i.get? c).map (·.writer)) (Keeps.work svc).connections

theorem Wired.sound {g : Gateway Unit} (hg : g.Wired) : g.outbound.Sound := by
  intro c n hn
  rw [hg.route] at hn
  exact hg.writer_lt c n hn

section Answer

variable {g : Gateway Unit} {charset : Charset} {sent : Sent} {o : Outbound}

theorem packetOf_answer (hcharset : g.outbound.charset = charset) :
    g.outbound.packetOf (p.answer charset c) = .publish (p.echo charset) := by
  rw [Outbound.packetOf, hcharset]
  rfl

/-- The answer is sent exactly if nothing stands in the way. -/
theorem echoes_iff (hg : g.Wired) (hcharset : g.outbound.charset = charset)
    (hv : (Packet.publish p).WireValid) (hp : (Packet.publish p).remainingLength ≤ VarInt.max)
    (hpub : g.outbound.Published (p.answer charset c) sent o) :
    g.Echoes charset c p ↔ sent = .ok () := by
  have hencode : (∃ b, (g.outbound.packetOf (p.answer charset c)).encode = .ok b) ↔
      (Packet.publish (p.echo charset)).remainingLength ≤ VarInt.max ∧
        (Utf8.encode p.topic).length ≤ 65529 := by
    have hlt := Publish.remainingLength_echo_lt charset hv hp
    have htopic := Publish.length_topic_echo charset p
    rw [Outbound.exists_encode_packetOf, packetOf_answer hcharset, UInt32.toNat_ofNat_of_lt' hlt]
    refine and_congr_right fun _ => ?_
    show (Utf8.encode (p.echo charset).topic).length ≤ 65535 ↔ _
    omega
  have hopen : ∀ {n v}, g.outbound.route? c = some n → g.outbound.writer? n = some v →
      (g.writerOf? c).bind g.outbound.isOpen? = some v.isOpen := by
    intro n v hn hv
    rw [← hg.route, hn, Option.bind_some, Outbound.isOpen?, hv, Option.map_some]
  have herror : ∀ {e : PublishError}, (.error e : Sent) ≠ .ok () := fun h => by cases h
  cases hpub with
  | emptyTopic ht =>
    have hlist := congrArg String.toList (show p.topic ++ "_reply" = "" from ht)
    rw [String.toList_append] at hlist
    exact absurd (List.append_eq_nil_iff.1 hlist).2 (by decide)
  | emptyContent ht hc =>
    refine iff_of_false (fun h => ?_) herror
    exact Charset.decode_ne_empty h.payload hc
  | notConnected ht hc hn =>
    refine iff_of_false (fun h => ?_) herror
    have hisOpen := h.isOpen
    rw [← hg.route, show g.outbound.route? c = none from hn] at hisOpen
    cases hisOpen
  | closed ht hc hn hv hclosed =>
    refine iff_of_false (fun h => ?_) herror
    have hisOpen := h.isOpen
    rw [hopen hn hv, hclosed] at hisOpen
    cases hisOpen
  | encode ht hc hn hv hopen he =>
    refine iff_of_false (fun h => ?_) herror
    obtain ⟨b, hb⟩ := hencode.2 ⟨h.size, h.topic⟩
    rw [he] at hb
    cases hb
  | sent ht hc hn hv hisOpen hframe =>
    refine iff_of_true ?_ rfl
    obtain ⟨hsize, htopic⟩ := hencode.1 ⟨_, hframe⟩
    refine ⟨(hopen hn hv).trans (congrArg some hisOpen), fun hnil => ?_, htopic, hsize⟩
    refine hc ?_
    show charset.decode p.payload = ""
    rw [hnil, Charset.decode_nil]

end Answer

/-- In gateway `g` the worker comes to message `m`, which is that of PUBLISH `p` on connection `c`. -/
structure Reaches (svc : Service Unit) (g : Gateway Unit) (m : Inbound ConnectionId) (c : ConnectionId)
    (p : Publish) : Prop where
  wired : g.Wired
  charset : g.outbound.charset = svc.charset
  given : g.given? svc = some m
  said : m.said = (c, p.topic, svc.charset.decode p.payload)
  valid : (Packet.publish p).WireValid
  size : (Packet.publish p).remainingLength ≤ VarInt.max

section Reaches

variable {g : Gateway Unit} {m : Inbound ConnectionId} {d : ConnectionId}

/-- The worker answers the message with one frame behind what waits for its connection, if the answer
can be sent, and else with nothing. -/
theorem echo_work (hh : svc.handler = .echo) (h : g.Reaches svc m c p) :
    (g.Echoes svc.charset c p → ∃ frame, (g.work svc).bufferOf c = g.bufferOf c ++ frame ∧
      (∀ n, g.writerOf? c ≠ some n → (g.work svc).outbound.writer? n = g.outbound.writer? n) ∧
      ∀ rest, Packet.decode VarInt.max (frame ++ rest) =
        .ok (some (.publish (p.echo svc.charset), frame.length))) ∧
    (¬ g.Echoes svc.charset c p → (g.work svc).outbound = g.outbound) := by
  have hanswer : m.replyOf (m.topic ++ "_reply") m.content = p.answer svc.charset c := by
    have hsaid := h.said
    obtain ⟨connection, topic, content, address, publisher⟩ := m
    cases hsaid
    rfl
  have hwork := outbound_work_echo hh h.given
  rw [hanswer] at hwork
  have hpub : g.outbound.Published (p.answer svc.charset c)
      (g.toSurroundings.publish (p.answer svc.charset c)).1 (g.work svc).outbound :=
    hwork ▸ h.wired.sound.published (p.answer svc.charset c) g.journal
  have hiff := echoes_iff h.wired h.charset h.valid h.size hpub
  constructor
  · intro he
    rw [hiff.1 he] at hpub
    obtain ⟨n, v, v', frame, hn, hv, hframe, hv', hbuffer, -, hothers, -⟩ := hpub.extends
    have hroute : g.writerOf? c = some n := h.wired.route c ▸ hn
    refine ⟨frame, ?_, fun k hk => hothers k fun hkn => hk (hkn ▸ hroute), fun rest => ?_⟩
    · rw [bufferOf, bufferOf, writerOf?_work, hroute, Option.bind_some, Option.bind_some, hv', hv]
      exact hbuffer
    · have hpacket := packetOf_answer (p := p) (c := c) h.charset
      have hreceivable : g.outbound.Receivable (p.answer svc.charset c) :=
        ⟨Publish.topicFault?_echo svc.charset h.valid, hpacket ▸ he.size⟩
      rw [← hpacket]
      exact hreceivable.decode hframe rest
  · intro hne
    cases hsent : (g.toSurroundings.publish (p.answer svc.charset c)).1 with
    | ok u => exact absurd (hiff.2 hsent) hne
    | error e =>
      rw [hsent] at hpub
      exact hpub.of_error

/-- What the worker puts behind what waits for a connection. -/
def added (svc : Service Unit) (g : Gateway Unit) (c : ConnectionId) : Bytes :=
  ((g.work svc).bufferOf c).drop (g.bufferOf c).length

instance (g : Gateway Unit) (charset : Charset) (c : ConnectionId) (p : Publish) :
    Decidable (g.Echoes charset c p) :=
  decidable_of_iff ((g.writerOf? c).bind g.outbound.isOpen? = some true ∧ p.payload ≠ [] ∧
      (Utf8.encode p.topic).length ≤ 65529 ∧
      (Packet.publish (p.echo charset)).remainingLength ≤ VarInt.max)
    ⟨fun ⟨h₁, h₂, h₃, h₄⟩ => ⟨h₁, h₂, h₃, h₄⟩, fun h => ⟨h.isOpen, h.payload, h.topic, h.size⟩⟩

/-- What connection `d` is sent when the worker comes to the message of `r`. -/
def echo? (g : Gateway Unit) (charset : Charset) (d : ConnectionId) (r : ConnectionId × Publish) :
    Option Packet :=
  if r.1 = d ∧ g.Echoes charset r.1 r.2 then some (.publish (r.2.echo charset)) else none

theorem bufferOf_work (h : ∀ n, g.writerOf? d = some n →
    (g.work svc).outbound.writer? n = g.outbound.writer? n) :
    (g.work svc).bufferOf d = g.bufferOf d := by
  rw [bufferOf, bufferOf, writerOf?_work]
  cases hn : g.writerOf? d with
  | none => rfl
  | some n => rw [Option.bind_some, Option.bind_some, h n hn]

theorem added_eq_nil (h : (g.work svc).bufferOf d = g.bufferOf d) : g.added svc d = [] := by
  rw [added, h]
  exact List.drop_length

/-- A decoder finds the answer, if there is one, in front of what is put behind it later. -/
theorem ofBuffer_added_append (hh : svc.handler = .echo) (h : g.Reaches svc m c p) (d : ConnectionId)
    (rest : Bytes) : Drained.ofBuffer VarInt.max (g.added svc d ++ rest) =
      { Drained.ofBuffer VarInt.max rest with packets :=
        (g.echo? svc.charset d (c, p)).toList ++ (Drained.ofBuffer VarInt.max rest).packets } := by
  obtain ⟨hyes, hno⟩ := echo_work hh h
  unfold echo?
  by_cases he : g.Echoes svc.charset c p
  · obtain ⟨frame, hbuffer, hothers, hdecode⟩ := hyes he
    by_cases hcd : c = d
    · subst d
      have hadded : g.added svc c = frame := by rw [added, hbuffer, List.drop_left]
      rw [hadded, if_pos ⟨rfl, he⟩, Drained.ofBuffer_of_packet (hdecode rest), List.drop_left]
      rfl
    · -- another connection has another writer
      have hsame := bufferOf_work (d := d) fun n hd =>
        hothers n fun hc => hcd (h.wired.writer_inj c d n hc hd)
      rw [added_eq_nil hsame, if_neg fun hd => hcd hd.1]
      rfl
  · have hsame := bufferOf_work (d := d) fun n _ => congrArg (Outbound.writer? · n) (hno he)
    rw [added_eq_nil hsame, if_neg fun hd => he hd.2]
    rfl

end Reaches

end Gateway

namespace Course

variable {svc : Service Unit}

/-- The worker finds every message in a gateway that is in order. -/
theorem wired_of_mem_handled (capacity : Nat) (as : List Action) :
    ∀ r ∈ handled svc as (start svc.charset capacity),
      r.1.Wired ∧ r.1.outbound.charset = svc.charset ∧ r.1.given? svc = some r.2 := by
  let P := fun s : Course Unit => s.Ledger ∧ s.gateway.outbound.charset = svc.charset
  have hstep : ∀ s a, P s → P (s.step svc a) := by
    rintro s a ⟨hs, hcharset⟩
    refine ⟨hs.step a, ?_⟩
    cases a with
    | accept now address => exact hcharset
    | work => exact (Gateway.Keeps.work svc).table.charset.trans hcharset
    | stopWorker => exact hcharset
    | _ => exact ((Course.passage hs rfl).keeps (Kept.charset svc svc.charset) hcharset).1
  intro r hr
  obtain ⟨t, ⟨ht, hcharset⟩, hg, hgiven⟩ :=
    forall_handled hstep ⟨.start svc.charset capacity, rfl⟩ as r hr
  exact hg ▸ ⟨ht.linked.toWired, hcharset, hg ▸ hgiven⟩

/-- The `k`-th message that the worker comes to is that of the `k`-th PUBLISH that was accepted. -/
theorem reaches (capacity : Nat) (as : List Action) {k : Nat} {g : Gateway Unit}
    {m : Inbound ConnectionId} {c : ConnectionId} {p : Publish}
    (hr : (handled svc as (start svc.charset capacity))[k]? = some (g, m))
    (hp : ((occasions svc as (start svc.charset capacity)).filterMap Occasion.accepted?)[k]? =
      some (c, p)) : g.Reaches svc m c p := by
  obtain ⟨hwired, hcharset, hgiven⟩ := wired_of_mem_handled capacity as _ (List.mem_of_getElem? hr)
  obtain ⟨hvalid, hsize⟩ := valid_of_mem_accepted (List.mem_of_getElem? hp)
  refine ⟨hwired, hcharset, hgiven, ?_, hvalid, hsize⟩
  obtain ⟨tail, htail⟩ := said_handled svc svc.charset capacity as
  have hk := congrArg (·[k]?) htail
  obtain ⟨hlt, -⟩ := List.getElem?_eq_some_iff.1 hr
  rw [List.getElem?_append_left ((List.length_map _).symm ▸ hlt), List.getElem?_map, List.getElem?_map,
    hr, hp] at hk
  exact Option.some.inj hk

/-- What is added to a connection while the worker handles messages, read by a decoder. -/
theorem ofBuffer_added {rs : List (Gateway Unit × Inbound ConnectionId)}
    {ps : List (ConnectionId × Publish)} (hh : svc.handler = .echo) (hlen : rs.length ≤ ps.length)
    (h : ∀ x ∈ rs.zip ps, x.1.1.Reaches svc x.1.2 x.2.1 x.2.2) (c : ConnectionId) :
    Drained.ofBuffer VarInt.max (rs.flatMap fun r => r.1.added svc c) =
      ⟨(rs.zip ps).filterMap fun x => x.1.1.echo? svc.charset c x.2, [], none⟩ := by
  induction rs generalizing ps with
  | nil => exact Drained.ofBuffer_of_none rfl
  | cons r rs ih =>
    cases ps with
    | nil => exact absurd hlen (Nat.not_succ_le_zero _)
    | cons p ps =>
      obtain ⟨hr, hrs⟩ := List.forall_mem_cons.1 h
      rw [List.flatMap_cons, Gateway.ofBuffer_added_append hh hr, ih (Nat.le_of_succ_le_succ hlen) hrs,
        List.zip_cons_cons, List.filterMap_cons]
      cases r.1.echo? svc.charset c p <;> rfl

/-- The application answers the `k`-th message with the content of the `k`-th PUBLISH that was accepted,
in one frame at the end of what waits for its connection, unless something stands in the way; then it
writes nothing. So a decoder finds the answers of a connection in the order of its PUBLISHes. An answer
has the payload that it answers exactly if the charset can tell its octets apart. -/
theorem echoes_in_order (svc : Service Unit) (capacity : Nat) (as : List Action) :
    let svc := { svc with handler := Handler.echo }
    let s : Course Unit := start svc.charset capacity
    let accepted := (occasions svc as s).filterMap Occasion.accepted?
    let handled := handled svc as s
    handled.length ≤ accepted.length ∧
    (∀ (k : Nat) (g : Gateway Unit) (m : Inbound ConnectionId) (c : ConnectionId) (p : Publish),
      handled[k]? = some (g, m) → accepted[k]? = some (c, p) →
      (m.connection = c ∧ m.topic = p.topic ∧ m.content = svc.charset.decode p.payload) ∧
      (g.Echoes svc.charset c p → ∃ frame, (g.work svc).bufferOf c = g.bufferOf c ++ frame ∧
        (∀ n, g.writerOf? c ≠ some n → (g.work svc).outbound.writer? n = g.outbound.writer? n) ∧
        ∀ rest, Packet.decode VarInt.max (frame ++ rest) =
          .ok (some (.publish (p.echo svc.charset), frame.length))) ∧
      (¬ g.Echoes svc.charset c p → (g.work svc).outbound = g.outbound) ∧
      ((p.echo svc.charset).payload = p.payload ↔ svc.charset.Faithful p.payload)) ∧
    ∀ c, Drained.ofBuffer VarInt.max (handled.flatMap fun r => r.1.added svc c) =
      ⟨(handled.zip accepted).filterMap fun x => x.1.1.echo? svc.charset c x.2, [], none⟩ := by
  intro svc s accepted handled
  have hlen : handled.length ≤ accepted.length := by
    have hle := (said_handled svc svc.charset capacity as).length_le
    rwa [List.length_map, List.length_map] at hle
  refine ⟨hlen, fun k g m c p hr hp => ?_, fun c => ofBuffer_added rfl hlen (fun x hx => ?_) c⟩
  · have hreaches := reaches capacity as hr hp
    obtain ⟨hyes, hno⟩ := Gateway.echo_work rfl hreaches
    obtain ⟨hc, hrest⟩ := Prod.mk.inj hreaches.said
    exact ⟨⟨hc, Prod.mk.inj hrest⟩, hyes, hno, Charset.encode_decode_iff⟩
  · obtain ⟨k, hk⟩ := List.getElem?_of_mem hx
    obtain ⟨hr, hp⟩ := List.getElem?_zip_eq_some.1 hk
    exact reaches capacity as hr hp

end Course

end DeviceGateway
