import DeviceGateway.Proofs.Gateway.Admission
import DeviceGateway.Proofs.Session.Lifetime

/-!
# Messages follow a device

A session keeps its number and its identity for good (`Registry.Continues`), and while it is
registered it is on the connection of the last CONNECT that was accepted for its identity
(`AcceptedLast`). Every packet and every leave keeps both (`Gateway.Tracks.after`,
`Gateway.Tracks.tearDown`), so every course does (`Course.tracks_run`). The table has that connection,
so a message that goes through any reference to the session comes to its writer, and to no other
(`Course.publish_follows`).
-/

namespace DeviceGateway

variable {ε : Type}

/-! ### The CONNECT that was accepted last -/

/-- The identity that the packet makes its connection speak for, if it is a CONNECT that is let in. -/
def Occasion.identity? (svc : Service ε) (o : Occasion ε) : Option String :=
  match o.packet with
  | .connect q =>
    match Gateway.admission svc o.gateway.journal.entries q with
    | .established identity => some identity
    | _ => none
  | _ => none

/-- Of the packets `met`, the last CONNECT that was accepted for `i` was on connection `c`. -/
def AcceptedLast (svc : Service ε) (met : List (Occasion ε)) (i : String) (c : ConnectionId) : Prop :=
  ∃ before o after, met = before ++ o :: after ∧ o.identity? svc = some i ∧ o.id = c ∧
    ∀ o' ∈ after, o'.identity? svc ≠ some i

namespace AcceptedLast

variable {svc : Service ε} {met : List (Occasion ε)} {i : String} {c : ConnectionId} {o : Occasion ε}

theorem concat (met : List (Occasion ε)) (ho : o.identity? svc = some i) :
    AcceptedLast svc (met ++ [o]) i o.id :=
  ⟨met, o, [], rfl, ho, rfl, fun _ h => absurd h List.not_mem_nil⟩

theorem append (h : AcceptedLast svc met i c) (ho : o.identity? svc ≠ some i) :
    AcceptedLast svc (met ++ [o]) i c := by
  obtain ⟨before, o', after, rfl, ho', hc, hafter⟩ := h
  refine ⟨before, o', after ++ [o], by simp, ho', hc, List.forall_mem_append.2 ⟨hafter, ?_⟩⟩
  exact List.forall_mem_singleton.2 ho

end AcceptedLast

namespace Gateway

variable {svc : Service ε} {g g' : Gateway ε} {c : ConnectionId} {met os : List (Occasion ε)}

/-- A packet lets a client in, or it leaves the sessions and all writers but that of its connection
alone. -/
theorem after_cases (svc : Service ε) (o : Occasion ε) (hlive : o.Live) :
    (o.identity? svc = none ∧ Keeps o.gateway (o.after svc) ∧ ∀ n, o.connection.writer ≠ n →
        (o.after svc).outbound.writer? n = o.gateway.outbound.writer? n) ∨
      ∃ q i, o.identity? svc = some i ∧
        Established svc o.id o.connection q i o.gateway (o.after svc) := by
  obtain ⟨c, conn, g, p⟩ := o
  cases p using connectCases with
  | connect q =>
    have hout := outcome_connect svc hlive q
    simp only [Occasion.identity?, Occasion.after] at hout ⊢
    generalize admission svc g.journal.entries q = a at hout ⊢
    generalize g.handle svc c conn (.connect q) = r at hout ⊢
    cases hout with
    | rejected => exact .inl ⟨rfl, ⟨rfl, rfl, rfl, .refl⟩, fun _ _ => rfl⟩
    | unidentified => exact .inl ⟨rfl, ⟨rfl, rfl, rfl, .refl⟩, fun _ _ => rfl⟩
    | established _ _ he => exact .inr ⟨q, _, rfl, he⟩
  | other p hp =>
    have hnone : Occasion.identity? svc ⟨c, conn, g, p⟩ = none := by
      cases p with
      | connect q => exact absurd rfl (hp q)
      | _ => rfl
    refine .inl ⟨hnone, ?_, fun n hn => ?_⟩ <;> simp only [Occasion.after] <;> rw [handle_eq hp]
    · exact (Keeps.journal _).trans (Keeps.answer.trans .deliver)
    · rw [outbound_deliver]
      exact writer?_answer_of_ne hn

/-- Since the registry was `r`, its sessions have gone on, and behind the packets `met` who is registered
is on the connection of the last CONNECT that was accepted for its identity. -/
structure Tracks (svc : Service ε) (r : Registry ε ConnectionId) (met : List (Occasion ε))
    (g : Gateway ε) : Prop where
  coherent : g.registry.Coherent
  continues : r.Continues g.registry
  last : ∀ i c, g.registry.connectionOf? i = some c → AcceptedLast svc met i c

namespace Tracks

variable {r : Registry ε ConnectionId}

theorem congr (h : Tracks svc r met g) (hr : g'.registry = g.registry) : Tracks svc r met g' :=
  ⟨hr ▸ h.coherent, hr ▸ h.continues, fun i c hi => h.last i c (hr ▸ hi)⟩

theorem after {o : Occasion ε} (h : Tracks svc r met o.gateway) (hlive : o.Live) :
    Tracks svc r (met ++ [o]) (o.after svc) := by
  rcases after_cases svc o hlive with ⟨hnone, hk, -⟩ | ⟨q, j, hj, he⟩
  · have hr := hk.registry
    refine ⟨hr ▸ h.coherent, hr ▸ h.continues, fun i c hi => (h.last i c (hr ▸ hi)).append ?_⟩
    rw [hnone]
    exact nofun
  · have hp : (o.gateway.inquired svc o.id o.connection q).registry.Coherent := h.coherent
    have hat : ∀ i, (o.after svc).registry.connectionOf? i = if i = j then some o.id else
        (o.gateway.registry.connectionOf? i).filter (· ≠ o.id) := fun i => by
      rw [he.registry]
      exact Presence.connectionOf?_online hp i
    refine ⟨?_, ?_, fun i c hi => ?_⟩
    · rw [he.registry]
      exact Presence.coherent_step hp (.online _)
    · rw [he.registry]
      exact h.continues.trans (Presence.continues_online hp _)
    · rw [hat] at hi
      by_cases hij : i = j
      · subst hij
        rw [if_pos rfl] at hi
        obtain rfl := Option.some.inj hi
        exact .concat met hj
      · rw [if_neg hij] at hi
        refine (h.last i c (Option.filter_eq_some_iff.1 hi).1).append fun he => hij ?_
        exact Option.some.inj (he.symm.trans hj)

theorem tearDown (h : Tracks svc r met g) (c : ConnectionId) :
    Tracks svc r met (g.tearDown svc c) := by
  cases hc : g.connection? c with
  | none => rwa [tearDown_of_none hc]
  | some conn =>
    have hp : (g.leaving c conn).registry.Coherent := h.coherent
    refine ⟨coherent_tearDown svc c h.coherent, ?_, fun i d hi => ?_⟩
    · rw [registry_tearDown svc hc]
      exact h.continues.trans (Presence.continues_offline hp c)
    · rw [registry_tearDown svc hc, Presence.connectionOf?_offline hp] at hi
      exact h.last i d (Option.filter_eq_some_iff.1 hi).1

theorem stretch (h : Tracks svc r met g) (hs : Stretch svc c g os g') :
    Tracks svc r (met ++ os) g' := by
  induction hs with
  | refl => exact (List.append_nil met).symm ▸ h
  | idle _ hi ih => exact ih.congr hi.registry
  | packet _ _ hlive _ ih =>
    rw [← List.append_assoc]
    exact ih.after hlive
  | leave _ ih => exact ih.tearDown c

end Tracks

end Gateway

namespace Course

variable {svc : Service ε} {s : Course ε} {met : List (Occasion ε)}
  {r : Registry ε ConnectionId}

theorem tracks_step (hs : s.Ledger) (h : s.gateway.Tracks svc r met) (a : Action) :
    (s.step svc a).gateway.Tracks svc r (met ++ s.occasionsOfStep svc a) := by
  cases a with
  | turn c signal now failure => exact h.stretch (.turn hs.linked failure now c signal)
  | shutDown c =>
    rw [show s.occasionsOfStep svc (.shutDown c) = [] from rfl, List.append_nil]
    unfold step
    dsimp only
    split
    · exact h.tearDown c
    · exact h
  | work => exact (List.append_nil met).symm ▸ h.congr (Gateway.Keeps.work svc).registry
  | _ => exact (List.append_nil met).symm ▸ h.congr rfl

theorem tracks_run (hs : s.Ledger) (h : s.gateway.Tracks svc r met) (as : List Action) :
    (run svc as s).gateway.Tracks svc r (met ++ occasions svc as s) := by
  induction as generalizing s met with
  | nil => exact (List.append_nil met).symm ▸ h
  | cons a as ih =>
    rw [occasions, ← List.append_assoc]
    exact ih (hs.step a) (tracks_step hs h a)

theorem tracks_start (svc : Service ε) (charset : Charset) (capacity : Nat) (as : List Action) :
    let s := run svc as (start charset capacity)
    s.gateway.Tracks svc s.gateway.registry (occasions svc as (start charset capacity)) := by
  intro s
  have hstart : (start charset capacity : Course ε).gateway.Tracks svc {} [] :=
    ⟨.empty, .refl, fun i c hi => by cases hi⟩
  have h := tracks_run (.start charset capacity) hstart as
  exact ⟨h.coherent, .refl, h.last⟩

theorem occasions_append (as bs : List Action) (s : Course ε) :
    occasions svc (as ++ bs) s = occasions svc as s ++ occasions svc bs (run svc as s) := by
  induction as generalizing s with
  | nil => rfl
  | cons a as ih =>
    rw [List.cons_append, occasions, occasions, ih, List.append_assoc]
    rfl

/-- A message through a reference to a session comes to the device, however often it has come back
since. Let `n` be the number of a session in any state, and let the identity `i` be registered with it
in any later one. Then it is still a session of `i`, on the connection of the last CONNECT that was
accepted for `i`, and the table has that connection. So a message with a topic and a content is not
turned away because the device is not connected. If the writer of the connection is open it gets the
frame, unless the packet cannot be written; if it is closed, that is the answer. No other writer
changes, and every other connection has another one. -/
theorem publish_follows (svc : Service ε) (charset : Charset) (capacity : Nat) (as bs : List Action)
    {n : Nat} {i : String} {r₁ : Session ε ConnectionId} {topic content : String}
    (hold : (run svc as (start charset capacity)).gateway.registry.session? n = some r₁)
    (hi : (run svc bs (run svc as (start charset capacity))).gateway.registry.lookup? i = some n)
    (ht : topic ≠ "") (hc : content ≠ "") :
    let g := (run svc bs (run svc as (start charset capacity))).gateway
    let met := occasions svc (as ++ bs) (start charset capacity)
    r₁.identity = i ∧ ∃ r conn v, g.registry.session? n = some r ∧ r.identity = i ∧
      AcceptedLast svc met i r.connection ∧ g.connection? r.connection = some conn ∧
      g.outbound.route? r.connection = some conn.writer ∧ g.outbound.writer? conn.writer = some v ∧
      let m := r.messageOf topic content
      let sent := Transport.table r.publisher m g.toSurroundings
      (∀ d, sent.1 ≠ .error (.notConnected d)) ∧
      (v.isOpen = true → ∀ b, (g.outbound.packetOf m).encode = .ok b → sent.1 = .ok () ∧
        sent.2.outbound.writer? conn.writer = some { v with packets := b :: v.packets }) ∧
      (v.isOpen = true → ∀ e, (g.outbound.packetOf m).encode = .error e →
        sent.1 = .error (.encode e) ∧ sent.2.outbound = g.outbound) ∧
      (v.isOpen = false → sent.1 = .error (.closed r.connection) ∧ sent.2.outbound = g.outbound) ∧
      (∀ k, k ≠ conn.writer → sent.2.outbound.writer? k = g.outbound.writer? k) ∧
      ∀ d other, d ≠ r.connection → g.connection? d = some other → other.writer ≠ conn.writer := by
  intro g met
  have hs : (run svc as (start charset capacity) : Course ε).Ledger := (Ledger.start charset capacity).run as
  have hlinked : g.Linked := (hs.run bs).linked
  have hf := tracks_run hs (tracks_start svc charset capacity as) bs
  obtain ⟨r, hr, rfl⟩ := hf.coherent.ofIdentity i n hi
  obtain ⟨r', hr', hsame⟩ := hf.continues n r₁ hold
  obtain rfl : r = r' := Option.some.inj (hr.session.symm.trans hr')
  have hlast : AcceptedLast svc met r.identity r.connection := by
    rw [show met = _ from occasions_append as bs _]
    exact hf.last _ _ (hf.coherent.connectionOf?_eq_some.2 ⟨r.arrival, ⟨n, r, hr, rfl⟩, rfl, rfl⟩)
  obtain ⟨-, -, conn, hconn, -⟩ := (hs.run bs).of_holds hr
  have hw : g.writerOf? r.connection = some conn.writer := by
    rw [Gateway.writerOf?, hconn]
    rfl
  have hroute : g.outbound.route? r.connection = some conn.writer := (hlinked.route _).trans hw
  obtain ⟨v, hv⟩ : ∃ v, g.outbound.writer? conn.writer = some v :=
    ⟨_, List.getElem?_eq_getElem (hlinked.writer_lt _ _ hw)⟩
  obtain ⟨hfound, hok, herror, hclosed, hothers⟩ :=
    g.toSurroundings.publish_of_route (m := r.messageOf topic content) ht hc hroute hv
  refine ⟨hsame.symm, r, conn, v, hr.session, rfl, hlast, hconn, hroute, hv, hfound, hok, herror, hclosed,
    hothers, fun d other hd hother heq => hd ?_⟩
  refine hlinked.writer_inj d r.connection conn.writer ?_ hw
  rw [Gateway.writerOf?, hother, Option.map_some, heq]

/-- A device comes back on a second connection and the first is still open. A message through the
session that it had on the first goes out on the second only. -/
theorem publish_follows_takeover :
    let svc : Service Unit := { packetLimit := 16, idleTimeout := ⟨5⟩, handler := .silent () }
    let hello : Signal :=
      .bytes [0x10, 0x0D, 0x00, 0x04, 0x4D, 0x51, 0x54, 0x54, 0x04, 0x02, 0x00, 0x3C, 0x00, 0x01, 0x64]
    let as : List Action := [.accept ⟨0⟩ ⟨.v4 127 0 0 1, 4000, 0⟩, .accept ⟨0⟩ ⟨.v4 127 0 0 1, 4001, 0⟩,
      .turn ⟨1⟩ hello ⟨1⟩ none]
    let bs : List Action := [.turn ⟨2⟩ hello ⟨2⟩ none]
    let s₁ := run svc as (start .utf8 1)
    let g := (run svc bs s₁).gateway
    ∃ r₁ r, s₁.gateway.registry.session? 0 = some r₁ ∧ r₁.connection = ⟨1⟩ ∧
      g.registry.session? 0 = some r ∧ r.connection = ⟨2⟩ ∧ g.outbound.isOpen? 0 = some true ∧
      let sent := Transport.table r.publisher (r.messageOf "t" "x") g.toSurroundings
      sent.1 = .ok () ∧ sent.2.outbound.writer? 0 = g.outbound.writer? 0 ∧
      sent.2.outbound.writer? 1 = some
        { packets := [[0x30, 0x04, 0x00, 0x01, 0x74, 0x78]] } := by
  intro svc hello as bs s₁ g
  obtain ⟨r₁, hold, hfirst⟩ : ∃ r₁, s₁.gateway.registry.session? 0 = some r₁ ∧ r₁.connection = ⟨1⟩ :=
    Option.map_eq_some_iff.1 (show (s₁.gateway.registry.session? 0).map (·.connection) = some ⟨1⟩ by
      decide +kernel)
  have hi : g.registry.lookup? "d" = some 0 := by decide +kernel
  have hroute : g.outbound.route? ⟨2⟩ = some 1 := by decide +kernel
  obtain ⟨-, r, conn, v, hr, -, -, -, hw, hv, -, hok, -, -, hothers, -⟩ :=
    publish_follows svc .utf8 1 as bs hold hi (show "t" ≠ "" by decide) (show "x" ≠ "" by decide)
  have hconnection : (g.registry.session? 0).map (·.connection) = some ⟨2⟩ := by decide +kernel
  have hsecond : r.connection = ⟨2⟩ := by
    rw [hr] at hconnection
    exact Option.some.inj hconnection
  rw [hsecond] at hw
  have hwriter : conn.writer = 1 := Option.some.inj (hw.symm.trans hroute)
  rw [hwriter] at hv hok hothers
  have hwaiting : g.outbound.writer? 1 = some {} := by decide +kernel
  obtain rfl := Option.some.inj (hv.symm.trans hwaiting)
  have hcharset : g.outbound.charset = .utf8 := by decide +kernel
  have hencoded : (g.outbound.packetOf (r.messageOf "t" "x")).encode =
      .ok [0x30, 0x04, 0x00, 0x01, 0x74, 0x78] := by
    rw [Outbound.packetOf, hcharset]
    show (Packet.publish { topic := "t", payload := Charset.utf8.encode "x" }).encode = _
    decide +kernel
  obtain ⟨hsent, hafter⟩ := hok rfl _ hencoded
  exact ⟨r₁, r, hold, hfirst, hr, hsecond, by decide +kernel, hsent, hothers 0 (by decide), hafter⟩

end Course

end DeviceGateway
