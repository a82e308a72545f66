import DeviceGateway.Proofs.Gateway.Reconnects

/-!
# Connections among each other

What happens on a connection leaves the other connections alone, their entries in the table, their
writers and their sessions, if the listeners send to the connection of their session only
(`Handler.Discreet`). `Gateway.Apart` says this of a stretch. It holds of each packet
(`Apart.after`), where only a CONNECT that is accepted touches sessions: that of its identity, on
whichever connection it was, and that which the connection had. It holds of a leave (`Apart.tearDown`),
which ends the session on the connection; and what holds of stretches in a row holds of the whole
(`Apart.trans`).
-/

namespace DeviceGateway

variable {ε : Type}

/-- The listeners send messages to the connection of their session only. -/
structure Handler.Discreet (h : Handler ε ConnectionId) : Prop where
  online : ∀ past s w, ∀ m ∈ (h.online past s).messages .table s.publisher w,
    m.connection = s.connection
  offline : ∀ past s w, ∀ m ∈ (h.offline past s).messages .table s.publisher w,
    m.connection = s.connection

/-! ### Arrivals and leaves -/

namespace Presence

variable {h : Handler ε ConnectionId} {p : Presence ε ConnectionId Outbound}
  {a : Arrival ConnectionId} {c : ConnectionId} {m : OutboundMessage} {n : Nat}

/-- The sessions that an arrival tells of are on its connection. -/
theorem connection_of_mem_listeners (hd : h.Discreet) (hp : p.registry.Coherent)
    {call : Call ε ConnectionId} (hcall : call ∈ listeners h .table a p) (hm : m ∈ call.messages) :
    m.connection = a.connection := by
  obtain ⟨_, -, -, -, hnumber, -, hseat⟩ := hp.seated_online h.fresh a
  have hsession := hseat.holds_self.session
  rw [← hnumber] at hsession
  unfold listeners at hcall
  dsimp only at hcall
  rw [Registry.retired_online, hsession] at hcall
  rcases List.mem_append.1 hcall with hcall | hcall
  · obtain ⟨s, hs, rfl⟩ := Option.map_eq_some_iff.1 (Option.mem_toList.1 hcall)
    obtain ⟨k, hk, hs⟩ := Option.bind_eq_some_iff.1 hs
    obtain ⟨t, ht, htc, -⟩ := hp.boundElsewhere?_eq_some.1 hk
    obtain rfl : s = t := Option.some.inj (hs.symm.trans ht.session)
    rw [← htc]
    exact hd.offline _ _ _ m hm
  · obtain rfl := List.mem_singleton.1 hcall
    exact hd.online _ _ _ m hm

/-- What is sent to a connection changes the writer of no other. -/
theorem writer?_table {o : Outbound} (hc : o.route? c ≠ some n) (via : ConnectionId)
    (m : OutboundMessage) (w : Surroundings Outbound) (hm : m.connection = c)
    (hw : w.outbound.routes = o.routes ∧ w.outbound.writer? n = o.writer? n) :
    (Transport.table via m w).2.outbound.routes = o.routes ∧
      (Transport.table via m w).2.outbound.writer? n = o.writer? n := by
  obtain ⟨hroutes, hwriter⟩ := hw
  have hroute : w.outbound.route? m.connection ≠ some n := by
    rw [hm, Outbound.route?, hroutes]
    exact hc
  exact ⟨(w.sameTable_publish m).routes.trans hroutes, (w.writer?_publish hroute).trans hwriter⟩

theorem writer?_online (hd : h.Discreet) (hp : p.registry.Coherent)
    (hn : p.outbound.route? a.connection ≠ some n) :
    (online h .table a p).2.outbound.writer? n = p.outbound.writer? n := by
  have hlisteners : ∀ call ∈ listeners h .table a p, ∀ m ∈ call.messages, m.connection = a.connection :=
    fun call hcall m hm => connection_of_mem_listeners hd hp hcall hm
  exact (online_keeps
    (J := fun o : Outbound => o.routes = p.outbound.routes ∧ o.writer? n = p.outbound.writer? n)
    (writer?_table hn) hlisteners ⟨rfl, rfl⟩).2

/-- Who leaves is not in the table any more, so no writer gets what is sent on the occasion. -/
theorem writer?_offline (hd : h.Discreet) (hp : p.registry.Coherent)
    (hc : p.outbound.route? c = none) :
    (offline h .table c p).2.outbound.writer? n = p.outbound.writer? n := by
  have hn : p.outbound.route? c ≠ some n := fun hn => nomatch hc.symm.trans hn
  refine (offline_keeps
    (J := fun o : Outbound => o.routes = p.outbound.routes ∧ o.writer? n = p.outbound.writer? n)
    (writer?_table hn) (fun k s hk hs m hm => ?_) ⟨rfl, rfl⟩).2
  obtain ⟨t, ht, rfl⟩ := hp.ofConnection c k hk
  obtain rfl : s = t := Option.some.inj (hs.symm.trans ht.session)
  exact hd.offline _ _ _ m hm

end Presence

namespace Gateway

variable {svc : Service ε} {g g' g'' : Gateway ε} {c : ConnectionId} {conn : Connection}
  {os os' : List (Occasion ε)} {n : Nat}

/-- From one gateway to another, the packets `os` of connection `c` were handled, and this is what is
left of the others: their connections, their entries in the table and their writers are the same. A
session on one of them is the same, and no other came, unless a CONNECT was accepted for its identity;
and no session is on `c` that was not there, but for such an identity. -/
structure Apart (svc : Service ε) (c : ConnectionId) (g : Gateway ε) (os : List (Occasion ε))
    (g' : Gateway ε) : Prop where
  connections : ∀ d, d ≠ c → g'.connection? d = g.connection? d
  routes : ∀ d, d ≠ c → g'.outbound.route? d = g.outbound.route? d
  writer : ∀ n, g'.writerOf? c = some n → g.writerOf? c = some n
  writers : ∀ n, g.writerOf? c ≠ some n → g'.outbound.writer? n = g.outbound.writer? n
  elsewhere : ∀ n s, s.connection ≠ c → (∀ o ∈ os, o.identity? svc ≠ some s.identity) →
    (g'.registry.Holds n s ↔ g.registry.Holds n s)
  here : ∀ n s, s.connection = c → (∀ o ∈ os, o.identity? svc ≠ some s.identity) →
    g'.registry.Holds n s → g.registry.Holds n s

namespace Apart

theorem refl : Apart svc c g [] g :=
  ⟨fun _ _ => rfl, fun _ _ => rfl, fun _ h => h, fun _ _ => rfl, fun _ _ _ _ => Iff.rfl, fun _ _ _ _ h => h⟩

theorem trans (h : Apart svc c g os g') (h' : Apart svc c g' os' g'') :
    Apart svc c g (os ++ os') g'' := by
  refine ⟨fun d hd => ?_, fun d hd => ?_, fun n hn => ?_, fun n hn => ?_, fun n s hs hos => ?_,
    fun n s hs hos hheld => ?_⟩
  · exact (h'.connections d hd).trans (h.connections d hd)
  · exact (h'.routes d hd).trans (h.routes d hd)
  · exact h.writer n (h'.writer n hn)
  · exact (h'.writers n fun hn' => hn (h.writer n hn')).trans (h.writers n hn)
  · obtain ⟨hos, hos'⟩ := List.forall_mem_append.1 hos
    exact (h'.elsewhere n s hs hos').trans (h.elsewhere n s hs hos)
  · obtain ⟨hos, hos'⟩ := List.forall_mem_append.1 hos
    exact h.here n s hs hos (h'.here n s hs hos' hheld)

/-- Where the sessions are kept, and of the rest all that is not of connection `c`. -/
theorem of_registry (hr : g'.registry = g.registry) (hc : ∀ d, d ≠ c → g'.connection? d = g.connection? d)
    (ho : g'.outbound.routes = g.outbound.routes) (hw : g'.writerOf? c = g.writerOf? c)
    (hn : ∀ n, g.writerOf? c ≠ some n → g'.outbound.writer? n = g.outbound.writer? n) :
    Apart svc c g os g' where
  connections := hc
  routes d _ := congrArg (·.get? d) ho
  writer n h := hw ▸ h
  writers := hn
  elsewhere n s _ _ := by rw [hr]
  here n s _ _ hs := hr ▸ hs

theorem idle (h : Idle c g g') : Apart svc c g [] g' :=
  of_registry h.registry h.connections h.routes (h.writer c) h.writers

theorem established (hd : svc.handler.Discreet) (hg : g.Linked) (hc : g.connection? c = some conn)
    {o : Occasion ε} {q : Connect} {i : String} (ho : o.identity? svc = some i)
    (h : Established svc c conn q i g g') : Apart svc c g [o] g' := by
  have hw : g.writerOf? c = some conn.writer := by
    rw [writerOf?, hc]
    rfl
  have hcoherent : (g.inquired svc c conn q).registry.Coherent := hg.coherent
  refine ⟨h.connections, fun d _ => congrArg (·.get? d) h.routes, fun n hn => ?_, fun n hn => ?_,
    fun n s hs hos => ?_, fun n s hs hos hheld => ?_⟩
  · rw [writerOf?, h.connection] at hn
    rwa [hw]
  · rw [hw] at hn
    rw [h.writers, if_neg fun he => hn (congrArg some he.symm)]
    refine Presence.writer?_online hd hcoherent fun hroute => hn ?_
    exact hw.symm.trans ((hg.route c).symm.trans hroute)
  · have hne : s.identity ≠ i := fun he => hos o List.mem_cons_self (he ▸ ho)
    rw [h.registry]
    exact (Presence.holds_online_of_ne hcoherent hne).trans (and_iff_left hs)
  · have hne : s.identity ≠ i := fun he => hos o List.mem_cons_self (he ▸ ho)
    rw [h.registry] at hheld
    exact ((Presence.holds_online_of_ne hcoherent hne).1 hheld).1

theorem after (hd : svc.handler.Discreet) {o : Occasion ε} (hl : o.gateway.Linked) (hlive : o.Live) :
    Apart svc o.id o.gateway [o] (o.after svc) := by
  rcases after_cases svc o hlive with ⟨-, hk, hwriters⟩ | ⟨q, i, hi, he⟩
  · have hw : o.gateway.writerOf? o.id = some o.connection.writer := by
      rw [writerOf?, show o.gateway.connection? o.id = some o.connection from hlive]
      rfl
    have hconnection : ∀ d, (o.after svc).connection? d = o.gateway.connection? d :=
      fun d => congrArg (·.get? d) hk.connections
    refine of_registry hk.registry (fun d _ => hconnection d) hk.table.routes ?_ fun n hn => ?_
    · exact congrArg (Option.map (·.writer)) (hconnection o.id)
    · rw [hw] at hn
      exact hwriters n fun heq => hn (congrArg some heq)
  · exact established hd hl hlive hi he

theorem tearDown (hd : svc.handler.Discreet) (hg : g.registry.Coherent) (c : ConnectionId) :
    Apart svc c g [] (g.tearDown svc c) := by
  cases hc : g.connection? c with
  | none =>
    rw [tearDown_of_none hc]
    exact .refl
  | some conn =>
    have hw : g.writerOf? c = some conn.writer := by
      rw [writerOf?, hc]
      rfl
    have hp : (g.leaving c conn).registry.Coherent := hg
    -- it leaves the table before the listener is told
    have hleft : (g.leaving c conn).outbound.route? c = none := Index.get?_erase.trans (if_pos rfl)
    have hholds := fun n s => holds_tearDown svc hc hg (n := n) (s := s)
    refine ⟨fun d hne => ?_, fun d hne => ?_, fun n hn => ?_, fun n hn => ?_, fun n s hs _ => ?_,
      fun n s _ _ hheld => ((hholds n s).1 hheld).1⟩
    · rw [connection?_tearDown, if_neg hne]
    · rw [Outbound.route?, (sameTable_tearDown svc hc).routes]
      exact Index.get?_erase.trans (if_neg hne)
    · rw [writerOf?, connection?_tearDown, if_pos rfl] at hn
      cases hn
    · have hne : conn.writer ≠ n := fun he => hn (he ▸ hw)
      rw [outbound_tearDown svc hc, Presence.writer?_offline hd hp hleft]
      exact List.getElem?_modify_ne _ _ hne
    · exact (hholds n s).trans (and_iff_left hs)

end Apart

theorem Stretch.coherent (h : Stretch svc c g os g') (hg : g.registry.Coherent) :
    g'.registry.Coherent := by
  induction h with
  | refl => exact hg
  | idle _ hi ih => exact hi.registry ▸ ih
  | packet _ hl hlive _ _ => exact (linked_handle svc hl hlive _).1.coherent
  | leave _ ih => exact coherent_tearDown svc c ih

/-- What happens on a connection leaves the others alone. -/
theorem Stretch.apart (hd : svc.handler.Discreet) (hg : g.registry.Coherent)
    (h : Stretch svc c g os g') : Apart svc c g os g' ∧ ∀ o ∈ os, o.id = c := by
  induction h with
  | refl => exact ⟨.refl, fun _ ho => absurd ho List.not_mem_nil⟩
  | @idle os g' g'' _ hi ih =>
    refine ⟨?_, ih.2⟩
    rw [← List.append_nil os]
    exact ih.1.trans (.idle hi)
  | packet _ hl hlive hid ih =>
    subst hid
    exact ⟨ih.1.trans (.after hd hl hlive), List.forall_mem_append.2
      ⟨ih.2, List.forall_mem_singleton.2 rfl⟩⟩
  | @leave os g' hs ih =>
    refine ⟨?_, ih.2⟩
    rw [← List.append_nil os]
    exact ih.1.trans (.tearDown hd (hs.coherent hg) c)

end Gateway

namespace Course

variable {svc : Service ε}

/-- A turn of a connection leaves the others alone. Take any state that a course comes to, and whatever
happens to connection `c` in it, be it octets of any kind and even if it ends the connection. If the
listeners send to the connection of their session only, every other connection stays as it is, with
what it has not read yet, its entry in the table and its writer. The packets that are handled are those
of `c`. An identity for which none of them is a CONNECT that is accepted, and whose session was not on
`c`, is registered as before, with the same session or not at all. So a session on another connection is
the same and still on it, unless a CONNECT on `c` was accepted for its very identity. -/
theorem turn_apart (svc : Service ε) (charset : Charset) (capacity : Nat) (as : List Action)
    (c : ConnectionId) (signal : Signal) (now : Duration) (failure : Option String)
    (hd : svc.handler.Discreet) :
    let s := run svc as (start charset capacity)
    let g := s.gateway
    let g' := (s.step svc (.turn c signal now failure)).gateway
    let met := s.occasionsOfStep svc (.turn c signal now failure)
    (∀ o ∈ met, o.id = c) ∧
    (∀ d, d ≠ c → g'.connection? d = g.connection? d ∧ g'.outbound.route? d = g.outbound.route? d ∧
      ∀ n, g.outbound.route? d = some n → g'.outbound.writer? n = g.outbound.writer? n) ∧
    (∀ i, (∀ o ∈ met, o.identity? svc ≠ some i) → g.registry.connectionOf? i ≠ some c →
      g'.registry.lookup? i = g.registry.lookup? i ∧
      ∀ n, g.registry.lookup? i = some n → g'.registry.session? n = g.registry.session? n) ∧
    ∀ d n r, d ≠ c → g.registry.lookupConnection? d = some n → g.registry.session? n = some r →
      (∃ o ∈ met, o.identity? svc = some r.identity) ∨ g'.registry.lookup? r.identity = some n ∧
        g'.registry.lookupConnection? d = some n ∧ g'.registry.session? n = some r := by
  intro s g g' met
  have hs : s.Ledger := (Ledger.start charset capacity).run as
  have hstretch : Gateway.Stretch svc c g met g' := .turn hs.linked failure now c signal
  obtain ⟨hapart, hid⟩ := hstretch.apart hd hs.linked.coherent
  have hcoherent : g'.registry.Coherent := hstretch.coherent hs.linked.coherent
  refine ⟨hid, fun d hne => ⟨hapart.connections d hne, hapart.routes d hne, fun n hn => ?_⟩,
    fun i hi hc => ?_, fun d n r hne hn hr => ?_⟩
  · refine hapart.writers n fun hw => hne ?_
    exact hs.linked.writer_inj d c n ((hs.linked.route d).symm.trans hn) hw
  · have hholds : ∀ n r, r.identity = i → (g'.registry.Holds n r ↔ g.registry.Holds n r) := by
      rintro n r rfl
      by_cases hr : r.connection = c
      · -- were it registered before, `i` would be on `c`
        refine ⟨hapart.here n r hr hi, fun hheld => absurd ?_ hc⟩
        exact hs.linked.coherent.connectionOf?_eq_some.2 ⟨r.arrival, ⟨n, r, hheld, rfl⟩, rfl, hr⟩
      · exact hapart.elsewhere n r hr hi
    have hlookup : ∀ n, g'.registry.lookup? i = some n ↔ g.registry.lookup? i = some n := by
      intro n
      rw [hcoherent.lookup?_eq_some, hs.linked.coherent.lookup?_eq_some]
      exact exists_congr fun r => and_congr_left fun hr => hholds n r hr
    refine ⟨Option.ext hlookup, fun n hn => ?_⟩
    obtain ⟨r, hr, hri⟩ := hs.linked.coherent.ofIdentity i n hn
    exact ((hholds n r hri).2 hr).session.trans hr.session.symm
  · obtain ⟨t, ht, rfl⟩ := hs.linked.coherent.ofConnection d n hn
    obtain rfl : r = t := Option.some.inj (hr.symm.trans ht.session)
    by_cases hmet : ∃ o ∈ met, o.identity? svc = some r.identity
    · exact .inl hmet
    · have hheld : g'.registry.Holds n r :=
        (hapart.elsewhere n r hne fun o ho he => hmet ⟨o, ho, he⟩).2 ht
      exact .inr ⟨hheld.identity, hheld.connection, hheld.session⟩

/-- A connection takes another identity and then sends what is no packet, so it ends. The session on
the other connection is what it was, while the application greets each session that comes. -/
theorem turn_apart_malformed :
    let handler : Handler Unit ConnectionId :=
      { Handler.silent () with online := fun _ s => .send (s.messageOf "t" "x") fun _ => .done () }
    let svc : Service Unit := { packetLimit := 16, idleTimeout := ⟨5⟩, handler }
    let hello (name : UInt8) : Bytes :=
      [0x10, 0x0D, 0x00, 0x04, 0x4D, 0x51, 0x54, 0x54, 0x04, 0x02, 0x00, 0x3C, 0x00, 0x01, name]
    let as : List Action := [.accept ⟨0⟩ ⟨.v4 127 0 0 1, 4000, 0⟩, .accept ⟨0⟩ ⟨.v4 127 0 0 1, 4001, 0⟩,
      .turn ⟨1⟩ (.bytes (hello 0x64)) ⟨1⟩ none, .turn ⟨2⟩ (.bytes (hello 0x65)) ⟨1⟩ none]
    let s := run svc as (start .utf8 1)
    let g := s.gateway
    let g' := (s.step svc (.turn ⟨1⟩ (.bytes (hello 0x66 ++ [0xF0, 0x00])) ⟨2⟩ none)).gateway
    g'.connection? ⟨1⟩ = none ∧ g'.registry.lookup? "d" = none ∧
      g'.connection? ⟨2⟩ = g.connection? ⟨2⟩ ∧ g'.outbound.writer? 1 = g.outbound.writer? 1 ∧
      g.registry.lookupConnection? ⟨2⟩ = some 1 ∧ g'.registry.lookupConnection? ⟨2⟩ = some 1 ∧
      (g.registry.session? 1).isSome ∧ g'.registry.session? 1 = g.registry.session? 1 := by
  intro handler svc hello as s g g'
  have hd : handler.Discreet := ⟨fun _ _ _ m hm => by
    obtain rfl := List.mem_singleton.1 hm
    rfl, fun _ _ _ _ hm => absurd hm List.not_mem_nil⟩
  let again : Signal := .bytes (hello 0x66 ++ [0xF0, 0x00])
  obtain ⟨-, hothers, -, hsessions⟩ := turn_apart svc .utf8 1 as ⟨1⟩ again ⟨2⟩ none hd
  obtain ⟨hconnection, -, hwriter⟩ := hothers ⟨2⟩ (by decide)
  have hroute : g.outbound.route? ⟨2⟩ = some 1 := by decide +kernel
  have hlookup : g.registry.lookupConnection? ⟨2⟩ = some 1 := by decide +kernel
  have hidentity : (g.registry.session? 1).map (·.identity) = some "e" := by decide +kernel
  obtain ⟨r, hr, hri⟩ := Option.map_eq_some_iff.1 hidentity
  have hmet : (s.occasionsOfStep svc (.turn ⟨1⟩ again ⟨2⟩ none)).map (Occasion.identity? svc) =
      [some "f"] := by decide +kernel
  rcases hsessions ⟨2⟩ 1 r (by decide) hlookup hr with ⟨o, ho, hoi⟩ | ⟨-, hlookup', hr'⟩
  · have hmem : some r.identity ∈ [some "f"] := hmet ▸ hoi ▸ List.mem_map_of_mem ho
    rw [hri] at hmem
    exact absurd hmem (by decide)
  · exact ⟨by decide +kernel, by decide +kernel, hconnection, hwriter 1 hroute, hlookup, hlookup',
      hr ▸ rfl, hr'.trans hr.symm⟩

end Course

end DeviceGateway
