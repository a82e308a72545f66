import DeviceGateway.Proofs.Gateway.Occasions

/-!
# Who is let in

A CONNECT comes to one of three things (`Gateway.Outcome`), and what the verifier and the identity
mapping say decides to which. A client that is turned away, or that gets no identity, leaves nothing
but the record of what was asked and notices in the log. Only one that is let in becomes present
(`Gateway.Established`), and no other packet makes anybody so. The arrivals that are heard of in a
course are therefore those of the clients that were let in (`Course.connect_gated`).
-/

namespace DeviceGateway

variable {ε : Type}

/-- The arrival that is heard of if the packet is a CONNECT that is let in. -/
def Occasion.admitted? (svc : Service ε) (o : Occasion ε) : Option Event :=
  match o.packet with
  | .connect q =>
    match Gateway.admission svc o.gateway.journal.entries q with
    | .established identity => some (.online identity o.id [])
    | _ => none
  | _ => none

namespace Gateway

variable {svc : Service ε} {g g' : Gateway ε} {c : ConnectionId} {conn : Connection} {q : Connect}
  {p : Packet} {i : String} {a : Admission} {r : Option Ending × Gateway ε} {past : List Journal.Entry}

/-! ### The verifier -/

theorem admits_iff : admits svc past q ↔
    ∀ v ∈ svc.verifier, (v ⟨login q, past⟩).accepted = .ok true := by
  unfold admits Verdict.admits
  cases svc.verifier with
  | none => simp
  | some v => cases h : (v ⟨login q, past⟩).accepted <;> simp [h]

/-- A verifier that gives up says no. -/
theorem admits_eq_false : admits svc past q = false ↔ ∃ v, svc.verifier = some v ∧
    ((v ⟨login q, past⟩).accepted = .ok false ∨
      ∃ panic, (v ⟨login q, past⟩).accepted = .error panic) := by
  unfold admits Verdict.admits
  cases svc.verifier with
  | none => simp
  | some v => cases h : (v ⟨login q, past⟩).accepted <;> simp [h]

theorem admission_eq_rejected : admission svc past q = .rejected ↔ admits svc past q = false := by
  unfold admission
  cases admits svc past q with
  | false => exact iff_of_true rfl rfl
  | true => cases svc.handler.identify (asked svc q past) q.clientId <;> simp

theorem admission_eq_unidentified {panic : Panic} : admission svc past q = .unidentified panic ↔
    admits svc past q ∧ svc.handler.identify (asked svc q past) q.clientId = .error panic := by
  unfold admission
  cases admits svc past q with
  | false => simp
  | true => cases svc.handler.identify (asked svc q past) q.clientId <;> simp

theorem admission_eq_established : admission svc past q = .established i ↔
    admits svc past q ∧ svc.handler.identify (asked svc q past) q.clientId = .ok i := by
  unfold admission
  cases admits svc past q with
  | false => simp
  | true => cases svc.handler.identify (asked svc q past) q.clientId <;> simp

/-! ### A client that is let in -/

/-- The sessions, writers and journal behind the arrival of a client, before it is answered. -/
def arrived (svc : Service ε) (c : ConnectionId) (conn : Connection) (q : Connect) (i : String)
    (g : Gateway ε) : Presence ε ConnectionId Outbound :=
  (Presence.online svc.handler .table (arrivalOf c conn q i) (g.inquired svc c conn q).toPresence).2

theorem isOpen?_arrived (n : Nat) :
    (arrived svc c conn q i g).outbound.isOpen? n = g.outbound.isOpen? n := by
  unfold arrived
  exact Presence.online_keeps (J := fun o => o.isOpen? n = g.outbound.isOpen? n) (P := fun _ => True)
    (fun via m w _ hw => (w.isOpen?_publish m n).trans hw) (fun _ _ _ _ => trivial)
    (show (g.inquired svc c conn q).outbound.isOpen? n = _ from rfl)

theorem sameTable_arrived : g.outbound.SameTable (arrived svc c conn q i g).outbound := by
  exact Presence.sameTable_online svc.handler (arrivalOf c conn q i)
    (g.inquired svc c conn q).toPresence

/-- What a client changes that is let in: it arrives, its connection has the identity, and behind all
that the listeners sent its writer gets the answer, unless it is closed. -/
structure Established (svc : Service ε) (c : ConnectionId) (conn : Connection) (q : Connect)
    (i : String) (g g' : Gateway ε) : Prop where
  registry : g'.registry = (arrived svc c conn q i g).registry
  entries : g'.journal.entries = (arrived svc c conn q i g).journal.entries
  connection : g'.connection? c = some { conn with identity := some i }
  connections : ∀ d, d ≠ c → g'.connection? d = g.connection? d
  writers : ∀ n, g'.outbound.writer? n = if n = conn.writer then
      ((arrived svc c conn q i g).outbound.writer? n).map fun w =>
        if w.isOpen then { w with packets := [0x20, 0x02, 0x00, 0x00] :: w.packets } else w
    else (arrived svc c conn q i g).outbound.writer? n
  isOpen : ∀ n, g'.outbound.isOpen? n = g.outbound.isOpen? n
  routes : g'.outbound.routes = g.outbound.routes
  queue : g'.queue = g.queue
  next : g'.next = g.next

theorem writer?_reply {b : Bytes} (hp : p.encode = .ok b) (n : Nat) :
    (g.reply c conn p).outbound.writer? n = if n = conn.writer then
      (g.outbound.writer? n).map fun w => if w.isOpen then { w with packets := b :: w.packets } else w
    else g.outbound.writer? n := by
  unfold reply
  cases hs : g.outbound.send conn.writer p with
  | ok o =>
    obtain ⟨w, b', hw, hopen, hb, rfl⟩ := Outbound.send_eq_ok.1 hs
    obtain rfl : b' = b := Except.ok.inj (hb.symm.trans hp)
    show (g.outbound.writers.set conn.writer _)[n]? = _
    split
    · subst n
      rw [List.getElem?_set_self (List.getElem?_eq_some_iff.1 hw).1, hw, Option.map_some, if_pos hopen]
    · rw [List.getElem?_set_ne (Ne.symm ‹_›)]
      rfl
  | error e =>
    show g.outbound.writer? n = _
    split
    · subst n
      cases hw : g.outbound.writer? conn.writer with
      | none => rfl
      | some w =>
        have hclosed : w.isOpen ≠ true := fun hopen => by
          rw [Outbound.send_eq_ok.2 ⟨w, b, hw, hopen, hp, rfl⟩] at hs
          cases hs
        rw [Option.map_some, if_neg hclosed]
    · rfl

theorem isOpen?_reply (n : Nat) : (g.reply c conn p).outbound.isOpen? n = g.outbound.isOpen? n := by
  unfold reply
  split
  · exact Outbound.isOpen?_send ‹_› n
  · rfl

theorem established_establish (hc : g.connection? c = some conn) (q : Connect) (i : String) :
    Established svc c conn q i g ((g.inquired svc c conn q).establish svc c conn q i) := by
  let present : Gateway ε := { g.inquired svc c conn q with toPresence := arrived svc c conn q i g }
  let conn' : Connection := { conn with identity := some i }
  have hc' : present.connection? c = some conn := hc
  -- arriving, then taking the identity, then the answer; only the answer looks at the writer
  rw [show (g.inquired svc c conn q).establish svc c conn q i =
    (present.setConnection c conn').reply c conn' (.connAck false .accepted) from rfl]
  have hreply : Keeps (present.setConnection c conn')
    ((present.setConnection c conn').reply c conn' (.connAck false .accepted)) := .reply
  exact {
    registry := hreply.registry
    entries := entries_reply
    connection := by
      rw [connection?, hreply.connections]
      exact (connection?_setConnection hc' c).trans (if_pos rfl)
    connections := fun d hd => by
      rw [connection?, hreply.connections]
      exact (connection?_setConnection hc' d).trans (if_neg hd)
    writers := writer?_reply rfl
    isOpen := fun n => (isOpen?_reply n).trans (isOpen?_arrived n)
    routes := hreply.table.routes.trans sameTable_arrived.routes
    queue := queue_reply
    next := hreply.next }

/-! ### What a CONNECT comes to -/

/-- What becomes of a client, why, and what it did. One that is not let in leaves only the record of the
hooks that were asked and notices, and where the verifier turns it away the identity mapping has no part
in it. -/
inductive Outcome (svc : Service ε) (c : ConnectionId) (conn : Connection) (g : Gateway ε)
    (q : Connect) : Admission → Option Ending × Gateway ε → Prop
  | rejected {v : Verifier} (ns : List Notice) (hverifier : svc.verifier = some v)
      (hverdict : (v ⟨login q, g.journal.entries⟩).accepted = .ok false ∨
        ∃ panic, (v ⟨login q, g.journal.entries⟩).accepted = .error panic)
      (hcalls : calls svc c conn g (.connect q) =
        [.verify (login q) (v ⟨login q, g.journal.entries⟩).accepted])
      (hblind : ∀ identify, g.handle { svc with handler := { svc.handler with identify } } c conn
        (.connect q) = g.handle svc c conn (.connect q)) :
      Outcome svc c conn g q .rejected (some (.error (.protocol .notAuthorized)),
        (g.record (.verify (login q))).noteAll ns)
  | unidentified {panic : Panic} (ns : List Notice)
      (hverdict : ∀ v ∈ svc.verifier, (v ⟨login q, g.journal.entries⟩).accepted = .ok true)
      (hidentity : svc.handler.identify (asked svc q g.journal.entries) q.clientId = .error panic) :
      Outcome svc c conn g q (.unidentified panic)
        (none, ((g.consulted svc q).record (.identify q.clientId)).noteAll ns)
  | established {i : String} {g' : Gateway ε}
      (hverdict : ∀ v ∈ svc.verifier, (v ⟨login q, g.journal.entries⟩).accepted = .ok true)
      (hidentity : svc.handler.identify (asked svc q g.journal.entries) q.clientId = .ok i)
      (h : Established svc c conn q i g g') : Outcome svc c conn g q (.established i) (none, g')

theorem Outcome.eq_admission (h : Outcome svc c conn g q a r) :
    a = admission svc g.journal.entries q := by
  cases h with
  | rejected ns hverifier hverdict =>
    exact (admission_eq_rejected.2 (admits_eq_false.2 ⟨_, hverifier, hverdict⟩)).symm
  | unidentified ns hverdict hidentity =>
    exact (admission_eq_unidentified.2 ⟨admits_iff.2 hverdict, hidentity⟩).symm
  | established hverdict hidentity h =>
    exact (admission_eq_established.2 ⟨admits_iff.2 hverdict, hidentity⟩).symm

theorem note_noteAll (ns : List Notice) (n : Notice) : (g.noteAll ns).note n = g.noteAll (ns ++ [n]) :=
  noteAll_append ns [n] ▸ rfl

/-- A client that is turned away is not asked about its identity. -/
theorem connect_of_not_admits (h : admits svc g.journal.entries q = false) :
    g.connect svc c conn q = (some (.error (.protocol .notAuthorized)),
      (g.record (.verify (login q))).noteAll (.connect c conn.address q ::
        verdictNotices svc c g.journal.entries q ++
          [.rejected c conn.address q.clientId q.username])) := by
  obtain ⟨v, hverifier, -⟩ := admits_eq_false.1 h
  have hconsulted : g.consulted svc q = g.record (.verify (login q)) := by
    rw [consulted, asked, hverifier]
    rfl
  rw [connect_eq, admission_eq_rejected.2 h, ← note_noteAll, ← hconsulted]
  rfl

theorem outcome_connect (svc : Service ε) (hc : g.connection? c = some conn) (q : Connect) :
    Outcome svc c conn g q (admission svc g.journal.entries q) (g.handle svc c conn (.connect q)) := by
  rw [handle_connect]
  cases ha : admission svc g.journal.entries q with
  | rejected =>
    have hadmits := admission_eq_rejected.1 ha
    obtain ⟨v, hverifier, hverdict⟩ := admits_eq_false.1 hadmits
    have hcalls : calls svc c conn g (.connect q) =
        [.verify (login q) (v ⟨login q, g.journal.entries⟩).accepted] := by
      unfold calls
      dsimp only
      rw [ha, hverifier]
      rfl
    have hblind : ∀ identify, g.handle { svc with handler := { svc.handler with identify } } c conn
        (.connect q) = g.handle svc c conn (.connect q) := fun identify => by
      have hadmits' : admits { svc with handler := { svc.handler with identify } } g.journal.entries q =
        false := hadmits
      rw [handle_connect, handle_connect, connect_of_not_admits hadmits, connect_of_not_admits hadmits']
      rfl
    rw [connect_of_not_admits hadmits]
    exact .rejected _ hverifier hverdict hcalls hblind
  | unidentified panic =>
    obtain ⟨hadmits, hidentity⟩ := admission_eq_unidentified.1 ha
    rw [connect_eq, ha, inquired, judged, record_noteAll]
    dsimp only
    rw [note_noteAll, note_noteAll]
    exact .unidentified _ (admits_iff.1 hadmits) hidentity
  | established i =>
    obtain ⟨hadmits, hidentity⟩ := admission_eq_established.1 ha
    rw [connect_eq, ha]
    exact .established (admits_iff.1 hadmits) hidentity (established_establish hc q i)

/-! ### Packets other than CONNECT -/

theorem handle_of_ne_connect (hp : ∀ q, p ≠ .connect q) :
    let g' := (g.handle svc c conn p).2
    g'.registry = g.registry ∧ g'.connections = g.connections ∧
      g'.journal.entries = g.journal.entries ∧ calls svc c conn g p = [] := by
  rcases handle_cases svc c conn p g with hk | ⟨q, -, -, hq, -⟩
  · refine ⟨hk.registry, hk.connections, entries_of_ne_connect hp, ?_⟩
    cases p with
    | connect q => exact absurd rfl (hp q)
    | _ => rfl
  · exact absurd hq (hp q)

/-! ### What is heard of arrivals -/

theorem heard_arrivals_work (svc : Service ε) (g : Gateway ε) :
    Event.heard Event.isOnline (g.work svc).journal.history =
      Event.heard Event.isOnline g.journal.history := by
  rw [heard_work]
  cases g.queue.dequeue? <;> exact List.append_nil _

/-- Among the calls of a packet there is an arrival exactly if a client is let in. -/
theorem filter_calls (h : g.Linked) (p : Packet) :
    ((calls svc c conn g p).filterMap Call.event?).filter Event.isOnline =
      (Occasion.admitted? svc ⟨c, conn, g, p⟩).toList := by
  cases p with
  | connect q =>
    have hverify : (svc.verifier.map fun v => (Call.verify (login q)
        (v ⟨login q, g.journal.entries⟩).accepted : Call ε ConnectionId)).toList.filterMap
          Call.event? = [] := by
      cases svc.verifier <;> rfl
    unfold calls Occasion.admitted?
    dsimp only
    rw [List.filterMap_append, hverify, List.nil_append]
    cases admission svc g.journal.entries q with
    | rejected => rfl
    | unidentified panic => rfl
    | established i =>
      dsimp only
      have hcoherent : (g.inquired svc c conn q).registry.Coherent := h.coherent
      rw [List.filterMap_cons_none rfl, Presence.events_listeners hcoherent, List.filter_append]
      cases Option.bind _ _ <;> rfl
  | _ => rfl

end Gateway

theorem Occasion.admitted?_eq_some {svc : Service ε} {o : Occasion ε} {e : Event} :
    o.admitted? svc = some e ↔ ∃ q i, o.packet = .connect q ∧
      Gateway.admission svc o.gateway.journal.entries q = .established i ∧ e = .online i o.id [] := by
  unfold admitted?
  cases o.packet with
  | connect q =>
    cases h : Gateway.admission svc o.gateway.journal.entries q <;> simp [h, eq_comm]
  | _ => simp

theorem Gains.arrivals (svc : Service ε) :
    Gains svc (fun g => Event.heard Event.isOnline g.journal.history) (Occasion.admitted? svc) where
  congr _ _ _ he := congrArg (fun es => Event.heard Event.isOnline (es.filterMap Journal.Entry.event?)) he
  after o hl _ := by
    rw [← Gateway.filter_calls hl]
    exact Event.heard_of_recorded Gateway.recorded_handle
  tearDown c g := Gateway.heard_tearDown (fun _ _ => rfl) c g

namespace Course

/-- A CONNECT comes to exactly one of three things, whatever the gateway is like, and only one of them
leaves more than notices and the record of what was asked: the client is let in. No other packet
changes the registry, makes itself heard, or calls a hook. What is heard of arrivals in a course are
the clients that were let in, in their order: the arrival of an identity on a connection is from a
CONNECT on that connection that the verifier, if there is one, accepted, and for which the mapping
gave that identity. -/
theorem connect_gated (svc : Service ε) (charset : Charset) (capacity : Nat) (as : List Action) :
    (∀ (g : Gateway ε) c conn, g.connection? c = some conn → ∀ q,
      ∃! a, Gateway.Outcome svc c conn g q a (g.handle svc c conn (.connect q))) ∧
    (∀ (g : Gateway ε) c conn p, (∀ q, p ≠ .connect q) → let g' := (g.handle svc c conn p).2
      g'.registry = g.registry ∧ g'.connections = g.connections ∧
        g'.journal.entries = g.journal.entries ∧ Gateway.calls svc c conn g p = []) ∧
    let history := (run svc as (start charset capacity)).gateway.journal.history
    let met := occasions svc as (start charset capacity)
    Event.heard Event.isOnline history = met.filterMap (Occasion.admitted? svc) ∧
    ∀ i c sent, .online i c sent ∈ history → ∃ o ∈ met, ∃ q, o.id = c ∧ o.packet = .connect q ∧
      (∀ v ∈ svc.verifier, (v ⟨Gateway.login q, o.gateway.journal.entries⟩).accepted = .ok true) ∧
      svc.handler.identify (Gateway.asked svc q o.gateway.journal.entries) q.clientId = .ok i := by
  have hheard := (Gains.arrivals svc).run (Gateway.heard_arrivals_work svc) (fun g => rfl)
    (.start charset capacity) as
  refine ⟨fun g c conn hc q => ?_, fun g c conn p hp => ?_, hheard, fun i c sent he => ?_⟩
  · exact ⟨_, Gateway.outcome_connect svc hc q, fun a ha => ha.eq_admission⟩
  · exact Gateway.handle_of_ne_connect hp
  · obtain ⟨o, ho, hadmitted⟩ := List.mem_filterMap.1 (hheard ▸ Event.mem_heard he rfl)
    obtain ⟨q, i', hq, hadmission, he⟩ := Occasion.admitted?_eq_some.1 hadmitted
    obtain ⟨rfl, rfl, -⟩ := Event.online.inj he
    obtain ⟨hadmits, hidentity⟩ := Gateway.admission_eq_established.1 hadmission
    exact ⟨o, ho, q, rfl, hq, Gateway.admits_iff.1 hadmits, hidentity⟩

end Course

end DeviceGateway
