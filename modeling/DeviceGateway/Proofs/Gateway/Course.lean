import DeviceGateway.Inbound.Worker
import DeviceGateway.Proofs.Gateway.Links

/-!
# The course of a gateway

A course is what any interleaving of steps comes to: connections are accepted, take turns and are
shut down, the application publishes, and the worker works. It keeps book of the connections that
were accepted and of those that were torn down. The books are right (`Course.Ledger`, kept by every
step, `Ledger.step`), so what is left is exactly what belongs to the connections that are still there
(`Course.nothing_leaks`).
-/

namespace DeviceGateway

variable {ε : Type}

namespace Gateway

/-- The worker takes a message off the queue, if one waits, and handles it. -/
def work (svc : Service ε) (g : Gateway ε) : Gateway ε :=
  match Inbox.work svc.handler .table ⟨g.queue, .running⟩ g.toSurroundings with
  | some (_, b, w) => { g with toSurroundings := w, queue := b.queue }
  | none => g

/-- The worker stops, and the queue is closed. -/
def stopWorker (g : Gateway ε) : Gateway ε :=
  let (b, w) := Inbox.stop ⟨g.queue, .stopping⟩ g.toSurroundings
  { g with toSurroundings := w, queue := b.queue }

namespace Keeps

variable {g : Gateway ε}

theorem publish (m : OutboundMessage) : Keeps g (g.publish m).2 :=
  ⟨rfl, rfl, rfl, g.toSurroundings.sameTable_publish m⟩

theorem closeAll : Keeps g g.closeAll := ⟨rfl, rfl, rfl, .closeAll⟩

theorem work (svc : Service ε) : Keeps g (g.work svc) := by
  unfold Gateway.work Inbox.work
  cases g.queue.dequeue? with
  | none => exact .refl
  | some r =>
    obtain ⟨m, q⟩ := r
    refine ⟨rfl, rfl, rfl, ?_⟩
    exact Reaction.perform_keeps (P := fun _ => True) (J := g.outbound.SameTable)
      (fun m w _ hw => hw.trans (w.sameTable_publish m)) (fun _ _ => trivial) .refl

theorem stopWorker : Keeps g g.stopWorker := ⟨rfl, rfl, rfl, .refl⟩

end Keeps

end Gateway

inductive Action
  | accept (now : Duration) (address : SocketAddress)
  /-- something happened to a connection, which may end by it -/
  | turn (c : ConnectionId) (signal : Signal) (now : Duration) (writeFailure : Option String)
  /-- a connection is shut down -/
  | shutDown (c : ConnectionId)
  | publish (m : OutboundMessage)
  | closeAll
  | work
  | stopWorker

structure Course (ε : Type) where
  gateway : Gateway ε
  accepted : List ConnectionId := []
  /-- the connections that were torn down -/
  gone : List ConnectionId := []

namespace Course

def start (charset : Charset) (capacity : Nat) : Course ε := { gateway := .start charset capacity }

def step (svc : Service ε) (s : Course ε) : Action → Course ε
  | .accept now address =>
    let (c, g) := s.gateway.accept svc now address
    { s with gateway := g, accepted := c :: s.accepted }
  | .turn c signal now writeFailure =>
    let t := s.gateway.turn svc writeFailure now c signal
    { s with gateway := t.gateway, gone := if t.ended.isSome then c :: s.gone else s.gone }
  | .shutDown c =>
    if c ∈ s.accepted then { s with gateway := s.gateway.tearDown svc c, gone := c :: s.gone } else s
  | .publish m => { s with gateway := (s.gateway.publish m).2 }
  | .closeAll => { s with gateway := s.gateway.closeAll }
  | .work => { s with gateway := s.gateway.work svc }
  | .stopWorker => { s with gateway := s.gateway.stopWorker }

def run (svc : Service ε) (as : List Action) (s : Course ε) : Course ε := as.foldl (step svc) s

variable {svc : Service ε} {s : Course ε} {c : ConnectionId}

/-- The gateway is linked, and the connections in it are those in the books. -/
structure Ledger (s : Course ε) : Prop where
  linked : s.gateway.Linked
  live : ∀ c, (s.gateway.connection? c).isSome ↔ c ∈ s.accepted ∧ c ∉ s.gone
  raw_lt : ∀ c ∈ s.accepted, c.raw < s.gateway.next
  accepted : ∀ c ∈ s.gone, c ∈ s.accepted

namespace Ledger

theorem start (charset : Charset) (capacity : Nat) : (Course.start charset capacity : Course ε).Ledger where
  linked := .start charset capacity
  live _ := iff_of_false nofun fun h => List.not_mem_nil h.1
  raw_lt _ h := absurd h List.not_mem_nil
  accepted _ h := absurd h List.not_mem_nil

theorem of_keeps (h : s.Ledger) {g : Gateway ε} (hk : s.gateway.Keeps g) :
    Ledger { s with gateway := g } where
  linked := h.linked.of_keeps hk
  live c := by
    rw [← h.live c]
    exact (Gateway.SameIds.of_keeps hk).isSome_connection? c
  raw_lt c hc := by
    show c.raw < g.next
    rw [hk.next]
    exact h.raw_lt c hc
  accepted := h.accepted

theorem accept (h : s.Ledger) (now : Duration) (address : SocketAddress) :
    (s.step svc (.accept now address)).Ledger := by
  have hfresh : ⟨s.gateway.next⟩ ∉ s.accepted := fun hc => Nat.lt_irrefl _ (h.raw_lt _ hc)
  refine ⟨h.linked.accept now address, fun d => ?_, fun d hd => ?_, fun d hd => ?_⟩
  · show ((s.gateway.accept svc now address).2.connection? d).isSome ↔
      d ∈ ⟨s.gateway.next⟩ :: s.accepted ∧ d ∉ s.gone
    rw [Gateway.connection?_accept, List.mem_cons]
    by_cases hd : d = ⟨s.gateway.next⟩
    · subst d
      simpa using fun hg => hfresh (h.accepted _ hg)
    · simp only [hd, if_false, false_or]
      exact h.live d
  · show d.raw < s.gateway.next + 1
    rcases List.mem_cons.1 hd with rfl | hd
    · exact Nat.lt_succ_self _
    · exact Nat.lt_succ_of_lt (h.raw_lt d hd)
  · exact List.mem_cons_of_mem _ (h.accepted d hd)

theorem turn (h : s.Ledger) (c : ConnectionId) (signal : Signal) (now : Duration)
    (writeFailure : Option String) : (s.step svc (.turn c signal now writeFailure)).Ledger := by
  obtain ⟨hl, hnext, hended, hlive⟩ := Gateway.linked_turn svc writeFailure now h.linked c signal
  set t := s.gateway.turn svc writeFailure now c signal
  have hgone : ∀ d, d ∈ (s.step svc (.turn c signal now writeFailure)).gone ↔
      d ∈ s.gone ∨ (t.ended.isSome ∧ d = c) := fun d => by
    show d ∈ (if t.ended.isSome then c :: s.gone else s.gone) ↔ _
    split
    · simp [*, or_comm]
    · simp [*]
  refine ⟨hl, fun d => ?_, fun d hd => ?_, fun d hd => ?_⟩
  · rw [hgone]
    show (t.gateway.connection? d).isSome ↔ d ∈ s.accepted ∧ _
    rw [hlive, h.live]
    tauto
  · show d.raw < t.gateway.next
    rw [hnext]
    exact h.raw_lt d hd
  · rcases (hgone d).1 hd with hd | ⟨he, rfl⟩
    · exact h.accepted d hd
    · exact ((h.live d).1 (hended he)).1

theorem shutDown (h : s.Ledger) (c : ConnectionId) : (s.step svc (.shutDown c)).Ledger := by
  show Ledger (if c ∈ s.accepted then _ else s)
  split
  · rename_i hc
    refine ⟨h.linked.tearDown, fun d => ?_, fun d hd => ?_, fun d hd => ?_⟩
    · show ((s.gateway.tearDown svc c).connection? d).isSome ↔ d ∈ s.accepted ∧ d ∉ c :: s.gone
      rw [Gateway.connection?_tearDown, List.mem_cons]
      by_cases hd : d = c
      · simp [hd]
      · simp only [hd, if_false, false_or]
        exact h.live d
    · show d.raw < (s.gateway.tearDown svc c).next
      rw [Gateway.next_tearDown]
      exact h.raw_lt d hd
    · rcases List.mem_cons.1 hd with rfl | hd
      · exact hc
      · exact h.accepted d hd
  · exact h

theorem step (h : s.Ledger) (a : Action) : (s.step svc a).Ledger := by
  cases a with
  | accept now address => exact h.accept now address
  | turn c signal now writeFailure => exact h.turn c signal now writeFailure
  | shutDown c => exact h.shutDown c
  | publish m => exact h.of_keeps (.publish m)
  | closeAll => exact h.of_keeps .closeAll
  | work => exact h.of_keeps (.work svc)
  | stopWorker => exact h.of_keeps .stopWorker

theorem run (h : s.Ledger) (as : List Action) : (Course.run svc as s).Ledger := by
  induction as generalizing s with
  | nil => exact h
  | cons a as ih => exact ih (h.step a)

end Ledger

/-! ### What the books say -/

theorem gone_run (as : List Action) (hc : c ∈ s.gone) : c ∈ (run svc as s).gone := by
  induction as generalizing s with
  | nil => exact hc
  | cons a as ih =>
    refine ih ?_
    cases a with
    | turn d signal now writeFailure =>
      show c ∈ (if _ then d :: s.gone else s.gone)
      split
      · exact List.mem_cons_of_mem _ hc
      · exact hc
    | shutDown d =>
      show c ∈ (if d ∈ s.accepted then _ else s).gone
      split
      · exact List.mem_cons_of_mem _ hc
      · exact hc
    | _ => exact hc

namespace Ledger

theorem mem_keys (h : s.Ledger) :
    c ∈ s.gateway.outbound.routes.keys ↔ c ∈ s.accepted ∧ c ∉ s.gone := by
  rw [← h.live, ← Gateway.isSome_writerOf?, ← h.linked.route]
  exact Index.isSome_get?.symm

theorem connection?_of_gone (h : s.Ledger) (hc : c ∈ s.gone) : s.gateway.connection? c = none := by
  rw [← Option.not_isSome_iff_eq_none, h.live]
  exact fun hl => hl.2 hc

theorem route?_of_gone (h : s.Ledger) (hc : c ∈ s.gone) : s.gateway.outbound.route? c = none := by
  rw [h.linked.route, Gateway.writerOf?, h.connection?_of_gone hc]
  rfl

/-- A registered session is on a connection that is there and speaks for its identity. -/
theorem of_holds (h : s.Ledger) {n : Nat} {r : Session ε ConnectionId}
    (hr : s.gateway.registry.Holds n r) : r.connection ∈ s.accepted ∧ r.connection ∉ s.gone ∧
      ∃ conn, s.gateway.connection? r.connection = some conn ∧ conn.identity = some r.identity := by
  obtain ⟨conn, hconn, hi⟩ := Option.bind_eq_some_iff.1 (h.linked.identity n r hr)
  obtain ⟨hacc, hgone⟩ := (h.live r.connection).1 (hconn ▸ rfl)
  exact ⟨hacc, hgone, conn, hconn, hi⟩

theorem not_holds_of_gone (h : s.Ledger) (hc : c ∈ s.gone) {n : Nat} {r : Session ε ConnectionId}
    (hr : s.gateway.registry.Holds n r) : r.connection ≠ c :=
  fun he => (h.of_holds hr).2.1 (he ▸ hc)

theorem lookupConnection?_of_gone (h : s.Ledger) (hc : c ∈ s.gone) :
    s.gateway.registry.lookupConnection? c = none := by
  refine Option.eq_none_iff_forall_ne_some.2 fun n hn => ?_
  obtain ⟨r, hr, he⟩ := h.linked.coherent.ofConnection c n hn
  exact h.not_holds_of_gone hc hr he

theorem publish_of_gone (h : s.Ledger) {m : OutboundMessage} (hm : m.connection ∈ s.gone) :
    ((s.gateway.publish m).1 = .error .emptyTopic ∨ (s.gateway.publish m).1 = .error .emptyContent ∨
      (s.gateway.publish m).1 = .error (.notConnected m.connection)) ∧
    (s.gateway.publish m).2.outbound = s.gateway.outbound := by
  have hpublish : ∀ {e}, s.gateway.outbound.publish m = .error e →
      (s.gateway.publish m).1 = .error e ∧ (s.gateway.publish m).2.outbound = s.gateway.outbound :=
    fun he => Surroundings.publish_of_error (w := s.gateway.toSurroundings) he
  rcases Outbound.publish_of_route_eq_none (h.route?_of_gone hm) with he | he | he
  · exact ⟨.inl (hpublish he).1, (hpublish he).2⟩
  · exact ⟨.inr (.inl (hpublish he).1), (hpublish he).2⟩
  · exact ⟨.inr (.inr (hpublish he).1), (hpublish he).2⟩

end Ledger

/-- After any interleaving of steps: the table has the connections that were accepted and not torn
down, each with a writer of its own. Every registered session, by either index, is on one of these,
goes out through it, and the connection speaks for the identity of the session. A connection that
was torn down never comes back, what is published to it later is turned away and changes no writer,
and to tear it down again changes nothing. When all are torn down, nothing is left. -/
theorem nothing_leaks (svc : Service ε) (charset : Charset) (capacity : Nat) (as : List Action) :
    let s := run svc as (start charset capacity)
    let g := s.gateway
    (∀ c, c ∈ g.outbound.routes.keys ↔ c ∈ s.accepted ∧ c ∉ s.gone) ∧
    (∀ c n, g.outbound.route? c = some n → (g.outbound.writer? n).isSome ∧
      (∃ conn, g.connection? c = some conn ∧ conn.writer = n) ∧
      ∀ d, g.outbound.route? d = some n → d = c) ∧
    (∀ n, ((∃ i, g.registry.lookup? i = some n) ∨ ∃ c, g.registry.lookupConnection? c = some n) →
      ∃ r, g.registry.session? n = some r ∧ g.registry.lookup? r.identity = some n ∧
        g.registry.lookupConnection? r.connection = some n ∧ r.publisher = r.connection ∧
        r.connection ∈ s.accepted ∧ r.connection ∉ s.gone ∧
        ∃ conn, g.connection? r.connection = some conn ∧ conn.identity = some r.identity) ∧
    (∀ c ∈ s.gone, ∀ bs, let later := (run svc bs s).gateway
      later.outbound.route? c = none ∧ later.registry.lookupConnection? c = none ∧
      (∀ i n r, later.registry.lookup? i = some n → later.registry.session? n = some r →
        r.connection ≠ c) ∧
      ∀ m, m.connection = c → ((later.publish m).1 = .error .emptyTopic ∨
        (later.publish m).1 = .error .emptyContent ∨
        (later.publish m).1 = .error (.notConnected c)) ∧
        (later.publish m).2.outbound = later.outbound) ∧
    (∀ c ∈ s.gone, g.tearDown svc c = g) ∧
    ((∀ c ∈ s.accepted, c ∈ s.gone) → g.outbound.routes.entries = [] ∧ g.registry.size = 0 ∧
      g.registry.connectionCount = 0) := by
  intro s g
  have hs : s.Ledger := (Ledger.start charset capacity).run as
  refine ⟨fun c => hs.mem_keys, fun c n hn => ?_, fun n hn => ?_, fun c hc bs => ?_, fun c hc => ?_,
    fun hall => ?_⟩
  · have hw : g.writerOf? c = some n := hs.linked.route c ▸ hn
    have hlt : n < g.outbound.writers.length := hs.linked.writer_lt c n hw
    refine ⟨?_, Option.map_eq_some_iff.1 hw, fun d hd => ?_⟩
    · rw [Outbound.writer?, List.getElem?_eq_getElem hlt]
      rfl
    · exact hs.linked.writer_inj d c n (hs.linked.route d ▸ hd) hw
  · obtain ⟨r, hr⟩ : ∃ r, g.registry.Holds n r := by
      rcases hn with ⟨i, hi⟩ | ⟨c, hc⟩
      · obtain ⟨r, hr, -⟩ := hs.linked.coherent.ofIdentity i n hi
        exact ⟨r, hr⟩
      · obtain ⟨r, hr, -⟩ := hs.linked.coherent.ofConnection c n hc
        exact ⟨r, hr⟩
    obtain ⟨hacc, hgone, hconn⟩ := hs.of_holds hr
    exact ⟨r, hr.session, hr.identity, hr.connection, hs.linked.publisher n r hr, hacc, hgone, hconn⟩
  · have hlater : (run svc bs s).Ledger := hs.run bs
    have hgone : c ∈ (run svc bs s).gone := gone_run bs hc
    refine ⟨hlater.route?_of_gone hgone, hlater.lookupConnection?_of_gone hgone,
      fun i n r hi hr => ?_, fun m hm => ?_⟩
    · obtain ⟨r', hr', -⟩ := hlater.linked.coherent.ofIdentity i n hi
      obtain rfl : r = r' := Option.some.inj (hr.symm.trans hr'.session)
      exact hlater.not_holds_of_gone hgone hr'
    · subst hm
      exact hlater.publish_of_gone hgone
  · exact Gateway.tearDown_of_none (hs.connection?_of_gone hc)
  · have hnone : ∀ c, g.connection? c = none := fun c => by
      rw [← Option.not_isSome_iff_eq_none, hs.live]
      exact fun hl => hl.2 (hall c hl.1)
    -- a registered session would be on a connection
    have hsession : ∀ n r, ¬ g.registry.Holds n r := fun n r hr => by
      obtain ⟨-, -, conn, hconn, -⟩ := hs.of_holds hr
      rw [hnone] at hconn
      cases hconn
    have hroutes : g.outbound.routes.entries = [] := Index.entries_eq_nil fun c => by
      show g.outbound.route? c = none
      rw [hs.linked.route, Gateway.writerOf?, hnone]
      rfl
    have hsize : g.registry.size = 0 := by
      refine List.length_eq_zero_iff.2 (Index.entries_eq_nil fun i => ?_)
      refine Option.eq_none_iff_forall_ne_some.2 fun n hn => ?_
      obtain ⟨r, hr, -⟩ := hs.linked.coherent.ofIdentity i n hn
      exact hsession n r hr
    exact ⟨hroutes, hsize, hs.linked.coherent.size_eq ▸ hsize⟩

end Course

end DeviceGateway
