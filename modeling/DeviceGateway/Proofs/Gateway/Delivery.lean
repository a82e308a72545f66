import DeviceGateway.Proofs.Gateway.Occasions
import DeviceGateway.Proofs.Gateway.Replies

/-!
# What becomes of messages

The queue gains the message of a packet exactly if it has room for it (`Occasion.queue_after`), and
the worker gives the application the message that waits longest. So the messages that were given, with
those that wait behind them, are those that the queue had room for (`Course.given_run`). The message
handler runs on each of them, and it runs on nothing else (`Course.handles_run`). When the queue has
no room, it is full or the worker has stopped (`Course.queue_of_mem`); which address a message has is
settled when its connection is accepted (`Course.addressed_of_mem`). `Course.messages_in_order` is all
of it.

In a course the worker works between reads. That is no loss, since a read may be cut where the worker
comes in (`Gateway.readAll_agrees`).
-/

namespace DeviceGateway

variable {ε : Type}

/-! ### The message of a packet -/

namespace Occasion

/-- The message that a packet carries, if it does. -/
def message? (svc : Service ε) (o : Occasion ε) : Option (Inbound ConnectionId) :=
  match o.packet with
  | .publish p => some ⟨o.id, p.topic, svc.charset.decode p.payload, o.connection.address, o.id⟩
  | _ => none

def hasRoom (o : Occasion ε) : Bool := o.gateway.queue.hasRoom

def taken? (svc : Service ε) (o : Occasion ε) : Option (Inbound ConnectionId) :=
  if o.hasRoom then o.message? svc else none

variable {svc : Service ε} {o : Occasion ε}

theorem message?_eq_some {m : Inbound ConnectionId} : o.message? svc = some m ↔
    ∃ p, o.packet = .publish p ∧
      m = ⟨o.id, p.topic, svc.charset.decode p.payload, o.connection.address, o.id⟩ := by
  unfold message?
  cases o.packet <;> simp [eq_comm]

end Occasion

namespace Gateway

variable {svc : Service ε} {g : Gateway ε} {c : ConnectionId} {conn : Connection} {p : Packet}

theorem queue_answer : (g.answer c conn p).queue = g.queue := by
  unfold answer
  split
  · exact queue_reply
  · rfl

theorem queue_enqueue (m : Inbound ConnectionId) :
    (g.enqueue c conn m).queue = (g.queue.enqueue m).toOption.getD g.queue := by
  unfold enqueue
  split <;> rename_i h <;> rw [h] <;> rfl

theorem queue_connect (q : Connect) : (g.connect svc c conn q).2.queue = g.queue := by
  rw [connect_eq]
  cases admission svc g.journal.entries q with
  | rejected => rfl
  | unidentified panic => rfl
  | established i => exact queue_reply

theorem queue_tearDown (c : ConnectionId) (g : Gateway ε) : (g.tearDown svc c).queue = g.queue := by
  unfold tearDown
  split <;> rfl

end Gateway

theorem Occasion.queue_after (svc : Service ε) (o : Occasion ε) : (o.after svc).queue =
    ((o.message? svc).bind fun m => (o.gateway.queue.enqueue m).toOption).getD o.gateway.queue := by
  obtain ⟨c, conn, g, p⟩ := o
  unfold after message?
  dsimp only
  cases p using Gateway.connectCases with
  | connect q => exact Gateway.queue_connect q
  | other p hp =>
    rw [Gateway.handle_eq hp]
    have hanswer : ((g.noteAll (Gateway.notices c conn p)).answer c conn p).queue = g.queue :=
      Gateway.queue_answer
    cases p with
    | connect q => exact absurd rfl (hp q)
    | publish p =>
      refine (Gateway.queue_enqueue _).trans ?_
      rw [hanswer]
      rfl
    | _ => exact hanswer

/-! ### What was given -/

/-- The message that the worker would give to the application. -/
def Gateway.given? (svc : Service ε) (g : Gateway ε) : Option (Inbound ConnectionId) :=
  (Inbox.work svc.handler .table ⟨g.queue, .running⟩ g.toSurroundings).map (·.1)

namespace Course

def givenAtStep (svc : Service ε) (s : Course ε) : Action → Option (Inbound ConnectionId)
  | .work => s.gateway.given? svc
  | _ => none

/-- The messages that the application was given in a course. -/
def given (svc : Service ε) : List Action → Course ε → List (Inbound ConnectionId)
  | [], _ => []
  | a :: as, s => (s.givenAtStep svc a).toList ++ given svc as (s.step svc a)

variable {svc : Service ε} {s : Course ε}

/-- The messages that the application was given in a course, each with the gateway in which the worker
came to it. -/
def handled (svc : Service ε) : List Action → Course ε → List (Gateway ε × Inbound ConnectionId)
  | [], _ => []
  | a :: as, s =>
    ((s.givenAtStep svc a).map (s.gateway, ·)).toList ++ handled svc as (s.step svc a)

theorem map_snd_handled (as : List Action) (s : Course ε) :
    (handled svc as s).map Prod.snd = given svc as s := by
  induction as generalizing s with
  | nil => rfl
  | cons a as ih =>
    rw [handled, given, List.map_append, ih, ← Option.toList_map, Option.map_map]
    cases s.givenAtStep svc a <;> rfl

/-- What every step keeps, the worker finds at each message. -/
theorem forall_handled {P : Course ε → Prop} (hstep : ∀ s a, P s → P (s.step svc a)) (hs : P s)
    (as : List Action) : ∀ r ∈ handled svc as s, ∃ t : Course ε, P t ∧ t.gateway = r.1 ∧
      r.1.given? svc = some r.2 := by
  induction as generalizing s with
  | nil => exact fun _ hr => absurd hr List.not_mem_nil
  | cons a as ih =>
    refine List.forall_mem_append.2 ⟨fun r hr => ?_, ih (hstep s a hs)⟩
    obtain ⟨m, hm, rfl⟩ := Option.map_eq_some_iff.1 (Option.mem_toList.1 hr)
    cases a with
    | work => exact ⟨s, hs, rfl, hm⟩
    | _ => cases hm

end Course

theorem Gains.waiting (svc : Service ε) :
    Gains svc (fun g => g.queue.waiting) (Occasion.taken? svc) where
  congr _ _ hq _ := congrArg MessageQueue.waiting hq
  after o _ _ := by
    rw [o.queue_after, Occasion.taken?, Occasion.hasRoom]
    cases o.message? svc with
    | none => simp
    | some m =>
      refine (MessageQueue.waiting_getD _ m).trans ?_
      split <;> rfl
  tearDown c g := congrArg MessageQueue.waiting (Gateway.queue_tearDown c g)

namespace Gateway

variable {svc : Service ε} {g : Gateway ε}

theorem given?_eq (svc : Service ε) (g : Gateway ε) : g.given? svc = g.queue.dequeue?.map (·.1) := by
  rw [given?, Inbox.work, Option.map_map]
  rfl

theorem queue_work (svc : Service ε) (g : Gateway ε) :
    (g.work svc).queue = (g.queue.dequeue?.map (·.2)).getD g.queue := by
  unfold work Inbox.work
  cases hq : g.queue.dequeue? <;> rfl

theorem waiting_work (svc : Service ε) (g : Gateway ε) :
    (g.given? svc).toList ++ (g.work svc).queue.waiting = g.queue.waiting := by
  rw [given?_eq, queue_work]
  cases hq : g.queue.dequeue? with
  | none => rfl
  | some r => exact (MessageQueue.waiting_dequeue? hq).symm

end Gateway

namespace Course

variable {svc : Service ε} {s : Course ε}

theorem given_step (hs : s.Ledger) (a : Action) :
    (s.givenAtStep svc a).toList ++ (s.step svc a).gateway.queue.waiting =
      s.gateway.queue.waiting ++ (s.occasionsOfStep svc a).filterMap (Occasion.taken? svc) := by
  cases a with
  | work => exact (Gateway.waiting_work svc s.gateway).trans (List.append_nil _).symm
  | stopWorker => exact (List.append_nil s.gateway.queue.waiting).symm
  | accept now address => exact (List.append_nil s.gateway.queue.waiting).symm
  | _ => exact (passage hs rfl).gains (.waiting svc)

/-- What was given and what waits is what waited at first and what was taken since. -/
theorem given_run (hs : s.Ledger) (as : List Action) :
    given svc as s ++ (run svc as s).gateway.queue.waiting =
      s.gateway.queue.waiting ++ (occasions svc as s).filterMap (Occasion.taken? svc) := by
  induction as generalizing s with
  | nil => exact (List.append_nil _).symm
  | cons a as ih =>
    have hnext : (s.step svc a).Ledger := hs.step a
    -- the worker takes from the front, and packets put at the end
    calc
      _ = (s.givenAtStep svc a).toList ++ (given svc as (s.step svc a) ++
          (run svc as (s.step svc a)).gateway.queue.waiting) := List.append_assoc ..
      _ = ((s.givenAtStep svc a).toList ++ (s.step svc a).gateway.queue.waiting) ++
          (occasions svc as (s.step svc a)).filterMap (Occasion.taken? svc) := by
        rw [ih hnext, List.append_assoc]
      _ = _ := by rw [given_step hs, List.append_assoc, ← List.filterMap_append, occasions]

end Course

/-! ### What the message handler did -/

namespace Journal

/-- The calls of the message handler, in their order. -/
def messages (j : Journal) : List Event := (j.history.filter Event.isMessage).reverse

theorem heard_eq_map_messages (j : Journal) :
    Event.heard Event.isMessage j.history = j.messages.map Event.bare := by
  have hbare : Event.isMessage ∘ Event.bare = Event.isMessage := funext fun e => by cases e <;> rfl
  rw [Event.heard, messages, List.map_reverse, List.filter_map, hbare]

/-- Among the calls of the other hooks there is none of the message handler. -/
theorem messages_of_recorded {π : Type} {calls : List (Call ε π)} {j j' : Journal}
    (h : Presence.Recorded calls j.entries j'.entries) : j'.messages = j.messages := by
  obtain ⟨es, hes, hbare⟩ := h.history
  have hnone : es.filter Event.isMessage = [] := List.filter_eq_nil_iff.2 fun e he => by
    obtain ⟨call, -, hcall⟩ := List.mem_filterMap.1 (hbare ▸ List.mem_map_of_mem he)
    cases e with
    | message _ _ _ _ => cases call <;> cases hcall
    | _ => exact Bool.false_ne_true
  rw [messages, hes, List.filter_append, List.filter_reverse, hnone]
  rfl

end Journal

theorem Gains.messages (svc : Service ε) : Gains svc (fun g => g.journal.messages) fun _ => none where
  congr _ _ _ he := congrArg (fun es => Journal.messages ⟨[], es⟩) he
  after _ _ _ := (Journal.messages_of_recorded Gateway.recorded_handle).trans (List.append_nil _).symm
  tearDown c g := by
    obtain ⟨_, hcalls, -⟩ := Gateway.recorded_tearDown svc c g
    exact Journal.messages_of_recorded hcalls

namespace Course

variable {svc : Service ε} {s : Course ε}

/-- The worker came to a message, and ran the message handler on it. -/
structure Handles (svc : Service ε) (r : Gateway ε × Inbound ConnectionId)
    (p : Performance ε ConnectionId) : Prop where
  message : p.inbound? = some r.2
  leads : p.Leads svc.handler .table r.1.toSurroundings (r.1.work svc).toSurroundings

/-- A step makes a call of the message handler exactly if the worker comes to a message. -/
theorem handles_step (svc : Service ε) (hs : s.Ledger) (a : Action) : ∃ ps, List.Forall₂ (Handles svc)
      ((s.givenAtStep svc a).map (s.gateway, ·)).toList ps ∧
    (s.step svc a).gateway.journal.messages =
      s.gateway.journal.messages ++ ps.map (·.event) := by
  cases a with
  | work =>
    rw [givenAtStep, Gateway.given?_eq]
    show ∃ ps, _ ∧ (s.gateway.work svc).journal.messages = _
    cases hq : s.gateway.queue.dequeue? with
    | none =>
      have hidle : s.gateway.work svc = s.gateway := by
        simp only [Gateway.work, Inbox.work, hq, Option.map_none]
      exact ⟨[], .nil, by rw [hidle]; exact (List.append_nil _).symm⟩
    | some r =>
      obtain ⟨sent, hleads⟩ := Inbox.leads_handle svc.handler .table r.1 s.gateway.toSurroundings
      have hwork : (s.gateway.work svc).toSurroundings =
          Inbox.handle svc.handler .table r.1 s.gateway.toSurroundings := by
        simp only [Gateway.work, Inbox.work, hq, Option.map_some]
      refine ⟨[.message r.1 sent], .cons ⟨rfl, hwork ▸ hleads⟩ .nil, ?_⟩
      rw [hwork, Journal.messages, hleads.history history_table]
      exact List.reverse_cons
  | stopWorker => exact ⟨[], .nil, (List.append_nil _).symm⟩
  | accept now address => exact ⟨[], .nil, (List.append_nil _).symm⟩
  | _ =>
    refine ⟨[], .nil, ((passage hs rfl).gains (.messages svc)).trans (congrArg₂ (· ++ ·) rfl ?_)⟩
    exact List.filterMap_eq_nil_iff.2 fun _ _ => rfl

/-- The message handler ran on the messages that the worker came to, and on no other. -/
theorem handles_run (svc : Service ε) (hs : s.Ledger) (as : List Action) : ∃ ps,
    List.Forall₂ (Handles svc) (handled svc as s) ps ∧
    (run svc as s).gateway.journal.messages =
      s.gateway.journal.messages ++ ps.map (·.event) := by
  induction as generalizing s with
  | nil => exact ⟨[], .nil, (List.append_nil _).symm⟩
  | cons a as ih =>
    obtain ⟨ps, hps, hstep⟩ := handles_step svc hs a
    obtain ⟨qs, hqs, hrun⟩ := ih (hs.step a)
    refine ⟨ps ++ qs, List.rel_append hps hqs, ?_⟩
    rw [List.map_append, ← List.append_assoc, ← hstep]
    exact hrun

/-- What the message handler ran on is what the application hears of. -/
theorem heard_of_handles {ps : List (Performance ε ConnectionId)} {as : List Action}
    (h : List.Forall₂ (Handles svc) (handled svc as s) ps) :
    ps.map (fun p => p.event.bare) = (given svc as s).map Inbound.event := by
  refine Performance.map_bare_event ?_
  rw [← map_snd_handled, List.map_map]
  refine List.forall₂_eq_eq_eq ▸ List.forall₂_map_left_iff.2 (List.forall₂_map_right_iff.2 ?_)
  exact h.flip.imp fun p r hr => hr.message

end Course

/-! ### What a packet finds -/

section Queue

variable {Q : MessageQueue (Inbound ConnectionId) → Prop}
  (henqueue : ∀ q m r, q.enqueue m = .ok r → Q q → Q r)
include henqueue

theorem Kept.queue (svc : Service ε) : Kept svc fun g => Q g.queue where
  quiet _ _ hq hg := hq.queue.symm ▸ hg
  after o _ hg := by
    rw [o.queue_after]
    cases o.message? svc with
    | none => exact hg
    | some m =>
      rw [Option.bind_some]
      cases hm : o.gateway.queue.enqueue m with
      | ok r => exact henqueue _ m r hm hg
      | error e => exact hg
  tearDown c g hg := (Gateway.queue_tearDown c g).symm ▸ hg

variable (hdequeue : ∀ q m r, q.dequeue? = some (m, r) → Q q → Q r) (svc : Service ε) {s : Course ε}
include hdequeue

theorem Course.queue_step (hs : s.Ledger) {a : Action}
    (hclose : a = .stopWorker → ∀ q, Q q → Q q.close) (hQ : Q s.gateway.queue) :
    Q (s.step svc a).gateway.queue ∧ ∀ o ∈ s.occasionsOfStep svc a, Q o.gateway.queue := by
  have hnone : ∀ o ∈ ([] : List (Occasion ε)), Q o.gateway.queue := fun _ ho =>
    absurd ho List.not_mem_nil
  cases ha : a.isPassage with
  | true =>
    obtain ⟨hbehind, hmet⟩ := (passage hs ha).keeps (Kept.queue henqueue svc) hQ
    exact ⟨hbehind, fun o ho => (hmet o ho).2⟩
  | false =>
    cases a with
    | work =>
      refine ⟨?_, hnone⟩
      show Q (s.gateway.work svc).queue
      rw [Gateway.queue_work]
      cases hq : s.gateway.queue.dequeue? with
      | none => exact hQ
      | some r => exact hdequeue _ r.1 r.2 hq hQ
    | stopWorker => exact ⟨hclose rfl _ hQ, hnone⟩
    | accept now address => exact ⟨hQ, hnone⟩
    | _ => cases ha

/-- What enqueueing, dequeueing and closing keep, every packet finds. -/
theorem Course.queue_of_mem (hs : s.Ledger) (as : List Action)
    (hclose : .stopWorker ∈ as → ∀ q, Q q → Q q.close) (hQ : Q s.gateway.queue) :
    ∀ o ∈ occasions svc as s, Q o.gateway.queue := by
  induction as generalizing s with
  | nil => exact fun _ ho => absurd ho List.not_mem_nil
  | cons a as ih =>
    obtain ⟨hbehind, hmet⟩ := queue_step henqueue hdequeue svc hs
      (fun ha => hclose (ha ▸ List.mem_cons_self)) hQ
    exact List.forall_mem_append.2
      ⟨hmet, ih (hs.step a) (fun ha => hclose (List.mem_cons_of_mem _ ha)) hbehind⟩

end Queue

namespace Action

/-- The address of a connection that is accepted. -/
def address? : Action → Option SocketAddress
  | accept _ address => some address
  | _ => none

theorem address?_of_isPassage {a : Action} (ha : a.isPassage) : a.address? = none := by
  cases a with
  | accept now address => cases ha
  | _ => rfl

end Action

namespace Gateway

variable {svc : Service ε} {g g' : Gateway ε} {l : List SocketAddress}

/-- The connections were accepted with these addresses, and are numbered in this order. -/
structure Addressed (l : List SocketAddress) (g : Gateway ε) : Prop where
  next : g.next = l.length + 1
  address : ∀ c a, g.addressOf? c = some a → ∃ k, c = ⟨k + 1⟩ ∧ l[k]? = some a

theorem next_handle (c : ConnectionId) (conn : Connection) (p : Packet) :
    (g.handle svc c conn p).2.next = g.next := by
  rcases handle_cases svc c conn p g with hk | ⟨q, i, ns, -, hg⟩
  · exact hk.next
  · rw [hg]
    exact (SameIds.establish q i).next

namespace Addressed

theorem congr (h : g.Addressed l) (hn : g'.next = g.next)
    (ha : ∀ c, g'.addressOf? c = g.addressOf? c) : g'.Addressed l where
  next := hn.trans h.next
  address c a hc := h.address c a (ha c ▸ hc)

theorem kept (svc : Service ε) (l : List SocketAddress) : Kept svc (Addressed l) where
  quiet _ _ hq hg := hg.congr hq.next hq.address
  after o hlive hg :=
    hg.congr (next_handle o.id o.connection o.packet) (addressOf?_handle svc hlive o.packet)
  tearDown c g hg := by
    refine ⟨next_tearDown.trans hg.next, fun d a hd => ?_⟩
    rw [addressOf?_tearDown] at hd
    split at hd
    · cases hd
    · exact hg.address d a hd

theorem accept (h : g.Addressed l) (now : Duration) (address : SocketAddress) :
    (g.accept svc now address).2.Addressed (l ++ [address]) := by
  refine ⟨?_, fun c a hc => ?_⟩
  · rw [List.length_append]
    exact congrArg (· + 1) h.next
  · rw [addressOf?, connection?_accept] at hc
    split at hc
    · cases hc
      refine ⟨l.length, ?_, List.getElem?_concat_length⟩
      rw [← h.next]
      assumption
    · obtain ⟨k, hk, hold⟩ := h.address c a hc
      refine ⟨k, hk, ?_⟩
      rw [List.getElem?_append_left (List.getElem?_eq_some_iff.1 hold).1, hold]

end Addressed

end Gateway

namespace Course

variable {svc : Service ε} {s : Course ε} {l : List SocketAddress}

theorem addressed_step (svc : Service ε) (hs : s.Ledger) (h : s.gateway.Addressed l) (a : Action) :
    (s.step svc a).gateway.Addressed (l ++ a.address?.toList) ∧
      ∀ o ∈ s.occasionsOfStep svc a, o.Live ∧ o.gateway.Addressed l := by
  have hnone : ∀ o ∈ ([] : List (Occasion ε)), o.Live ∧ o.gateway.Addressed l := fun _ ho =>
    absurd ho List.not_mem_nil
  have hsame : l = l ++ ([] : List SocketAddress) := (List.append_nil l).symm
  cases ha : a.isPassage with
  | true =>
    rw [Action.address?_of_isPassage ha, Option.toList_none, ← hsame]
    exact (passage hs ha).keeps (Gateway.Addressed.kept svc l) h
  | false =>
    cases a with
    | accept now address => exact ⟨h.accept now address, hnone⟩
    | work =>
      have hk := Gateway.Keeps.work (g := s.gateway) svc
      have haddress : ∀ c, (s.gateway.work svc).addressOf? c = s.gateway.addressOf? c := fun c =>
        congrArg (fun i => (i.get? c).map (·.address)) hk.connections
      exact ⟨hsame ▸ h.congr hk.next haddress, hnone⟩
    | stopWorker => exact ⟨hsame ▸ h.congr rfl fun _ => rfl, hnone⟩
    | _ => cases ha

/-- The packets of a connection find the address that it was accepted with. -/
theorem addressed_of_mem (hs : s.Ledger) (h : s.gateway.Addressed l) (as : List Action) :
    ∀ o ∈ occasions svc as s, ∃ k, o.id = ⟨k + 1⟩ ∧
      (l ++ as.filterMap Action.address?)[k]? = some o.connection.address := by
  induction as generalizing s l with
  | nil => exact fun _ ho => absurd ho List.not_mem_nil
  | cons a as ih =>
    obtain ⟨hbehind, hmet⟩ := addressed_step svc hs h a
    refine List.forall_mem_append.2 ⟨fun o ho => ?_, fun o ho => ?_⟩
    · obtain ⟨hlive, haddressed⟩ := hmet o ho
      have haddress : o.gateway.addressOf? o.id = some o.connection.address := by
        rw [Gateway.addressOf?, show o.gateway.connection? o.id = _ from hlive]
        rfl
      obtain ⟨k, hk, hl⟩ := haddressed.address _ _ haddress
      refine ⟨k, hk, ?_⟩
      rw [List.getElem?_append_left (List.getElem?_eq_some_iff.1 hl).1, hl]
    · have happend : l ++ (a :: as).filterMap Action.address? =
          (l ++ a.address?.toList) ++ as.filterMap Action.address? := by
        rw [List.append_assoc, ← filterMap_singleton_toList, ← List.filterMap_append]
        rfl
      rw [happend]
      exact ih (hs.step a) hbehind o ho

/-! ### All of it -/

/-- The packets of a read are those of the octets, up to one that ends the connection. -/
theorem packets_of_bytes {c : ConnectionId} {conn : Connection}
    (hc : s.gateway.connection? c = some conn) (now : Duration) (b : Bytes)
    (failure : Option String) :
    UpTo Occasion.packet (fun o => Gateway.ends svc o.gateway.journal.entries o.packet)
      (Drained.ofBuffer svc.packetLimit (conn.unread ++ b)).packets
      (s.occasionsOfStep svc (.turn c (.bytes b) now failure)) := by
  simp only [occasionsOfStep, Gateway.occasionsOfTurn, hc]
  set d := Drained.ofBuffer svc.packetLimit (conn.unread ++ b)
  set conn' : Connection := { conn with deadline := now + svc.idleTimeout, unread := d.rest }
  have hconn : (s.gateway.setConnection c conn').connection? c = some conn' :=
    (Gateway.connection?_setConnection hc c).trans (if_pos rfl)
  have hpackets := (Gateway.follows_handleEach svc hconn d.packets).packets
  rw [Gateway.handleEach, Gateway.handled_eq_map] at hpackets
  have hends : ∀ o : Occasion ε, (⟨o.packet, o.calls svc⟩ : Handled ε).ends =
      Gateway.ends svc o.gateway.journal.entries o.packet := fun o => by
    obtain ⟨_, hcalls, -⟩ := Gateway.exists_calls_eq svc o.id o.connection o.gateway o.packet
    exact Gateway.ends_of_calls hcalls
  have hoccasions := hpackets.of_map
  simp only [hends] at hoccasions
  exact hoccasions

theorem filter_taken (svc : Service ε) (c : ConnectionId) (os : List (Occasion ε)) :
    (os.filterMap (Occasion.taken? svc)).filter (·.connection = c) =
      (os.filter (·.id = c)).filterMap (Occasion.taken? svc) := by
  rw [List.filter_filterMap, List.filterMap_filter]
  refine List.filterMap_congr fun o _ => ?_
  unfold Occasion.taken? Occasion.message?
  cases o.hasRoom <;> cases o.packet <;> simp [Option.filter]

/-- A packet finds no room exactly if the queue is closed or full. -/
theorem hasRoom_eq_false_of_mem {charset : Charset} {capacity : Nat} {as : List Action}
    {o : Occasion ε} (ho : o ∈ occasions svc as (start charset capacity)) :
    o.hasRoom = false ↔ o.gateway.queue.isOpen = false ∨
      o.gateway.queue.waiting.length = Settings.orDefault Settings.defaultQueueCapacity capacity := by
  have hwithin : o.gateway.queue.Within (Settings.orDefault Settings.defaultQueueCapacity capacity) :=
    queue_of_mem (fun _ _ _ => .enqueue) (fun _ _ _ => .dequeue) svc (.start charset capacity) as
      (fun _ _ => .close) ⟨rfl, Nat.zero_le _⟩ o ho
  have hle := hwithin.length_le
  rw [Occasion.hasRoom, MessageQueue.hasRoom, hwithin.capacity, Bool.and_eq_false_iff,
    decide_eq_false_iff_not]
  exact or_congr_right ⟨fun h => Nat.le_antisymm hle (Nat.not_lt.1 h), fun h => Nat.not_lt.2 h.ge⟩

/-- Only the worker closes the queue. -/
theorem stopWorker_mem_of_closed {charset : Charset} {capacity : Nat} {as : List Action}
    {o : Occasion ε} (ho : o ∈ occasions svc as (start charset capacity))
    (hclosed : o.gateway.queue.isOpen = false) : .stopWorker ∈ as := by
  by_contra hstop
  have hopen : o.gateway.queue.isOpen :=
    queue_of_mem (Q := fun q => q.isOpen) (fun q m r h hq => (MessageQueue.enqueue_eq_ok h).2.2 ▸ hq)
      (fun q m r h hq => (MessageQueue.capacity_dequeue? h).2 ▸ hq) svc (.start charset capacity) as
      (fun h => absurd h hstop) rfl o ho
  rw [hclosed] at hopen
  cases hopen

/-- Messages from devices are delivered in order and once. In any course, the messages that the
application was given so far, with those that wait, are the messages of the packets that were handled,
in that order, without those that found no room in the queue. The message handler is run once on each
message that the application is given, in the state in which the worker came to it, and it is not
called otherwise; what it sent and whether it gave up is what that step leaves. A packet finds no room
exactly if the queue is full or closed, and only the worker closes it when it stops. A message has the
identifier, the address and the publisher of the connection that it came on, the topic of its packet,
and what the charset makes of the payload; connections are numbered from one on as they are accepted.
The same holds for the messages of each connection alone, and the packets that are handled in a read
are those of the octets that were read, in their order, up to the first that ends the connection. -/
theorem messages_in_order (svc : Service ε) (charset : Charset) (capacity : Nat)
    (as : List Action) :
    let s := run svc as (start charset capacity)
    let met := occasions svc as (start charset capacity)
    let given := given svc as (start charset capacity)
    let waiting := s.gateway.queue.waiting
    let limit := Settings.orDefault Settings.defaultQueueCapacity capacity
    given ++ waiting = (met.filter Occasion.hasRoom).filterMap (Occasion.message? svc) ∧
    (∃ ps, List.Forall₂ (Handles svc) (handled svc as (start charset capacity)) ps ∧
      s.gateway.journal.messages = ps.map (·.event)) ∧
    Event.heard Event.isMessage s.gateway.journal.history = given.map Inbound.event ∧
    (∀ o ∈ met, (o.hasRoom = false ↔
        o.gateway.queue.isOpen = false ∨ o.gateway.queue.waiting.length = limit) ∧
      (o.gateway.queue.isOpen = false → .stopWorker ∈ as)) ∧
    (∀ o ∈ met, ∀ m, o.message? svc = some m → m.connection = o.id ∧ m.publisher = o.id ∧
      (∃ k, o.id = ⟨k + 1⟩ ∧ (as.filterMap Action.address?)[k]? = some m.address) ∧
      ∃ p, o.packet = .publish p ∧ m.topic = p.topic ∧ m.content = svc.charset.decode p.payload) ∧
    (∀ c, (given ++ waiting).filter (·.connection = c) =
      ((met.filter (·.id = c)).filter Occasion.hasRoom).filterMap (Occasion.message? svc)) ∧
    ∀ (s : Course ε) c conn now b failure, s.gateway.connection? c = some conn →
      UpTo Occasion.packet (fun o => Gateway.ends svc o.gateway.journal.entries o.packet)
        (Drained.ofBuffer svc.packetLimit (conn.unread ++ b)).packets
        (s.occasionsOfStep svc (.turn c (.bytes b) now failure)) := by
  intro s met given waiting limit
  have hstart : (start charset capacity : Course ε).Ledger := .start charset capacity
  have hgiven : given ++ waiting = met.filterMap (Occasion.taken? svc) := given_run hstart as
  have htaken : ∀ os : List (Occasion ε), os.filterMap (Occasion.taken? svc) =
      (os.filter Occasion.hasRoom).filterMap (Occasion.message? svc) := fun os =>
    List.filterMap_filter.symm
  obtain ⟨ps, hps, hmessages⟩ := handles_run svc hstart as
  have hheard : Event.heard Event.isMessage s.gateway.journal.history = given.map Inbound.event := by
    rw [Journal.heard_eq_map_messages, hmessages, ← heard_of_handles hps]
    exact List.map_map
  refine ⟨hgiven.trans (htaken met), ⟨ps, hps, hmessages⟩, hheard, fun o ho =>
    ⟨hasRoom_eq_false_of_mem ho, stopWorker_mem_of_closed ho⟩, fun o ho m hm => ?_, fun c => ?_,
    fun s c conn now b failure hc => packets_of_bytes hc now b failure⟩
  · obtain ⟨p, hp, rfl⟩ := Occasion.message?_eq_some.1 hm
    have hnone : (start charset capacity : Course ε).gateway.Addressed [] := ⟨rfl, nofun⟩
    exact ⟨rfl, rfl, addressed_of_mem hstart hnone as o ho, p, hp, rfl, rfl⟩
  · rw [hgiven, filter_taken, htaken]

end Course

end DeviceGateway
