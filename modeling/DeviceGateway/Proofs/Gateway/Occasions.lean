import DeviceGateway.Proofs.Gateway.Course
import DeviceGateway.Proofs.Gateway.Reading
import DeviceGateway.Proofs.Inbound.Queue
import DeviceGateway.Proofs.Session.Brackets

/-!
# The packets of a course

An `Occasion` is a packet that is handled, with the connection and the gateway as it finds them. Those
of a course are the ones of its reads, in their order (`Course.occasions`).

What happens in a turn is a `Stretch`: packets of the connection are handled, it may leave, and between
that only its own affairs are looked after (`Gateway.Idle`). Any step in which no connection is accepted
and the worker rests is a `Passage`: packets are handled, connections leave, and between that nothing
happens that has to do with messages, events or addresses (`Course.passage`). So a list that is read off
a gateway and that packets add to grows by what the packets of a passage add (`Passage.gains`), and what
packets and leaves keep is kept throughout (`Passage.keeps`).
-/

namespace DeviceGateway

variable {ε : Type}

/-- A packet that is handled, and what it finds. -/
structure Occasion (ε : Type) where
  id : ConnectionId
  connection : Connection
  gateway : Gateway ε
  packet : Packet

namespace Occasion

def after (svc : Service ε) (o : Occasion ε) : Gateway ε :=
  (o.gateway.handle svc o.id o.connection o.packet).2

def calls (svc : Service ε) (o : Occasion ε) : List (Call ε ConnectionId) :=
  Gateway.calls svc o.id o.connection o.gateway o.packet

def Live (o : Occasion ε) : Prop := o.gateway.connection? o.id = some o.connection

end Occasion

namespace Gateway

variable (svc : Service ε) (c : ConnectionId)

/-- The packets that `handleAll` handles. -/
def occasions : List Packet → Gateway ε → List (Occasion ε)
  | [], _ => []
  | p :: ps, g =>
    match g.connection? c with
    | none => []
    | some conn => ⟨c, conn, g, p⟩ :: match g.handle svc c conn p with
      | (none, g) => occasions ps g
      | _ => []

def occasionsOfTurn (now : Duration) (g : Gateway ε) : Signal → List (Occasion ε)
  | .bytes b =>
    match g.connection? c with
    | some conn =>
      let d := Drained.ofBuffer svc.packetLimit (conn.unread ++ b)
      occasions svc c d.packets
        (g.setConnection c { conn with deadline := now + svc.idleTimeout, unread := d.rest })
    | none => []
  | _ => []

variable {svc c}

/-- They are the packets that were handled, with the same calls. -/
theorem handled_eq_map (ps : List Packet) (g : Gateway ε) :
    handled svc c ps g = (occasions svc c ps g).map fun o => ⟨o.packet, o.calls svc⟩ := by
  induction ps generalizing g with
  | nil => rfl
  | cons p ps ih =>
    rw [handled, occasions]
    cases g.connection? c with
    | none => rfl
    | some conn =>
      dsimp only
      rcases g.handle svc c conn p with ⟨_ | e, g'⟩
      · exact congrArg (List.cons _) (ih g')
      · rfl

end Gateway

namespace Course

def occasionsOfStep (svc : Service ε) (s : Course ε) : Action → List (Occasion ε)
  | .turn c signal now _ => s.gateway.occasionsOfTurn svc c now signal
  | _ => []

/-- The packets of a course. -/
def occasions (svc : Service ε) : List Action → Course ε → List (Occasion ε)
  | [], _ => []
  | a :: as, s => s.occasionsOfStep svc a ++ occasions svc as (s.step svc a)

end Course

/-! ### Between packets -/

namespace Gateway

def addressOf? (g : Gateway ε) (c : ConnectionId) : Option SocketAddress :=
  (g.connection? c).map (·.address)

/-- Nothing happened to messages and events, and no connection came or went. -/
structure Quiet (g g' : Gateway ε) : Prop where
  queue : g'.queue = g.queue
  entries : g'.journal.entries = g.journal.entries
  next : g'.next = g.next
  address : ∀ c, g'.addressOf? c = g.addressOf? c
  charset : g'.outbound.charset = g.outbound.charset

/-- Nothing happened but to what connection `c` read, to its deadline and to what waits in its writer. -/
structure Idle (c : ConnectionId) (g g' : Gateway ε) : Prop extends Quiet g g' where
  registry : g'.registry = g.registry
  routes : g'.outbound.routes = g.outbound.routes
  writer : ∀ d, g'.writerOf? d = g.writerOf? d
  connections : ∀ d, d ≠ c → g'.connection? d = g.connection? d
  writers : ∀ n, g.writerOf? c ≠ some n → g'.outbound.writer? n = g.outbound.writer? n

variable {svc : Service ε} {g g' g'' : Gateway ε} {c : ConnectionId} {conn conn' : Connection}

namespace Idle

theorem note (n : Notice) : Idle c g (g.note n) :=
  ⟨⟨rfl, rfl, rfl, fun _ => rfl, rfl⟩, rfl, rfl, fun _ => rfl, fun _ _ => rfl, fun _ _ => rfl⟩

theorem setConnection (hc : g.connection? c = some conn) (ha : conn'.address = conn.address)
    (hw : conn'.writer = conn.writer) : Idle c g (g.setConnection c conn') := by
  refine ⟨⟨rfl, rfl, rfl, fun d => ?_, rfl⟩, rfl, rfl, writerOf?_setConnection hc hw, fun d hd => ?_,
    fun _ _ => rfl⟩
  · rw [addressOf?, connection?_setConnection hc]
    split
    · subst d
      rw [addressOf?, hc, Option.map_some, Option.map_some, ha]
    · rfl
  · rw [connection?_setConnection hc, if_neg hd]

theorem take (hw : g.writerOf? c = some conn.writer) :
    Idle c g { g with outbound := (g.outbound.take conn.writer).2 } := by
  have htable : g.outbound.SameTable (g.outbound.take conn.writer).2 := .take
  refine ⟨⟨rfl, rfl, rfl, fun _ => rfl, htable.charset⟩, rfl, htable.routes, fun _ => rfl,
    fun _ _ => rfl, fun n hn => ?_⟩
  have hne : conn.writer ≠ n := fun he => hn (he ▸ hw)
  show (g.outbound.take conn.writer).2.writer? n = _
  unfold Outbound.take
  split
  · exact List.getElem?_modify_ne _ _ hne
  · rfl

theorem flush (hw : g.writerOf? c = some conn.writer) (failure : Option String) :
    Idle c g (g.flush failure conn).gateway := by
  unfold Gateway.flush
  dsimp only
  split
  · split <;> exact .take hw
  · exact .take hw

end Idle

theorem queue_reply {p : Packet} : (g.reply c conn p).queue = g.queue := by
  unfold reply
  split <;> rfl

theorem addressOf?_handle (svc : Service ε) (hc : g.connection? c = some conn) (p : Packet)
    (d : ConnectionId) : (g.handle svc c conn p).2.addressOf? d = g.addressOf? d := by
  rcases handle_cases svc c conn p g with hk | ⟨q, i, j, -, hg⟩
  · rw [addressOf?, connection?, hk.connections]
    rfl
  · let noted : Gateway ε := { g with journal := j }
    have hset : Idle c noted (noted.setConnection c { conn with identity := some i }) :=
      .setConnection (show noted.connection? c = some conn from hc) rfl rfl
    rw [hg, addressOf?, connection?, connections_establish]
    exact hset.address d

theorem addressOf?_tearDown (svc : Service ε) (c d : ConnectionId) (g : Gateway ε) :
    (g.tearDown svc c).addressOf? d = if d = c then none else g.addressOf? d := by
  rw [addressOf?, connection?_tearDown]
  split <;> rfl

theorem writerOf?_handleAll (svc : Service ε) {n : Nat} (hw : g.writerOf? c = some n)
    (ps : List Packet) : (g.handleAll svc c ps).2.writerOf? c = some n := by
  refine handleAll_keeps (P := fun g => g.writerOf? c = some n) (fun g conn p hc hw => ?_) ps hw
  obtain ⟨i, hi⟩ := connection?_handle svc hc p
  rw [writerOf?, hc] at hw
  rw [writerOf?, hi]
  exact hw

/-! ### Passages -/

/-- On connection `c` some packets are handled, and it may leave. -/
inductive Stretch (svc : Service ε) (c : ConnectionId) (g : Gateway ε) :
    List (Occasion ε) → Gateway ε → Prop
  | refl : Stretch svc c g [] g
  | idle {os g' g''} : Stretch svc c g os g' → Idle c g' g'' → Stretch svc c g os g''
  | packet {os} {o : Occasion ε} : Stretch svc c g os o.gateway → o.gateway.Linked → o.Live →
    o.id = c → Stretch svc c g (os ++ [o]) (o.after svc)
  | leave {os g'} : Stretch svc c g os g' → Stretch svc c g os (g'.tearDown svc c)

namespace Stretch

variable {os : List (Occasion ε)}

theorem handleAll (h : Stretch svc c g os g') (hl : g'.Linked) (ps : List Packet) :
    Stretch svc c g (os ++ Gateway.occasions svc c ps g') (g'.handleAll svc c ps).2 := by
  induction ps generalizing os g' with
  | nil => exact (List.append_nil os).symm ▸ h
  | cons p ps ih =>
    rw [Gateway.handleAll, Gateway.occasions]
    cases hc : g'.connection? c with
    | none => exact (List.append_nil os).symm ▸ h
    | some conn =>
      have hp : Stretch svc c g (os ++ [⟨c, conn, g', p⟩]) (g'.handle svc c conn p).2 :=
        h.packet (o := ⟨c, conn, g', p⟩) hl hc rfl
      have hl' := (linked_handle svc hl hc p).1
      dsimp only
      rw [List.append_cons]
      generalize g'.handle svc c conn p = r at hp hl'
      rcases r with ⟨_ | e, g''⟩
      · exact ih hp hl'
      · exact (List.append_nil _).symm ▸ hp

theorem respond (svc : Service ε) (hg : g.Linked) (hc : g.connection? c = some conn) (failure : Option String)
    (now : Duration) (signal : Signal) : Stretch svc c g (g.occasionsOfTurn svc c now signal)
      (g.respond svc failure now c conn signal).gateway := by
  have hw : g.writerOf? c = some conn.writer := by rw [writerOf?, hc]; rfl
  cases signal with
  | bytes b =>
    simp only [Gateway.respond, occasionsOfTurn, hc]
    have hset : ∀ u, Idle c g
        (g.setConnection c { conn with deadline := now + svc.idleTimeout, unread := u }) :=
      fun u => .setConnection hc rfl rfl
    refine .idle ?_ (.flush ?_ failure)
    · rw [gateway_receive]
      exact Stretch.handleAll (.idle .refl (hset _)) (hg.setConnection hc rfl rfl) _
    · rw [gateway_receive]
      exact writerOf?_handleAll svc (((hset _).writer c).trans hw) _
  | writer =>
    have hflush : Stretch svc c g [] (g.flush failure conn).gateway := .idle .refl (.flush hw failure)
    simp only [Gateway.respond, occasionsOfTurn]
    split
    · exact hflush
    · exact hflush.idle (.note _)
  | endOfStream => exact .idle .refl (.note _)
  | readFailure e => exact .refl
  | clock => exact .refl

theorem turn (hg : g.Linked) (failure : Option String) (now : Duration) (c : ConnectionId)
    (signal : Signal) : Stretch svc c g (g.occasionsOfTurn svc c now signal)
      (g.turn svc failure now c signal).gateway := by
  unfold Gateway.turn
  cases hc : g.connection? c with
  | none =>
    have hnone : g.occasionsOfTurn svc c now signal = [] := by
      cases signal with
      | bytes b => simp only [occasionsOfTurn, hc]
      | _ => rfl
    exact hnone ▸ .refl
  | some conn =>
    have hrespond := Stretch.respond svc hg hc failure now signal
    dsimp only
    split
    · exact hrespond.leave
    · exact hrespond

end Stretch

/-- From one gateway to another some packets are handled, and connections may leave. -/
inductive Passage (svc : Service ε) (g : Gateway ε) : List (Occasion ε) → Gateway ε → Prop
  | refl : Passage svc g [] g
  | quiet {os g' g''} : Passage svc g os g' → Quiet g' g'' → Passage svc g os g''
  | packet {os} {o : Occasion ε} : Passage svc g os o.gateway → o.gateway.Linked → o.Live →
    Passage svc g (os ++ [o]) (o.after svc)
  | leave {os g'} (c) : Passage svc g os g' → Passage svc g os (g'.tearDown svc c)

theorem Stretch.passage {os : List (Occasion ε)} (h : Stretch svc c g os g') : Passage svc g os g' := by
  induction h with
  | refl => exact .refl
  | idle _ hi ih => exact ih.quiet hi.toQuiet
  | packet _ hl hlive _ ih => exact ih.packet hl hlive
  | leave _ ih => exact ih.leave c

end Gateway

open Gateway (Passage Quiet Stretch)

/-- No connection is accepted, and the worker has no part in it. -/
def Action.isPassage : Action → Bool
  | accept .. | work | stopWorker => false
  | _ => true

theorem Course.passage {svc : Service ε} {s : Course ε} (hs : s.Ledger) {a : Action}
    (ha : a.isPassage) :
    Passage svc s.gateway (s.occasionsOfStep svc a) (s.step svc a).gateway := by
  cases a with
  | turn c signal now failure => exact (Stretch.turn hs.linked failure now c signal).passage
  | shutDown c =>
    unfold step
    dsimp only
    split
    · exact Passage.refl.leave c
    · exact .refl
  | publish m =>
    exact Passage.refl.quiet
      ⟨rfl, s.gateway.toSurroundings.entries_publish m, rfl, fun _ => rfl,
        (s.gateway.toSurroundings.sameTable_publish m).charset⟩
  | closeAll =>
    have htable : s.gateway.outbound.SameTable s.gateway.outbound.closeAll := .closeAll
    exact Passage.refl.quiet ⟨rfl, rfl, rfl, fun _ => rfl, htable.charset⟩
  | accept now address => cases ha
  | work => cases ha
  | stopWorker => cases ha

/-! ### What grows by packets -/

/-- A list that is read off the queue and the history of a gateway. Packets may add an element to it,
and connections that leave do not. -/
structure Gains (svc : Service ε) {α : Type} (F : Gateway ε → List α)
    (gain : Occasion ε → Option α) : Prop where
  congr : ∀ g g' : Gateway ε, g'.queue = g.queue → g'.journal.entries = g.journal.entries → F g' = F g
  after : ∀ o : Occasion ε, o.gateway.Linked → o.Live →
    F (o.after svc) = F o.gateway ++ (gain o).toList
  tearDown : ∀ c g, F (g.tearDown svc c) = F g

theorem filterMap_singleton_toList {α β : Type} (f : α → Option β) (a : α) :
    [a].filterMap f = (f a).toList := by
  cases h : f a <;> simp [h]

section Gains

variable {svc : Service ε} {α : Type} {F : Gateway ε → List α} {gain : Occasion ε → Option α}
  {g g' : Gateway ε} {os : List (Occasion ε)}

theorem Gateway.Passage.gains (h : Passage svc g os g') (hF : Gains svc F gain) :
    F g' = F g ++ os.filterMap gain := by
  induction h with
  | refl => exact (List.append_nil _).symm
  | quiet _ hq ih => rw [hF.congr _ _ hq.queue hq.entries, ih]
  | packet _ hl hlive ih =>
    rw [hF.after _ hl hlive, ih, List.append_assoc, List.filterMap_append, filterMap_singleton_toList]
  | leave c _ ih => rw [hF.tearDown, ih]

/-- What the worker has no part in, the packets of a course add up to. -/
theorem Gains.run (h : Gains svc F gain) (hwork : ∀ g, F (g.work svc) = F g)
    (hstop : ∀ g, F g.stopWorker = F g) {s : Course ε} (hs : s.Ledger) (as : List Action) :
    F (s.run svc as).gateway = F s.gateway ++ (Course.occasions svc as s).filterMap gain := by
  induction as generalizing s with
  | nil => exact (List.append_nil _).symm
  | cons a as ih =>
    have hstep : F (s.step svc a).gateway =
        F s.gateway ++ (s.occasionsOfStep svc a).filterMap gain := by
      cases a with
      | work => exact (hwork s.gateway).trans (List.append_nil _).symm
      | stopWorker => exact (hstop s.gateway).trans (List.append_nil _).symm
      | accept now address =>
        refine Eq.trans ?_ (List.append_nil _).symm
        exact h.congr s.gateway _ rfl rfl
      | _ => exact (Course.passage hs rfl).gains h
    rw [Course.occasions, List.filterMap_append, ← List.append_assoc, ← hstep]
    exact ih (hs.step a)

end Gains

/-! ### What packets keep -/

structure Kept (svc : Service ε) (P : Gateway ε → Prop) : Prop where
  quiet : ∀ g g' : Gateway ε, Quiet g g' → P g → P g'
  after : ∀ o : Occasion ε, o.Live → P o.gateway → P (o.after svc)
  tearDown : ∀ c g, P g → P (g.tearDown svc c)

section Kept

variable {svc : Service ε} {P : Gateway ε → Prop} {g g' : Gateway ε} {os : List (Occasion ε)}

/-- It holds behind a passage, and each packet in between finds it. -/
theorem Gateway.Passage.keeps (h : Passage svc g os g') (hP : Kept svc P) (hg : P g) :
    P g' ∧ ∀ o ∈ os, o.Live ∧ P o.gateway := by
  induction h with
  | refl => exact ⟨hg, fun _ ho => absurd ho List.not_mem_nil⟩
  | quiet _ hq ih => exact ⟨hP.quiet _ _ hq ih.1, ih.2⟩
  | packet _ _ hlive ih =>
    refine ⟨hP.after _ hlive ih.1, List.forall_mem_append.2 ⟨ih.2, ?_⟩⟩
    exact List.forall_mem_singleton.2 ⟨hlive, ih.1⟩
  | leave c _ ih => exact ⟨hP.tearDown c _ ih.1, ih.2⟩

/-- No packet and no leave changes the charset. -/
theorem Kept.charset (svc : Service ε) (charset : Charset) :
    Kept svc fun g => g.outbound.charset = charset where
  quiet _ _ hq hg := hq.charset.trans hg
  after o _ hg := (Gateway.sameTable_handle svc o.id o.connection o.packet o.gateway).charset.trans hg
  tearDown c g hg := by
    cases hc : g.connection? c with
    | none => rwa [Gateway.tearDown_of_none hc]
    | some conn => exact (Gateway.sameTable_tearDown svc hc).charset.trans hg

end Kept

/-! ### What is heard -/

theorem entries_table (via : ConnectionId) (m : OutboundMessage) (w : Surroundings Outbound) :
    (Transport.table via m w).2.journal.entries = w.journal.entries :=
  w.entries_publish m

theorem history_table (via : ConnectionId) (m : OutboundMessage) (w : Surroundings Outbound) :
    (Transport.table via m w).2.journal.history = w.journal.history :=
  congrArg (List.filterMap Journal.Entry.event?) (entries_table via m w)

namespace Gateway

variable {svc : Service ε} {kind : Event → Bool} {g : Gateway ε}

/-- A connection that leaves calls the listener of departures at most. -/
theorem recorded_tearDown (svc : Service ε) (c : ConnectionId) (g : Gateway ε) :
    ∃ calls : List (Call ε ConnectionId),
      Presence.Recorded calls g.journal.entries (g.tearDown svc c).journal.entries ∧
      ∀ e ∈ calls.filterMap Call.event?, ∃ i d, e = .offline i d [] := by
  have hnone : Presence.Recorded ([] : List (Call ε ConnectionId)) g.journal.entries
    g.journal.entries := .refl
  unfold tearDown
  cases g.connection? c with
  | none => exact ⟨[], hnone, nofun⟩
  | some conn =>
    show ∃ calls : List (Call ε ConnectionId), Presence.Recorded calls g.journal.entries
      (Presence.offline svc.handler .table c _).2.journal.entries ∧ _
    unfold Presence.offline
    dsimp only
    cases g.registry.offline c with
    | none => exact ⟨[], hnone, nofun⟩
    | some r =>
      refine ⟨_, Presence.recorded_tellRetired entries_table, fun e he => ?_⟩
      cases hs : Option.bind (some r.1) g.registry.session? with
      | none => simp [hs] at he
      | some s =>
        simp only [hs, Option.map_some, Option.toList_some] at he
        exact ⟨_, _, List.mem_singleton.1 he⟩

theorem heard_tearDown (hkind : ∀ i c, kind (.offline i c []) = false) (c : ConnectionId)
    (g : Gateway ε) :
    Event.heard kind (g.tearDown svc c).journal.history = Event.heard kind g.journal.history := by
  obtain ⟨calls, hcalls, hoffline⟩ := recorded_tearDown svc c g
  have hnone : (calls.filterMap Call.event?).filter kind = [] :=
    List.filter_eq_nil_iff.2 fun e he => by
      obtain ⟨i, d, rfl⟩ := hoffline e he
      rw [hkind]
      exact Bool.false_ne_true
  rw [Event.heard_of_recorded hcalls, hnone, List.append_nil]

/-- When the worker handles a message, that is what is heard of. -/
theorem heard_work (svc : Service ε) (g : Gateway ε) :
    Event.heard kind (g.work svc).journal.history = Event.heard kind g.journal.history ++
      (g.queue.dequeue?.map fun r => r.1.event).toList.filter kind := by
  unfold work Inbox.work
  dsimp only
  cases g.queue.dequeue? with
  | none => exact (List.append_nil _).symm
  | some r =>
    exact Inbox.heard_handle history_table svc.handler r.1 g.toSurroundings

end Gateway

end DeviceGateway
