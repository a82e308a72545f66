import DeviceGateway.Proofs.Inbound.Queue

/-!
# The shift of a worker

A `Shift` is a queue with its worker from the start of the worker to its exit. Producers offer
messages, the worker takes one or rests, it is asked to stop, and it exits, in any interleaving; a
move that the phase does not allow changes nothing. The shift keeps book of the messages that the
queue took in and of those that the worker handled. Every move keeps the books in order
(`Shift.Regular.moved`): what was handled, with what waits behind it, is what was taken in, and the
message handler ran on each message that was handled. Once the worker was asked to stop, a second
request changes nothing (`Shift.run_requestStop`), and from its exit on nothing is handled any more
(`Shift.run_of_stopped`). `Shift.first_come_first_served` is all of it.
-/

namespace DeviceGateway

structure Shift (π τ : Type) where
  inbox : Inbox π
  surroundings : Surroundings τ
  /-- the messages that the queue took in, in order -/
  accepted : List (Inbound π) := []
  /-- the messages that the worker handled, in order -/
  handled : List (Inbound π) := []
  hasProducers : Bool := true

namespace Shift

inductive Move (π : Type)
  | enqueue (m : Inbound π)
  /-- the last producer goes -/
  | hangUp
  | work
  | requestStop
  | exit

variable {ε π τ : Type}

/-- A worker with an empty queue that takes as many messages as the capacity says. -/
def start (capacity : Nat) (w : Surroundings τ) : Shift π τ :=
  let (b, w) := Inbox.start ⟨.bounded capacity, .idle⟩ w
  { inbox := b, surroundings := w }

def waiting (s : Shift π τ) : List (Inbound π) := s.inbox.queue.waiting

def atWork (s : Shift π τ) : Bool := s.inbox.phase = .running ∨ s.inbox.phase = .stopping

/-- A worker stops when it was asked to, or when no message waits and none can come. -/
def mayExit (s : Shift π τ) : Bool :=
  s.inbox.phase = .stopping ∨
    s.inbox.phase = .running ∧ s.hasProducers = false ∧ s.inbox.queue.size = 0

def step (h : Handler ε π) (publish : Transport π τ) (s : Shift π τ) : Move π → Shift π τ
  | .enqueue m =>
    if s.hasProducers then
      match s.inbox.queue.enqueue m with
      | .ok q => { s with inbox := { s.inbox with queue := q }, accepted := s.accepted ++ [m] }
      | .error _ => s
    else s
  | .hangUp => { s with hasProducers := false }
  | .work =>
    if s.atWork then
      match Inbox.work h publish s.inbox s.surroundings with
      | some (m, b, w) => { s with inbox := b, surroundings := w, handled := s.handled ++ [m] }
      | none => s
    else s
  | .requestStop => { s with inbox := s.inbox.requestStop }
  | .exit =>
    if s.mayExit then
      let (b, w) := s.inbox.stop s.surroundings
      { s with inbox := b, surroundings := w }
    else s

def run (h : Handler ε π) (publish : Transport π τ) (moves : List (Move π)) (s : Shift π τ) :
    Shift π τ :=
  moves.foldl (step h publish) s

variable {h : Handler ε π} {publish : Transport π τ} {s : Shift π τ} {limit : Nat}

theorem run_append (as bs : List (Move π)) (s : Shift π τ) :
    run h publish (as ++ bs) s = run h publish bs (run h publish as s) :=
  List.foldl_append

/-! ### What a move does -/

theorem step_enqueue_of_error {m : Inbound π} {e : QueueError (Inbound π)}
    (he : s.inbox.queue.enqueue m = .error e) : s.step h publish (.enqueue m) = s := by
  simp only [step, he]
  split <;> rfl

theorem step_work_of_atWork (h : Handler ε π) (publish : Transport π τ) {m : Inbound π}
    {rest : List (Inbound π)} (hs : s.atWork) (hw : s.waiting = m :: rest) :
    ∃ q, s.inbox.queue.dequeue? = some (m, q) ∧ q.waiting = rest ∧
      s.step h publish .work = { s with
        inbox := { s.inbox with queue := q }
        surroundings := Inbox.handle h publish m s.surroundings
        handled := s.handled ++ [m] } := by
  obtain ⟨q, hq, hrest⟩ := MessageQueue.exists_dequeue? hw
  refine ⟨q, hq, hrest, ?_⟩
  rw [step, if_pos hs, Inbox.work, hq]
  rfl

theorem step_work_of_not_atWork (hs : s.atWork = false) : s.step h publish .work = s := by
  rw [step, hs]
  rfl

theorem step_work_of_waiting_eq_nil (hw : s.waiting = []) : s.step h publish .work = s := by
  rw [step, Inbox.work, MessageQueue.dequeue?_eq_none.2 hw]
  split <;> rfl

theorem step_exit (hs : s.mayExit) : s.step h publish .exit = { s with
    inbox := ⟨s.inbox.queue.close, .stopped⟩
    surroundings := (s.inbox.stop s.surroundings).2 } := by
  rw [step, if_pos hs]
  rfl

/-- All that a move can do: a message is taken in, the worker handles the one that waits longest, a
producer goes, the worker is asked to stop or exits, or nothing happens. -/
inductive Moved (h : Handler ε π) (publish : Transport π τ) (s : Shift π τ) : Shift π τ → Prop
  | idle : Moved h publish s s
  | accepts {m q} (hq : s.inbox.queue.enqueue m = .ok q) : Moved h publish s
      { s with inbox := { s.inbox with queue := q }, accepted := s.accepted ++ [m] }
  | handles {m q} (hs : s.atWork) (hq : s.inbox.queue.dequeue? = some (m, q)) : Moved h publish s
      { s with
        inbox := { s.inbox with queue := q }
        surroundings := Inbox.handle h publish m s.surroundings
        handled := s.handled ++ [m] }
  | hangsUp : Moved h publish s { s with hasProducers := false }
  | asked (hs : s.inbox.phase = .running) :
      Moved h publish s { s with inbox := { s.inbox with phase := .stopping } }
  | exits (hs : s.mayExit) : Moved h publish s { s with
      inbox := ⟨s.inbox.queue.close, .stopped⟩
      surroundings := (s.inbox.stop s.surroundings).2 }

theorem moved_step (h : Handler ε π) (publish : Transport π τ) (s : Shift π τ) (a : Move π) :
    Moved h publish s (s.step h publish a) := by
  cases a with
  | enqueue m =>
    cases he : s.inbox.queue.enqueue m with
    | error e =>
      rw [step_enqueue_of_error he]
      exact .idle
    | ok q =>
      simp only [step, he]
      split
      · exact .accepts he
      · exact .idle
  | hangUp => exact .hangsUp
  | work =>
    by_cases hs : s.atWork
    · cases hw : s.waiting with
      | nil =>
        rw [step_work_of_waiting_eq_nil hw]
        exact .idle
      | cons m rest =>
        obtain ⟨q, hq, -, hstep⟩ := step_work_of_atWork h publish hs hw
        rw [hstep]
        exact .handles hs hq
    · rw [step_work_of_not_atWork (Bool.eq_false_iff.2 hs)]
      exact .idle
  | requestStop =>
    simp only [step, Inbox.requestStop]
    split
    · exact .asked ‹_›
    · exact .idle
  | exit =>
    by_cases hs : s.mayExit
    · rw [step_exit hs]
      exact .exits hs
    · rw [step, if_neg hs]
      exact .idle

/-! ### The books -/

/-- The books of a worker that was started in `w` with a queue for `limit` messages. -/
structure Regular (h : Handler ε π) (publish : Transport π τ) (limit : Nat) (w : Surroundings τ)
    (s : Shift π τ) : Prop where
  within : s.inbox.queue.Within limit
  started : s.inbox.phase ≠ .idle
  closed : s.inbox.queue.isOpen = false ↔ s.inbox.phase = .stopped
  order : s.handled ++ s.waiting = s.accepted
  /-- the message handler ran on each message that was handled -/
  performed : ∃ ps, Performances h publish w ps s.surroundings ∧
    ps.map Performance.inbound? = s.handled.map some

theorem ne_stopped_of_atWork (hs : s.atWork) : s.inbox.phase ≠ .stopped := by
  intro hp
  simp [atWork, hp] at hs

namespace Regular

variable {w : Surroundings τ} {s' : Shift π τ}

theorem start (h : Handler ε π) (publish : Transport π τ) (capacity : Nat) (w : Surroundings τ) :
    Regular h publish (Settings.orDefault Settings.defaultQueueCapacity capacity) w
      (Shift.start capacity w) where
  within := ⟨rfl, Nat.zero_le _⟩
  started := nofun
  closed := iff_of_false nofun nofun
  order := rfl
  performed := ⟨[], .note .workerStarted .refl, rfl⟩

theorem moved (hr : s.Regular h publish limit w) (hm : Moved h publish s s') :
    s'.Regular h publish limit w := by
  cases hm with
  | idle => exact hr
  | @accepts m q hq =>
    have hopen := (MessageQueue.enqueue_eq_ok hq).2.2
    refine ⟨hr.within.enqueue hq, hr.started, hopen ▸ hr.closed, ?_, hr.performed⟩
    show s.handled ++ q.waiting = s.accepted ++ [m]
    rw [MessageQueue.waiting_enqueue hq, ← List.append_assoc]
    exact congrArg (· ++ [m]) hr.order
  | @handles m q hs hq =>
    have hopen := (MessageQueue.capacity_dequeue? hq).2
    refine ⟨hr.within.dequeue hq, hr.started, hopen ▸ hr.closed, ?_, ?_⟩
    · -- the message goes from the front of the queue to the end of the book
      have hwaiting : s.waiting = m :: q.waiting := MessageQueue.waiting_dequeue? hq
      show (s.handled ++ [m]) ++ q.waiting = s.accepted
      rw [← hr.order, hwaiting, List.append_assoc]
      rfl
    · obtain ⟨ps, hps, hmessages⟩ := hr.performed
      obtain ⟨sent, hleads⟩ := Inbox.leads_handle h publish m s.surroundings
      refine ⟨ps ++ [.message m sent], hps.call hleads, ?_⟩
      rw [List.map_append, List.map_append, hmessages]
      rfl
  | hangsUp => exact ⟨hr.within, hr.started, hr.closed, hr.order, hr.performed⟩
  | asked hs =>
    refine ⟨hr.within, nofun, ?_, hr.order, hr.performed⟩
    rw [hr.closed, hs]
    exact iff_of_false nofun nofun
  | exits hs =>
    obtain ⟨ps, hps, hmessages⟩ := hr.performed
    exact ⟨hr.within.close, nofun, iff_of_true rfl rfl, hr.order,
      ps, (hps.note (.workerAbandons s.inbox.queue.size)).note .workerStopped, hmessages⟩

theorem run (hr : s.Regular h publish limit w) (moves : List (Move π)) :
    (Shift.run h publish moves s).Regular h publish limit w := by
  induction moves generalizing s with
  | nil => exact hr
  | cons a moves ih => exact ih (hr.moved (moved_step h publish s a))

theorem atWork (hr : s.Regular h publish limit w) (hp : s.inbox.phase ≠ .stopped) : s.atWork := by
  have hidle := hr.started
  unfold Shift.atWork
  cases hphase : s.inbox.phase <;> simp_all

end Regular

/-! ### The end of a shift -/

/-- When the worker has stopped, all that may still happen is that the last producer goes. -/
theorem Moved.of_stopped {s' : Shift π τ} (hm : Moved h publish s s')
    (hp : s.inbox.phase = .stopped) (hc : s.inbox.queue.isOpen = false) :
    ∃ b, s' = { s with hasProducers := b } := by
  cases hm with
  | idle => exact ⟨s.hasProducers, rfl⟩
  | accepts hq =>
    have hroom := (MessageQueue.enqueue_eq_ok hq).1
    rw [MessageQueue.hasRoom, hc] at hroom
    cases hroom
  | handles hs hq => exact absurd hp (ne_stopped_of_atWork hs)
  | hangsUp => exact ⟨false, rfl⟩
  | asked hs =>
    rw [hp] at hs
    cases hs
  | exits hs => simp [mayExit, hp] at hs

theorem run_of_stopped (h : Handler ε π) (publish : Transport π τ)
    (hp : s.inbox.phase = .stopped) (hc : s.inbox.queue.isOpen = false) (moves : List (Move π)) :
    ∃ b, run h publish moves s = { s with hasProducers := b } := by
  induction moves generalizing s with
  | nil => exact ⟨s.hasProducers, rfl⟩
  | cons a moves ih =>
    obtain ⟨b, hb⟩ := (moved_step h publish s a).of_stopped hp hc
    show ∃ b, run h publish moves (s.step h publish a) = _
    rw [hb]
    exact ih hp hc

/-- An exit leaves what waits, and nothing that comes later has anything to do with it. -/
theorem run_exit (h : Handler ε π) (publish : Transport π τ) (hs : s.mayExit)
    (later : List (Move π)) : ∃ b, run h publish later (s.step h publish .exit) =
      { s.step h publish .exit with hasProducers := b } := by
  rw [step_exit hs]
  exact run_of_stopped h publish rfl rfl later

def Asked (s : Shift π τ) : Prop := s.inbox.phase = .stopping ∨ s.inbox.phase = .stopped

theorem asked_requestStop (hs : s.inbox.phase ≠ .idle) : (s.step h publish .requestStop).Asked := by
  simp only [step, Inbox.requestStop, Asked]
  cases hp : s.inbox.phase with
  | idle => exact absurd hp hs
  | running => exact .inl rfl
  | stopping => exact .inl hp
  | stopped => exact .inr hp

theorem requestStop_of_asked (hs : s.Asked) : { s with inbox := s.inbox.requestStop } = s := by
  have hp : s.inbox.phase ≠ .running := by
    rcases hs with hs | hs <;> rw [hs] <;> exact nofun
  rw [Inbox.requestStop, if_neg hp]

theorem Asked.run (hs : s.Asked) (moves : List (Move π)) : (run h publish moves s).Asked := by
  induction moves generalizing s with
  | nil => exact hs
  | cons a moves ih =>
    refine ih ?_
    have hm := moved_step h publish s a
    generalize s.step h publish a = s' at hm ⊢
    cases hm with
    | asked _ => exact .inl rfl
    | exits _ => exact .inr rfl
    | _ => exact hs

/-- Once the worker was asked to stop, asking it again changes nothing, however late. -/
theorem run_requestStop (hs : s.inbox.phase ≠ .idle) (later : List (Move π)) :
    run h publish (later ++ [.requestStop]) (s.step h publish .requestStop) =
      run h publish later (s.step h publish .requestStop) := by
  rw [run_append]
  have hasked : (run h publish later (s.step h publish .requestStop)).Asked :=
    (asked_requestStop hs).run later
  exact requestStop_of_asked hasked

/-! ### What the application has no say in -/

theorem step_setSurroundings (h h' : Handler ε π) (publish : Transport π τ) (s : Shift π τ)
    (w : Surroundings τ) (a : Move π) : ∃ w', { s with surroundings := w }.step h' publish a =
      { s.step h publish a with surroundings := w' } := by
  cases a with
  | enqueue m =>
    refine ⟨w, ?_⟩
    simp only [step]
    split
    · split <;> rfl
    · rfl
  | work =>
    cases hs : s.atWork with
    | false =>
      refine ⟨w, ?_⟩
      rw [step_work_of_not_atWork hs]
      exact step_work_of_not_atWork hs
    | true =>
      cases hw : s.waiting with
      | nil =>
        refine ⟨w, ?_⟩
        rw [step_work_of_waiting_eq_nil hw]
        exact step_work_of_waiting_eq_nil hw
      | cons m rest =>
        obtain ⟨q, hq, -, hstep⟩ := step_work_of_atWork h publish hs hw
        obtain ⟨q', hq', -, hstep'⟩ := step_work_of_atWork h' publish
          (s := { s with surroundings := w }) hs hw
        obtain ⟨-, rfl⟩ := Prod.mk.inj (Option.some.inj (hq.symm.trans hq'))
        rw [hstep, hstep']
        exact ⟨_, rfl⟩
  | hangUp => exact ⟨w, rfl⟩
  | requestStop => exact ⟨w, rfl⟩
  | exit =>
    cases hs : s.mayExit with
    | false =>
      refine ⟨w, ?_⟩
      have hs' : Shift.mayExit { s with surroundings := w } = false := hs
      rw [step, step, hs, hs']
      rfl
    | true =>
      refine ⟨(s.inbox.stop w).2, ?_⟩
      have hs' : Shift.mayExit { s with surroundings := w } = true := hs
      rw [step, step, if_pos hs, if_pos hs']
      rfl

/-- The books and the queue are the same whatever the application does when it is called, and whether
it gives up. -/
theorem run_setSurroundings (h h' : Handler ε π) (publish : Transport π τ)
    (moves : List (Move π)) (s : Shift π τ) (w : Surroundings τ) :
    ∃ w', run h' publish moves { s with surroundings := w } =
      { run h publish moves s with surroundings := w' } := by
  induction moves generalizing s w with
  | nil => exact ⟨w, rfl⟩
  | cons a moves ih =>
    obtain ⟨v, hv⟩ := step_setSurroundings h h' publish s w a
    obtain ⟨w', hw'⟩ := ih (s.step h publish a) v
    refine ⟨w', ?_⟩
    show run h' publish moves (Shift.step h' publish { s with surroundings := w } a) = _
    rw [hv, hw']
    rfl

/-! ### All of it -/

/-- Whatever producers, worker and application do, and in any interleaving. No more messages wait than
the capacity says, which is 100000 if it says zero. A message is turned away as full exactly if so many
wait and the worker has not stopped, and as closed exactly if it has stopped; it is handed back, and
nothing changes. Any other message goes to the end of the queue. What the worker handled, with what
waits behind it, is what was taken in, in that order. The message handler is run once on each message
that is handled, one after the other, and what surrounds the worker is what these runs left; what the
application does there, giving up included, has no influence on the books. As long as the worker has
not stopped it can take the message that waits longest, and the message handler is run on it. The worker
can exit once it was asked to stop, or when no producer is left and no message waits; then what waits is
abandoned, and it is all that was taken in and not handled. To ask it a second time changes nothing. -/
theorem first_come_first_served (publish : Transport π τ)
    (hpublish : ∀ via m (w : Surroundings τ),
      (publish via m w).2.journal.history = w.journal.history)
    (h : Handler ε π) (capacity : Nat) (w : Surroundings τ) (moves : List (Move π)) :
    let limit := if capacity = 0 then 100000 else capacity
    let s := run h publish moves (start capacity w)
    s.waiting.length ≤ limit ∧
    (∀ m, let answer := s.inbox.queue.enqueue m
      let t := s.step h publish (.enqueue m)
      (answer = .error (.full m) ↔ s.waiting.length = limit ∧ s.inbox.phase ≠ .stopped) ∧
      (answer = .error (.closed m) ↔ s.inbox.phase = .stopped) ∧
      (∀ e, answer = .error e → e.returned = m ∧ t = s) ∧
      (∀ q, answer = .ok q → s.hasProducers → t.accepted = s.accepted ++ [m] ∧
        t.waiting = s.waiting ++ [m])) ∧
    s.handled ++ s.waiting = s.accepted ∧
    (∃ ps, Performances h publish w ps s.surroundings ∧
      ps.map Performance.inbound? = s.handled.map some) ∧
    Event.heard Event.isMessage s.surroundings.journal.history =
      Event.heard Event.isMessage w.journal.history ++ s.handled.map Inbound.event ∧
    (∀ h' : Handler ε π, let s' := run h' publish moves (start capacity w)
      s'.inbox = s.inbox ∧ s'.accepted = s.accepted ∧ s'.handled = s.handled) ∧
    (let t := s.step h publish .work
     (s.inbox.phase ≠ .stopped → ∀ m rest, s.waiting = m :: rest →
        t.handled = s.handled ++ [m] ∧ t.waiting = rest ∧ t.inbox.phase = s.inbox.phase ∧
        ∃ sent, (Performance.message m sent).Leads h publish s.surroundings t.surroundings) ∧
      (s.inbox.phase = .stopped → t = s)) ∧
    (let t := s.step h publish .exit
     (s.mayExit → t.inbox.phase = .stopped ∧
        t.surroundings.journal.notices =
          .workerStopped :: .workerAbandons s.waiting.length :: s.surroundings.journal.notices ∧
        ∀ later, let u := run h publish later t
          u.inbox = t.inbox ∧ u.handled = s.handled ∧ u.accepted = s.accepted ∧
            s.handled ++ u.waiting = s.accepted) ∧
      (s.mayExit = false → t = s)) ∧
    ∀ later, run h publish (later ++ [.requestStop]) (s.step h publish .requestStop) =
      run h publish later (s.step h publish .requestStop) := by
  intro limit s
  have hr : s.Regular h publish limit w := (Regular.start h publish capacity w).run moves
  obtain ⟨ps, hps, hmessages⟩ := hr.performed
  refine ⟨hr.within.length_le, fun m => ⟨?_, ?_, fun e he => ?_, fun q hq hproducers => ?_⟩, hr.order,
    hr.performed, hps.heard_messages hpublish hmessages, fun h' => ?_,
    ⟨fun hp m rest hw => ?_, fun hp => ?_⟩, ⟨fun hexit => ?_, fun hexit => ?_⟩,
    fun later => run_requestStop hr.started later⟩
  · rw [MessageQueue.enqueue_eq_full, hr.within.capacity, ← Bool.not_eq_false, hr.closed, and_comm]
    have hle := hr.within.length_le
    exact and_congr_left fun _ =>
      ⟨fun hfull => Nat.le_antisymm hle hfull, fun heq => Nat.le_of_eq heq.symm⟩
  · rw [MessageQueue.enqueue_eq_closed]
    exact hr.closed
  · exact ⟨MessageQueue.returned_of_error he, step_enqueue_of_error he⟩
  · have hstep : s.step h publish (.enqueue m) =
        { s with inbox := { s.inbox with queue := q }, accepted := s.accepted ++ [m] } := by
      rw [step, if_pos hproducers, hq]
    rw [hstep]
    exact ⟨rfl, MessageQueue.waiting_enqueue hq⟩
  · obtain ⟨w', hw'⟩ := run_setSurroundings h h' publish moves (start capacity w)
      (start capacity w : Shift π τ).surroundings
    rw [show run h' publish moves (start capacity w) = _ from hw']
    exact ⟨rfl, rfl, rfl⟩
  · obtain ⟨q, -, hrest, hstep⟩ := step_work_of_atWork h publish (hr.atWork hp) hw
    rw [hstep]
    exact ⟨rfl, hrest, rfl, Inbox.leads_handle h publish m s.surroundings⟩
  · refine step_work_of_not_atWork (Bool.eq_false_iff.2 fun hs => ?_)
    exact ne_stopped_of_atWork hs hp
  · refine ⟨?_, ?_, fun later => ?_⟩
    · rw [step_exit hexit]
    · rw [step_exit hexit, waiting, MessageQueue.length_waiting]
      rfl
    · obtain ⟨b, hb⟩ := run_exit h publish hexit later
      rw [hb, step_exit hexit]
      exact ⟨rfl, rfl, rfl, hr.order⟩
  · rw [step, hexit]
    rfl

/-- A worker whose application answers each message and then gives up. Of three messages the third finds
the queue full; one is handled before the worker stops, and the other is abandoned. -/
theorem first_come_first_served_loud :
    let loud : Handler Unit Unit := { Handler.silent () with
      message := fun _ m => .send (m.replyOf "reply" m.content) fun _ => .done () (some {}) }
    let publish : Transport Unit (List OutboundMessage) :=
      fun _ m w => (.ok (), { w with outbound := m :: w.outbound })
    let m (topic : String) : Inbound Unit := ⟨⟨0⟩, topic, "on", ⟨.v4 127 0 0 1, 4000, 0⟩, ()⟩
    let moves := [.enqueue (m "a"), .enqueue (m "b"), .enqueue (m "c"), .requestStop, .work, .exit]
    let s := run loud publish moves (start 2 ⟨[], {}⟩)
    s.accepted = [m "a", m "b"] ∧ s.handled ++ s.waiting = s.accepted ∧ s.waiting = [m "b"] ∧
      (∃ ps, Performances loud publish ⟨[], {}⟩ ps s.surroundings ∧
        ps.map Performance.inbound? = [some (m "a")]) ∧
      s.surroundings.outbound = [(m "a").replyOf "reply" "on"] ∧
      s.inbox.queue.enqueue (m "d") = .error (.closed (m "d")) := by
  intro loud publish m moves s
  obtain ⟨-, hoffer, horder, hperformed, -⟩ :=
    first_come_first_served publish (fun _ _ _ => rfl) loud 2 ⟨[], {}⟩ moves
  exact ⟨rfl, horder, rfl, hperformed, rfl, (hoffer (m "d")).2.1.2 rfl⟩

end Shift

end DeviceGateway
