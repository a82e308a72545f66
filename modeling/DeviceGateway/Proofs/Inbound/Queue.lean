import DeviceGateway.Inbound.Worker
import DeviceGateway.Proofs.Hooks

/-!
# The bounded queue

A queue takes a message in exactly if it is open and has room (`MessageQueue.hasRoom`,
`enqueue_of_hasRoom`); why it does not is told by `enqueue_eq_closed` and `enqueue_eq_full`. What
waits stays within the capacity (`MessageQueue.Within`). A message that is handed to the application
is heard of once, whatever the application does (`Inbox.heard_handle`).
-/

namespace DeviceGateway

namespace MessageQueue

variable {α : Type} {q r : MessageQueue α} {m : α}

def hasRoom (q : MessageQueue α) : Bool := q.isOpen && decide (q.waiting.length < q.capacity)

theorem enqueue_eq_ok (h : q.enqueue m = .ok r) :
    q.hasRoom ∧ r.capacity = q.capacity ∧ r.isOpen = q.isOpen := by
  unfold enqueue at h
  split at h
  · cases h
  · split at h
    · cases h
    · cases h
      simp_all [hasRoom]

theorem enqueue_of_hasRoom (h : q.hasRoom) (m : α) : ∃ r, q.enqueue m = .ok r := by
  unfold hasRoom at h
  rw [Bool.and_eq_true, decide_eq_true_eq, length_waiting] at h
  rw [enqueue, h.1, if_neg (Nat.not_le.2 h.2)]
  exact ⟨_, rfl⟩

theorem enqueue_eq_closed : q.enqueue m = .error (.closed m) ↔ q.isOpen = false := by
  unfold enqueue
  cases q.isOpen with
  | false => simp
  | true =>
    by_cases hfull : q.capacity ≤ q.size
    · simp [hfull]
    · simp [hfull]

theorem enqueue_eq_full :
    q.enqueue m = .error (.full m) ↔ q.isOpen = true ∧ q.capacity ≤ q.waiting.length := by
  unfold enqueue
  rw [length_waiting]
  cases q.isOpen with
  | false => simp
  | true =>
    by_cases hfull : q.capacity ≤ q.size
    · simp [hfull]
    · simp [hfull]

theorem returned_of_error {e : QueueError α} (h : q.enqueue m = .error e) : e.returned = m := by
  unfold enqueue at h
  split at h
  · cases h
    rfl
  · split at h
    · cases h
      rfl
    · cases h

theorem waiting_getD (q : MessageQueue α) (m : α) :
    ((q.enqueue m).toOption.getD q).waiting = q.waiting ++ if q.hasRoom then [m] else [] := by
  cases hq : q.enqueue m with
  | ok r =>
    rw [if_pos (enqueue_eq_ok hq).1]
    exact waiting_enqueue hq
  | error e =>
    have hroom : ¬ q.hasRoom := fun h => by
      obtain ⟨r, hr⟩ := enqueue_of_hasRoom h m
      rw [hr] at hq
      cases hq
    rw [if_neg hroom, List.append_nil]
    rfl

theorem capacity_dequeue? (h : q.dequeue? = some (m, r)) :
    r.capacity = q.capacity ∧ r.isOpen = q.isOpen := by
  unfold dequeue? at h
  split at h
  · cases h
    exact ⟨rfl, rfl⟩
  · split at h
    · cases h
      exact ⟨rfl, rfl⟩
    · cases h

theorem exists_dequeue? {ms : List α} (h : q.waiting = m :: ms) :
    ∃ r, q.dequeue? = some (m, r) ∧ r.waiting = ms := by
  cases hq : q.dequeue? with
  | none =>
    rw [dequeue?_eq_none.1 hq] at h
    cases h
  | some x =>
    obtain ⟨k, r⟩ := x
    obtain ⟨rfl, rfl⟩ := List.cons.inj ((waiting_dequeue? hq).symm.trans h)
    exact ⟨r, rfl, rfl⟩

/-- The queue takes `k` messages, and no more wait in it. -/
structure Within (k : Nat) (q : MessageQueue α) : Prop where
  capacity : q.capacity = k
  length_le : q.waiting.length ≤ k

theorem Within.enqueue {k : Nat} (h : q.enqueue m = .ok r) (hq : q.Within k) : r.Within k := by
  obtain ⟨hroom, hcapacity, -⟩ := enqueue_eq_ok h
  refine ⟨hcapacity.trans hq.capacity, ?_⟩
  rw [hasRoom, Bool.and_eq_true, decide_eq_true_eq, hq.capacity] at hroom
  rw [waiting_enqueue h, List.length_append]
  exact hroom.2

theorem Within.dequeue {k : Nat} (h : q.dequeue? = some (m, r)) (hq : q.Within k) : r.Within k := by
  have hle := hq.length_le
  rw [waiting_dequeue? h, List.length_cons] at hle
  exact ⟨(capacity_dequeue? h).1.trans hq.capacity, Nat.le_of_succ_le hle⟩

theorem Within.close {k : Nat} (hq : q.Within k) : q.close.Within k := ⟨hq.capacity, hq.length_le⟩

end MessageQueue

/-- What is heard when a message is given to the application. -/
def Inbound.event {π : Type} (m : Inbound π) : Event := .message m.content m.topic m.connection []

theorem Performance.map_bare_event {ε π : Type} {ps : List (Performance ε π)} {ms : List (Inbound π)}
    (h : ps.map Performance.inbound? = ms.map some) :
    ps.map (fun p => p.event.bare) = ms.map Inbound.event := by
  induction ps generalizing ms with
  | nil => rw [List.map_eq_nil_iff.1 h.symm]; rfl
  | cons p ps ih =>
    obtain ⟨m, ms, rfl, hm, hms⟩ := List.map_eq_cons_iff.1 h.symm
    rw [List.map_cons, List.map_cons, ih hms.symm]
    cases p with
    | message n sent => cases hm; rfl
    | _ => cases hm

/-- When only the message handler is called, that is what is heard of. -/
theorem Performances.heard_messages {ε π τ : Type} {h : Handler ε π} {publish : Transport π τ}
    {w w' : Surroundings τ} {ps : List (Performance ε π)} {ms : List (Inbound π)}
    (hpublish : ∀ via m (w : Surroundings τ),
      (publish via m w).2.journal.history = w.journal.history)
    (hps : Performances h publish w ps w') (hms : ps.map Performance.inbound? = ms.map some) :
    Event.heard Event.isMessage w'.journal.history =
      Event.heard Event.isMessage w.journal.history ++ ms.map Inbound.event := by
  have hbare : (ps.map (·.event)).map Event.bare = ms.map Inbound.event :=
    List.map_map.trans (Performance.map_bare_event hms)
  have hall : (ms.map Inbound.event).filter Event.isMessage = ms.map Inbound.event :=
    List.filter_eq_self.2 fun e he => by
      obtain ⟨m, -, rfl⟩ := List.mem_map.1 he
      rfl
  rw [hps.history hpublish, Event.heard_reverse_append, hbare, hall]

theorem Inbox.heard_handle {ε π τ : Type} {publish : Transport π τ} {kind : Event → Bool}
    (hpublish : ∀ via m (w : Surroundings τ),
      (publish via m w).2.journal.history = w.journal.history)
    (h : Handler ε π) (m : Inbound π) (w : Surroundings τ) :
    Event.heard kind (handle h publish m w).journal.history =
      Event.heard kind w.journal.history ++ [m.event].filter kind := by
  obtain ⟨sent, hleads⟩ := leads_handle h publish m w
  rw [hleads.history hpublish]
  exact Event.heard_cons

end DeviceGateway
