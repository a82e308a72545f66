import DeviceGateway.Settings

/-!
# Bounded queue

Messages wait in order of arrival, at most as many as the capacity says. A queue that is closed
takes no more messages, full or not; the message that is not taken is handed back.
-/

namespace DeviceGateway

inductive QueueError (α : Type)
  | full (message : α)
  | closed (message : α)
  deriving DecidableEq, Repr

namespace QueueError

variable {α : Type}

def returned : QueueError α → α
  | full m | closed m => m

def message : QueueError α → String
  | full _ => "message queue full"
  | closed _ => "message queue closed"

end QueueError

/-- The messages of `front` wait longest. Behind them come those of `back`, there latest first. -/
structure MessageQueue (α : Type) where
  capacity : Nat
  front : List α := []
  back : List α := []
  /-- how many messages wait -/
  size : Nat := 0
  size_eq : size = front.length + back.length := by rfl
  isOpen : Bool := true
  deriving Repr

namespace MessageQueue

variable {α : Type} {q r : MessageQueue α} {m : α}

/-- An empty queue; a capacity of zero asks for the default. -/
def bounded (capacity : Nat) : MessageQueue α :=
  { capacity := Settings.orDefault Settings.defaultQueueCapacity capacity }

/-- The messages that wait, in order of arrival. -/
def waiting (q : MessageQueue α) : List α := q.front ++ q.back.reverse

def enqueue (q : MessageQueue α) (m : α) : Except (QueueError α) (MessageQueue α) :=
  if !q.isOpen then .error (.closed m)
  else if q.capacity ≤ q.size then .error (.full m)
  else .ok { q with
    back := m :: q.back
    size := q.size + 1
    size_eq := by rw [q.size_eq, List.length_cons, Nat.add_assoc] }

/-- The message that waits longest, and the queue without it. -/
def dequeue? (q : MessageQueue α) : Option (α × MessageQueue α) :=
  match hf : q.front with
  | m :: ms => some (m, { q with
      front := ms
      size := q.size - 1
      size_eq := by rw [q.size_eq, hf, List.length_cons]; omega })
  | [] =>
    match hb : q.back.reverse with
    | m :: ms => some (m, { q with
        front := ms
        back := []
        size := q.size - 1
        size_eq := by
          have := congrArg List.length hb
          rw [List.length_reverse, List.length_cons] at this
          rw [q.size_eq, hf, this]
          simp })
    | [] => none

/-- The queue without its messages. -/
def emptied (q : MessageQueue α) : MessageQueue α :=
  { q with front := [], back := [], size := 0, size_eq := rfl }

def close (q : MessageQueue α) : MessageQueue α := { q with isOpen := false }

/-! ### What waits -/

@[simp] theorem length_waiting : q.waiting.length = q.size := by
  rw [waiting, List.length_append, List.length_reverse, q.size_eq]

theorem waiting_enqueue (h : q.enqueue m = .ok r) : r.waiting = q.waiting ++ [m] := by
  unfold enqueue at h
  split at h
  · cases h
  · split at h
    · cases h
    · cases h
      simp [waiting]

theorem waiting_dequeue? (h : q.dequeue? = some (m, r)) : q.waiting = m :: r.waiting := by
  unfold dequeue? at h
  split at h
  · rename_i hf
    cases h
    simp [waiting, hf]
  · rename_i hf
    split at h
    · rename_i hb
      cases h
      simp [waiting, hf, hb]
    · cases h

theorem dequeue?_eq_none : q.dequeue? = none ↔ q.waiting = [] := by
  unfold dequeue?
  split
  · rename_i hf
    simp [waiting, hf]
  · rename_i hf
    split
    · rename_i hb
      simp [waiting, hf, hb]
    · rename_i hb
      simp [waiting, hf, hb]

@[simp] theorem waiting_emptied : q.emptied.waiting = [] := rfl

end MessageQueue

end DeviceGateway
