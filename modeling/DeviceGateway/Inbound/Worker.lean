import DeviceGateway.Handler
import DeviceGateway.Inbound.Queue

/-!
# Worker of the queue

The worker takes messages off the queue, one at a time, and hands them to the application. Once it
is asked to stop it may take another message or stop; when it stops the queue is closed, and what
waits in it is abandoned.
-/

namespace DeviceGateway

/-- What a worker is doing. -/
inductive Phase
  | idle
  | running
  | stopping
  | stopped
  deriving DecidableEq, Repr, Inhabited

/-- A queue with its worker. -/
structure Inbox (π : Type) where
  queue : MessageQueue (Inbound π)
  phase : Phase := .idle

namespace Inbox

variable {ε π τ : Type}

def start (b : Inbox π) (w : Surroundings τ) : Inbox π × Surroundings τ :=
  ({ b with phase := .running }, w.note .workerStarted)

/-- Asks the worker to stop. -/
def requestStop (b : Inbox π) : Inbox π :=
  if b.phase = .running then { b with phase := .stopping } else b

def stop (b : Inbox π) (w : Surroundings τ) : Inbox π × Surroundings τ :=
  (⟨b.queue.close, .stopped⟩, (w.note (.workerAbandons b.queue.size)).note .workerStopped)

/-- Hands a message to the application. -/
def handle (h : Handler ε π) (publish : Transport π τ) (m : Inbound π) (w : Surroundings τ) :
    Surroundings τ :=
  ((h.message w.journal.entries m).perform publish m.publisher
    (.message m.content m.topic m.connection) (.messageHandler m.connection m.topic) w).2

/-- Takes the next message and handles it, if there is one. -/
def work (h : Handler ε π) (publish : Transport π τ) (b : Inbox π) (w : Surroundings τ) :
    Option (Inbound π × Inbox π × Surroundings τ) :=
  b.queue.dequeue?.map fun (m, q) => (m, { b with queue := q }, handle h publish m w)

end Inbox

end DeviceGateway
