import DeviceGateway.Journal

/-!
# Reactions

What a listener or the message handler does when it is called: it sends messages, each in view of
what came of those before, and in the end it returns or gives up. What it did before it gave up
remains done.
-/

namespace DeviceGateway

inductive Reaction (α : Type)
  | done (result : α) (panic : Option Panic := none)
  | send (message : OutboundMessage) (next : Sent → Reaction α)

/-- A way to send messages through a publisher. -/
abbrev Transport (π τ : Type) := π → OutboundMessage → Surroundings τ → Sent × Surroundings τ

/-- What a reaction comes to. -/
structure Reacted (α τ : Type) where
  result : α
  panic : Option Panic
  /-- what came of the messages -/
  sent : List Sent
  after : Surroundings τ

namespace Reaction

variable {α π τ : Type}

def run (publish : Transport π τ) (via : π) : Reaction α → Surroundings τ → Reacted α τ
  | done a panic, w => ⟨a, panic, [], w⟩
  | send m next, w =>
    let (outcome, w) := publish via m w
    let r := (next outcome).run publish via w
    { r with sent := outcome :: r.sent }

/-- Runs what a hook does when it is called. The call is recorded, and it is noted if the hook gives
up. -/
def perform (publish : Transport π τ) (via : π) (event : List Sent → Event) (call : HookCall)
    (r : Reaction α) (w : Surroundings τ) : α × Surroundings τ :=
  let r := r.run publish via w
  (r.result, (r.after.record (.event (event r.sent))).notePanic call r.panic)

end Reaction

end DeviceGateway
