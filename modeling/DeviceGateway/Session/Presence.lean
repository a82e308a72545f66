import DeviceGateway.Handler
import DeviceGateway.Session.Registry

/-!
# Presence

The registry of sessions with the listeners that are told about it. The listeners run when the
registry has changed, the one of the session that ended before the one of the session that came.
-/

namespace DeviceGateway

structure Presence (ε π τ : Type) extends Surroundings τ where
  registry : Registry ε π := {}

namespace Presence

variable {ε π τ : Type} (h : Handler ε π) (publish : Transport π τ)

/-- Tells the application that a session ended. -/
def tellOffline (s : Session ε π) (w : Surroundings τ) : Surroundings τ :=
  let w := w.note (.offline s.identity s.connection)
  ((h.offline w.journal.entries s).perform publish s.publisher (.offline s.identity s.connection)
    (.offlineListener s.connection s.identity) w).2

/-- Tells the application that a session came, and gives its new extension. -/
def tellOnline (s : Session ε π) (w : Surroundings τ) : ε × Surroundings τ :=
  let w := w.note (.online s.identity s.connection s.address)
  (h.online w.journal.entries s).perform publish s.publisher (.online s.identity s.connection)
    (.onlineListener s.connection s.identity) w

/-- Tells about the end of a session, if there was one. -/
def tellRetired (r : Registry ε π) (n : Option Nat) (w : Surroundings τ) : Surroundings τ :=
  match n.bind r.session? with
  | some s => tellOffline h publish s w
  | none => w

/-- Makes a connection that of an identity, and gives the number of the session. -/
def online (a : Arrival π) (p : Presence ε π τ) : Nat × Presence ε π τ :=
  let arrived := p.registry.online h.fresh a
  let w := tellRetired h publish p.registry arrived.retired p.toSurroundings
  let w := match arrived.replaced with
    | some previous => w.note (.replaced a.connection previous a.identity)
    | none => w
  match arrived.registry.session? arrived.session with
  | some s =>
    let (e, w) := tellOnline h publish s w
    (arrived.session, { w with registry := arrived.registry.setExtension arrived.session e })
  | none => (arrived.session, { w with registry := arrived.registry })

/-- Ends the session on a connection, if there is one, and gives its number. -/
def offline (c : ConnectionId) (p : Presence ε π τ) : Option Nat × Presence ε π τ :=
  match p.registry.offline c with
  | some (n, r) =>
    (some n, { tellRetired h publish p.registry (some n) p.toSurroundings with registry := r })
  | none => (none, p)

end Presence

end DeviceGateway
