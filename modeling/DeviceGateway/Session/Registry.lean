import DeviceGateway.Index
import DeviceGateway.Session.Basic

/-!
# Registry of sessions

The sessions that ever were, each with a number, and two indices over those that are online: by the
identity of the device and by the connection. `Registry.online` binds a connection to an identity
and `Registry.offline` ends a session with its connection; both say which sessions they ended.
-/

namespace DeviceGateway

structure Registry (ε π : Type) where
  sessions : List (Session ε π) := []
  byIdentity : Index String Nat := ∅
  byConnection : Index ConnectionId Nat := ∅

namespace Registry

variable {ε π : Type} (r : Registry ε π)

/-- The session with a number, online or not. -/
def session? (n : Nat) : Option (Session ε π) := r.sessions[n]?

/-- The number of the session of an identity. -/
def lookup? (identity : String) : Option Nat := r.byIdentity.get? identity

/-- The number of the session on a connection. -/
def lookupConnection? (c : ConnectionId) : Option Nat := r.byConnection.get? c

/-- How many sessions are online. -/
def size : Nat := r.byIdentity.size

def connectionCount : Nat := r.byConnection.size

/-- The sessions that are online. -/
def live : List (Session ε π) := r.byIdentity.entries.filterMap fun (_, n) => r.session? n

def setExtension (n : Nat) (e : ε) : Registry ε π :=
  { r with sessions := r.sessions.modify n fun s => { s with extension := e } }

/-! ### Leaving -/

/-- Takes a session out of the index of identities, if it is the one there. -/
def retire (n : Nat) : Registry ε π :=
  match r.session? n with
  | some s =>
    if r.lookup? s.identity = some n then { r with byIdentity := r.byIdentity.erase s.identity }
    else r
  | none => r

/-- Ends the session on a connection; without one there is nothing to do. -/
def offline (c : ConnectionId) : Option (Nat × Registry ε π) :=
  (r.lookupConnection? c).map fun n =>
    (n, { r with byConnection := r.byConnection.erase c }.retire n)

/-! ### Arriving -/

/-- The session on a connection that is that of another identity. -/
def boundElsewhere? (c : ConnectionId) (identity : String) : Option Nat := do
  let n ← r.lookupConnection? c
  let s ← r.session? n
  if s.identity = identity then none else some n

/-- What a transition came to. -/
structure Arrived (ε π : Type) where
  registry : Registry ε π
  /-- the number of the session -/
  session : Nat
  /-- the session that the connection had before, of another identity -/
  retired : Option Nat
  /-- the connection that the session had before -/
  replaced : Option ConnectionId

/-- Starts a session for an identity that is not online. -/
def create (fresh : ε) (a : Arrival π) : Registry ε π where
  sessions := r.sessions ++ [.start fresh a]
  byIdentity := r.byIdentity.insert a.identity r.sessions.length
  byConnection := r.byConnection.insert a.connection r.sessions.length

/-- Takes a connection away from a session, if it has it. -/
def unbind (c : ConnectionId) (n : Nat) : Registry ε π :=
  if r.lookupConnection? c = some n then { r with byConnection := r.byConnection.erase c } else r

/-- Binds a session to the connection of an arrival. -/
def rebind (n : Nat) (a : Arrival π) : Registry ε π :=
  { r with sessions := r.sessions.modify n (·.rebind a) }

/-- Moves session `n`, which is on connection `previous`, to another connection. -/
def move (n : Nat) (previous : ConnectionId) (a : Arrival π) : Registry ε π × Option ConnectionId :=
  if r.byConnection.contains a.connection then (r.rebind n a, none)
  else
    let freed := if previous = a.connection then r else r.unbind previous n
    ({ freed with byConnection := freed.byConnection.insert a.connection n }.rebind n a,
      if previous = a.connection then none else some previous)

/-- The session of an arrival, new or moved. -/
def enter (fresh : ε) (a : Arrival π) (retired : Option Nat) : Arrived ε π :=
  match (r.lookup? a.identity).bind fun n => (r.session? n).map (n, ·) with
  | some (n, s) =>
    let (r, replaced) := r.move n s.connection a
    ⟨r, n, retired, replaced⟩
  | none => ⟨r.create fresh a, r.sessions.length, retired, none⟩

/-- Makes a connection that of an identity. A connection speaks for one identity at a time, so it
leaves the session of another one first. -/
def online (fresh : ε) (a : Arrival π) : Arrived ε π :=
  match r.boundElsewhere? a.connection a.identity with
  | some n =>
    ({ r with byConnection := r.byConnection.erase a.connection }.retire n).enter fresh a (some n)
  | none => r.enter fresh a none

end Registry

end DeviceGateway
