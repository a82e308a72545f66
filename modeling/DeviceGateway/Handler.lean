import DeviceGateway.Inbound.Message
import DeviceGateway.Reaction
import DeviceGateway.Session.Basic

/-!
# The application

The hooks of an application: who may connect, which identity a client has, what happens when a
session comes or goes, and what happens with a message from a device. A hook sees every call of a hook
before it, so it may depend on them.
-/

namespace DeviceGateway

/-- A client that wants to connect. -/
structure Attempt extends Login where
  /-- the calls of the application before, latest first -/
  past : List Journal.Entry

/-- Whether a client may connect, with what there is to note about it. -/
structure Verdict where
  accepted : Except Panic Bool
  notices : List Notice := []

/-- Whether the client is let in. A verifier that gives up lets nobody in. -/
def Verdict.admits (v : Verdict) : Bool :=
  match v.accepted with
  | .ok b => b
  | .error _ => false

abbrev Verifier := Attempt → Verdict

structure Handler (ε π : Type) where
  /-- what a new session is extended by -/
  fresh : ε
  /-- the identity of a client -/
  identify : List Journal.Entry → String → Except Panic String
  /-- called when a session came, and gives the new extension -/
  online : List Journal.Entry → Session ε π → Reaction ε
  offline : List Journal.Entry → Session ε π → Reaction Unit
  message : List Journal.Entry → Inbound π → Reaction Unit

namespace Handler

variable {ε π : Type}

/-- The application that does nothing; the identity of a client is its identifier. -/
def silent (fresh : ε) : Handler ε π where
  fresh
  identify _ clientId := .ok clientId
  online _ s := .done s.extension
  offline _ _ := .done ()
  message _ _ := .done ()

end Handler

end DeviceGateway
