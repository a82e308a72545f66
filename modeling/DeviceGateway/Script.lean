import DeviceGateway.Handler

/-!
# Scripted applications

Applications made of a few habits: a prefix for identities, a greeting, an echo, and hooks that give
up on purpose.
-/

namespace DeviceGateway

structure Script where
  /-- what comes before the identifier of a client in its identity -/
  identityPrefix : String := ""
  /-- the clients that have no identity -/
  unmappable : List String := []
  /-- the identities whose coming and going makes a listener give up -/
  failsOnline : List String := []
  failsOffline : List String := []
  /-- the contents on which the message handler gives up -/
  failsMessage : List String := []
  greets : Bool := false
  echoes : Bool := false
  deriving DecidableEq, Repr, Inhabited

namespace Script

variable {π : Type} (s : Script)

def panicIf (b : Bool) (p : Panic) : Option Panic := if b then some p else none

def replyTopic (topic : String) : String := topic ++ "_reply"

/-- Counts how often a session came online, in its extension. -/
def online (session : Session Nat π) : Reaction Nat :=
  let identity := session.identity
  let finish : Reaction Nat := .done (session.extension + 1) <|
    panicIf (s.failsOnline.contains identity) ⟨some s!"online failed for {identity}"⟩
  if s.greets then .send (session.messageOf "hello" identity) fun _ => finish else finish

def message (m : Inbound π) : Reaction Unit :=
  let finish : Reaction Unit := .done () <|
    panicIf (s.failsMessage.contains m.content) ⟨some "bad message"⟩
  if s.echoes then .send (m.replyOf (replyTopic m.topic) m.content) fun _ => finish else finish

def handler : Handler Nat π where
  fresh := 0
  identify _ clientId :=
    if s.unmappable.contains clientId then .error ⟨some "no identity"⟩
    else .ok (s.identityPrefix ++ clientId)
  online _ := s.online
  offline _ session := .done () (panicIf (s.failsOffline.contains session.identity) {})
  message _ := s.message

end Script

end DeviceGateway
