import DeviceGateway.Log

/-!
# Journal

What happened, latest first: the calls of the application, and the notices for the log.
-/

namespace DeviceGateway

/-- What a client shows when it connects. -/
structure Login where
  clientId : String
  username : Option String
  password : Option Bytes
  deriving DecidableEq, Repr

/-- A call of a listener or of the message handler, with what came of the messages that it sent. -/
inductive Event
  | online (identity : String) (connection : ConnectionId) (sent : List Sent)
  | offline (identity : String) (connection : ConnectionId) (sent : List Sent)
  | message (content topic : String) (connection : ConnectionId) (sent : List Sent)
  deriving Repr

namespace Journal

/-- A call of the application. -/
inductive Entry
  | verify (login : Login)
  | identify (clientId : String)
  | event (e : Event)
  deriving Repr

def Entry.event? : Entry → Option Event
  | event e => some e
  | verify _ | identify _ => none

end Journal

structure Journal where
  notices : List Notice := []
  entries : List Journal.Entry := []
  deriving Repr, Inhabited

namespace Journal

def note (j : Journal) (n : Notice) : Journal := { j with notices := n :: j.notices }

def noteAll (j : Journal) (ns : List Notice) : Journal := ns.foldl note j

def record (j : Journal) (e : Entry) : Journal := { j with entries := e :: j.entries }

/-- The calls of the listeners and of the message handler. -/
def history (j : Journal) : List Event := j.entries.filterMap Entry.event?

end Journal

/-- What the application acts on: the way to the devices, and the journal. -/
structure Surroundings (τ : Type) where
  outbound : τ
  journal : Journal := {}

namespace Surroundings

variable {τ : Type} (w : Surroundings τ)

def note (n : Notice) : Surroundings τ := { w with journal := w.journal.note n }

def record (e : Journal.Entry) : Surroundings τ := { w with journal := w.journal.record e }

/-- Notes that a hook gave up, if it did. -/
def notePanic (call : HookCall) : Option Panic → Surroundings τ
  | some p => w.note (.panicked call p)
  | none => w

end Surroundings

end DeviceGateway
