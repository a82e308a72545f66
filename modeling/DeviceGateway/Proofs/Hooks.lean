import DeviceGateway.Proofs.Performance
import Mathlib.Data.List.Basic
import Mathlib.Tactic.Set

/-!
# Calls of hooks

A `Call` says which hook was called and with what, and what a listener sent. All that a listener can
do to its surroundings is to send messages, so what every one of its messages keeps is kept by the
reaction (`Reaction.run_keeps`), and then by an arrival and by a leave (`Presence.online_keeps`,
`Presence.offline_keeps`). The journal gains an entry for each call, in their order, and nothing else
(`Presence.recorded_online`).
-/

namespace DeviceGateway

/-- A call of a hook, with the answer where the gateway acts on it. -/
inductive Call (ε π : Type)
  | verify (login : Login) (answer : Except Panic Bool)
  | identify (clientId : String) (answer : Except Panic String)
  | offline (s : Session ε π) (messages : List OutboundMessage)
  | online (s : Session ε π) (messages : List OutboundMessage)

namespace Call

variable {ε π : Type}

/-- The messages that a listener sent when it was called. -/
def messages : Call ε π → List OutboundMessage
  | offline _ ms | online _ ms => ms
  | verify .. | identify .. => []

/-- What the journal says of a call, without what came of the messages. -/
def entry : Call ε π → Journal.Entry
  | verify login _ => .verify login
  | identify clientId _ => .identify clientId
  | offline s _ => .event (.offline s.identity s.connection [])
  | online s _ => .event (.online s.identity s.connection [])

/-- What the history says of a call, if it is one of a listener. -/
def event? (call : Call ε π) : Option Event := call.entry.event?

end Call

/-- The event without what came of the messages. -/
def Event.bare : Event → Event
  | online identity c _ => .online identity c []
  | offline identity c _ => .offline identity c []
  | message content topic c _ => .message content topic c []

def Journal.Entry.bare : Journal.Entry → Journal.Entry
  | event e => .event e.bare
  | e => e

namespace Presence

variable {ε π τ : Type} {h : Handler ε π} {publish : Transport π τ} {p : Presence ε π τ}
  {a : Arrival π} {c : ConnectionId} {s : Session ε π} {w : Surroundings τ}

/-! ### The listeners that are called -/

section Listeners

variable (h publish)

def offlineCall (s : Session ε π) (w : Surroundings τ) : Call ε π :=
  let w := w.note (.offline s.identity s.connection)
  .offline s ((h.offline w.journal.entries s).messages publish s.publisher w)

def onlineCall (s : Session ε π) (w : Surroundings τ) : Call ε π :=
  let w := w.note (.online s.identity s.connection s.address)
  .online s ((h.online w.journal.entries s).messages publish s.publisher w)

/-- The listeners that an arrival calls: the one of the session that it ends, then its own. -/
def listeners (a : Arrival π) (p : Presence ε π τ) : List (Call ε π) :=
  let arrived := p.registry.online h.fresh a
  let w := tellRetired h publish p.registry arrived.retired p.toSurroundings
  let w := match arrived.replaced with
    | some previous => w.note (.replaced a.connection previous a.identity)
    | none => w
  ((arrived.retired.bind p.registry.session?).map fun s =>
      offlineCall h publish s p.toSurroundings).toList ++
    ((arrived.registry.session? arrived.session).map fun s => onlineCall h publish s w).toList

end Listeners

theorem isSome_event?_of_mem_listeners {call : Call ε π} (h : call ∈ listeners h publish a p) :
    call.event?.isSome := by
  rcases List.mem_append.1 h with h | h <;>
    obtain ⟨s, -, rfl⟩ := Option.map_eq_some_iff.1 (Option.mem_toList.1 h) <;> rfl

/-! ### What messages keep -/

section Keeps

variable {J : τ → Prop} {P : OutboundMessage → Prop}
  (hJ : ∀ via m (w : Surroundings τ), P m → J w.outbound → J (publish via m w).2.outbound)
include hJ

theorem tellOffline_keeps (hs : ∀ m ∈ (offlineCall h publish s w).messages, P m)
    (hw : J w.outbound) : J (tellOffline h publish s w).outbound :=
  Reaction.perform_keeps (hJ _) hs hw

theorem tellOnline_keeps (hs : ∀ m ∈ (onlineCall h publish s w).messages, P m)
    (hw : J w.outbound) : J (tellOnline h publish s w).2.outbound :=
  Reaction.perform_keeps (hJ _) hs hw

theorem tellRetired_keeps {r : Registry ε π} {n : Option Nat}
    (hs : ∀ s ∈ n.bind r.session?, ∀ m ∈ (offlineCall h publish s w).messages, P m)
    (hw : J w.outbound) : J (tellRetired h publish r n w).outbound := by
  unfold tellRetired
  split
  · exact tellOffline_keeps hJ (hs _ ‹_›) hw
  · exact hw

theorem online_keeps (hs : ∀ call ∈ listeners h publish a p, ∀ m ∈ call.messages, P m)
    (hp : J p.outbound) : J (online h publish a p).2.outbound := by
  obtain ⟨hoffline, honline⟩ := List.forall_mem_append.1 hs
  unfold online
  set arrived := p.registry.online h.fresh a
  dsimp only
  have hretired : J (tellRetired h publish p.registry arrived.retired p.toSurroundings).outbound :=
    tellRetired_keeps hJ (fun s he => hoffline _ (Option.mem_toList.2 (Option.mem_map_of_mem _ he))) hp
  split
  · rename_i s hsession
    refine tellOnline_keeps hJ (honline _ (Option.mem_toList.2 (Option.mem_map_of_mem _ hsession))) ?_
    cases arrived.replaced <;> exact hretired
  · cases arrived.replaced <;> exact hretired

theorem offline_keeps (hs : ∀ n s, p.registry.lookupConnection? c = some n →
      p.registry.session? n = some s → ∀ m ∈ (offlineCall h publish s p.toSurroundings).messages, P m)
    (hp : J p.outbound) : J (offline h publish c p).2.outbound := by
  unfold offline
  split
  · rename_i n r ho
    obtain ⟨k, hk, he⟩ := Option.map_eq_some_iff.1 ho
    obtain ⟨rfl, -⟩ := Prod.mk.inj he
    exact tellRetired_keeps hJ (fun s hsession => hs k s hk hsession) hp
  · exact hp

end Keeps

/-! ### What the journal gains -/

/-- A journal gained the entries of some calls, in their order. -/
def Recorded (calls : List (Call ε π)) (before after : List Journal.Entry) : Prop :=
  ∃ es : List Journal.Entry, after = es.reverse ++ before ∧
    es.map Journal.Entry.bare = calls.map Call.entry

namespace Recorded

variable {calls calls' : List (Call ε π)} {l l' l'' : List Journal.Entry}

theorem refl : Recorded ([] : List (Call ε π)) l l := ⟨[], rfl, rfl⟩

theorem trans : Recorded calls l l' → Recorded calls' l' l'' → Recorded (calls ++ calls') l l'' := by
  rintro ⟨es, rfl, hes⟩ ⟨es', rfl, hes'⟩
  exact ⟨es ++ es', by simp, by simp [hes, hes']⟩

/-- The history gained the events of the listeners among the calls. -/
theorem history {j j' : Journal} (h : Recorded calls j.entries j'.entries) : ∃ es : List Event,
    j'.history = es.reverse ++ j.history ∧ es.map Event.bare = calls.filterMap Call.event? := by
  obtain ⟨es, hes, hbare⟩ := h
  refine ⟨es.filterMap Journal.Entry.event?, ?_, ?_⟩
  · rw [Journal.history, hes, List.filterMap_append, List.filterMap_reverse]
    rfl
  · have hevent : ∀ e : Journal.Entry, e.event?.map Event.bare = e.bare.event? := fun e => by
      cases e <;> rfl
    have hcalls := congrArg (List.filterMap Journal.Entry.event?) hbare
    rw [List.filterMap_map, List.filterMap_map] at hcalls
    rw [List.map_filterMap, funext hevent]
    exact hcalls

end Recorded

section Entries

variable (hpublish : ∀ via m (w : Surroundings τ),
  (publish via m w).2.journal.entries = w.journal.entries)
include hpublish

theorem recorded_tellOffline : Recorded [offlineCall h publish s w] w.journal.entries
    (tellOffline h publish s w).journal.entries := by
  obtain ⟨_, hcall⟩ := performances_tellOffline h publish s w
  have hentries := hcall.entries hpublish
  exact ⟨[_], hentries, rfl⟩

theorem recorded_tellOnline : Recorded [onlineCall h publish s w] w.journal.entries
    (tellOnline h publish s w).2.journal.entries := by
  obtain ⟨_, hcall⟩ := performances_tellOnline h publish s w
  have hentries := hcall.entries hpublish
  exact ⟨[_], hentries, rfl⟩

theorem recorded_tellRetired {r : Registry ε π} {n : Option Nat} :
    Recorded ((n.bind r.session?).map fun s => offlineCall h publish s w).toList w.journal.entries
      (tellRetired h publish r n w).journal.entries := by
  unfold tellRetired
  cases n.bind r.session? with
  | some s => exact recorded_tellOffline hpublish
  | none => exact .refl

theorem recorded_online : Recorded (listeners h publish a p) p.journal.entries
    (online h publish a p).2.journal.entries := by
  unfold listeners online
  set arrived := p.registry.online h.fresh a
  dsimp only
  have hretired : Recorded ((arrived.retired.bind p.registry.session?).map fun s =>
      offlineCall h publish s p.toSurroundings).toList p.journal.entries
      (tellRetired h publish p.registry arrived.retired p.toSurroundings).journal.entries :=
    recorded_tellRetired hpublish
  refine hretired.trans ?_
  cases arrived.replaced <;> cases arrived.registry.session? arrived.session with
  | some s => exact recorded_tellOnline hpublish
  | none => exact .refl

end Entries

end Presence

/-! ### What is heard -/

namespace Event

def isMessage : Event → Bool
  | message .. => true
  | _ => false

/-- What a history says of one kind of calls, in their order, without what came of the messages. -/
def heard (kind : Event → Bool) (history : List Event) : List Event :=
  ((history.map bare).filter kind).reverse

variable {ε π : Type} {kind : Event → Bool} {history : List Event} {e : Event}

theorem mem_heard (he : e ∈ history) (hkind : kind e.bare) : e.bare ∈ heard kind history :=
  List.mem_reverse.2 (List.mem_filter.2 ⟨List.mem_map_of_mem he, hkind⟩)

theorem heard_cons : heard kind (e :: history) = heard kind history ++ [e.bare].filter kind := by
  rw [heard, List.map_cons, List.filter_cons, List.filter_singleton]
  cases kind e.bare
  · exact (List.append_nil _).symm
  · exact List.reverse_cons

theorem heard_reverse_append (es : List Event) :
    heard kind (es.reverse ++ history) = heard kind history ++ (es.map bare).filter kind := by
  rw [heard, List.map_append, List.filter_append, List.reverse_append, List.map_reverse,
    List.filter_reverse, List.reverse_reverse]
  rfl

theorem heard_of_recorded {calls : List (Call ε π)} {j j' : Journal}
    (h : Presence.Recorded calls j.entries j'.entries) :
    heard kind j'.history = heard kind j.history ++ (calls.filterMap Call.event?).filter kind := by
  obtain ⟨es, hes, hbare⟩ := h.history
  rw [hes, heard_reverse_append, hbare]

end Event

end DeviceGateway
