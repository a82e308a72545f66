import DeviceGateway.Inbound.Worker
import DeviceGateway.Session.Presence

/-!
# Performances of the application

What a hook does when it is called, apart from the function that runs it. `Reaction.Runs` sends the
messages of a reaction one after the other, and `Reaction.runs_iff` says that `Reaction.run` is that.
A `Performance` is a call of a listener or of the message handler with what came of it. It leads from
one state of the surroundings to another if its hook was run there on what it is about, and the second
state is what the run left, with the record of the call (`Performance.Leads`). Behind each other they
are `Performances`, and the history has their events (`Performances.history`).
-/

namespace DeviceGateway

namespace Reaction

variable {α π τ : Type} {publish : Transport π τ} {via : π} {P : OutboundMessage → Prop}
  {I : Surroundings τ → Prop} {r : Reaction α} {w w' : Surroundings τ} {x : Reacted α τ}

/-- What a reaction comes to when its messages are sent, each in view of what came of those before. -/
inductive Runs (publish : Transport π τ) (via : π) :
    Reaction α → Surroundings τ → Reacted α τ → Prop
  | done {a panic w} : Runs publish via (.done a panic) w ⟨a, panic, [], w⟩
  | send {m next w sent w' x} (hm : publish via m w = (sent, w')) : Runs publish via (next sent) w' x →
    Runs publish via (.send m next) w ⟨x.result, x.panic, sent :: x.sent, x.after⟩

theorem runs_run (r : Reaction α) (w : Surroundings τ) :
    Runs publish via r w (r.run publish via w) := by
  induction r generalizing w with
  | done a panic => exact .done
  | send m next ih => exact .send rfl (ih _ _)

theorem runs_iff : Runs publish via r w x ↔ x = r.run publish via w := by
  refine ⟨fun h => ?_, fun h => h ▸ runs_run r w⟩
  induction h with
  | done => rfl
  | send hm _ ih =>
    subst ih
    rw [run, hm]

/-- The messages that a reaction sends when it is run. -/
def messages (publish : Transport π τ) (via : π) : Reaction α → Surroundings τ → List OutboundMessage
  | done _ _, _ => []
  | send m next, w =>
    let (outcome, w) := publish via m w
    m :: (next outcome).messages publish via w

theorem run_keeps (hI : ∀ m w, P m → I w → I (publish via m w).2)
    (hr : ∀ m ∈ r.messages publish via w, P m) (hw : I w) : I (r.run publish via w).after := by
  induction r generalizing w with
  | done a panic => exact hw
  | send m next ih =>
    obtain ⟨hm, hnext⟩ := List.forall_mem_cons.1 hr
    exact ih _ hnext (hI m w hm hw)

/-- What every message keeps is kept, whichever are sent. -/
theorem Runs.keeps (hI : ∀ m w, I w → I (publish via m w).2) (h : Runs publish via r w x) (hw : I w) :
    I x.after := by
  rw [runs_iff.1 h]
  exact run_keeps (P := fun _ => True) (fun m w _ => hI m w) (fun _ _ => trivial) hw

/-- A hook was called: its reaction came to `x`, the call was recorded with what came of the messages,
and it was noted if the hook gave up. -/
structure Performed (publish : Transport π τ) (via : π) (event : List Sent → Event) (call : HookCall)
    (r : Reaction α) (w : Surroundings τ) (x : Reacted α τ) (w' : Surroundings τ) : Prop where
  runs : Runs publish via r w x
  outbound : w'.outbound = x.after.outbound
  entries : w'.journal.entries = .event (event x.sent) :: x.after.journal.entries
  notices : w'.journal.notices =
    (x.panic.map fun p => .panicked call p).toList ++ x.after.journal.notices

theorem performed_perform {event : List Sent → Event} {call : HookCall} :
    Performed publish via event call r w (r.run publish via w)
      (r.perform publish via event call w).2 := by
  have hruns : Runs publish via r w (r.run publish via w) := runs_run r w
  unfold perform
  dsimp only
  cases hp : (r.run publish via w).panic with
  | none => exact ⟨hruns, rfl, rfl, by rw [hp]; rfl⟩
  | some p => exact ⟨hruns, rfl, rfl, by rw [hp]; rfl⟩

theorem perform_keeps {J : τ → Prop} {event : List Sent → Event} {call : HookCall}
    (hJ : ∀ m (w : Surroundings τ), P m → J w.outbound → J (publish via m w).2.outbound)
    (hr : ∀ m ∈ r.messages publish via w, P m) (hw : J w.outbound) :
    J (r.perform publish via event call w).2.outbound := by
  rw [performed_perform.outbound]
  exact run_keeps (I := fun w => J w.outbound) hJ hr hw

end Reaction

/-- A call of a listener or of the message handler, with what came of its messages. The listener of
an arrival gave an extension. -/
inductive Performance (ε π : Type)
  | offline (s : Session ε π) (sent : List Sent)
  | online (s : Session ε π) (sent : List Sent) (extension : ε)
  | message (m : Inbound π) (sent : List Sent)

namespace Performance

variable {ε π τ : Type} {h : Handler ε π} {publish : Transport π τ} {w w' : Surroundings τ}
  {p : Performance ε π}

def event : Performance ε π → Event
  | offline s sent => .offline s.identity s.connection sent
  | online s sent _ => .online s.identity s.connection sent
  | message m sent => .message m.content m.topic m.connection sent

/-- The message that was handed over, if the call is one of the message handler. -/
def inbound? : Performance ε π → Option (Inbound π)
  | message m _ => some m
  | offline .. | online .. => none

/-- From `w` to `w'` the hook ran, on all that was recorded before and on what the call is about. -/
inductive Leads (h : Handler ε π) (publish : Transport π τ) (w w' : Surroundings τ) :
    Performance ε π → Prop
  | offline {s x} (hx : Reaction.Performed publish s.publisher (.offline s.identity s.connection)
      (.offlineListener s.connection s.identity) (h.offline w.journal.entries s) w x w') :
    Leads h publish w w' (.offline s x.sent)
  | online {s x} (hx : Reaction.Performed publish s.publisher (.online s.identity s.connection)
      (.onlineListener s.connection s.identity) (h.online w.journal.entries s) w x w') :
    Leads h publish w w' (.online s x.sent x.result)
  | message {m x} (hx : Reaction.Performed publish m.publisher
      (.message m.content m.topic m.connection) (.messageHandler m.connection m.topic)
      (h.message w.journal.entries m) w x w') :
    Leads h publish w w' (.message m x.sent)

namespace Leads

/-- Of the entries that messages leave alone, only that of the call is new. -/
theorem filterMap_entries {β : Type} (k : Journal.Entry → Option β)
    (hpublish : ∀ via m (w : Surroundings τ),
      (publish via m w).2.journal.entries.filterMap k = w.journal.entries.filterMap k)
    (hp : p.Leads h publish w w') :
    w'.journal.entries.filterMap k = (.event p.event :: w.journal.entries).filterMap k := by
  have hruns : ∀ {α : Type} {via : π} {r : Reaction α} {x : Reacted α τ},
      Reaction.Runs publish via r w x →
        x.after.journal.entries.filterMap k = w.journal.entries.filterMap k := fun {_ via _ _} hx =>
    hx.keeps (I := fun v => v.journal.entries.filterMap k = w.journal.entries.filterMap k)
      (fun m v => (hpublish via m v).trans) rfl
  obtain ⟨es, hes, hentries⟩ : ∃ es : List Journal.Entry,
      es.filterMap k = w.journal.entries.filterMap k ∧ w'.journal.entries = .event p.event :: es := by
    cases hp with
    | offline hx | online hx | message hx => exact ⟨_, hruns hx.runs, hx.entries⟩
  rw [hentries, List.filterMap_cons, List.filterMap_cons, hes]

theorem history (hpublish : ∀ via m (w : Surroundings τ),
      (publish via m w).2.journal.history = w.journal.history) (hp : p.Leads h publish w w') :
    w'.journal.history = p.event :: w.journal.history :=
  hp.filterMap_entries Journal.Entry.event? hpublish

end Leads

end Performance

/-- From `w` to another state these calls were made, in this order, and nothing else but notes. -/
inductive Performances {ε π τ : Type} (h : Handler ε π) (publish : Transport π τ)
    (w : Surroundings τ) : List (Performance ε π) → Surroundings τ → Prop
  | refl : Performances h publish w [] w
  | note {ps w'} (n : Notice) : Performances h publish w ps w' → Performances h publish w ps (w'.note n)
  | call {ps w' w''} {p : Performance ε π} : Performances h publish w ps w' →
    p.Leads h publish w' w'' → Performances h publish w (ps ++ [p]) w''

namespace Performances

variable {ε π τ : Type} {h : Handler ε π} {publish : Transport π τ} {w w' w'' : Surroundings τ}
  {ps qs : List (Performance ε π)}

theorem trans (hp : Performances h publish w ps w') (hq : Performances h publish w' qs w'') :
    Performances h publish w (ps ++ qs) w'' := by
  induction hq with
  | refl => exact (List.append_nil ps).symm ▸ hp
  | note n _ ih => exact ih.note n
  | call _ hlast ih =>
    rw [← List.append_assoc]
    exact ih.call hlast

theorem filterMap_entries {β : Type} (k : Journal.Entry → Option β)
    (hpublish : ∀ via m (w : Surroundings τ),
      (publish via m w).2.journal.entries.filterMap k = w.journal.entries.filterMap k)
    (hp : Performances h publish w ps w') : w'.journal.entries.filterMap k =
      ((ps.map fun p => Journal.Entry.event p.event).reverse ++ w.journal.entries).filterMap k := by
  induction hp with
  | refl => rfl
  | note n _ ih => exact ih
  | @call ps w' w'' p _ hlast ih =>
    rw [hlast.filterMap_entries k hpublish, List.filterMap_cons, ih, List.map_append,
      List.reverse_append]
    rfl

theorem entries (hpublish : ∀ via m (w : Surroundings τ),
      (publish via m w).2.journal.entries = w.journal.entries)
    (hp : Performances h publish w ps w') :
    w'.journal.entries = (ps.map fun p => Journal.Entry.event p.event).reverse ++ w.journal.entries := by
  have hall := hp.filterMap_entries some fun via m w => congrArg _ (hpublish via m w)
  rwa [List.filterMap_some, List.filterMap_some] at hall

theorem history (hpublish : ∀ via m (w : Surroundings τ),
      (publish via m w).2.journal.history = w.journal.history)
    (hp : Performances h publish w ps w') :
    w'.journal.history = (ps.map (·.event)).reverse ++ w.journal.history := by
  have hevents : (ps.map fun p => Journal.Entry.event p.event).filterMap Journal.Entry.event? =
      ps.map (·.event) := by
    rw [List.filterMap_map]
    exact congrFun List.filterMap_eq_map ps
  rw [Journal.history, hp.filterMap_entries Journal.Entry.event? hpublish, List.filterMap_append,
    List.filterMap_reverse, hevents, Journal.history]

end Performances

/-! ### The calls that are made -/

section Calls

variable {ε π τ : Type} (h : Handler ε π) (publish : Transport π τ)

theorem Presence.performances_tellOffline (s : Session ε π) (w : Surroundings τ) :
    ∃ sent, Performances h publish w [.offline s sent] (tellOffline h publish s w) :=
  ⟨_, (Performances.refl.note (.offline s.identity s.connection)).call
    (.offline Reaction.performed_perform)⟩

theorem Presence.performances_tellOnline (s : Session ε π) (w : Surroundings τ) :
    ∃ sent, Performances h publish w [.online s sent (tellOnline h publish s w).1]
      (tellOnline h publish s w).2 :=
  ⟨_, (Performances.refl.note (.online s.identity s.connection s.address)).call
    (.online Reaction.performed_perform)⟩

theorem Inbox.leads_handle (m : Inbound π) (w : Surroundings τ) : ∃ sent,
    (Performance.message m sent).Leads h publish w (handle h publish m w) :=
  ⟨_, .message Reaction.performed_perform⟩

end Calls

end DeviceGateway
