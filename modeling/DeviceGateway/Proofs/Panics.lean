import DeviceGateway.Inbound.Worker
import DeviceGateway.Outbound.Publisher
import DeviceGateway.Session.Presence

/-!
# Hooks that give up

What a listener or the message handler did before it gave up remains done, and a line in the log is all
that comes of it. `Reaction.calm` does the same and returns, so a handler is compared with
`Handler.calm`. Two surroundings stand beside each other (`Surroundings.Beside`) when they are the same
but for the lines of hooks that gave up. Whatever is done to both keeps them so, and the lines that come
are those of the calls that give up on the one side (`Presence.onlinePanics`, `Presence.offlinePanics`,
`Inbox.panic?`). So an arrival and a leave come to the same (`Presence.Beside.online`,
`Presence.Beside.offline`).
-/

namespace DeviceGateway

/-- The third list is made of the first and the second, each in its order. -/
inductive Interleaved {α : Type} : List α → List α → List α → Prop
  | nil : Interleaved [] [] []
  | left {as bs l : List α} (a : α) : Interleaved as bs l → Interleaved (a :: as) bs (a :: l)
  | right {as bs l : List α} (b : α) : Interleaved as bs l → Interleaved as (b :: bs) (b :: l)

theorem Interleaved.refl {α : Type} (l : List α) : Interleaved [] l l := by
  induction l with
  | nil => exact .nil
  | cons a l ih => exact ih.right a

/-- A call of a hook that gave up. -/
structure HookPanic where
  call : HookCall
  panic : Panic
  deriving DecidableEq, Repr

/-- The line in the log that it leaves. -/
def HookPanic.notice (p : HookPanic) : Notice := .panicked p.call p.panic

theorem HookPanic.level_notice (p : HookPanic) : p.notice.level = .error := rfl

namespace Reaction

variable {α : Type}

/-- The reaction that does the same and returns. -/
def calm : Reaction α → Reaction α
  | done a _ => done a
  | send m next => send m fun outcome => (next outcome).calm

end Reaction

/-- The application that does the same, but none of its listeners gives up, nor the message handler. -/
def Handler.calm {ε π : Type} (h : Handler ε π) : Handler ε π :=
  { h with
    online := fun past s => (h.online past s).calm
    offline := fun past s => (h.offline past s).calm
    message := fun past m => (h.message past m).calm }

/-! ### Calls that give up -/

namespace Presence

variable {ε π τ : Type} (h : Handler ε π) (publish : Transport π τ)

/-- Whether the listener gives up that is told that a session ended. -/
def offlinePanic? (s : Session ε π) (w : Surroundings τ) : Option HookPanic :=
  let w := w.note (.offline s.identity s.connection)
  ((h.offline w.journal.entries s).run publish s.publisher w).panic.map
    (.mk (.offlineListener s.connection s.identity))

def onlinePanic? (s : Session ε π) (w : Surroundings τ) : Option HookPanic :=
  let w := w.note (.online s.identity s.connection s.address)
  ((h.online w.journal.entries s).run publish s.publisher w).panic.map
    (.mk (.onlineListener s.connection s.identity))

/-- The listeners that give up when a connection becomes that of an identity, latest first as in a
journal. -/
def onlinePanics (a : Arrival π) (p : Presence ε π τ) : List HookPanic :=
  let arrived := p.registry.online h.fresh a
  let w := tellRetired h publish p.registry arrived.retired p.toSurroundings
  let w := match arrived.replaced with
    | some previous => w.note (.replaced a.connection previous a.identity)
    | none => w
  ((arrived.registry.session? arrived.session).bind fun s => onlinePanic? h publish s w).toList ++
    ((arrived.retired.bind p.registry.session?).bind fun s =>
      offlinePanic? h publish s p.toSurroundings).toList

def offlinePanics (c : ConnectionId) (p : Presence ε π τ) : List HookPanic :=
  (((p.registry.lookupConnection? c).bind p.registry.session?).bind fun s =>
    offlinePanic? h publish s p.toSurroundings).toList

end Presence

/-- Whether the message handler gives up on a message. -/
def Inbox.panic? {ε π τ : Type} (h : Handler ε π) (publish : Transport π τ) (m : Inbound π)
    (w : Surroundings τ) : Option HookPanic :=
  ((h.message w.journal.entries m).run publish m.publisher w).panic.map
    (.mk (.messageHandler m.connection m.topic))

/-! ### Surroundings beside each other -/

namespace Surroundings

/-- All is the same but the notices. If `S` holds, those of `w` are those of `w₀` with the lines of `ps`
in between. -/
structure Beside {τ : Type} (S : Prop) (ps : List HookPanic) (w₀ w : Surroundings τ) : Prop where
  outbound : w.outbound = w₀.outbound
  entries : w.journal.entries = w₀.journal.entries
  notices : S → Interleaved (ps.map HookPanic.notice) w₀.journal.notices w.journal.notices

namespace Beside

variable {S : Prop} {ps : List HookPanic} {w₀ w : Surroundings Outbound}

theorem note (h : Beside S ps w₀ w) (n : Notice) : Beside S ps (w₀.note n) (w.note n) :=
  ⟨h.outbound, h.entries, fun hs => (h.notices hs).right n⟩

theorem record (h : Beside S ps w₀ w) (e : Journal.Entry) :
    Beside S ps (w₀.record e) (w.record e) :=
  ⟨h.outbound, congrArg (List.cons e) h.entries, h.notices⟩

theorem notePanic (h : Beside S ps w₀ w) (call : HookCall) (panic : Option Panic) :
    Beside S ((panic.map (.mk call)).toList ++ ps) (w₀.notePanic call none)
      (w.notePanic call panic) := by
  cases panic with
  | none => exact h
  | some p => exact ⟨h.outbound, h.entries, fun hs => (h.notices hs).left _⟩

theorem setOutbound (h : Beside S ps w₀ w) (o : Outbound) :
    Beside S ps { w₀ with outbound := o } { w with outbound := o } :=
  ⟨rfl, h.entries, h.notices⟩

theorem publish (h : Beside S ps w₀ w) (m : OutboundMessage) :
    (w.publish m).1 = (w₀.publish m).1 ∧ Beside S ps (w₀.publish m).2 (w.publish m).2 := by
  unfold Surroundings.publish
  rw [h.outbound]
  cases w₀.outbound.publish m with
  | ok o => exact ⟨rfl, (h.setOutbound o).note _⟩
  | error e =>
    refine ⟨rfl, ?_⟩
    dsimp only
    cases Outbound.notice? m (.error e) with
    | some n => exact (h.setOutbound _).note n
    | none => exact h.setOutbound _

/-- A reaction and its calm send the same and come to the same. -/
theorem run {α : Type} (h : Beside S ps w₀ w) (via : ConnectionId) (r : Reaction α) :
    (r.run .table via w).result = (r.calm.run .table via w₀).result ∧
      (r.run .table via w).sent = (r.calm.run .table via w₀).sent ∧
      (r.calm.run .table via w₀).panic = none ∧
      Beside S ps (r.calm.run .table via w₀).after (r.run .table via w).after := by
  induction r generalizing w₀ w with
  | done a panic => exact ⟨rfl, rfl, rfl, h⟩
  | send m next ih =>
    obtain ⟨hsent, hafter⟩ := h.publish m
    obtain ⟨hresult, hrest, hpanic, hend⟩ := ih (w₀.publish m).1 hafter
    -- both reactions go on with the same outcome
    have hrun : (Reaction.send m next).run .table via w =
        { (next (w₀.publish m).1).run .table via (w.publish m).2 with
          sent := (w₀.publish m).1 :: ((next (w₀.publish m).1).run .table via (w.publish m).2).sent } := by
      rw [← hsent]
      rfl
    rw [hrun]
    exact ⟨hresult, congrArg (List.cons _) hrest, hpanic, hend⟩

/-- What is recorded of a call is the same, and so is what it comes to. If it gives up, that is a line. -/
theorem perform {α : Type} (h : Beside S ps w₀ w) (via : ConnectionId) (r : Reaction α)
    (event : List Sent → Event) (call : HookCall) :
    (r.perform .table via event call w).1 = (r.calm.perform .table via event call w₀).1 ∧
      Beside S (((r.run .table via w).panic.map (.mk call)).toList ++ ps)
        (r.calm.perform .table via event call w₀).2 (r.perform .table via event call w).2 := by
  obtain ⟨hresult, hsent, hpanic, hafter⟩ := h.run via r
  refine ⟨hresult, ?_⟩
  unfold Reaction.perform
  dsimp only
  rw [hsent, hpanic]
  exact (hafter.record _).notePanic call _

variable {ε : Type}

theorem tellOffline (h : Handler ε ConnectionId) (hw : Beside S ps w₀ w) (s : Session ε ConnectionId) :
    Beside S ((Presence.offlinePanic? h .table s w).toList ++ ps) (Presence.tellOffline h.calm .table s w₀)
      (Presence.tellOffline h .table s w) := by
  have hnote := hw.note (.offline s.identity s.connection)
  unfold Presence.tellOffline Presence.offlinePanic?
  dsimp only
  rw [← hnote.entries]
  exact (hnote.perform s.publisher (h.offline _ s) (.offline s.identity s.connection) _).2

theorem tellOnline (h : Handler ε ConnectionId) (hw : Beside S ps w₀ w) (s : Session ε ConnectionId) :
    (Presence.tellOnline h .table s w).1 = (Presence.tellOnline h.calm .table s w₀).1 ∧
      Beside S ((Presence.onlinePanic? h .table s w).toList ++ ps) (Presence.tellOnline h.calm .table s w₀).2
        (Presence.tellOnline h .table s w).2 := by
  have hnote := hw.note (.online s.identity s.connection s.address)
  unfold Presence.tellOnline Presence.onlinePanic?
  dsimp only
  rw [← hnote.entries]
  exact hnote.perform s.publisher (h.online _ s) (.online s.identity s.connection) _

theorem tellRetired (h : Handler ε ConnectionId) (hw : Beside S ps w₀ w) (r : Registry ε ConnectionId)
    (n : Option Nat) :
    Beside S (((n.bind r.session?).bind fun s => Presence.offlinePanic? h .table s w).toList ++ ps)
      (Presence.tellRetired h.calm .table r n w₀) (Presence.tellRetired h .table r n w) := by
  unfold Presence.tellRetired
  cases n.bind r.session? with
  | some s => exact hw.tellOffline h s
  | none => exact hw

theorem handle (h : Handler ε ConnectionId) (hw : Beside S ps w₀ w) (m : Inbound ConnectionId) :
    Beside S ((Inbox.panic? h .table m w).toList ++ ps) (Inbox.handle h.calm .table m w₀)
      (Inbox.handle h .table m w) := by
  unfold Inbox.handle Inbox.panic?
  rw [← hw.entries]
  exact (hw.perform m.publisher (h.message _ m) (.message m.content m.topic m.connection) _).2

end Beside

end Surroundings

namespace Presence

variable {ε : Type} {S : Prop} {ps : List HookPanic} {p₀ p : Presence ε ConnectionId Outbound}

structure Beside (S : Prop) (ps : List HookPanic) (p₀ p : Presence ε ConnectionId Outbound) : Prop extends
    Surroundings.Beside S ps p₀.toSurroundings p.toSurroundings where
  registry : p.registry = p₀.registry

namespace Beside

theorem setOutbound (hp : Beside S ps p₀ p) (o : Outbound) :
    Beside S ps { p₀ with outbound := o } { p with outbound := o } :=
  ⟨hp.toBeside.setOutbound o, hp.registry⟩

theorem online (h : Handler ε ConnectionId) (hp : Beside S ps p₀ p) (a : Arrival ConnectionId) :
    Beside S (onlinePanics h .table a p ++ ps) (Presence.online h.calm .table a p₀).2
      (Presence.online h .table a p).2 := by
  -- the session that ends is told of it, the change is noted, the session that comes is told
  unfold Presence.online onlinePanics
  rw [hp.registry]
  dsimp only
  have hfresh : p₀.registry.online h.calm.fresh a = p₀.registry.online h.fresh a := rfl
  rw [hfresh]
  generalize p₀.registry.online h.fresh a = arrived
  have hretired := hp.toBeside.tellRetired h p₀.registry arrived.retired
  generalize ((arrived.retired.bind p₀.registry.session?).bind fun s =>
    offlinePanic? h .table s p.toSurroundings).toList = retired at hretired ⊢
  generalize Presence.tellRetired h.calm .table p₀.registry arrived.retired p₀.toSurroundings = w₀
    at hretired ⊢
  generalize Presence.tellRetired h .table p₀.registry arrived.retired p.toSurroundings = w
    at hretired ⊢
  have hnoted : Surroundings.Beside S (retired ++ ps)
      (match arrived.replaced with
        | some previous => w₀.note (.replaced a.connection previous a.identity)
        | none => w₀)
      (match arrived.replaced with
        | some previous => w.note (.replaced a.connection previous a.identity)
        | none => w) := by
    cases arrived.replaced with
    | some previous => exact hretired.note _
    | none => exact hretired
  rw [List.append_assoc]
  cases arrived.registry.session? arrived.session with
  | some s =>
    obtain ⟨hextension, htold⟩ := hnoted.tellOnline h s
    exact ⟨htold, congrArg (arrived.registry.setExtension arrived.session) hextension⟩
  | none => exact ⟨hnoted, rfl⟩

theorem offline (h : Handler ε ConnectionId) (hp : Beside S ps p₀ p) (c : ConnectionId) :
    Beside S (offlinePanics h .table c p ++ ps) (Presence.offline h.calm .table c p₀).2
      (Presence.offline h .table c p).2 := by
  unfold Presence.offline offlinePanics Registry.offline
  rw [hp.registry]
  cases p₀.registry.lookupConnection? c with
  | some n => exact ⟨hp.toBeside.tellRetired h p₀.registry (some n), rfl⟩
  | none => exact hp

end Beside

end Presence

end DeviceGateway
