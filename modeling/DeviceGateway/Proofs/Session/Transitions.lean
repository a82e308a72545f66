import DeviceGateway.Proofs.Session.Indices
import DeviceGateway.Session.Presence

/-!
# Runs of transitions

A run is a list of transitions, and `Presence.run` carries them out one after the other. Whatever
the listeners do, a transition changes the registry as `Registry.online` and `Registry.offline` say,
up to the extension that the listener of an arrival leaves (`Presence.registry_online`,
`Presence.offline_of_some`, `Presence.offline_of_none`). So the registry is coherent after every run
that began with an empty one (`Presence.indices_inverse`).
-/

namespace DeviceGateway

/-- What a connection asks of the registry. -/
inductive Transition (π : Type)
  | online (a : Arrival π)
  | offline (c : ConnectionId)

theorem Registry.setExtension_of_none {ε π : Type} {r : Registry ε π} {n : Nat} {e : ε}
    (hn : r.session? n = none) : r.setExtension n e = r := by
  have : r.sessions.modify n (fun s => { s with extension := e }) = r.sessions :=
    List.modify_eq_self (List.getElem?_eq_none_iff.1 hn)
  rw [setExtension, this]

namespace Presence

variable {ε π τ : Type} (h : Handler ε π) (publish : Transport π τ)

def step (p : Presence ε π τ) : Transition π → Presence ε π τ
  | .online a => (online h publish a p).2
  | .offline c => (offline h publish c p).2

/-- The state after a run that began in `p`. -/
def run (ts : List (Transition π)) (p : Presence ε π τ) : Presence ε π τ :=
  ts.foldl (step h publish) p

theorem run_concat (ts : List (Transition π)) (t : Transition π) (p : Presence ε π τ) :
    run h publish (ts ++ [t]) p = step h publish (run h publish ts p) t := by
  rw [run, List.foldl_append]
  rfl

variable {h publish} {p : Presence ε π τ} {a : Arrival π} {c : ConnectionId}
  {n : Nat} {s : Session ε π}

theorem registry_online (h : Handler ε π) (publish : Transport π τ) (a : Arrival π)
    (p : Presence ε π τ) : ∃ e, (online h publish a p).2.registry =
    (p.registry.online h.fresh a).registry.setExtension (p.registry.online h.fresh a).session e := by
  unfold online
  dsimp only
  split
  · exact ⟨_, rfl⟩
  · exact ⟨h.fresh, (Registry.setExtension_of_none ‹_›).symm⟩

theorem offline_of_some {r : Registry ε π} (ho : p.registry.offline c = some (n, r)) :
    (offline h publish c p).1 = some n ∧ (offline h publish c p).2.registry = r := by
  simp only [offline, ho, and_self]

theorem offline_of_none (ho : p.registry.offline c = none) : offline h publish c p = (none, p) := by
  simp only [offline, ho]

/-! ### The registry after a transition -/

theorem coherent_step (hp : p.registry.Coherent) (t : Transition π) :
    (step h publish p t).registry.Coherent := by
  cases t with
  | online a =>
    obtain ⟨e, he⟩ := registry_online h publish a p
    show (online h publish a p).2.registry.Coherent
    rw [he]
    exact hp.online.setExtension
  | offline c =>
    show (offline h publish c p).2.registry.Coherent
    cases ho : p.registry.offline c with
    | none =>
      rw [offline_of_none ho]
      exact hp
    | some o =>
      rw [(offline_of_some ho).2]
      exact hp.offline ho

/-- Of the sessions of other identities, an arrival ends the one on its connection. -/
theorem holds_online_of_ne (hp : p.registry.Coherent) (hne : s.identity ≠ a.identity) :
    (online h publish a p).2.registry.Holds n s ↔
      p.registry.Holds n s ∧ s.connection ≠ a.connection := by
  obtain ⟨e, he⟩ := registry_online h publish a p
  obtain ⟨-, -, -, -, hnumber, -, -⟩ := hp.seated_online h.fresh a
  -- the listener of the arrival writes to the extension of its own session only
  rw [he, Registry.holds_setExtension, hnumber]
  constructor
  · rintro ⟨t, ht, rfl⟩
    rcases hp.holds_online.1 ht with ⟨rfl, rfl⟩ | ⟨ht, hi, hc⟩
    · rw [if_pos rfl] at hne
      exact absurd rfl hne
    · have hn : n ≠ p.registry.seat a.identity := fun hn => hi ((hp.eq_seat ht).1 hn)
      rw [if_neg hn]
      exact ⟨ht, hc⟩
  · rintro ⟨hs, hc⟩
    have hn : n ≠ p.registry.seat a.identity := fun hn => hne ((hp.eq_seat hs).1 hn)
    exact ⟨s, hp.holds_online.2 (.inr ⟨hs, hne, hc⟩), (if_neg hn).symm⟩

/-- After a leave, registered is what was registered on another connection. -/
theorem holds_offline (hp : p.registry.Coherent) :
    (offline h publish c p).2.registry.Holds n s ↔ p.registry.Holds n s ∧ s.connection ≠ c := by
  cases ho : p.registry.offline c with
  | none =>
    rw [offline_of_none ho]
    refine (and_iff_left_of_imp fun hs hc => ?_).symm
    have := hc ▸ hs.connection
    rw [Registry.Coherent.offline_eq_none.1 ho] at this
    cases this
  | some o =>
    rw [(offline_of_some ho).2]
    exact hp.holds_offline ho

/-! ### The registry after a run -/

theorem coherent_run (hp : p.registry.Coherent) (ts : List (Transition π)) :
    (run h publish ts p).registry.Coherent := by
  induction ts generalizing p with
  | nil => exact hp
  | cons t ts ih => exact ih (coherent_step hp t)

/-- After every run from an empty registry, an entry of either index leads to a session whose entry
in the other leads back to it. So both have the same size, no two identities are on one connection,
and no two connections have one session. -/
theorem indices_inverse (w : Surroundings τ) (ts : List (Transition π)) :
    let r := (run h publish ts { toSurroundings := w }).registry
    (∀ c n, (c, n) ∈ r.byConnection.entries →
      ∃ s, r.session? n = some s ∧ s.connection = c ∧ r.byIdentity.get? s.identity = some n) ∧
    (∀ i n, (i, n) ∈ r.byIdentity.entries →
      ∃ s, r.session? n = some s ∧ s.identity = i ∧ r.byConnection.get? s.connection = some n) ∧
    r.size = r.connectionCount ∧
    (∀ i j n m s t, r.lookup? i = some n → r.lookup? j = some m → r.session? n = some s →
      r.session? m = some t → s.connection = t.connection → i = j) ∧
    (∀ c d n, r.lookupConnection? c = some n → r.lookupConnection? d = some n → c = d) := by
  intro r
  have hr : r.Coherent := coherent_run .empty ts
  refine ⟨fun c n he => ?_, fun i n he => ?_, hr.size_eq, fun i j n m s t hi hj hs ht hc => ?_,
    fun c d n => hr.lookupConnection?_inj⟩
  · obtain ⟨s, hs, hc⟩ := hr.ofConnection c n (Index.mem_entries.1 he)
    exact ⟨s, hs.session, hc, hs.identity⟩
  · obtain ⟨s, hs, hi⟩ := hr.ofIdentity i n (Index.mem_entries.1 he)
    exact ⟨s, hs.session, hi, hs.connection⟩
  · obtain ⟨s', hs', rfl⟩ := hr.ofIdentity i n hi
    obtain ⟨t', ht', rfl⟩ := hr.ofIdentity j m hj
    obtain rfl : s = s' := Option.some.inj (hs.symm.trans hs'.session)
    obtain rfl : t = t' := Option.some.inj (ht.symm.trans ht'.session)
    have hnm : n = m := Option.some.inj (hs'.connection.symm.trans (hc ▸ ht'.connection))
    subst hnm
    exact congrArg Session.identity (hs'.eq ht')

end Presence

end DeviceGateway
