import DeviceGateway.Proofs.Session.Transitions
import Mathlib.Data.List.Induction

/-!
# What a run leaves registered

The registry after a run can be read off the run. An arrival stands (`Run.Standing`) when it is the
last of its identity, its connection has not left since, and no arrival has made that connection
speak for another identity since. `Presence.holds_run`: what the registry holds is exactly what the
standing arrivals came with. The induction is on the run from its end, and one more transition
changes what stands (`Run.standing_online`, `Run.standing_offline`) as it changes what is held
(`Coherent.holdsArrival_online`, `Coherent.holdsArrival_offline`).
-/

namespace DeviceGateway

namespace Run

variable {π : Type} {ts later : List (Transition π)} {a b : Arrival π} {c : ConnectionId}
  {t : Transition π}

/-- `a` is the last arrival of its identity in a run, and `later` is what comes after it. -/
def LastArrival (ts : List (Transition π)) (a : Arrival π) (later : List (Transition π)) : Prop :=
  (∃ earlier, ts = earlier ++ .online a :: later) ∧ ∀ b, .online b ∈ later → b.identity ≠ a.identity

/-- The connection of `a` has left, or has come to speak for another identity. -/
def Superseded (a : Arrival π) (later : List (Transition π)) : Prop :=
  .offline a.connection ∈ later ∨
    ∃ b, .online b ∈ later ∧ b.connection = a.connection ∧ b.identity ≠ a.identity

/-- `a` is the last arrival of its identity, and its connection still speaks for it. -/
def Standing (ts : List (Transition π)) (a : Arrival π) : Prop :=
  ∃ later, LastArrival ts a later ∧ ¬ Superseded a later

theorem not_lastArrival_nil : ¬ LastArrival [] a later := by
  rintro ⟨⟨earlier, he⟩, -⟩
  simp at he

/-- An arrival is the last of its identity behind one more transition: it is that transition, or it
was the last and the transition is no arrival of its identity. -/
theorem lastArrival_concat : LastArrival (ts ++ [t]) a later ↔
    (t = .online a ∧ later = []) ∨ ∃ rest, later = rest ++ [t] ∧ LastArrival ts a rest ∧
      ∀ b, t = .online b → b.identity ≠ a.identity := by
  constructor
  · rintro ⟨⟨earlier, he⟩, hlast⟩
    rcases List.eq_nil_or_concat later with rfl | ⟨rest, x, rfl⟩
    · exact .inl ⟨List.singleton_inj.1 (List.append_inj' he rfl).2, rfl⟩
    · have hcat : ts ++ [t] = (earlier ++ .online a :: rest) ++ [x] := by simpa using he
      obtain ⟨hts, hx⟩ := List.append_inj' hcat rfl
      obtain rfl := List.singleton_inj.1 hx
      refine .inr ⟨rest, List.concat_eq_append, ⟨⟨earlier, hts⟩, fun b hb => ?_⟩, fun b hb => ?_⟩
      · exact hlast b (by simp [hb])
      · exact hlast b (by simp [hb])
  · rintro (⟨rfl, rfl⟩ | ⟨rest, rfl, ⟨⟨earlier, rfl⟩, hlast⟩, ht⟩)
    · exact ⟨⟨ts, rfl⟩, by simp⟩
    · refine ⟨⟨earlier, by simp⟩, fun b hb => ?_⟩
      rcases List.mem_append.1 hb with hb | hb
      · exact hlast b hb
      · exact ht b (List.mem_singleton.1 hb).symm

theorem LastArrival.unique {later' : List (Transition π)} (ha : LastArrival ts a later)
    (hb : LastArrival ts b later') (he : a.identity = b.identity) : a = b ∧ later = later' := by
  induction ts using List.reverseRecOn generalizing later later' with
  | nil => exact absurd ha not_lastArrival_nil
  | append_singleton ts t ih =>
    rcases lastArrival_concat.1 ha with ⟨rfl, rfl⟩ | ⟨rest, rfl, ha, hta⟩
    · rcases lastArrival_concat.1 hb with ⟨hab, rfl⟩ | ⟨rest', rfl, -, htb⟩
      · exact ⟨(Transition.online.inj hab), rfl⟩
      · exact absurd he (htb a rfl)
    · rcases lastArrival_concat.1 hb with ⟨rfl, rfl⟩ | ⟨rest', rfl, hb, -⟩
      · exact absurd he.symm (hta b rfl)
      · obtain ⟨rfl, rfl⟩ := ih ha hb
        exact ⟨rfl, rfl⟩

theorem not_standing_nil : ¬ Standing [] a := fun ⟨_, hl, _⟩ => not_lastArrival_nil hl

/-- After an arrival stand it and what stood with neither its identity nor its connection. -/
theorem standing_online : Standing (ts ++ [.online b]) a ↔
    a = b ∨ Standing ts a ∧ a.identity ≠ b.identity ∧ a.connection ≠ b.connection := by
  constructor
  · rintro ⟨later, hl, hs⟩
    rcases lastArrival_concat.1 hl with ⟨hab, -⟩ | ⟨rest, rfl, hl, ht⟩
    · exact .inl (Transition.online.inj hab).symm
    · have hi := ht b rfl
      refine .inr ⟨⟨rest, hl, fun h => hs ?_⟩, Ne.symm hi, fun hc => hs ?_⟩
      · rcases h with h | ⟨d, hd, hdc⟩
        · exact .inl (List.mem_append_left _ h)
        · exact .inr ⟨d, List.mem_append_left _ hd, hdc⟩
      · exact .inr ⟨b, by simp, hc.symm, hi⟩
  · rintro (rfl | ⟨⟨later, hl, hs⟩, hi, hc⟩)
    · exact ⟨[], lastArrival_concat.2 (.inl ⟨rfl, rfl⟩), by simp [Superseded]⟩
    · refine ⟨later ++ [.online b], lastArrival_concat.2 (.inr ⟨later, rfl, hl, ?_⟩), ?_⟩
      · rintro d hd
        rw [← Transition.online.inj hd]
        exact Ne.symm hi
      · rintro (h | ⟨d, hd, hdc⟩)
        · exact hs (.inl (by simpa using h))
        · rcases List.mem_append.1 hd with hd | hd
          · exact hs (.inr ⟨d, hd, hdc⟩)
          · rw [List.mem_singleton, Transition.online.injEq] at hd
            exact hc (hd ▸ hdc.1.symm)

/-- After a leave stands what stood on another connection. -/
theorem standing_offline :
    Standing (ts ++ [.offline c]) a ↔ Standing ts a ∧ a.connection ≠ c := by
  constructor
  · rintro ⟨later, hl, hs⟩
    rcases lastArrival_concat.1 hl with ⟨hab, -⟩ | ⟨rest, rfl, hl, -⟩
    · cases hab
    · refine ⟨⟨rest, hl, fun h => hs ?_⟩, fun hc => hs (.inl (by simp [hc]))⟩
      rcases h with h | ⟨d, hd, hdc⟩
      · exact .inl (List.mem_append_left _ h)
      · exact .inr ⟨d, List.mem_append_left _ hd, hdc⟩
  · rintro ⟨⟨later, hl, hs⟩, hc⟩
    refine ⟨later ++ [.offline c], lastArrival_concat.2 (.inr ⟨later, rfl, hl, nofun⟩), ?_⟩
    rintro (h | ⟨d, hd, hdc⟩)
    · rcases List.mem_append.1 h with h | h
      · exact hs (.inl h)
      · rw [List.mem_singleton, Transition.offline.injEq] at h
        exact hc h
    · exact hs (.inr ⟨d, by simpa using hd, hdc⟩)

end Run

/-- What an arrival said that left a session as it is. -/
def Session.arrival {ε π : Type} (s : Session ε π) : Arrival π :=
  ⟨s.identity, s.connection, s.address, s.username, s.password, s.publisher⟩

namespace Registry

variable {ε π : Type} {r r' : Registry ε π} {n : Nat} {a b : Arrival π} {c : ConnectionId}

/-- A session is registered that is as the arrival left it, up to its extension. -/
def HoldsArrival (r : Registry ε π) (a : Arrival π) : Prop := ∃ n s, r.Holds n s ∧ s.arrival = a

theorem not_holdsArrival_empty : ¬ ({} : Registry ε π).HoldsArrival a :=
  fun ⟨_, _, hs, _⟩ => absurd hs.lt (Nat.not_lt_zero _)

theorem Coherent.holdsArrival_online {fresh : ε} (h : r.Coherent) :
    (r.online fresh b).registry.HoldsArrival a ↔
      a = b ∨ r.HoldsArrival a ∧ a.identity ≠ b.identity ∧ a.connection ≠ b.connection := by
  constructor
  · rintro ⟨n, s, hs, rfl⟩
    rcases h.holds_online.1 hs with ⟨-, rfl⟩ | ⟨hs, hic⟩
    · exact .inl rfl
    · exact .inr ⟨⟨n, s, hs, rfl⟩, hic⟩
  · rintro (rfl | ⟨⟨n, s, hs, rfl⟩, hic⟩)
    · exact ⟨_, _, h.holds_online.2 (.inl ⟨rfl, rfl⟩), rfl⟩
    · exact ⟨n, s, h.holds_online.2 (.inr ⟨hs, hic⟩), rfl⟩

theorem Coherent.holdsArrival_offline (h : r.Coherent) (ho : r.offline c = some (n, r')) :
    r'.HoldsArrival a ↔ r.HoldsArrival a ∧ a.connection ≠ c := by
  constructor
  · rintro ⟨n, s, hs, rfl⟩
    obtain ⟨hs, hc⟩ := (h.holds_offline ho).1 hs
    exact ⟨⟨n, s, hs, rfl⟩, hc⟩
  · rintro ⟨⟨n, s, hs, rfl⟩, hc⟩
    exact ⟨n, s, (h.holds_offline ho).2 ⟨hs, hc⟩, rfl⟩

theorem holdsArrival_setExtension {e : ε} :
    (r.setExtension n e).HoldsArrival a ↔ r.HoldsArrival a := by
  constructor
  · rintro ⟨m, t, ht, rfl⟩
    obtain ⟨s, hs, rfl⟩ := holds_setExtension.1 ht
    exact ⟨m, s, hs, by split <;> rfl⟩
  · rintro ⟨m, s, hs, rfl⟩
    exact ⟨m, _, hs.setExtension, by split <;> rfl⟩

/-- Where no registered session is on a connection, none leaves with it. -/
theorem Coherent.offline_eq_none_iff (h : r.Coherent) :
    r.offline c = none ↔ ∀ a, r.HoldsArrival a → a.connection ≠ c := by
  rw [offline_eq_none, Option.eq_none_iff_forall_ne_some]
  constructor
  · rintro hn a ⟨n, s, hs, rfl⟩ rfl
    exact hn n hs.connection
  · intro ha n hn
    obtain ⟨s, hs, hc⟩ := h.ofConnection c n hn
    exact ha _ ⟨n, s, hs, rfl⟩ hc

end Registry

namespace Presence

open Run

variable {ε π τ : Type} {h : Handler ε π} {publish : Transport π τ} {p : Presence ε π τ}
  {a : Arrival π} {c : ConnectionId} {ts : List (Transition π)}

/-- After an arrival, held is it and what was held with neither its identity nor its connection. -/
theorem holdsArrival_online (hp : p.registry.Coherent) {b : Arrival π} :
    (online h publish b p).2.registry.HoldsArrival a ↔ a = b ∨
      p.registry.HoldsArrival a ∧ a.identity ≠ b.identity ∧ a.connection ≠ b.connection := by
  obtain ⟨e, he⟩ := registry_online h publish b p
  rw [he, Registry.holdsArrival_setExtension, hp.holdsArrival_online]

/-- After a leave, held is what was held on another connection. -/
theorem holdsArrival_offline (hp : p.registry.Coherent) :
    (offline h publish c p).2.registry.HoldsArrival a ↔
      p.registry.HoldsArrival a ∧ a.connection ≠ c := by
  cases ho : p.registry.offline c with
  | none =>
    rw [offline_of_none ho]
    exact (and_iff_left_of_imp (hp.offline_eq_none_iff.1 ho a)).symm
  | some o =>
    rw [(offline_of_some ho).2]
    exact hp.holdsArrival_offline ho

/-- What is registered after a run from an empty registry is what the standing arrivals said. -/
theorem holds_run (w : Surroundings τ) (ts : List (Transition π)) (a : Arrival π) :
    (run h publish ts { toSurroundings := w }).registry.HoldsArrival a ↔ Standing ts a := by
  induction ts using List.reverseRecOn generalizing a with
  | nil => exact iff_of_false Registry.not_holdsArrival_empty not_standing_nil
  | append_singleton ts t ih =>
    rw [run_concat]
    have hp : (run h publish ts { toSurroundings := w }).registry.Coherent := coherent_run .empty ts
    cases t with
    | online b => exact (holdsArrival_online hp).trans (by rw [standing_online, ih])
    | offline c => exact (holdsArrival_offline hp).trans (by rw [standing_offline, ih])

/-- The look-ups after a run from an empty registry, read off the run: an identity has a session
when its last arrival stands, and then the session is on the connection of that arrival and has what
it said. A connection leads to the session on it. Where no arrival stands on a connection, be it
superseded, unknown or gone, its leaving changes nothing. -/
theorem lookups_follow_history (w : Surroundings τ) (ts : List (Transition π)) :
    let p := run h publish ts { toSurroundings := w }
    (∀ i, (p.registry.lookup? i).isSome ↔ ∃ a later, LastArrival ts a later ∧ a.identity = i ∧
      ¬ Superseded a later) ∧
    (∀ a later n, LastArrival ts a later → p.registry.lookup? a.identity = some n →
      ∃ s, p.registry.session? n = some s ∧ s.identity = a.identity ∧
        s.connection = a.connection ∧ s.address = a.address ∧ s.username = a.username ∧
        s.password = a.password ∧ s.publisher = a.publisher) ∧
    (∀ c n, p.registry.lookupConnection? c = some n ↔ ∃ i s, p.registry.lookup? i = some n ∧
      p.registry.session? n = some s ∧ s.connection = c) ∧
    (∀ c, (∀ a later, LastArrival ts a later → a.connection = c → Superseded a later) →
      offline h publish c p = (none, p)) := by
  intro p
  have hp : p.registry.Coherent := coherent_run .empty ts
  have hrun : ∀ a, p.registry.HoldsArrival a ↔ Standing ts a := holds_run w ts
  refine ⟨fun i => ?_, fun a later n hl hn => ?_, fun c n => ?_, fun c hc => ?_⟩
  · simp only [Option.isSome_iff_exists, hp.lookup?_eq_some]
    constructor
    · rintro ⟨n, s, hs, rfl⟩
      obtain ⟨later, hl, hstands⟩ := (hrun s.arrival).1 ⟨n, s, hs, rfl⟩
      exact ⟨s.arrival, later, hl, rfl, hstands⟩
    · rintro ⟨a, later, hl, rfl, hstands⟩
      obtain ⟨n, s, hs, rfl⟩ := (hrun a).2 ⟨later, hl, hstands⟩
      exact ⟨n, s, hs, rfl⟩
  · obtain ⟨s, hs, hi⟩ := hp.lookup?_eq_some.1 hn
    obtain ⟨later', hl', -⟩ := (hrun s.arrival).1 ⟨n, s, hs, rfl⟩
    -- a run has one last arrival of an identity, so the session has what `a` said
    obtain ⟨rfl, -⟩ := hl.unique hl' hi.symm
    exact ⟨s, hs.session, rfl, rfl, rfl, rfl, rfl, rfl⟩
  · rw [hp.lookupConnection?_eq_some]
    constructor
    · rintro ⟨s, hs, rfl⟩
      exact ⟨s.identity, s, hs.identity, hs.session, rfl⟩
    · rintro ⟨i, s, hi, hs, rfl⟩
      obtain ⟨t, ht, -⟩ := hp.lookup?_eq_some.1 hi
      obtain rfl : s = t := Option.some.inj (hs.symm.trans ht.session)
      exact ⟨s, ht, rfl⟩
  · refine offline_of_none (hp.offline_eq_none_iff.2 fun a ha hac => ?_)
    obtain ⟨later, hl, hstands⟩ := (hrun a).1 ha
    exact hstands (hc a later hl hac)

end Presence

end DeviceGateway
