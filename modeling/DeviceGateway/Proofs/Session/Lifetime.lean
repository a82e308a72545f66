import DeviceGateway.Proofs.Session.Transitions

/-!
# How long a session lasts

A session keeps its number and its identity for good (`Registry.Continues`). It is registered under
its identity until a transition retires it (`Registry.Retires`): its connection leaves, or comes to
speak for another identity. Then it has ended (`Registry.Ended`), and no transition registers it again
or changes it (`Presence.ended_run`). `Presence.session_lifetime` is this over every run.
-/

namespace DeviceGateway

namespace Registry

variable {ε π : Type} {r r' r'' : Registry ε π} {n : Nat} {s : Session ε π}

/-- Every session of `r` is there in `r'` under its number, and of the same identity. -/
def Continues (r r' : Registry ε π) : Prop :=
  ∀ n s, r.session? n = some s → ∃ s', r'.session? n = some s' ∧ s'.identity = s.identity

namespace Continues

theorem refl : r.Continues r := fun _ s hs => ⟨s, hs, rfl⟩

theorem trans (h : r.Continues r') (h' : r'.Continues r'') : r.Continues r'' := by
  intro n s hs
  obtain ⟨s', hs', he⟩ := h n s hs
  obtain ⟨s'', hs'', he'⟩ := h' n s' hs'
  exact ⟨s'', hs'', he'.trans he⟩

theorem setExtension (r : Registry ε π) (n : Nat) (e : ε) : r.Continues (r.setExtension n e) := by
  intro m s hs
  rw [session?_setExtension, hs]
  refine ⟨_, rfl, ?_⟩
  split <;> rfl

end Continues

namespace Coherent

/-- The session that an arrival seats is a new one, or it had the identity already. -/
theorem continues_online (h : r.Coherent) (fresh : ε) (a : Arrival π) :
    r.Continues (r.online fresh a).registry := by
  obtain ⟨r₁, -, hsessions, -, -, -, hseat⟩ := h.seated_online fresh a
  intro n s hs
  have hs₁ : r₁.session? n = some s := (congrArg (·[n]?) hsessions).trans hs
  rw [hseat.session]
  by_cases hn : n = r.seat a.identity
  · -- the seat of an identity has a session of it, or lies behind all sessions
    rw [if_pos hn]
    refine ⟨_, rfl, ?_⟩
    cases hi : r.lookup? a.identity with
    | none =>
      have hlt : n < r.sessions.length := (List.getElem?_eq_some_iff.1 hs).1
      rw [seat, hi, Option.getD_none] at hn
      omega
    | some k =>
      obtain ⟨t, ht, hti⟩ := h.ofIdentity _ k hi
      rw [seat, hi, Option.getD_some] at hn
      subst hn
      obtain rfl : s = t := Option.some.inj (hs.symm.trans ht.session)
      exact hti.symm
  · rw [if_neg hn]
    exact ⟨s, hs₁, rfl⟩

theorem continues_offline {c : ConnectionId} (h : r.Coherent) (ho : r.offline c = some (n, r')) :
    r.Continues r' := by
  intro m s hs
  exact ⟨s, (congrArg (·[m]?) (h.offline_eq_some ho).2.sessions).trans hs, rfl⟩

end Coherent

/-- The transition ends session `n`. -/
def Retires (r : Registry ε π) (n : Nat) : Transition π → Prop
  | .offline c => ∃ s, r.Holds n s ∧ s.connection = c
  | .online a => ∃ s, r.Holds n s ∧ s.connection = a.connection ∧ s.identity ≠ a.identity

/-- Session `n` was there, and is not registered. -/
structure Ended (r : Registry ε π) (n : Nat) : Prop where
  lt : n < r.sessions.length
  not_holds : ∀ s, ¬ r.Holds n s

namespace Ended

theorem lookup? (he : r.Ended n) (h : r.Coherent) (i : String) : r.lookup? i ≠ some n := by
  intro hi
  obtain ⟨s, hs, -⟩ := h.ofIdentity i n hi
  exact he.not_holds s hs

theorem lookupConnection? (he : r.Ended n) (h : r.Coherent) (c : ConnectionId) :
    r.lookupConnection? c ≠ some n := by
  intro hc
  obtain ⟨s, hs, -⟩ := h.ofConnection c n hc
  exact he.not_holds s hs

theorem ne_seat (he : r.Ended n) (h : r.Coherent) (i : String) : n ≠ r.seat i := by
  intro hn
  cases hi : r.lookup? i with
  | none =>
    have hlt := he.lt
    rw [hn, seat, hi, Option.getD_none] at hlt
    exact Nat.lt_irrefl _ hlt
  | some k =>
    rw [seat, hi, Option.getD_some] at hn
    exact he.lookup? h i (hn ▸ hi)

end Ended

end Registry

namespace Presence

variable {ε π τ : Type} {h : Handler ε π} {publish : Transport π τ} {p : Presence ε π τ}
  {a : Arrival π} {c : ConnectionId} {n m : Nat} {s : Session ε π} {t : Transition π} {i : String}

/-! ### One transition -/

/-- An arrival seats the session of its identity, with what its listener makes of the extension, and
changes no other session. -/
theorem seats_online (h : Handler ε π) (publish : Transport π τ) (hp : p.registry.Coherent)
    (a : Arrival π) :
    let n := p.registry.seat a.identity
    let s := Session.start (p.registry.kept h.fresh a.identity) a
    let r := (online h publish a p).2.registry
    (online h publish a p).1 = n ∧
      (∃ w, r.Holds n { s with extension := (tellOnline h publish s w).1 }) ∧
      ∀ m, m ≠ n → r.session? m = p.registry.session? m := by
  intro n s r
  obtain ⟨r₁, -, hsessions, -, hnumber, -, hseat⟩ := hp.seated_online h.fresh a
  have hs : (p.registry.online h.fresh a).registry.Holds n s := hseat.holds_self
  obtain ⟨w, hone, hr⟩ : ∃ w, (online h publish a p).1 = n ∧ r =
      (p.registry.online h.fresh a).registry.setExtension n (tellOnline h publish s w).1 := by
    have hsession : (p.registry.online h.fresh a).registry.session? (p.registry.seat a.identity) =
      some (.start (p.registry.kept h.fresh a.identity) a) := hs.session
    simp only [r, online, hnumber, hsession]
    exact ⟨_, rfl, rfl⟩
  refine ⟨hone, ⟨w, ?_⟩, fun m hm => ?_⟩
  · have hheld := hs.setExtension (n := n) (e := (tellOnline h publish s w).1)
    rwa [if_pos rfl, ← hr] at hheld
  · rw [hr, Registry.session?_setExtension, hseat.session, if_neg hm]
    simp only [if_neg hm, Option.map_id']
    exact congrArg (·[m]?) hsessions

theorem continues_online (hp : p.registry.Coherent) (a : Arrival π) :
    p.registry.Continues (online h publish a p).2.registry := by
  obtain ⟨e, he⟩ := registry_online h publish a p
  rw [he]
  exact (hp.continues_online h.fresh a).trans (Registry.Continues.setExtension _ _ _)

theorem continues_offline (hp : p.registry.Coherent) (c : ConnectionId) :
    p.registry.Continues (offline h publish c p).2.registry := by
  cases ho : p.registry.offline c with
  | none =>
    rw [offline_of_none ho]
    exact .refl
  | some o =>
    rw [(offline_of_some ho).2]
    exact hp.continues_offline ho

theorem continues_step (h : Handler ε π) (publish : Transport π τ) (hp : p.registry.Coherent)
    (t : Transition π) :
    p.registry.Continues (step h publish p t).registry := by
  cases t with
  | online a => exact continues_online hp a
  | offline c => exact continues_offline hp c

theorem session?_offline (hp : p.registry.Coherent) (m : Nat) :
    (offline h publish c p).2.registry.session? m = p.registry.session? m := by
  cases ho : p.registry.offline c with
  | none => rw [offline_of_none ho]
  | some o =>
    rw [(offline_of_some ho).2]
    exact congrArg (·[m]?) (hp.offline_eq_some ho).2.sessions

theorem lt_length_of_continues {r r' : Registry ε π} (hc : r.Continues r')
    (hn : n < r.sessions.length) : n < r'.sessions.length := by
  obtain ⟨s, hs, -⟩ := hc n _ (List.getElem?_eq_getElem hn)
  exact (List.getElem?_eq_some_iff.1 hs).1

/-- Behind an arrival, the sessions of other numbers are of other identities. -/
theorem identity_ne_of_holds_online (hp : p.registry.Coherent) (hn : n ≠ p.registry.seat a.identity)
    (hs : (online h publish a p).2.registry.Holds n s) : s.identity ≠ a.identity := by
  obtain ⟨-, ⟨w, hw⟩, -⟩ := seats_online h publish hp a
  intro hi
  have hnumber := hs.identity
  rw [hi] at hnumber
  exact hn (Option.some.inj (hnumber.symm.trans hw.identity))

/-- A session that has ended stays so, and as it is. -/
theorem ended_step (h : Handler ε π) (publish : Transport π τ) (hp : p.registry.Coherent)
    (he : p.registry.Ended n) (t : Transition π) :
    (step h publish p t).registry.session? n = p.registry.session? n ∧
      (step h publish p t).registry.Ended n := by
  have hlt := lt_length_of_continues (continues_step h publish hp t) he.lt
  cases t with
  | online a =>
    have hn := he.ne_seat hp a.identity
    obtain ⟨-, -, hothers⟩ := seats_online h publish hp a
    refine ⟨hothers n hn, hlt, fun s hs => ?_⟩
    have hi := identity_ne_of_holds_online hp hn hs
    exact he.not_holds s ((holds_online_of_ne hp hi).1 hs).1
  | offline c =>
    refine ⟨session?_offline hp n, hlt, fun s hs => ?_⟩
    exact he.not_holds s ((holds_offline hp).1 hs).1

/-- A session that a transition retires ends as it is. -/
theorem ended_of_retires (h : Handler ε π) (publish : Transport π τ) (hp : p.registry.Coherent)
    (hr : p.registry.Retires n t) :
    (step h publish p t).registry.session? n = p.registry.session? n ∧
      (step h publish p t).registry.Ended n := by
  have hc := continues_step h publish hp t
  cases t with
  | online a =>
    obtain ⟨s, hs, hsc, hi⟩ := hr
    have hn : n ≠ p.registry.seat a.identity := fun hn => hi ((hp.eq_seat hs).1 hn)
    obtain ⟨-, -, hothers⟩ := seats_online h publish hp a
    refine ⟨hothers n hn, lt_length_of_continues hc hs.lt, fun s' hs' => ?_⟩
    obtain ⟨hs₀, hne⟩ := (holds_online_of_ne hp (identity_ne_of_holds_online hp hn hs')).1 hs'
    exact hne (hs₀.eq hs ▸ hsc)
  | offline c =>
    obtain ⟨s, hs, hsc⟩ := hr
    refine ⟨session?_offline hp n, lt_length_of_continues hc hs.lt, fun s' hs' => ?_⟩
    obtain ⟨hs₀, hne⟩ := (holds_offline hp).1 hs'
    exact hne (hs₀.eq hs ▸ hsc)

/-- A session that a transition does not retire stays that of its identity. -/
theorem lookup?_step (hp : p.registry.Coherent) (hi : p.registry.lookup? i = some n)
    (hr : ¬ p.registry.Retires n t) : (step h publish p t).registry.lookup? i = some n := by
  obtain ⟨s, hs, rfl⟩ := hp.lookup?_eq_some.1 hi
  cases t with
  | online a =>
    by_cases he : s.identity = a.identity
    · obtain ⟨-, ⟨w, hw⟩, -⟩ := seats_online h publish hp a
      rw [he, ← hs.seat_eq, he]
      exact hw.identity
    · have hc : s.connection ≠ a.connection := fun hc => hr ⟨s, hs, hc, he⟩
      exact ((holds_online_of_ne hp he).2 ⟨hs, hc⟩).identity
  | offline c =>
    have hc : s.connection ≠ c := fun hc => hr ⟨s, hs, hc⟩
    exact ((holds_offline hp).2 ⟨hs, hc⟩).identity

/-! ### Every run -/

variable {us : List (Transition π)}

theorem continues_run (h : Handler ε π) (publish : Transport π τ) (hp : p.registry.Coherent)
    (us : List (Transition π)) :
    p.registry.Continues (run h publish us p).registry := by
  induction us generalizing p with
  | nil => exact .refl
  | cons t us ih => exact (continues_step h publish hp t).trans (ih (coherent_step hp t))

theorem ended_run (h : Handler ε π) (publish : Transport π τ) (hp : p.registry.Coherent)
    (he : p.registry.Ended n) (us : List (Transition π)) :
    (run h publish us p).registry.session? n = p.registry.session? n ∧
      (run h publish us p).registry.Ended n := by
  induction us generalizing p with
  | nil => exact ⟨rfl, he⟩
  | cons t us ih =>
    obtain ⟨hsame, hend⟩ := ended_step h publish hp he t
    obtain ⟨hlater, hends⟩ := ih (coherent_step hp t) hend
    exact ⟨hlater.trans hsame, hends⟩

/-- A session is that of its identity up to the transition that retires it. -/
theorem lookup?_run_iff (hp : p.registry.Coherent) (hi : p.registry.lookup? i = some n)
    (us : List (Transition π)) : (run h publish us p).registry.lookup? i = some n ↔
      ∀ vs t rest, us = vs ++ t :: rest → ¬ (run h publish vs p).registry.Retires n t := by
  induction us generalizing p with
  | nil => exact iff_of_true hi (by simp)
  | cons t us ih =>
    have hp' : (step h publish p t).registry.Coherent := coherent_step hp t
    show (run h publish us (step h publish p t)).registry.lookup? i = some n ↔ _
    by_cases hr : p.registry.Retires n t
    · obtain ⟨-, hend⟩ := ended_of_retires h publish hp hr
      obtain ⟨-, hends⟩ := ended_run h publish hp' hend us
      exact iff_of_false (hends.lookup? (coherent_run hp' us) i) fun hall => hall [] t us rfl hr
    · rw [ih hp' (lookup?_step hp hi hr)]
      constructor
      · intro hall vs t' rest he
        rcases List.cons_eq_append_iff.1 he with ⟨rfl, ht⟩ | ⟨vs, rfl, ht⟩
        · obtain ⟨rfl, -⟩ := List.cons.inj ht
          exact hr
        · exact hall vs t' rest ht
      · intro hall vs t' rest he
        exact hall (t :: vs) t' rest (congrArg (t :: ·) he)

/-- A number that a look-up gave has a session for good, so no later arrival finds it free. -/
theorem lookup?_ne_of_run (h : Handler ε π) (publish : Transport π τ)
    (hp : p.registry.Coherent) (us : List (Transition π)) {n : Nat}
    (hn : (run h publish us p).registry.session? n = none) (i : String) :
    p.registry.lookup? i ≠ some n := by
  intro hi
  obtain ⟨s, hs, -⟩ := hp.ofIdentity i n hi
  obtain ⟨s', hs', -⟩ := continues_run h publish hp us n s hs.session
  rw [hn] at hs'
  cases hs'

/-- The life of a session, in every run. An arrival returns the session that is registered for its
identity, or a new one, of a number that no look-up gave before. From then on the session is
registered for it, and has what the arrival came with; its extension is what it was, or the default,
and then what the listener made of it. A session is the registered one of its identity until the
transition that retires it, and no longer. Then it stays as it is and is never registered again. No
session changes its identity. -/
theorem session_lifetime (w : Surroundings τ) (ts : List (Transition π)) :
    let p₀ : Presence ε π τ := { toSurroundings := w }
    let p := run h publish ts p₀
    (∀ a, let n := (online h publish a p).1
      let q := (online h publish a p).2
      let kept := match p.registry.lookup? a.identity with
        | some k => (p.registry.session? k).map (·.extension)
        | none => some h.fresh
      (∀ k, p.registry.lookup? a.identity = some k → n = k) ∧
      (p.registry.lookup? a.identity = none → p.registry.session? n = none ∧
        ∀ us vs, ts = us ++ vs → ∀ i, (run h publish us p₀).registry.lookup? i ≠ some n) ∧
      q.registry.lookup? a.identity = some n ∧ q.registry.lookupConnection? a.connection = some n ∧
      ∃ e w', kept = some e ∧ q.registry.session? n = some
        { Session.start e a with extension := (tellOnline h publish (.start e a) w').1 }) ∧
    (∀ i n, p.registry.lookup? i = some n → ∀ us,
      (run h publish us p).registry.lookup? i = some n ↔
        ∀ vs t rest, us = vs ++ t :: rest → ¬ (run h publish vs p).registry.Retires n t) ∧
    (∀ n t, p.registry.Retires n t → ∀ us,
      let r := (run h publish us (step h publish p t)).registry
      r.session? n = p.registry.session? n ∧ (∀ i, r.lookup? i ≠ some n) ∧
        ∀ c, r.lookupConnection? c ≠ some n) ∧
    ∀ n s, p.registry.session? n = some s → ∀ us,
      ∃ s', (run h publish us p).registry.session? n = some s' ∧ s'.identity = s.identity := by
  intro p₀ p
  have hp : p.registry.Coherent := coherent_run .empty ts
  refine ⟨fun a => ?_, fun i n hi us => lookup?_run_iff hp hi us, fun n t hr us => ?_,
    fun n s hs us => continues_run h publish hp us n s hs⟩
  · intro n q kept
    obtain ⟨hn, ⟨w', hheld⟩, -⟩ := seats_online h publish hp a
    have hn : n = p.registry.seat a.identity := hn
    rw [← hn] at hheld
    refine ⟨fun k hk => ?_, fun hnone => ?_, hheld.identity, hheld.connection, ?_⟩
    · rw [hn, Registry.seat, hk, Option.getD_some]
    · rw [Registry.seat, hnone, Option.getD_none] at hn
      have hnew : p.registry.session? n = none := List.getElem?_eq_none (Nat.le_of_eq hn.symm)
      refine ⟨hnew, fun us vs hts i hi => ?_⟩
      have hus : (run h publish us p₀).registry.Coherent := coherent_run .empty us
      have hlast : p = run h publish vs (run h publish us p₀) := by
        rw [show p = run h publish ts p₀ from rfl, hts, run, List.foldl_append]
        rfl
      exact lookup?_ne_of_run h publish hus vs (hlast ▸ hnew) i hi
    · refine ⟨p.registry.kept h.fresh a.identity, w', ?_, hheld.session⟩
      simp only [kept, Registry.kept]
      cases hi : p.registry.lookup? a.identity with
      | none => rfl
      | some k =>
        obtain ⟨s, hs, -⟩ := hp.ofIdentity _ k hi
        simp [hs.session]
  · obtain ⟨hsame, hend⟩ := ended_of_retires h publish hp hr
    have hp' : (step h publish p t).registry.Coherent := coherent_step hp t
    obtain ⟨hlater, hends⟩ := ended_run h publish hp' hend us
    have hlast : (run h publish us (step h publish p t)).registry.Coherent := coherent_run hp' us
    exact ⟨hlater.trans hsame, hends.lookup? hlast, hends.lookupConnection? hlast⟩

end Presence

end DeviceGateway
