import DeviceGateway.Session.Registry
import Mathlib.Data.List.Nodup

/-!
# The two indices of the registry

`Registry.Coherent`: the index of identities and the index of connections are inverse to each other,
down to the session itself, so they have the same size (`Coherent.size_eq`). `r.Holds n s` says that
`s` is session `n` and that both indices have it there.

Leaving takes a session out of both indices (`Registry.Freed`), and entering puts one into both, in
place of what they had under its number (`Registry.Seated`). Both keep the registry coherent, and an
arrival is the second, behind the first where the connection spoke for another identity. So what is
registered after a transition is `Coherent.holds_offline` and `Coherent.holds_online`.
-/

namespace DeviceGateway

namespace Index

variable {κ ι α : Type} [DecidableEq κ] [DecidableEq ι] {m : Index κ α} {m' : Index ι α}

theorem nodup_values (hm : ∀ k l a, m.get? k = some a → m.get? l = some a → k = l) :
    (m.entries.map Prod.snd).Nodup := by
  refine (List.Nodup.of_map Prod.fst m.nodup_keys).map_on ?_
  rintro ⟨k, a⟩ hk ⟨l, b⟩ hl rfl
  rw [hm k l a (mem_entries.1 hk) (mem_entries.1 hl)]

theorem mem_values {a : α} : a ∈ m.entries.map Prod.snd ↔ ∃ k, m.get? k = some a := by
  simp only [List.mem_map, Prod.exists, exists_eq_right, mem_entries]

/-- Two maps that have the same values, each under one key, have the same size. -/
theorem size_eq_size (hm : ∀ k l a, m.get? k = some a → m.get? l = some a → k = l)
    (hm' : ∀ k l a, m'.get? k = some a → m'.get? l = some a → k = l)
    (h : ∀ a, (∃ k, m.get? k = some a) ↔ ∃ k, m'.get? k = some a) : m.size = m'.size := by
  have hp : (m.entries.map Prod.snd).Perm (m'.entries.map Prod.snd) := by
    rw [List.perm_ext_iff_of_nodup (nodup_values hm) (nodup_values hm')]
    intro a
    rw [mem_values, mem_values]
    exact h a
  simpa [size] using hp.length_eq

theorem size_erase {k : κ} {a : α} (h : m.get? k = some a) : (m.erase k).size + 1 = m.size := by
  have hcount : m.entries.countP (fun e => decide (e.1 = k)) = 1 := by
    have hk : m.keys.count k = 1 :=
      List.count_eq_one_of_mem m.nodup_keys (isSome_get?.1 (h ▸ rfl))
    rwa [keys, List.count_eq_countP, List.countP_map] at hk
  have hsplit := List.length_eq_countP_add_countP (fun e : κ × α => decide (e.1 = k)) (l := m.entries)
  rw [size, size, erase, ← List.countP_eq_length_filter, hsplit, hcount, Nat.add_comm]
  simp

theorem size_insert_of_none {k : κ} {a : α} (h : m.get? k = none) :
    (m.insert k a).size = m.size + 1 := by
  have hfilter : m.entries.filter (fun e => decide (e.1 ≠ k)) = m.entries := by
    refine List.filter_eq_self.2 fun e he => decide_eq_true fun hk => get?_eq_none.1 h ?_
    exact hk ▸ List.mem_map_of_mem he
  show (m.entries.filter (fun e => decide (e.1 ≠ k))).length + 1 = _
  rw [hfilter, size]

end Index

namespace Registry

variable {ε π : Type} {r r' : Registry ε π} {n m : Nat} {s t : Session ε π}
  {c d : ConnectionId} {i j : String}

/-- Session `n` is `s`, and both indices have it. -/
structure Holds (r : Registry ε π) (n : Nat) (s : Session ε π) : Prop where
  session : r.session? n = some s
  identity : r.lookup? s.identity = some n
  connection : r.lookupConnection? s.connection = some n

/-- The two indices are inverse to each other. -/
structure Coherent (r : Registry ε π) : Prop where
  /-- an identity leads to its session, which is on a connection that leads back to it -/
  ofIdentity : ∀ i n, r.lookup? i = some n → ∃ s, r.Holds n s ∧ s.identity = i
  /-- a connection leads to the session on it, which has an identity that leads back to it -/
  ofConnection : ∀ c n, r.lookupConnection? c = some n → ∃ s, r.Holds n s ∧ s.connection = c

theorem Holds.eq (hs : r.Holds n s) (ht : r.Holds n t) : s = t :=
  Option.some.inj (hs.session.symm.trans ht.session)

theorem Holds.lt (hs : r.Holds n s) : n < r.sessions.length :=
  (List.getElem?_eq_some_iff.1 hs.session).1

namespace Coherent

theorem empty : ({} : Registry ε π).Coherent := by
  refine ⟨fun i n h => ?_, fun c n h => ?_⟩ <;> cases h

theorem lookup?_eq_some (h : r.Coherent) :
    r.lookup? i = some n ↔ ∃ s, r.Holds n s ∧ s.identity = i :=
  ⟨h.ofIdentity i n, fun ⟨_, hs, he⟩ => he ▸ hs.identity⟩

theorem lookupConnection?_eq_some (h : r.Coherent) :
    r.lookupConnection? c = some n ↔ ∃ s, r.Holds n s ∧ s.connection = c :=
  ⟨h.ofConnection c n, fun ⟨_, hs, he⟩ => he ▸ hs.connection⟩

theorem identity_eq (h : r.Coherent) (hi : r.lookup? i = some n) (hs : r.Holds n s) :
    s.identity = i := by
  obtain ⟨t, ht, rfl⟩ := h.ofIdentity i n hi
  rw [hs.eq ht]

theorem connection_eq (h : r.Coherent) (hc : r.lookupConnection? c = some n) (hs : r.Holds n s) :
    s.connection = c := by
  obtain ⟨t, ht, rfl⟩ := h.ofConnection c n hc
  rw [hs.eq ht]

theorem lookup?_inj (h : r.Coherent) (hi : r.lookup? i = some n) (hj : r.lookup? j = some n) :
    i = j := by
  obtain ⟨s, hs, rfl⟩ := h.ofIdentity i n hi
  exact h.identity_eq hj hs

theorem lookupConnection?_inj (h : r.Coherent) (hc : r.lookupConnection? c = some n)
    (hd : r.lookupConnection? d = some n) : c = d := by
  obtain ⟨s, hs, rfl⟩ := h.ofConnection c n hc
  exact h.connection_eq hd hs

/-- Both indices have as many entries. -/
theorem size_eq (h : r.Coherent) : r.size = r.connectionCount := by
  refine Index.size_eq_size (fun i j n => h.lookup?_inj) (fun c d n => h.lookupConnection?_inj) ?_
  intro n
  constructor
  · rintro ⟨i, hi⟩
    obtain ⟨s, hs, -⟩ := h.ofIdentity i n hi
    exact ⟨_, hs.connection⟩
  · rintro ⟨c, hc⟩
    obtain ⟨s, hs, -⟩ := h.ofConnection c n hc
    exact ⟨_, hs.identity⟩

end Coherent

/-! ### Taking a session out and putting one in -/

/-- `r'` is `r` with session `n` in neither index. -/
structure Freed (r : Registry ε π) (n : Nat) (r' : Registry ε π) : Prop where
  sessions : r'.sessions = r.sessions
  lookup : ∀ i, r'.lookup? i = if r.lookup? i = some n then none else r.lookup? i
  lookupConnection : ∀ c, r'.lookupConnection? c =
    if r.lookupConnection? c = some n then none else r.lookupConnection? c

/-- `r'` is `r` with `s` as session `n`, which the indices have there and nowhere else. -/
structure Seated (r : Registry ε π) (n : Nat) (s : Session ε π) (r' : Registry ε π) : Prop where
  session : ∀ m, r'.session? m = if m = n then some s else r.session? m
  lookup : ∀ i, r'.lookup? i = if i = s.identity then some n else r.lookup? i
  lookupConnection : ∀ c, r'.lookupConnection? c = if c = s.connection then some n else
    if r.lookupConnection? c = some n then none else r.lookupConnection? c

namespace Freed

theorem holds (hf : Freed r n r') : r'.Holds m t ↔ r.Holds m t ∧ m ≠ n := by
  have hsession : r'.session? m = r.session? m := congrArg (·[m]?) hf.sessions
  constructor
  · rintro ⟨hs, hi, hc⟩
    rw [hf.lookup] at hi
    rw [hf.lookupConnection] at hc
    split at hi
    · cases hi
    · split at hc
      · cases hc
      · exact ⟨⟨hsession ▸ hs, hi, hc⟩, fun hm => ‹¬ r.lookup? _ = some n› (hm ▸ hi)⟩
  · rintro ⟨⟨hs, hi, hc⟩, hm⟩
    refine ⟨hsession ▸ hs, ?_, ?_⟩
    · rw [hf.lookup, hi, if_neg (by simpa using hm)]
    · rw [hf.lookupConnection, hc, if_neg (by simpa using hm)]

theorem coherent (hf : Freed r n r') (h : r.Coherent) : r'.Coherent := by
  refine ⟨fun i m hi => ?_, fun c m hc => ?_⟩
  · rw [hf.lookup] at hi
    split at hi
    · cases hi
    · obtain ⟨s, hs, rfl⟩ := h.ofIdentity i m hi
      exact ⟨s, hf.holds.2 ⟨hs, fun hm => ‹¬ r.lookup? _ = some n› (hm ▸ hi)⟩, rfl⟩
  · rw [hf.lookupConnection] at hc
    split at hc
    · cases hc
    · obtain ⟨s, hs, rfl⟩ := h.ofConnection c m hc
      exact ⟨s, hf.holds.2 ⟨hs, fun hm => ‹¬ r.lookupConnection? _ = some n› (hm ▸ hc)⟩, rfl⟩

end Freed

/-- The place of `s` as session `n` is free: what leads to `n` or from the keys of `s` agrees. -/
structure Vacant (r : Registry ε π) (n : Nat) (s : Session ε π) : Prop where
  keeps : ∀ i, r.lookup? i = some n → i = s.identity
  identity : ∀ m, r.lookup? s.identity = some m → m = n
  connection : ∀ m, r.lookupConnection? s.connection = some m → m = n

namespace Seated

theorem holds_self (hs : Seated r n s r') : r'.Holds n s :=
  ⟨by rw [hs.session, if_pos rfl], by rw [hs.lookup, if_pos rfl],
    by rw [hs.lookupConnection, if_pos rfl]⟩

theorem holds (hs : Seated r n s r') (hv : r.Vacant n s) :
    r'.Holds m t ↔ m = n ∧ t = s ∨ r.Holds m t ∧ m ≠ n := by
  constructor
  · intro ht
    by_cases hm : m = n
    · subst hm
      exact .inl ⟨rfl, ht.eq hs.holds_self⟩
    · have hi := ht.identity
      have hc := ht.connection
      rw [hs.lookup] at hi
      rw [hs.lookupConnection] at hc
      split at hi
      · exact absurd (Option.some.inj hi).symm hm
      · split at hc
        · exact absurd (Option.some.inj hc).symm hm
        · split at hc
          · cases hc
          · refine .inr ⟨⟨?_, hi, hc⟩, hm⟩
            rw [← ht.session, hs.session, if_neg hm]
  · rintro (⟨rfl, rfl⟩ | ⟨ht, hm⟩)
    · exact hs.holds_self
    · have hi : t.identity ≠ s.identity := fun he => hm (hv.identity m (he ▸ ht.identity))
      have hc : t.connection ≠ s.connection := fun he => hm (hv.connection m (he ▸ ht.connection))
      refine ⟨?_, ?_, ?_⟩
      · rw [hs.session, if_neg hm, ht.session]
      · rw [hs.lookup, if_neg hi, ht.identity]
      · rw [hs.lookupConnection, if_neg hc, ht.connection, if_neg (by simpa using hm)]

theorem coherent (hs : Seated r n s r') (hv : r.Vacant n s) (h : r.Coherent) : r'.Coherent := by
  refine ⟨fun i m hi => ?_, fun c m hc => ?_⟩
  · rw [hs.lookup] at hi
    split at hi
    · obtain rfl := Option.some.inj hi
      exact ⟨s, hs.holds_self, Eq.symm ‹_›⟩
    · obtain ⟨t, ht, rfl⟩ := h.ofIdentity i m hi
      exact ⟨t, (hs.holds hv).2 (.inr ⟨ht, fun hm => ‹¬ _ = _› (hv.keeps _ (hm ▸ hi))⟩), rfl⟩
  · rw [hs.lookupConnection] at hc
    split at hc
    · obtain rfl := Option.some.inj hc
      exact ⟨s, hs.holds_self, Eq.symm ‹_›⟩
    · split at hc
      · cases hc
      · obtain ⟨t, ht, rfl⟩ := h.ofConnection c m hc
        exact ⟨t, (hs.holds hv).2 (.inr ⟨ht, fun hm => ‹¬ _ = some n› (hm ▸ hc)⟩), rfl⟩

end Seated

/-! ### Leaving -/

theorem Coherent.freed (h : r.Coherent) (hc : r.lookupConnection? c = some n) :
    Freed r n ({ r with byConnection := r.byConnection.erase c }.retire n) := by
  obtain ⟨s, hs, rfl⟩ := h.ofConnection c n hc
  have hsession := hs.session
  have hidentity := hs.identity
  simp only [session?, lookup?] at hsession hidentity
  simp only [retire, session?, lookup?, hsession, hidentity, if_true]
  refine ⟨rfl, fun i => ?_, fun d => ?_⟩
  · show (r.byIdentity.erase s.identity).get? i = if r.lookup? i = some n then none else r.lookup? i
    have hi : r.lookup? i = some n ↔ i = s.identity :=
      ⟨fun hi => (h.identity_eq hi hs).symm, fun he => he ▸ hs.identity⟩
    rw [Index.get?_erase]
    exact (if_congr hi rfl rfl).symm
  · show (r.byConnection.erase s.connection).get? d =
      if r.lookupConnection? d = some n then none else r.lookupConnection? d
    have hd : r.lookupConnection? d = some n ↔ d = s.connection :=
      ⟨fun hd => (h.connection_eq hd hs).symm, fun he => he ▸ hs.connection⟩
    rw [Index.get?_erase]
    exact (if_congr hd rfl rfl).symm

namespace Coherent

/-- What leaves is the session on the connection, and it leaves both indices. -/
theorem offline_eq_some (h : r.Coherent) (ho : r.offline c = some (n, r')) :
    r.lookupConnection? c = some n ∧ Freed r n r' := by
  obtain ⟨k, hk, he⟩ := Option.map_eq_some_iff.1 ho
  obtain ⟨rfl, rfl⟩ := Prod.mk.inj he
  exact ⟨hk, h.freed hk⟩

theorem offline_eq_none : r.offline c = none ↔ r.lookupConnection? c = none :=
  Option.map_eq_none_iff

theorem offline (h : r.Coherent) (ho : r.offline c = some (n, r')) : r'.Coherent :=
  (h.offline_eq_some ho).2.coherent h

/-- After a leave, registered is what was registered on another connection. -/
theorem holds_offline (h : r.Coherent) (ho : r.offline c = some (n, r')) :
    r'.Holds m t ↔ r.Holds m t ∧ t.connection ≠ c := by
  obtain ⟨hc, hf⟩ := h.offline_eq_some ho
  rw [hf.holds]
  refine and_congr_right fun ht => not_congr ⟨fun hm => ?_, fun he => ?_⟩
  · exact h.connection_eq (hm ▸ hc) ht
  · have := ht.connection
    rw [he, hc] at this
    exact (Option.some.inj this).symm

end Coherent

/-! ### Arriving -/

/-- The number of an arrival's session: the one that its identity has, or the next. -/
def seat (r : Registry ε π) (i : String) : Nat := (r.lookup? i).getD r.sessions.length

/-- What an arrival's session is extended by: what that of its identity has, or what is fresh. -/
def kept (r : Registry ε π) (fresh : ε) (i : String) : ε :=
  (((r.lookup? i).bind r.session?).map (·.extension)).getD fresh

variable {fresh : ε} {a : Arrival π} {retired : Option Nat}

theorem seat_congr (hs : r'.sessions = r.sessions) (hi : r'.lookup? i = r.lookup? i) :
    r'.seat i = r.seat i := by
  simp only [seat, hs, hi]

theorem kept_congr (hs : r'.sessions = r.sessions) (hi : r'.lookup? i = r.lookup? i) :
    r'.kept fresh i = r.kept fresh i := by
  unfold kept session?
  rw [hi, hs]

theorem Holds.seat_eq (hs : r.Holds n s) : r.seat s.identity = n := by
  rw [seat, hs.identity, Option.getD_some]

theorem Coherent.eq_seat (h : r.Coherent) (hs : r.Holds n s) : n = r.seat i ↔ s.identity = i := by
  refine ⟨fun hn => ?_, fun he => he ▸ hs.seat_eq.symm⟩
  cases hi : r.lookup? i with
  | none =>
    rw [seat, hi, Option.getD_none] at hn
    exact absurd hs.lt (by omega)
  | some k =>
    rw [seat, hi, Option.getD_some] at hn
    exact h.identity_eq (hn ▸ hi) hs

/-- Starting a session, for an identity and on a connection that lead nowhere yet. -/
theorem Coherent.seated_create (h : r.Coherent) (hi : r.lookup? a.identity = none)
    (hc : r.lookupConnection? a.connection = none) :
    r.Vacant r.sessions.length (.start fresh a) ∧
      Seated r r.sessions.length (.start fresh a) (r.create fresh a) := by
  have hnone : ∀ {s}, ¬ r.Holds r.sessions.length s := fun hs => absurd hs.lt (by omega)
  have hl : ∀ d, r.lookupConnection? d ≠ some r.sessions.length := fun d hd => by
    obtain ⟨s, hs, -⟩ := h.ofConnection d _ hd
    exact hnone hs
  refine ⟨⟨fun i hi => ?_, fun m hm => ?_, fun m hm => ?_⟩, fun m => ?_, fun i => ?_, fun d => ?_⟩
  · obtain ⟨s, hs, -⟩ := h.ofIdentity i _ hi
    exact absurd hs hnone
  · exact absurd (hi.symm.trans hm) nofun
  · exact absurd (hc.symm.trans hm) nofun
  · show (r.sessions ++ [Session.start fresh a])[m]? = _
    split
    · subst m
      rw [List.getElem?_concat_length]
    · rcases Nat.lt_or_ge m r.sessions.length with hm | hm
      · rw [List.getElem?_append_left hm, session?]
      · rw [session?, List.getElem?_eq_none hm, List.getElem?_eq_none]
        simp only [List.length_append, List.length_singleton]
        omega
  · exact Index.get?_insert
  · rw [if_neg (hl d)]
    exact Index.get?_insert

theorem session?_rebind (hs : r.session? n = some s) :
    (r.rebind n a).session? m = if m = n then some (s.rebind a) else r.session? m := by
  show (r.sessions.modify n (·.rebind a))[m]? = _
  split
  · subst m
    rw [List.getElem?_modify_eq, show r.sessions[n]? = some s from hs]
    rfl
  · rw [List.getElem?_modify_ne _ _ (Ne.symm ‹_›), session?]

/-- Moving a session of the identity of an arrival, whose connection leads to it or nowhere. -/
theorem Coherent.seated_move (h : r.Coherent) (hs : r.Holds n s)
    (hc : ∀ m, r.lookupConnection? a.connection = some m → m = n) :
    r.Vacant n (s.rebind a) ∧ Seated r n (s.rebind a) (r.move n s.connection a).1 := by
  have hn : ∀ d, r.lookupConnection? d = some n ↔ d = s.connection := fun d =>
    ⟨fun hd => (h.connection_eq hd hs).symm, fun hd => hd ▸ hs.connection⟩
  have hlook : ∀ i, r.lookup? i = if i = s.identity then some n else r.lookup? i := by
    intro i
    split
    · subst i
      exact hs.identity
    · rfl
  refine ⟨⟨fun i hi => (h.identity_eq hi hs).symm, fun m hm => ?_, hc⟩, ?_⟩
  · exact (Option.some.inj (hs.identity.symm.trans hm)).symm
  unfold move
  split
  · -- the connection is in the index, so it is the one that the session has
    rename_i hcon
    obtain ⟨m, hm⟩ := Option.isSome_iff_exists.1 hcon
    obtain rfl := hc m hm
    have hsame : a.connection = s.connection := (hn _).1 hm
    refine ⟨fun k => session?_rebind hs.session, hlook, fun d => ?_⟩
    show r.lookupConnection? d = if d = a.connection then _ else _
    split
    · subst d
      exact hm
    · rw [if_neg fun hd => ‹¬ d = a.connection› (((hn d).1 hd).trans hsame.symm)]
  · rename_i hcon
    have hnone : r.lookupConnection? a.connection = none :=
      Option.isNone_iff_eq_none.1 (by simpa [Index.contains, lookupConnection?] using hcon)
    have hne : s.connection ≠ a.connection := fun hd => by
      have := hs.connection
      rw [hd, hnone] at this
      cases this
    rw [if_neg hne, if_neg hne, unbind, if_pos hs.connection]
    refine ⟨fun k => session?_rebind hs.session, hlook, fun d => ?_⟩
    show ((r.byConnection.erase s.connection).insert a.connection n).get? d =
      if d = a.connection then _ else _
    rw [Index.get?_insert, Index.get?_erase]
    exact if_congr Iff.rfl rfl (if_congr (hn d).symm rfl rfl)

theorem rebind_eq_start (he : s.identity = a.identity) : s.rebind a = .start s.extension a := by
  simp only [Session.rebind, Session.start, he]

/-- Entering, when the connection of the arrival leads to the session of its identity or nowhere. -/
theorem Coherent.seated_enter (h : r.Coherent)
    (hc : ∀ m, r.lookupConnection? a.connection = some m → r.lookup? a.identity = some m) :
    (r.enter fresh a retired).session = r.seat a.identity ∧
      r.Vacant (r.seat a.identity) (.start (r.kept fresh a.identity) a) ∧
      Seated r (r.seat a.identity) (.start (r.kept fresh a.identity) a)
        (r.enter fresh a retired).registry := by
  cases hi : r.lookup? a.identity with
  | none =>
    have hnone : r.lookupConnection? a.connection = none := by
      cases hm : r.lookupConnection? a.connection with
      | none => rfl
      | some m => exact absurd (hi.symm.trans (hc m hm)) nofun
    simp only [enter, seat, kept, hi, Option.bind_none, Option.map_none, Option.getD_none, true_and]
    exact h.seated_create hi hnone
  | some n =>
    obtain ⟨s, hs, he⟩ := h.ofIdentity _ n hi
    have hmove := h.seated_move (a := a) hs fun m hm => (Option.some.inj (hi.symm.trans (hc m hm))).symm
    rw [rebind_eq_start he] at hmove
    simp only [enter, seat, kept, hi, hs.session, Option.bind_some, Option.map_some, Option.getD_some,
      true_and]
    exact hmove

theorem Coherent.boundElsewhere?_eq_some (h : r.Coherent) : r.boundElsewhere? c i = some n ↔
    ∃ s, r.Holds n s ∧ s.connection = c ∧ s.identity ≠ i := by
  simp only [boundElsewhere?, Option.bind_eq_bind, Option.bind_eq_some_iff]
  constructor
  · rintro ⟨m, hm, s, hs, hn⟩
    obtain ⟨t, ht, rfl⟩ := h.ofConnection c m hm
    obtain rfl : s = t := Option.some.inj (hs.symm.trans ht.session)
    split at hn
    · cases hn
    · cases hn
      exact ⟨s, ht, rfl, ‹_›⟩
  · rintro ⟨s, hs, rfl, hi⟩
    exact ⟨n, hs.connection, s, hs.session, if_neg hi⟩

theorem Coherent.boundElsewhere?_eq_none (h : r.Coherent)
    (hn : r.boundElsewhere? a.connection a.identity = none) :
    ∀ m, r.lookupConnection? a.connection = some m → r.lookup? a.identity = some m := by
  intro m hm
  obtain ⟨s, hs, hc⟩ := h.ofConnection _ m hm
  by_cases hi : s.identity = a.identity
  · exact hi ▸ hs.identity
  · rw [h.boundElsewhere?_eq_some.2 ⟨s, hs, hc, hi⟩] at hn
    cases hn

/-- An arrival seats the session of its identity, in a registry that the session of another identity
on its connection has left. -/
theorem Coherent.seated_online (h : r.Coherent) (fresh : ε) (a : Arrival π) :
    ∃ r₁ : Registry ε π, r₁.Coherent ∧ r₁.sessions = r.sessions ∧
      (∀ m t, r₁.Holds m t ↔ r.Holds m t ∧ (t.connection = a.connection → t.identity = a.identity)) ∧
      (r.online fresh a).session = r.seat a.identity ∧
      r₁.Vacant (r.seat a.identity) (.start (r.kept fresh a.identity) a) ∧
      Seated r₁ (r.seat a.identity) (.start (r.kept fresh a.identity) a) (r.online fresh a).registry := by
  unfold online
  cases hb : r.boundElsewhere? a.connection a.identity with
  | none =>
    have hc := h.boundElsewhere?_eq_none hb
    refine ⟨r, h, rfl, fun m t => ⟨fun ht => ⟨ht, fun he => ?_⟩, And.left⟩, h.seated_enter hc⟩
    exact h.identity_eq (hc m (he ▸ ht.connection)) ht
  | some n =>
    obtain ⟨s, hs, hc, hi⟩ := h.boundElsewhere?_eq_some.1 hb
    have hcn : r.lookupConnection? a.connection = some n := hc ▸ hs.connection
    have hf := h.freed hcn
    set r₁ := { r with byConnection := r.byConnection.erase a.connection }.retire n
    have hlook : r₁.lookup? a.identity = r.lookup? a.identity := by
      rw [hf.lookup, if_neg fun hl => hi (h.identity_eq hl hs)]
    have hfree : ∀ m, r₁.lookupConnection? a.connection ≠ some m := by
      intro m
      rw [hf.lookupConnection, if_pos hcn]
      exact nofun
    rw [← seat_congr hf.sessions hlook, ← kept_congr hf.sessions hlook]
    refine ⟨r₁, hf.coherent h, hf.sessions, fun m t => ?_,
      (hf.coherent h).seated_enter fun m hm => absurd hm (hfree m)⟩
    rw [hf.holds]
    refine and_congr_right fun ht => ⟨fun hm he => ?_, fun he hm => ?_⟩
    · have := ht.connection
      rw [he, hcn] at this
      exact absurd (Option.some.inj this).symm hm
    · subst hm
      obtain rfl := hs.eq ht
      exact hi (he hc)

namespace Coherent

theorem online (h : r.Coherent) : (r.online fresh a).registry.Coherent :=
  let ⟨_, h₁, _, _, _, hv, hs⟩ := h.seated_online fresh a
  hs.coherent hv h₁

/-- After an arrival, registered is its session and what was registered with neither the identity
nor the connection. -/
theorem holds_online (h : r.Coherent) : (r.online fresh a).registry.Holds m t ↔
    m = r.seat a.identity ∧ t = .start (r.kept fresh a.identity) a ∨
      r.Holds m t ∧ t.identity ≠ a.identity ∧ t.connection ≠ a.connection := by
  obtain ⟨r₁, h₁, -, hr, -, hv, hs⟩ := h.seated_online fresh a
  rw [hs.holds hv, hr, and_assoc]
  refine or_congr Iff.rfl (and_congr_right fun ht => ?_)
  rw [Ne, h.eq_seat ht]
  constructor
  · rintro ⟨hc, hi⟩
    exact ⟨hi, fun he => hi (hc he)⟩
  · rintro ⟨hi, hc⟩
    exact ⟨fun he => absurd he hc, hi⟩

end Coherent

/-! ### What the application keeps -/

variable {e : ε}

theorem session?_setExtension : (r.setExtension n e).session? m =
    (r.session? m).map fun s => if m = n then { s with extension := e } else s := by
  show (r.sessions.modify n _)[m]? = (r.sessions[m]?).map _
  rw [List.getElem?_modify]
  simp only [eq_comm, Option.map_eq_map]

theorem Holds.setExtension (hs : r.Holds m s) :
    (r.setExtension n e).Holds m (if m = n then { s with extension := e } else s) := by
  refine ⟨by rw [session?_setExtension, hs.session]; rfl, ?_, ?_⟩
  · split <;> exact hs.identity
  · split <;> exact hs.connection

theorem holds_setExtension : (r.setExtension n e).Holds m t ↔
    ∃ s, r.Holds m s ∧ t = if m = n then { s with extension := e } else s := by
  constructor
  · intro ht
    have hsession := ht.session
    rw [session?_setExtension] at hsession
    obtain ⟨s, hs, rfl⟩ := Option.map_eq_some_iff.1 hsession
    have hi := ht.identity
    have hc := ht.connection
    refine ⟨s, ⟨hs, ?_, ?_⟩, rfl⟩
    · split at hi <;> exact hi
    · split at hc <;> exact hc
  · rintro ⟨s, hs, rfl⟩
    exact hs.setExtension

theorem Coherent.setExtension (h : r.Coherent) : (r.setExtension n e).Coherent := by
  refine ⟨fun i m hi => ?_, fun c m hc => ?_⟩
  · obtain ⟨s, hs, rfl⟩ := h.ofIdentity i m hi
    exact ⟨_, hs.setExtension, by split <;> rfl⟩
  · obtain ⟨s, hs, rfl⟩ := h.ofConnection c m hc
    exact ⟨_, hs.setExtension, by split <;> rfl⟩

end Registry

end DeviceGateway
