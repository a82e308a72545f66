import DeviceGateway.Proofs.Hooks
import DeviceGateway.Proofs.Session.History

/-!
# What listeners hear of an identity

What is heard of one identity are rounds of arrivals, each closed by one departure from the
connection of the last of them, and then perhaps arrivals that are not closed yet
(`Presence.history_bracketed`). `Bracketed` reads such a sequence and says which connection is open
behind it; that is the connection of the registered session (`Told.bracketed`). In a transition the
listener of the session that arrives runs, and before it the listener of the session that leaves
(`Presence.performances_online`, `Presence.performances_offline`). So a connection opens with an
arrival and closes for the identity that had it before, just as in the registry
(`Presence.connectionOf?_online`, `Presence.connectionOf?_offline`).
-/

namespace DeviceGateway

/-! ### Events of one identity -/

namespace Event

/-- Whose session came or went. -/
def subject? : Event → Option String
  | online identity _ _ | offline identity _ _ => some identity
  | message .. => none

def isOnline : Event → Bool
  | online .. => true
  | _ => false

def isOffline : Event → Bool
  | offline .. => true
  | _ => false

/-- The events about one identity. -/
def about (i : String) (es : List Event) : List Event := es.filter (·.subject? = some i)

variable {i j : String} {c : ConnectionId} {sent : List Sent} {e : Event} {es : List Event}

theorem about_append (i : String) (es es' : List Event) :
    about i (es ++ es') = about i es ++ about i es' :=
  List.filter_append es es'

theorem about_of_subject (h : e.subject? = some i) (j : String) :
    about j [e] = if j = i then [e] else [] := by
  simp [about, List.filter_singleton, h, eq_comm]

end Event

/-- What is in a list is at its end, or it is in front of the last element. -/
theorem concat_eq_append_cons {α : Type} {l before after : List α} {a b : α}
    (h : l ++ [a] = before ++ b :: after) :
    (l = before ∧ a = b) ∨ ∃ rest, l = before ++ b :: rest := by
  rcases List.eq_nil_or_concat after with rfl | ⟨rest, x, rfl⟩
  · obtain ⟨hl, ha⟩ := List.append_inj' h rfl
    exact .inl ⟨hl, List.singleton_inj.1 ha⟩
  · have hcat : l ++ [a] = (before ++ b :: rest) ++ [x] := by simpa using h
    exact .inr ⟨rest, (List.append_inj' hcat rfl).1⟩

theorem filter_ne_eq_self {α : Type} [DecidableEq α] {o : Option α} {a : α}
    (h : o ≠ some a) : o.filter (· ≠ a) = o := by
  cases o with
  | none => rfl
  | some b => exact Option.filter_some_pos (decide_eq_true fun hb => h (hb ▸ rfl))

open Event (about)

/-- Arrivals and departures of an identity, in their order: a departure follows at once on an arrival
and is from its connection. Behind them a connection may be open. -/
inductive Bracketed (i : String) : List Event → Option ConnectionId → Prop
  | nil : Bracketed i [] none
  | online {es o} (c sent) : Bracketed i es o → Bracketed i (es ++ [.online i c sent]) (some c)
  | offline {es c} (sent) : Bracketed i es (some c) → Bracketed i (es ++ [.offline i c sent]) none

namespace Bracketed

variable {i : String} {es before after : List Event} {o : Option ConnectionId} {c : ConnectionId}
  {sent : List Sent}

/-- Rounds of arrivals with a departure behind each, and then arrivals if a connection is open. -/
theorem rounds (h : Bracketed i es o) : ∃ (rounds : List Nat) (last : Nat),
    es.map Event.isOnline =
      (rounds.flatMap fun k => List.replicate (k + 1) true ++ [false]) ++ List.replicate last true ∧
    (o.isSome ↔ last ≠ 0) := by
  induction h with
  | nil => exact ⟨[], 0, rfl, by simp⟩
  | online c sent _ ih =>
    obtain ⟨rounds, last, hes, -⟩ := ih
    refine ⟨rounds, last + 1, ?_, by simp⟩
    rw [List.map_append, hes, List.append_assoc, List.replicate_succ']
    rfl
  | offline sent _ ih =>
    obtain ⟨rounds, last, hes, hlast⟩ := ih
    obtain ⟨k, rfl⟩ := Nat.exists_eq_succ_of_ne_zero (hlast.1 rfl)
    refine ⟨rounds ++ [k], 0, ?_, by simp⟩
    rw [List.map_append, hes, List.flatMap_append, List.flatMap_singleton, List.append_assoc]
    simp [Event.isOnline]

theorem last_eq (h : Bracketed i es o) :
    o = some c ↔ ∃ sent, es.getLast? = some (.online i c sent) := by
  cases h with
  | nil => simp
  | online d sent _ => simp [eq_comm]
  | offline sent _ => simp

/-- A departure follows on the arrival that it ends. -/
theorem arrival (h : Bracketed i es o) (hes : es = before ++ .offline i c sent :: after) :
    ∃ earlier sent', before = earlier ++ [.online i c sent'] := by
  induction h generalizing after with
  | nil => simp at hes
  | online d sent' _ ih =>
    rcases concat_eq_append_cons hes with ⟨-, he⟩ | ⟨rest, hes⟩
    · cases he
    · exact ih hes
  | offline sent' hb ih =>
    rcases concat_eq_append_cons hes with ⟨rfl, he⟩ | ⟨rest, hes⟩
    · cases he
      obtain ⟨sent'', hlast⟩ := hb.last_eq.1 rfl
      obtain ⟨earlier, rfl⟩ := List.getLast?_eq_some_iff.1 hlast
      exact ⟨earlier, sent'', rfl⟩
    · exact ih hes

theorem arrive {o : String → Option ConnectionId} (h : ∀ i, Bracketed i (about i es) (o i))
    (j : String) (c : ConnectionId) (sent : List Sent) (i : String) :
    Bracketed i (about i (es ++ [.online j c sent])) (if i = j then some c else o i) := by
  rw [Event.about_append, Event.about_of_subject rfl]
  split
  · subst i
    exact .online c sent (h j)
  · rw [List.append_nil]
    exact h i

/-- A departure closes the connection, which no other identity has. -/
theorem leave {o : String → Option ConnectionId} {j : String}
    (h : ∀ i, Bracketed i (about i es) (o i)) (sent : List Sent) (hj : o j = some c)
    (hc : ∀ i, o i = some c → i = j) (i : String) :
    Bracketed i (about i (es ++ [.offline j c sent])) ((o i).filter (· ≠ c)) := by
  rw [Event.about_append, Event.about_of_subject rfl]
  have hi := h i
  split
  · subst i
    rw [hj] at hi ⊢
    rw [Option.filter_some, if_neg (by simp)]
    exact .offline sent hi
  · rw [List.append_nil, filter_ne_eq_self fun he => ‹¬ i = j› (hc i he)]
    exact hi

end Bracketed

namespace Registry

variable {ε π : Type} {r r' : Registry ε π} {n : Nat} {s : Session ε π} {a : Arrival π}
  {i j : String} {c : ConnectionId} {fresh : ε} {retired : Option Nat}

/-! ### The connection of an identity -/

/-- The connection that the session of an identity is on. -/
def connectionOf? (r : Registry ε π) (i : String) : Option ConnectionId :=
  ((r.lookup? i).bind r.session?).map (·.connection)

theorem Coherent.connectionOf?_eq_some (h : r.Coherent) :
    r.connectionOf? i = some c ↔ ∃ a, r.HoldsArrival a ∧ a.identity = i ∧ a.connection = c := by
  simp only [connectionOf?, Option.map_eq_some_iff, Option.bind_eq_some_iff]
  constructor
  · rintro ⟨s, ⟨n, hn, hs⟩, rfl⟩
    obtain ⟨t, ht, rfl⟩ := h.ofIdentity i n hn
    obtain rfl : s = t := Option.some.inj (hs.symm.trans ht.session)
    exact ⟨s.arrival, ⟨n, s, ht, rfl⟩, rfl, rfl⟩
  · rintro ⟨_, ⟨n, s, hs, rfl⟩, rfl, rfl⟩
    exact ⟨s, ⟨n, hs.identity, hs.session⟩, rfl⟩

theorem Coherent.isSome_connectionOf? (h : r.Coherent) (i : String) :
    (r.connectionOf? i).isSome = (r.lookup? i).isSome := by
  cases hi : r.lookup? i with
  | none => rw [connectionOf?, hi]; rfl
  | some n =>
    obtain ⟨s, hs, rfl⟩ := h.ofIdentity i n hi
    rw [connectionOf?, hi, Option.bind_some, hs.session]
    rfl

/-- A connection is that of one identity. -/
theorem Coherent.connectionOf?_inj (h : r.Coherent) (hi : r.connectionOf? i = some c)
    (hj : r.connectionOf? j = some c) : i = j := by
  obtain ⟨_, ⟨n, s, hs, rfl⟩, rfl, rfl⟩ := h.connectionOf?_eq_some.1 hi
  obtain ⟨_, ⟨m, t, ht, rfl⟩, rfl, hc⟩ := h.connectionOf?_eq_some.1 hj
  have hst : t.connection = s.connection := hc
  have hm : r.lookupConnection? s.connection = some m := hst ▸ ht.connection
  obtain rfl : n = m := Option.some.inj (hs.connection.symm.trans hm)
  exact congrArg Session.identity (hs.eq ht)

/-! ### How many sessions there are -/

/-- Where a session is registered, taking it out of both indices leaves one less. -/
theorem size_retire (hs : r.Holds n s) :
    ({ r with byConnection := r.byConnection.erase c }.retire n).size + 1 = r.size := by
  have hsession := hs.session
  have hidentity := hs.identity
  simp only [session?, lookup?] at hsession hidentity
  simp only [retire, session?, lookup?, hsession, hidentity, if_true]
  exact Index.size_erase hidentity

theorem size_move (r : Registry ε π) (n : Nat) (previous : ConnectionId) (a : Arrival π) :
    (r.move n previous a).1.size = r.size ∧
      (r.move n previous a).1.sessions.length = r.sessions.length := by
  have hunbind : (r.unbind previous n).byIdentity = r.byIdentity ∧
      (r.unbind previous n).sessions = r.sessions := by
    unfold unbind
    split <;> exact ⟨rfl, rfl⟩
  unfold move
  split
  · exact ⟨rfl, List.length_modify ..⟩
  · dsimp only [rebind, size]
    split
    · exact ⟨rfl, List.length_modify ..⟩
    · rw [hunbind.1, hunbind.2]
      exact ⟨rfl, List.length_modify ..⟩

/-- Entering creates a session if the identity has none. -/
theorem Coherent.size_enter (h : r.Coherent) (fresh : ε) (a : Arrival π) (retired : Option Nat) :
    let created := if (r.lookup? a.identity).isSome then 0 else 1
    (r.enter fresh a retired).registry.size = r.size + created ∧
      (r.enter fresh a retired).registry.sessions.length = r.sessions.length + created := by
  cases hi : r.lookup? a.identity with
  | none =>
    simp only [enter, hi, Option.bind_none]
    exact ⟨Index.size_insert_of_none hi, by simp [create]⟩
  | some n =>
    obtain ⟨s, hs, -⟩ := h.ofIdentity _ n hi
    simp only [enter, hi, hs.session, Option.bind_some, Option.map_some]
    exact size_move r n s.connection a

theorem retired_enter : (r.enter fresh a retired).retired = retired := by
  unfold enter
  split <;> rfl

theorem retired_online :
    (r.online fresh a).retired = r.boundElsewhere? a.connection a.identity := by
  unfold online
  cases r.boundElsewhere? a.connection a.identity <;> exact retired_enter

/-- An arrival creates a session if its identity has none, and ends that of another identity on its
connection. -/
theorem Coherent.size_online (h : r.Coherent) (fresh : ε) (a : Arrival π) :
    let created := if (r.lookup? a.identity).isSome then 0 else 1
    let ended := if (r.boundElsewhere? a.connection a.identity).isSome then 1 else 0
    (r.online fresh a).registry.size + ended = r.size + created ∧
      (r.online fresh a).registry.sessions.length = r.sessions.length + created := by
  unfold Registry.online
  cases hb : r.boundElsewhere? a.connection a.identity with
  | none => exact h.size_enter fresh a none
  | some n =>
    obtain ⟨s, hs, hc, hi⟩ := h.boundElsewhere?_eq_some.1 hb
    have hf := h.freed (hc ▸ hs.connection)
    have hlook := hf.lookup a.identity
    rw [if_neg fun hl => hi (h.identity_eq hl hs)] at hlook
    have hsize := size_retire (c := a.connection) hs
    obtain ⟨hsize', hlength⟩ := (hf.coherent h).size_enter fresh a (some n)
    rw [hlook] at hsize' hlength
    rw [hf.sessions] at hlength
    refine ⟨?_, hlength⟩
    rw [← hsize]
    show _ + 1 = _
    dsimp only
    rw [hsize']
    omega

theorem Coherent.isSome_boundElsewhere? (h : r.Coherent) :
    (r.boundElsewhere? c i).isSome ↔ ∃ j, j ≠ i ∧ r.connectionOf? j = some c := by
  rw [Option.isSome_iff_exists]
  constructor
  · rintro ⟨n, hn⟩
    obtain ⟨s, hs, hc, hi⟩ := h.boundElsewhere?_eq_some.1 hn
    exact ⟨s.identity, hi, h.connectionOf?_eq_some.2 ⟨s.arrival, ⟨n, s, hs, rfl⟩, rfl, hc⟩⟩
  · rintro ⟨j, hj, hc⟩
    obtain ⟨_, ⟨n, s, hs, rfl⟩, rfl, hsc⟩ := h.connectionOf?_eq_some.1 hc
    exact ⟨n, h.boundElsewhere?_eq_some.2 ⟨s, hs, hsc, hj⟩⟩

theorem Coherent.size_offline (h : r.Coherent) (ho : r.offline c = some (n, r')) :
    r'.size + 1 = r.size ∧ r'.sessions.length = r.sessions.length := by
  obtain ⟨hc, hf⟩ := h.offline_eq_some ho
  obtain ⟨s, hs, -⟩ := h.ofConnection c n hc
  obtain ⟨_, hk, he⟩ := Option.map_eq_some_iff.1 ho
  obtain ⟨rfl, rfl⟩ := Prod.mk.inj he
  exact ⟨size_retire hs, congrArg List.length hf.sessions⟩

/-- The listeners that are called when a connection becomes that of an identity: first the one of the
session of another identity that leaves the connection, if there is one, then the one of the session
that arrives. That session finds the extension that its identity had, or a fresh one, and is
registered with the extension that its listener gives. -/
inductive Announced (fresh : ε) (r : Registry ε π) (a : Arrival π) (r' : Registry ε π) :
    List (Performance ε π) → Prop
  | arrival (sent : List Sent) (e : ε)
      (hfree : ∀ j, j ≠ a.identity → r.connectionOf? j ≠ some a.connection)
      (hseat : r'.Holds (r.seat a.identity)
        { Session.start (r.kept fresh a.identity) a with extension := e }) :
    Announced fresh r a r' [.online (.start (r.kept fresh a.identity) a) sent e]
  | switch {m : Nat} {t : Session ε π} (sent' sent : List Sent) (e : ε) (ht : r.Holds m t)
      (hc : t.connection = a.connection) (hi : t.identity ≠ a.identity)
      (hseat : r'.Holds (r.seat a.identity)
        { Session.start (r.kept fresh a.identity) a with extension := e }) :
    Announced fresh r a r' [.offline t sent', .online (.start (r.kept fresh a.identity) a) sent e]

end Registry

namespace Presence

variable {ε π τ : Type} {h : Handler ε π} {publish : Transport π τ} {p : Presence ε π τ}
  {a : Arrival π} {c : ConnectionId} {es : List Event} {ps : List (Performance ε π)}

/-! ### One transition -/

theorem connectionOf?_online (hp : p.registry.Coherent) (i : String) :
    (online h publish a p).2.registry.connectionOf? i = if i = a.identity then some a.connection
      else (p.registry.connectionOf? i).filter (· ≠ a.connection) := by
  have hp' : (online h publish a p).2.registry.Coherent := coherent_step hp (.online a)
  refine Option.ext fun c => ?_
  rw [hp'.connectionOf?_eq_some]
  simp only [holdsArrival_online hp]
  split
  · subst i
    constructor
    · rintro ⟨b, rfl | ⟨-, hi, -⟩, hb, rfl⟩
      · rfl
      · exact absurd hb hi
    · rintro hc
      exact ⟨a, .inl rfl, rfl, Option.some.inj hc⟩
  · rename_i hi
    rw [Option.filter_eq_some_iff, hp.connectionOf?_eq_some, decide_eq_true_eq]
    constructor
    · rintro ⟨b, rfl | ⟨hb, -, hc⟩, rfl, rfl⟩
      · exact absurd rfl hi
      · exact ⟨⟨b, hb, rfl, rfl⟩, hc⟩
    · rintro ⟨⟨b, hb, rfl, rfl⟩, hc⟩
      exact ⟨b, .inr ⟨hb, hi, hc⟩, rfl, rfl⟩

theorem connectionOf?_offline (hp : p.registry.Coherent) (i : String) :
    (offline h publish c p).2.registry.connectionOf? i =
      (p.registry.connectionOf? i).filter (· ≠ c) := by
  have hp' : (offline h publish c p).2.registry.Coherent := coherent_step hp (.offline c)
  refine Option.ext fun d => ?_
  rw [hp'.connectionOf?_eq_some, Option.filter_eq_some_iff, hp.connectionOf?_eq_some,
    decide_eq_true_eq]
  simp only [holdsArrival_offline hp]
  constructor
  · rintro ⟨b, ⟨hb, hc⟩, rfl, rfl⟩
    exact ⟨⟨b, hb, rfl, rfl⟩, hc⟩
  · rintro ⟨⟨b, hb, rfl, rfl⟩, hc⟩
    exact ⟨b, ⟨hb, hc⟩, rfl, rfl⟩

theorem size_online (h : Handler ε π) (publish : Transport π τ) (hp : p.registry.Coherent)
    (a : Arrival π) :
    let created := if (p.registry.lookup? a.identity).isSome then 0 else 1
    let ended := if (p.registry.boundElsewhere? a.connection a.identity).isSome then 1 else 0
    (online h publish a p).2.registry.size + ended = p.registry.size + created ∧
      (online h publish a p).2.registry.sessions.length =
        p.registry.sessions.length + created := by
  obtain ⟨e, he⟩ := registry_online h publish a p
  obtain ⟨hsize, hlength⟩ := hp.size_online h.fresh a
  rw [he]
  exact ⟨hsize, (List.length_modify ..).trans hlength⟩

theorem events_listeners (hp : p.registry.Coherent) :
    (listeners h publish a p).filterMap Call.event? =
      (((p.registry.boundElsewhere? a.connection a.identity).bind p.registry.session?).map fun s =>
        Event.offline s.identity s.connection []).toList ++ [.online a.identity a.connection []] := by
  obtain ⟨_, -, -, -, hnumber, -, hseat⟩ := hp.seated_online h.fresh a
  have hsession := hseat.holds_self.session
  rw [← hnumber] at hsession
  unfold listeners
  dsimp only
  rw [Registry.retired_online, hsession, List.filterMap_append]
  cases (p.registry.boundElsewhere? a.connection a.identity).bind p.registry.session? <;> rfl

/-- An arrival calls its own listener, and before it the one of the session that leaves. -/
theorem performances_online (h : Handler ε π) (publish : Transport π τ) (hp : p.registry.Coherent)
    (a : Arrival π) : ∃ ps,
    Performances h publish p.toSurroundings ps (online h publish a p).2.toSurroundings ∧
      Registry.Announced h.fresh p.registry a (online h publish a p).2.registry ps := by
  obtain ⟨_, -, -, -, hnumber, -, hseat⟩ := hp.seated_online h.fresh a
  have hsession := hseat.holds_self.session
  unfold online
  set arrived := p.registry.online h.fresh a
  set s := Session.start (p.registry.kept h.fresh a.identity) a
  simp only [hnumber, hsession]
  set w := tellRetired h publish p.registry arrived.retired p.toSurroundings with hw
  -- the note that an arrival replaces a connection calls no listener
  suffices hlast : ∀ noted, (∀ ps, Performances h publish p.toSurroundings ps w →
      Performances h publish p.toSurroundings ps noted) → ∃ ps,
      Performances h publish p.toSurroundings ps (tellOnline h publish s noted).2 ∧
        Registry.Announced h.fresh p.registry a (arrived.registry.setExtension
          (p.registry.seat a.identity) (tellOnline h publish s noted).1) ps by
    refine hlast _ fun ps hps => ?_
    cases arrived.replaced with
    | none => exact hps
    | some previous => exact hps.note _
  intro noted hnoted
  obtain ⟨sent, honline⟩ := performances_tellOnline h publish s noted
  have hheld := hseat.holds_self.setExtension (n := p.registry.seat a.identity)
    (e := (tellOnline h publish s noted).1)
  rw [if_pos rfl] at hheld
  rw [show arrived.retired = _ from Registry.retired_online] at hw
  cases hb : p.registry.boundElsewhere? a.connection a.identity with
  | none =>
    rw [hb] at hw
    refine ⟨_, (hnoted [] (hw ▸ .refl)).trans honline, .arrival sent _ (fun j hj hc => ?_) hheld⟩
    have hsome := hp.isSome_boundElsewhere?.2 ⟨j, hj, hc⟩
    rw [hb] at hsome
    cases hsome
  | some m =>
    obtain ⟨t, ht, hc, hi⟩ := hp.boundElsewhere?_eq_some.1 hb
    have htold : w = tellOffline h publish t p.toSurroundings := by
      rw [hw, hb, tellRetired, Option.bind_some, ht.session]
    obtain ⟨sent', hoffline⟩ := performances_tellOffline h publish t p.toSurroundings
    exact ⟨_, (hnoted _ (htold ▸ hoffline)).trans honline, .switch sent' sent _ ht hc hi hheld⟩

/-- A leave calls the listener of the session on the connection, and does nothing if there is none. -/
theorem performances_offline (h : Handler ε π) (publish : Transport π τ) (hp : p.registry.Coherent)
    (c : ConnectionId) :
    offline h publish c p = (none, p) ∨ ∃ n s sent, p.registry.Holds n s ∧ s.connection = c ∧
      (offline h publish c p).1 = some n ∧
      Performances h publish p.toSurroundings [.offline s sent]
        (offline h publish c p).2.toSurroundings := by
  cases ho : p.registry.offline c with
  | none => exact .inl (offline_of_none ho)
  | some o =>
    obtain ⟨n, r⟩ := o
    obtain ⟨hc, -⟩ := hp.offline_eq_some ho
    obtain ⟨s, hs, rfl⟩ := hp.ofConnection c n hc
    obtain ⟨sent, hoffline⟩ := performances_tellOffline h publish s p.toSurroundings
    refine .inr ⟨n, s, sent, hs, rfl, (offline_of_some ho).1, ?_⟩
    simp only [offline, ho, tellRetired, Option.bind_some, hs.session]
    exact hoffline

/-! ### Runs -/

/-- The events since a registry was empty, in their order: behind those of an identity the connection
of its session is open, and every session but those that are registered has ended. -/
structure Told (r : Registry ε π) (es : List Event) : Prop where
  bracketed : ∀ i, Bracketed i (about i es) (r.connectionOf? i)
  count : es.countP Event.isOffline + r.size = r.sessions.length

namespace Told

theorem empty : Told ({} : Registry ε π) [] := ⟨fun _ => .nil, rfl⟩

theorem online (h : Handler ε π) (publish : Transport π τ) (ht : Told p.registry es)
    (hp : p.registry.Coherent)
    (ha : Registry.Announced h.fresh p.registry a (online h publish a p).2.registry ps) :
    Told (online h publish a p).2.registry (es ++ ps.map (·.event)) := by
  obtain ⟨hsize, hlength⟩ := size_online h publish hp a
  have hended := hp.isSome_boundElsewhere? (c := a.connection) (i := a.identity)
  have hcount := ht.count
  cases ha with
  | arrival sent e hfree =>
    show Told _ (es ++ [.online a.identity a.connection sent])
    refine ⟨fun i => ?_, ?_⟩
    · have hi := Bracketed.arrive ht.bracketed a.identity a.connection sent i
      rw [connectionOf?_online hp]
      split
      · rwa [if_pos ‹_›] at hi
      · rw [if_neg ‹_›] at hi
        rwa [filter_ne_eq_self (hfree i ‹_›)]
    · have hnone : ¬ (p.registry.boundElsewhere? a.connection a.identity).isSome := by
        rw [hended]
        exact fun ⟨j, hj, hc⟩ => hfree j hj hc
      rw [if_neg hnone] at hsize
      have hes : (es ++ [Event.online a.identity a.connection sent]).countP Event.isOffline =
          es.countP Event.isOffline := List.countP_append
      omega
  | @switch m t sent' sent e hold hc hi =>
    have hbound : p.registry.connectionOf? t.identity = some a.connection :=
      hp.connectionOf?_eq_some.2 ⟨t.arrival, ⟨m, t, hold, rfl⟩, rfl, hc⟩
    show Told _ (es ++ [.offline t.identity t.connection sent', .online a.identity a.connection sent])
    rw [hc]
    refine ⟨fun i => ?_, ?_⟩
    · have hleft := Bracketed.leave ht.bracketed sent' hbound fun i hi => hp.connectionOf?_inj hi hbound
      have hi := Bracketed.arrive hleft a.identity a.connection sent i
      rwa [connectionOf?_online hp, ← List.singleton_append, ← List.append_assoc]
    · have hsome := hended.2 ⟨t.identity, hi, hbound⟩
      rw [if_pos hsome] at hsize
      have hes : (es ++ [Event.offline t.identity a.connection sent',
          .online a.identity a.connection sent]).countP Event.isOffline =
          es.countP Event.isOffline + 1 := List.countP_append
      omega

theorem offline (h : Handler ε π) (publish : Transport π τ) {n : Nat} {s : Session ε π}
    {sent : List Sent} (ht : Told p.registry es) (hp : p.registry.Coherent)
    (hs : p.registry.Holds n s) :
    Told (offline h publish s.connection p).2.registry
      (es ++ [.offline s.identity s.connection sent]) := by
  have hc : p.registry.connectionOf? s.identity = some s.connection :=
    hp.connectionOf?_eq_some.2 ⟨s.arrival, ⟨n, s, hs, rfl⟩, rfl, rfl⟩
  refine ⟨fun i => ?_, ?_⟩
  · rw [connectionOf?_offline hp]
    exact Bracketed.leave ht.bracketed sent hc (fun i hi => hp.connectionOf?_inj hi hc) i
  · cases ho : p.registry.offline s.connection with
    | none =>
      have hlook := Registry.Coherent.offline_eq_none.1 ho
      rw [hs.connection] at hlook
      cases hlook
    | some o =>
      rw [(offline_of_some ho).2]
      obtain ⟨hsize, hlength⟩ := hp.size_offline ho
      have hcount := ht.count
      have hes : (es ++ [Event.offline s.identity s.connection sent]).countP Event.isOffline =
          es.countP Event.isOffline + 1 := List.countP_append
      omega

end Told

/-- During a run the listeners are called, and their events are told. -/
theorem told_run (h : Handler ε π) (publish : Transport π τ) (w : Surroundings τ)
    (ts : List (Transition π)) : ∃ ps : List (Performance ε π),
    let p := run h publish ts { toSurroundings := w }
    Performances h publish w ps p.toSurroundings ∧ Told p.registry (ps.map (·.event)) := by
  induction ts using List.reverseRecOn with
  | nil => exact ⟨[], .refl, .empty⟩
  | append_singleton ts t ih =>
    obtain ⟨ps, hps, ht⟩ := ih
    rw [run_concat]
    have hp : (run h publish ts { toSurroundings := w }).registry.Coherent := coherent_run .empty ts
    cases t with
    | online a =>
      obtain ⟨qs, hqs, ha⟩ := performances_online h publish hp a
      refine ⟨ps ++ qs, hps.trans hqs, ?_⟩
      rw [List.map_append]
      exact ht.online h publish hp ha
    | offline c =>
      rcases performances_offline h publish hp c with hnone | ⟨n, s, sent, hs, rfl, -, hleft⟩
      · refine ⟨ps, ?_⟩
        rw [step, hnone]
        exact ⟨hps, ht⟩
      · refine ⟨ps ++ [.offline s sent], hps.trans hleft, ?_⟩
        rw [List.map_append]
        exact ht.offline h publish hp hs

/-- What listeners hear during a run from an empty registry, whatever they do themselves. Each event is
that of a call in which the listener of a session was run, and apart from these calls there are only
notes. About every identity: rounds of arrivals, each closed by one departure, and then perhaps more
arrivals. A departure is from the connection of the arrival right before it. An identity has a session
exactly if an arrival was heard of it last. A departure was heard of every session that there was and
is no more. Behind the run, an arrival is heard as one arrival, with the departure of another identity
from its connection before it if there was one; its listener is called with the session as it arrives
and leaves it the extension that it gives, and the arrival creates a session if its identity has none.
A leave is heard as one departure if it ends a session, whose listener is called, and else it changes
nothing. -/
theorem history_bracketed (publish : Transport π τ)
    (hpublish : ∀ via m (w : Surroundings τ),
      (publish via m w).2.journal.history = w.journal.history)
    (h : Handler ε π) (w : Surroundings τ) (ts : List (Transition π)) :
    let p := run h publish ts { toSurroundings := w }
    (∃ ps : List (Performance ε π), Performances h publish w ps p.toSurroundings ∧
      let es := ps.map (·.event)
      p.journal.history = es.reverse ++ w.journal.history ∧
      (∀ i, ∃ (rounds : List Nat) (last : Nat), (about i es).map Event.isOnline =
        (rounds.flatMap fun k => List.replicate (k + 1) true ++ [false]) ++ List.replicate last true) ∧
      (∀ i c sent before after, about i es = before ++ .offline i c sent :: after →
        ∃ earlier sent', before = earlier ++ [.online i c sent']) ∧
      (∀ i, (p.registry.lookup? i).isSome ↔
        ∃ c sent, (about i es).getLast? = some (.online i c sent)) ∧
      es.countP Event.isOffline + p.registry.size = p.registry.sessions.length) ∧
    (∀ a, let q := (online h publish a p).2
      (∃ ps, Performances h publish p.toSurroundings ps q.toSurroundings ∧
        q.journal.history = (ps.map (·.event)).reverse ++ p.journal.history ∧
        Registry.Announced h.fresh p.registry a q.registry ps) ∧
      q.registry.sessions.length = p.registry.sessions.length +
        if (p.registry.lookup? a.identity).isSome then 0 else 1) ∧
    (∀ c, let q := (offline h publish c p).2
      (offline h publish c p = (none, p) ∨
        ∃ n s sent, (offline h publish c p).1 = some n ∧ p.registry.session? n = some s ∧
          s.connection = c ∧ Performances h publish p.toSurroundings [.offline s sent] q.toSurroundings ∧
          q.journal.history = .offline s.identity c sent :: p.journal.history) ∧
      q.registry.sessions.length = p.registry.sessions.length) := by
  intro p
  have hp : p.registry.Coherent := coherent_run .empty ts
  refine ⟨?_, fun a => ?_, fun c => ?_⟩
  · obtain ⟨ps, hps, ht⟩ := told_run h publish w ts
    refine ⟨ps, hps, hps.history hpublish, fun i => ?_,
      fun i c sent before after he => (ht.bracketed i).arrival he, fun i => ?_, ht.count⟩
    · obtain ⟨rounds, last, hrounds, -⟩ := (ht.bracketed i).rounds
      exact ⟨rounds, last, hrounds⟩
    · rw [← hp.isSome_connectionOf?, Option.isSome_iff_exists]
      exact exists_congr fun c => (ht.bracketed i).last_eq
  · obtain ⟨ps, hps, ha⟩ := performances_online h publish hp a
    exact ⟨⟨ps, hps, hps.history hpublish, ha⟩, (size_online h publish hp a).2⟩
  · refine ⟨?_, ?_⟩
    · rcases performances_offline h publish hp c with hnone | ⟨n, s, sent, hs, rfl, hn, hleft⟩
      · exact .inl hnone
      · exact .inr ⟨n, s, sent, hn, hs.session, rfl, hleft, hleft.history hpublish⟩
    · cases ho : p.registry.offline c with
      | none => rw [offline_of_none ho]
      | some o =>
        rw [(offline_of_some ho).2]
        exact (hp.size_offline ho).2

/-- Its listener of arrivals greets the device and counts, and that of departures gives up each time. -/
def Visits.handler : Handler Nat Unit :=
  { Handler.silent 0 with
    online := fun _ s => .send (s.messageOf "hello" s.identity) fun _ => .done (s.extension + 1)
    offline := fun _ _ => .done () (some {}) }

/-- Messages are kept, latest first. -/
def Visits.transport : Transport Unit (List OutboundMessage) :=
  fun _ m w => (.ok (), { w with outbound := m :: w.outbound })

def Visits.arrival (i : String) (c : ConnectionId) : Transition Unit :=
  .online { identity := i, connection := c, address := ⟨.v4 127 0 0 1, 4000, 0⟩, publisher := () }

/-- A device comes back on another connection, its old connection leaves late, the new one comes to
speak for another device and then leaves. -/
def Visits.transitions : List (Transition Unit) :=
  [arrival "a" ⟨1⟩, arrival "a" ⟨2⟩, .offline ⟨1⟩, arrival "b" ⟨2⟩, .offline ⟨2⟩]

def visits : Presence Nat Unit (List OutboundMessage) :=
  run Visits.handler Visits.transport Visits.transitions { outbound := [] }

theorem history_bracketed_visits :
    (∀ via m w, (Visits.transport via m w).2.journal.history = w.journal.history) ∧
      (∃ ps, Performances Visits.handler Visits.transport { outbound := [] } ps visits.toSurroundings ∧
        ps.map (·.event) = [.online "a" ⟨1⟩ [.ok ()], .online "a" ⟨2⟩ [.ok ()], .offline "a" ⟨2⟩ [],
          .online "b" ⟨2⟩ [.ok ()], .offline "b" ⟨2⟩ []]) ∧
      visits.outbound.map (·.content) = ["b", "a", "a"] ∧
      visits.registry.sessions.map (·.extension) = [2, 1] ∧
      (visits.registry.lookup? "a").isSome = false ∧
      2 + visits.registry.size = visits.registry.sessions.length := by
  have hpublish : ∀ via m w, (Visits.transport via m w).2.journal.history = w.journal.history :=
    fun _ _ _ => rfl
  obtain ⟨⟨ps, hps, hes, -, -, hlast, hcount⟩, -, -⟩ :=
    history_bracketed Visits.transport hpublish Visits.handler { outbound := [] } Visits.transitions
  let es : List Event := [.online "a" ⟨1⟩ [.ok ()], .online "a" ⟨2⟩ [.ok ()], .offline "a" ⟨2⟩ [],
    .online "b" ⟨2⟩ [.ok ()], .offline "b" ⟨2⟩ []]
  have hhistory : visits.journal.history.reverse = es := rfl
  have hevents : ps.map (·.event) = es := by
    rw [← hhistory, show visits.journal.history = _ from hes]
    simp [Journal.history]
  rw [hevents] at hlast hcount
  refine ⟨hpublish, ⟨ps, hps, hevents⟩, rfl, rfl, Bool.eq_false_iff.2 fun hsome => ?_, hcount⟩
  obtain ⟨c, sent, hc⟩ := (hlast "a").1 hsome
  have hleft : (about "a" es).getLast? = some (.offline "a" ⟨2⟩ []) := rfl
  cases hleft.symm.trans hc

end Presence

end DeviceGateway
