import DeviceGateway.Gateway.Turn
import DeviceGateway.Proofs.Gateway.Handling
import DeviceGateway.Proofs.Hooks
import DeviceGateway.Proofs.Session.Transitions

/-!
# Connections, table and registry in step

`Gateway.Linked`: the table has exactly the connections, each with a writer of its own
(`Gateway.Wired`), and a session is registered only on a connection that speaks for its identity. The
converse is false, for a connection whose session went to another one still has its identity. A step
that keeps the connections, the registry and the shape of the table keeps the links
(`Linked.of_keeps`). The steps that change them are `Linked.accept`, `Linked.establish` and
`Linked.tearDown`; a turn is made of these (`linked_turn`).
-/

namespace DeviceGateway

variable {ε : Type}

namespace Presence

variable {π τ : Type} {h : Handler ε π} {publish : Transport π τ} {p : Presence ε π τ}
  {c : ConnectionId}

/-- Behind an arrival, a session is that of the arrival, or one on another connection as it was. -/
theorem of_holds_online (hp : p.registry.Coherent) {a : Arrival π} {n : Nat} {s : Session ε π}
    (hs : (online h publish a p).2.registry.Holds n s) :
    (s.identity = a.identity ∧ s.connection = a.connection ∧ s.publisher = a.publisher) ∨
      s.connection ≠ a.connection ∧ ∃ t, p.registry.Holds n t ∧ s.identity = t.identity ∧
        s.connection = t.connection ∧ s.publisher = t.publisher := by
  obtain ⟨e, he⟩ := registry_online h publish a p
  rw [he] at hs
  obtain ⟨t, ht, rfl⟩ := Registry.holds_setExtension.1 hs
  rcases hp.holds_online.1 ht with ⟨-, rfl⟩ | ⟨ht, -, htc⟩
  · left
    split <;> exact ⟨rfl, rfl, rfl⟩
  · right
    split <;> exact ⟨htc, t, ht, rfl, rfl, rfl⟩

theorem sameTable_online (h : Handler ε ConnectionId) (a : Arrival ConnectionId)
    (p : Presence ε ConnectionId Outbound) :
    p.outbound.SameTable (online h .table a p).2.outbound :=
  online_keeps (J := p.outbound.SameTable) (P := fun _ => True)
    (fun _ m w _ hw => hw.trans (w.sameTable_publish m)) (fun _ _ _ _ => trivial) .refl

end Presence

namespace Gateway

variable {svc : Service ε} {g g' : Gateway ε} {c d : ConnectionId} {conn conn' : Connection}
  {n : Nat}

def writerOf? (g : Gateway ε) (c : ConnectionId) : Option Nat := (g.connection? c).map (·.writer)

def identityOf? (g : Gateway ε) (c : ConnectionId) : Option String :=
  (g.connection? c).bind (·.identity)

/-- The table has the connections, and each has a writer of its own. -/
structure Wired (g : Gateway ε) : Prop where
  route : ∀ c, g.outbound.route? c = g.writerOf? c
  writer_lt : ∀ c n, g.writerOf? c = some n → n < g.outbound.writers.length
  writer_inj : ∀ c d n, g.writerOf? c = some n → g.writerOf? d = some n → c = d
  raw_lt : ∀ c, (g.writerOf? c).isSome → c.raw < g.next

/-- The registry agrees with the connections too. -/
structure Linked (g : Gateway ε) : Prop extends Wired g where
  coherent : g.registry.Coherent
  publisher : ∀ n s, g.registry.Holds n s → s.publisher = s.connection
  identity : ∀ n s, g.registry.Holds n s → g.identityOf? s.connection = some s.identity

theorem isSome_writerOf? : (g.writerOf? c).isSome = (g.connection? c).isSome :=
  Option.isSome_map

/-! ### What steps do to the connections -/

theorem connection?_accept (now : Duration) (address : SocketAddress) (d : ConnectionId) :
    (g.accept svc now address).2.connection? d = if d = ⟨g.next⟩ then
      some { address, writer := g.outbound.writers.length, deadline := now + svc.idleTimeout }
    else g.connection? d :=
  Index.get?_insert

theorem connection?_setConnection (hc : g.connection? c = some conn) (d : ConnectionId) :
    (g.setConnection c conn').connection? d = if d = c then some conn' else g.connection? d := by
  show (g.connections.modify c _).get? d = _
  rw [Index.get?_modify]
  split
  · subst d
    exact congrArg (Option.map _) hc
  · rfl

theorem writerOf?_setConnection (hc : g.connection? c = some conn) (hw : conn'.writer = conn.writer)
    (d : ConnectionId) : (g.setConnection c conn').writerOf? d = g.writerOf? d := by
  rw [writerOf?, connection?_setConnection hc]
  split
  · subst d
    rw [writerOf?, hc, Option.map_some, Option.map_some, hw]
  · rfl

theorem identityOf?_setConnection (hc : g.connection? c = some conn) (d : ConnectionId) :
    (g.setConnection c conn').identityOf? d = if d = c then conn'.identity else g.identityOf? d := by
  rw [identityOf?, connection?_setConnection hc]
  split <;> rfl

theorem tearDown_of_none (hc : g.connection? c = none) : g.tearDown svc c = g := by
  rw [tearDown, hc]

theorem connection?_tearDown (svc : Service ε) (c d : ConnectionId) (g : Gateway ε) :
    (g.tearDown svc c).connection? d = if d = c then none else g.connection? d := by
  cases hc : g.connection? c with
  | none =>
    rw [tearDown_of_none hc]
    split
    · subst d
      exact hc
    · rfl
  | some conn =>
    rw [tearDown, hc]
    exact Index.get?_erase

/-- What the listeners find when a connection leaves. -/
def leaving (g : Gateway ε) (c : ConnectionId) (conn : Connection) : Presence ε ConnectionId Outbound :=
  { g.toPresence with outbound := (g.outbound.remove c).close conn.writer }

theorem registry_tearDown (svc : Service ε) (hc : g.connection? c = some conn) :
    (g.tearDown svc c).registry = ((g.leaving c conn).offline svc.handler .table c).2.registry := by
  rw [tearDown, hc]
  rfl

theorem outbound_tearDown (svc : Service ε) (hc : g.connection? c = some conn) :
    (g.tearDown svc c).outbound = ((g.leaving c conn).offline svc.handler .table c).2.outbound := by
  rw [tearDown, hc]
  rfl

theorem coherent_tearDown (svc : Service ε) (c : ConnectionId) (h : g.registry.Coherent) :
    (g.tearDown svc c).registry.Coherent := by
  cases hc : g.connection? c with
  | none => rwa [tearDown_of_none hc]
  | some conn =>
    have hp : (g.leaving c conn).registry.Coherent := h
    rw [registry_tearDown svc hc]
    exact Presence.coherent_step hp (.offline c)

theorem holds_tearDown (svc : Service ε) (hc : g.connection? c = some conn) (h : g.registry.Coherent)
    {s : Session ε ConnectionId} :
    (g.tearDown svc c).registry.Holds n s ↔ g.registry.Holds n s ∧ s.connection ≠ c := by
  have hp : (g.leaving c conn).registry.Coherent := h
  rw [registry_tearDown svc hc]
  exact Presence.holds_offline hp

theorem sameTable_tearDown (svc : Service ε) (hc : g.connection? c = some conn) :
    ((g.outbound.remove c).close conn.writer).SameTable (g.tearDown svc c).outbound := by
  rw [outbound_tearDown svc hc]
  exact Presence.offline_keeps (J := Outbound.SameTable _) (P := fun _ => True)
    (fun via m w _ hw => hw.trans (w.sameTable_publish m)) (fun _ _ _ _ _ _ => trivial)
    (show Outbound.SameTable _ (g.leaving c conn).outbound from .refl)

theorem next_tearDown : (g.tearDown svc c).next = g.next := by
  unfold tearDown
  split <;> rfl

/-! ### Connections and table -/

namespace Wired

theorem start (charset : Charset) (capacity : Nat) :
    (Gateway.start charset capacity : Gateway ε).Wired where
  route _ := rfl
  writer_lt _ _ h := by cases h
  writer_inj _ _ _ h := by cases h
  raw_lt _ h := by cases h

theorem congr (h : g.Wired) (hw : ∀ c, g'.writerOf? c = g.writerOf? c) (hn : g'.next = g.next)
    (ht : g.outbound.SameTable g'.outbound) : g'.Wired where
  route c := by rw [hw, ← h.route, Outbound.route?, ht.routes, Outbound.route?]
  writer_lt c n hc := by
    rw [ht.length]
    exact h.writer_lt c n (hw c ▸ hc)
  writer_inj c d n hc hd := h.writer_inj c d n (hw c ▸ hc) (hw d ▸ hd)
  raw_lt c hc := by
    rw [hn]
    exact h.raw_lt c (hw c ▸ hc)

theorem ne_next (h : g.Wired) (hc : (g.connection? c).isSome) : c ≠ ⟨g.next⟩ := fun he => by
  have := h.raw_lt c (isSome_writerOf?.trans hc)
  rw [he] at this
  exact Nat.lt_irrefl _ this

theorem accept (h : g.Wired) (now : Duration) (address : SocketAddress) :
    (g.accept svc now address).2.Wired := by
  have hwriter : ∀ d, (g.accept svc now address).2.writerOf? d =
      if d = ⟨g.next⟩ then some g.outbound.writers.length else g.writerOf? d := fun d => by
    rw [writerOf?, connection?_accept]
    split <;> rfl
  have hlength : (g.accept svc now address).2.outbound.writers.length =
      g.outbound.writers.length + 1 := List.length_append
  refine ⟨fun d => ?_, fun d n hd => ?_, fun d e n hd he => ?_, fun d hd => ?_⟩
  · rw [hwriter, ← h.route]
    exact Index.get?_insert
  · rw [hwriter] at hd
    rw [hlength]
    split at hd
    · cases hd
      exact Nat.lt_succ_self _
    · exact Nat.lt_succ_of_lt (h.writer_lt d n hd)
  · rw [hwriter] at hd he
    -- no connection had the number of the new writer
    have hnew : ∀ {c}, g.writerOf? c ≠ some g.outbound.writers.length := fun hc =>
      Nat.lt_irrefl _ (h.writer_lt _ _ hc)
    split at hd
    · split at he
      · exact ‹d = _›.trans (Eq.symm ‹e = _›)
      · cases hd
        exact absurd he hnew
    · split at he
      · cases he
        exact absurd hd hnew
      · exact h.writer_inj d e n hd he
  · rw [hwriter] at hd
    show d.raw < g.next + 1
    split at hd
    · subst d
      exact Nat.lt_succ_self _
    · exact Nat.lt_succ_of_lt (h.raw_lt d hd)

theorem setConnection (h : g.Wired) (hc : g.connection? c = some conn)
    (hw : conn'.writer = conn.writer) : (g.setConnection c conn').Wired :=
  h.congr (writerOf?_setConnection hc hw) rfl .refl

theorem tearDown (h : g.Wired) : (g.tearDown svc c).Wired := by
  cases hc : g.connection? c with
  | none => rwa [tearDown_of_none hc]
  | some conn =>
    have hwriter : ∀ d, (g.tearDown svc c).writerOf? d = if d = c then none else g.writerOf? d :=
      fun d => by
        rw [writerOf?, connection?_tearDown]
        split <;> rfl
    have ht := sameTable_tearDown svc hc
    refine ⟨fun d => ?_, fun d n hd => ?_, fun d e n hd he => ?_, fun d hd => ?_⟩
    · rw [hwriter, ← h.route, Outbound.route?, ht.routes]
      exact Index.get?_erase
    · rw [hwriter] at hd
      rw [ht.length, Outbound.close, Outbound.modify, List.length_modify]
      split at hd
      · cases hd
      · exact h.writer_lt d n hd
    · rw [hwriter] at hd he
      split at hd
      · cases hd
      · split at he
        · cases he
        · exact h.writer_inj d e n hd he
    · rw [hwriter] at hd
      rw [next_tearDown]
      split at hd
      · cases hd
      · exact h.raw_lt d hd

end Wired

/-! ### The registry as well -/

namespace Linked

theorem start (charset : Charset) (capacity : Nat) :
    (Gateway.start charset capacity : Gateway ε).Linked where
  toWired := .start charset capacity
  coherent := .empty
  publisher n _ h := absurd h.lt (Nat.not_lt_zero n)
  identity n _ h := absurd h.lt (Nat.not_lt_zero n)

theorem of_keeps (h : g.Linked) (hk : Keeps g g') : g'.Linked where
  toWired := h.congr (fun c => by rw [writerOf?, connection?, hk.connections]; rfl) hk.next hk.table
  coherent := hk.registry ▸ h.coherent
  publisher n s hs := h.publisher n s (hk.registry ▸ hs)
  identity n s hs := by
    rw [identityOf?, connection?, hk.connections]
    exact h.identity n s (hk.registry ▸ hs)

theorem accept (h : g.Linked) (now : Duration) (address : SocketAddress) :
    (g.accept svc now address).2.Linked where
  toWired := h.toWired.accept now address
  coherent := h.coherent
  publisher := h.publisher
  identity n s hs := by
    have hi := h.identity n s hs
    rw [identityOf?, connection?_accept, if_neg]
    · exact hi
    · obtain ⟨conn, hconn, -⟩ := Option.bind_eq_some_iff.1 hi
      exact h.ne_next (hconn ▸ rfl)

theorem setConnection (h : g.Linked) (hc : g.connection? c = some conn)
    (hw : conn'.writer = conn.writer) (hi : conn'.identity = conn.identity) :
    (g.setConnection c conn').Linked where
  toWired := h.toWired.setConnection hc hw
  coherent := h.coherent
  publisher := h.publisher
  identity n s hs := by
    rw [identityOf?_setConnection hc]
    split
    · rename_i he
      have := h.identity n s hs
      rw [he, identityOf?, hc] at this
      rw [hi]
      exact this
    · exact h.identity n s hs

theorem establish (h : g.Linked) (hc : g.connection? c = some conn) (q : Connect)
    (identity : String) : (g.establish svc c conn q identity).Linked := by
  set a : Arrival ConnectionId := ⟨identity, c, conn.address, q.username, q.password, c⟩
  set p := (g.toPresence.online svc.handler .table a).2
  set conn' := { conn with identity := some identity }
  have ht : g.outbound.SameTable p.outbound := Presence.sameTable_online svc.handler a g.toPresence
  -- behind the answer, the gateway is this one
  suffices hg : ({ g with toPresence := p }.setConnection c conn').Linked from hg.of_keeps .reply
  have hidentity : ∀ d, ({ g with toPresence := p }.setConnection c conn').identityOf? d =
      if d = c then some identity else g.identityOf? d := identityOf?_setConnection hc
  refine ⟨h.toWired.congr (writerOf?_setConnection hc rfl) rfl ht, ?_, fun n s hs => ?_, fun n s hs => ?_⟩
  · exact Presence.coherent_step h.coherent (.online a)
  · rcases Presence.of_holds_online h.coherent hs with ⟨-, hsc, hsp⟩ | ⟨-, t, ht, -, hsc, hsp⟩
    · rw [hsc, hsp]
    · rw [hsc, hsp, h.publisher n t ht]
  · rw [hidentity]
    rcases Presence.of_holds_online h.coherent hs with ⟨hsi, hsc, -⟩ | ⟨hne, t, ht, hsi, hsc, -⟩
    · rw [if_pos hsc, hsi]
    · rw [if_neg hne, hsi, hsc, h.identity n t ht]

theorem tearDown (h : g.Linked) : (g.tearDown svc c).Linked := by
  cases hc : g.connection? c with
  | none => rwa [tearDown_of_none hc]
  | some conn =>
    refine ⟨h.toWired.tearDown, coherent_tearDown svc c h.coherent, fun n s hs => ?_, fun n s hs => ?_⟩
    · exact h.publisher n s ((holds_tearDown svc hc h.coherent).1 hs).1
    · obtain ⟨hs, hsc⟩ := (holds_tearDown svc hc h.coherent).1 hs
      rw [identityOf?, connection?_tearDown, if_neg hsc]
      exact h.identity n s hs

end Linked

/-! ### A turn -/

/-- The same connections are there, and none was accepted. -/
structure SameIds (g g' : Gateway ε) : Prop where
  keys : g'.connections.keys = g.connections.keys
  next : g'.next = g.next

namespace SameIds

theorem refl : SameIds g g := ⟨rfl, rfl⟩

theorem trans {g'' : Gateway ε} (h : SameIds g g') (h' : SameIds g' g'') : SameIds g g'' :=
  ⟨h'.keys.trans h.keys, h'.next.trans h.next⟩

theorem of_keeps (h : Keeps g g') : SameIds g g' := ⟨congrArg Index.keys h.connections, h.next⟩

theorem setConnection : SameIds g (g.setConnection c conn) := ⟨Index.keys_modify, rfl⟩

theorem establish (q : Connect) (identity : String) :
    SameIds g (g.establish svc c conn q identity) := by
  unfold Gateway.establish
  dsimp only
  refine SameIds.trans ?_ (.of_keeps .reply)
  exact ⟨Index.keys_modify, rfl⟩

end SameIds

theorem sameTable_establish (q : Connect) (identity : String) :
    g.outbound.SameTable (g.establish svc c conn q identity).outbound := by
  set a : Arrival ConnectionId := ⟨identity, c, conn.address, q.username, q.password, c⟩
  have harrived := Presence.sameTable_online svc.handler a g.toPresence
  set p := (g.toPresence.online svc.handler .table a).2
  set conn' := { conn with identity := some identity }
  have hreply : Keeps ({ g with toPresence := p }.setConnection c conn')
    (g.establish svc c conn q identity) := .reply
  exact harrived.trans hreply.table

theorem sameTable_handle (svc : Service ε) (c : ConnectionId) (conn : Connection) (p : Packet)
    (g : Gateway ε) : g.outbound.SameTable (g.handle svc c conn p).2.outbound := by
  rcases handle_cases svc c conn p g with hk | ⟨q, i, j, -, hg⟩
  · exact hk.table
  · rw [hg]
    exact sameTable_establish (g := { g with journal := j }) q i

theorem linked_handle (svc : Service ε) (h : g.Linked) (hc : g.connection? c = some conn) (p : Packet) :
    (g.handle svc c conn p).2.Linked ∧ SameIds g (g.handle svc c conn p).2 := by
  rcases handle_cases svc c conn p g with hk | ⟨q, i, j, -, hg⟩
  · exact ⟨h.of_keeps hk, .of_keeps hk⟩
  · rw [hg]
    have hj : Gateway.Linked { g with journal := j } := h.of_keeps (.journal j)
    exact ⟨hj.establish hc q i, (SameIds.of_keeps (.journal j)).trans (.establish q i)⟩

theorem linked_receive (svc : Service ε) (h : g.Linked) (hc : g.connection? c = some conn)
    (hw : conn'.writer = conn.writer) (hi : conn'.identity = conn.identity) (b : Bytes) :
    (g.receive svc c conn' b).2.Linked ∧ SameIds g (g.receive svc c conn' b).2 := by
  rw [gateway_receive]
  refine handleAll_keeps (P := fun g' => g'.Linked ∧ SameIds g g') ?_ _
    ⟨h.setConnection hc hw hi, .setConnection⟩
  rintro g' conn p hc ⟨hl, hids⟩
  obtain ⟨hl', hids'⟩ := linked_handle svc hl hc p
  exact ⟨hl', hids.trans hids'⟩

theorem Keeps.flush (failure : Option String) : Keeps g (g.flush failure conn).gateway := by
  unfold Gateway.flush
  dsimp only
  split
  · split <;> exact ⟨rfl, rfl, rfl, .take⟩
  · exact ⟨rfl, rfl, rfl, .take⟩

theorem linked_respond (svc : Service ε) (failure : Option String) (now : Duration) (h : g.Linked)
    (hc : g.connection? c = some conn) (s : Signal) :
    (g.respond svc failure now c conn s).gateway.Linked ∧
      SameIds g (g.respond svc failure now c conn s).gateway := by
  cases s with
  | bytes b =>
    let conn' := { conn with deadline := now + svc.idleTimeout }
    obtain ⟨hl, hi⟩ := linked_receive svc h hc (show conn'.writer = conn.writer from rfl) rfl b
    exact ⟨hl.of_keeps (.flush failure), hi.trans (.of_keeps (.flush failure))⟩
  | writer =>
    have hk : Keeps g (g.respond svc failure now c conn .writer).gateway := by
      simp only [respond]
      split
      · exact .flush failure
      · exact (Keeps.flush failure).trans ⟨rfl, rfl, rfl, .refl⟩
    exact ⟨h.of_keeps hk, .of_keeps hk⟩
  | endOfStream => exact ⟨h.of_keeps ⟨rfl, rfl, rfl, .refl⟩, ⟨rfl, rfl⟩⟩
  | readFailure e => exact ⟨h, .refl⟩
  | clock => exact ⟨h, .refl⟩

theorem SameIds.isSome_connection? (h : SameIds g g') (d : ConnectionId) :
    (g'.connection? d).isSome ↔ (g.connection? d).isSome := by
  rw [connection?, connection?, Index.isSome_get?, Index.isSome_get?, h.keys]

/-- A turn keeps the links, and takes out the connection it ends. -/
theorem linked_turn (svc : Service ε) (failure : Option String) (now : Duration) (h : g.Linked)
    (c : ConnectionId) (s : Signal) :
    let t := g.turn svc failure now c s
    t.gateway.Linked ∧ t.gateway.next = g.next ∧ (t.ended.isSome → (g.connection? c).isSome) ∧
      ∀ d, (t.gateway.connection? d).isSome ↔
        (g.connection? d).isSome ∧ ¬ (t.ended.isSome ∧ d = c) := by
  unfold turn
  cases hc : g.connection? c with
  | none => exact ⟨h, rfl, nofun, fun d => by simp⟩
  | some conn =>
    obtain ⟨hl, hids⟩ := linked_respond svc failure now h hc s
    dsimp only
    split
    · rename_i hended
      refine ⟨hl.tearDown, next_tearDown.trans hids.next, fun _ => rfl, fun d => ?_⟩
      rw [connection?_tearDown, ← hids.isSome_connection? d]
      by_cases hd : d = c
      · simp [hd, hended]
      · simp [hd]
    · rename_i hended
      exact ⟨hl, hids.next, fun he => absurd he hended, fun d => by
        rw [hids.isSome_connection? d]
        simp [hended]⟩

end Gateway

end DeviceGateway
