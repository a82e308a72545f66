import DeviceGateway.Outbound.Publisher

/-!
# What sending leaves alone

A packet that is sent goes to the end of one open writer (`Outbound.send_eq_ok`), and a message to
the writer that the table has for its connection (`Outbound.publish_eq_ok`). So sending keeps the
shape of the table (`Outbound.SameTable`) and closes no writer (`Outbound.isOpen?_send`), and what
waits in the writer of one connection changes by what is sent to that connection only
(`Outbound.OwnBuffer`).
-/

namespace DeviceGateway

namespace Outbound

variable {o o' : Outbound} {n : Nat} {p : Packet} {c : ConnectionId} {msg : OutboundMessage}

theorem send_eq_ok : o.send n p = .ok o' ↔ ∃ w b, o.writer? n = some w ∧ w.isOpen ∧
    p.encode = .ok b ∧
    o' = { o with writers := o.writers.set n { w with packets := b :: w.packets } } := by
  unfold send Writer.send
  cases hw : o.writer? n with
  | none => simp
  | some w =>
    obtain ⟨packets, _ | _⟩ := w
    · simp [Except.map]
    · cases he : p.encode with
      | error e => simp [Except.map]
      | ok b =>
        simp only [if_true, Except.map, Except.ok.injEq]
        constructor
        · rintro rfl
          exact ⟨_, b, rfl, rfl, rfl, rfl⟩
        · rintro ⟨_, _, hw', -, hb', rfl⟩
          cases hw'
          cases hb'
          rfl

theorem publish_eq_ok (h : o.publish msg = .ok o') :
    ∃ n, o.route? msg.connection = some n ∧ o.send n (o.packetOf msg) = .ok o' := by
  unfold publish at h
  split at h
  · cases h
  · split at h
    · cases h
    · split at h
      · cases h
      · rename_i n hn
        split at h
        · rename_i o₁ hs
          cases h
          exact ⟨n, hn, hs⟩
        · cases h
        · cases h

theorem publish_of_route_eq_none (h : o.route? msg.connection = none) :
    o.publish msg = .error .emptyTopic ∨ o.publish msg = .error .emptyContent ∨
      o.publish msg = .error (.notConnected msg.connection) := by
  unfold publish
  split
  · exact .inl rfl
  · split
    · exact .inr (.inl rfl)
    · rw [h]
      exact .inr (.inr rfl)

/-- What comes of a message to a connection that is in the table. -/
theorem publish_of_route {v : Writer} (ht : msg.topic ≠ "") (hc : msg.content ≠ "")
    (hn : o.route? msg.connection = some n) (hv : o.writer? n = some v) :
    (v.isOpen = false → o.publish msg = .error (.closed msg.connection)) ∧
    (v.isOpen = true → ∀ e, (o.packetOf msg).encode = .error e → o.publish msg = .error (.encode e)) ∧
    (v.isOpen = true → ∀ b, (o.packetOf msg).encode = .ok b → o.publish msg =
      .ok { o with writers := o.writers.set n { v with packets := b :: v.packets } }) := by
  have hs : o.send n (o.packetOf msg) =
      (v.send (o.packetOf msg)).map fun w => { o with writers := o.writers.set n w } := by
    rw [send, hv]
  simp only [publish, if_neg ht, if_neg hc, hn, hs, Writer.send]
  refine ⟨fun hopen => ?_, fun hopen e he => ?_, fun hopen b hb => ?_⟩
  · simp [hopen, Except.map]
  · simp [hopen, he, Except.map]
  · simp [hopen, hb, Except.map]

/-! ### The shape of the table -/

/-- Two tables of one charset with the same entries over as many writers. -/
structure SameTable (o o' : Outbound) : Prop where
  routes : o'.routes = o.routes
  length : o'.writers.length = o.writers.length
  charset : o'.charset = o.charset

namespace SameTable

theorem refl : SameTable o o := ⟨rfl, rfl, rfl⟩

theorem trans {o'' : Outbound} (h : SameTable o o') (h' : SameTable o' o'') : SameTable o o'' :=
  ⟨h'.routes.trans h.routes, h'.length.trans h.length, h'.charset.trans h.charset⟩

theorem modify (f : Writer → Writer) : SameTable o (o.modify n f) :=
  ⟨rfl, List.length_modify .., rfl⟩

theorem send (h : o.send n p = .ok o') : SameTable o o' := by
  obtain ⟨w, b, -, -, -, rfl⟩ := send_eq_ok.1 h
  exact ⟨rfl, List.length_set .., rfl⟩

theorem publish (h : o.publish msg = .ok o') : SameTable o o' :=
  let ⟨_, _, hs⟩ := publish_eq_ok h
  send hs

theorem take : SameTable o (o.take n).2 := by
  unfold Outbound.take
  split
  · exact .modify _
  · exact .refl

theorem closeAll : SameTable o o.closeAll := by
  unfold Outbound.closeAll
  generalize o.routes.entries.map Prod.snd = ns
  induction ns generalizing o with
  | nil => exact .refl
  | cons n ns ih => exact (SameTable.modify Writer.close).trans ih

end SameTable

/-! ### Open writers -/

def isOpen? (o : Outbound) (n : Nat) : Option Bool := (o.writer? n).map (·.isOpen)

theorem isOpen?_send (h : o.send n p = .ok o') (m : Nat) : o'.isOpen? m = o.isOpen? m := by
  obtain ⟨w, b, hw, -, -, rfl⟩ := send_eq_ok.1 h
  show ((o.writers.set n _)[m]?).map (·.isOpen) = _
  by_cases hm : n = m
  · subst hm
    rw [List.getElem?_set_self (List.getElem?_eq_some_iff.1 hw).1, isOpen?, hw]
    rfl
  · rw [List.getElem?_set_ne hm]
    rfl

/-! ### The writer of one connection -/

/-- Open writer `n` holds `b`, and no other connection than `c` leads to it. -/
structure OwnBuffer (o : Outbound) (c : ConnectionId) (n : Nat) (b : Bytes) : Prop where
  own : ∀ d, o.route? d = some n → d = c
  waits : ∃ w, o.writer? n = some w ∧ w.isOpen ∧ w.buffer = b

namespace OwnBuffer

variable {b e : Bytes}

theorem send (h : o.OwnBuffer c n b) (he : p.encode = .ok e) :
    ∃ o', o.send n p = .ok o' ∧ o'.OwnBuffer c n (b ++ e) := by
  obtain ⟨w, hw, hopen, rfl⟩ := h.waits
  refine ⟨_, send_eq_ok.2 ⟨w, e, hw, hopen, he, rfl⟩, h.own,
    { w with packets := e :: w.packets }, ?_, hopen, ?_⟩
  · have hlt : n < o.writers.length := (List.getElem?_eq_some_iff.1 hw).1
    simp [writer?, hlt]
  · simp [Writer.buffer]

/-- A message to another connection goes to another writer. -/
theorem publish (h : o.OwnBuffer c n b) (hm : msg.connection ≠ c) (hp : o.publish msg = .ok o') :
    o'.OwnBuffer c n b := by
  obtain ⟨m, hroute, hs⟩ := publish_eq_ok hp
  have hne : m ≠ n := fun he => hm (h.own _ (he ▸ hroute))
  obtain ⟨w, e, -, -, -, rfl⟩ := send_eq_ok.1 hs
  obtain ⟨w', hw', hopen, hb⟩ := h.waits
  refine ⟨h.own, w', ?_, hopen, hb⟩
  show (o.writers.set m _)[n]? = some w'
  rw [List.getElem?_set_ne hne]
  exact hw'

theorem take (h : o.OwnBuffer c n b) : (o.take n).1 = b ∧ (o.take n).2.OwnBuffer c n [] := by
  obtain ⟨w, hw, hopen, rfl⟩ := h.waits
  rw [Outbound.take, hw]
  refine ⟨rfl, h.own, w.take.2, ?_, hopen, w.buffer_take⟩
  rw [writer?] at hw
  simp [writer?, modify, hw]

end OwnBuffer

end Outbound

namespace Surroundings

theorem publish_outbound (w : Surroundings Outbound) (m : OutboundMessage) :
    (w.publish m).2.outbound = w.outbound ∨ w.outbound.publish m = .ok (w.publish m).2.outbound := by
  unfold publish
  cases hp : w.outbound.publish m with
  | ok o =>
    right
    dsimp only
    cases Outbound.notice? m (.ok ()) <;> rfl
  | error e =>
    left
    dsimp only
    cases Outbound.notice? m (.error e) <;> rfl

/-- What is not sent changes no writer. -/
theorem publish_of_error {w : Surroundings Outbound} {m : OutboundMessage} {e : PublishError}
    (h : w.outbound.publish m = .error e) :
    (w.publish m).1 = .error e ∧ (w.publish m).2.outbound = w.outbound := by
  unfold publish
  rw [h]
  dsimp only
  cases Outbound.notice? m (.error e) <;> exact ⟨rfl, rfl⟩

theorem publish_of_ok {w : Surroundings Outbound} {m : OutboundMessage} {o : Outbound}
    (h : w.outbound.publish m = .ok o) :
    (w.publish m).1 = .ok () ∧ (w.publish m).2.outbound = o := by
  unfold publish
  rw [h]
  exact ⟨rfl, rfl⟩

theorem sameTable_publish (w : Surroundings Outbound) (m : OutboundMessage) :
    w.outbound.SameTable (w.publish m).2.outbound := by
  rcases publish_outbound w m with h | h
  · rw [h]
    exact .refl
  · exact .publish h

theorem isOpen?_publish (w : Surroundings Outbound) (m : OutboundMessage) (n : Nat) :
    (w.publish m).2.outbound.isOpen? n = w.outbound.isOpen? n := by
  rcases publish_outbound w m with h | h
  · rw [h]
  · obtain ⟨_, -, hs⟩ := Outbound.publish_eq_ok h
    exact Outbound.isOpen?_send hs n

/-- A message changes no writer but that of its connection. -/
theorem writer?_publish (w : Surroundings Outbound) {m : OutboundMessage} {n : Nat}
    (hn : w.outbound.route? m.connection ≠ some n) :
    (w.publish m).2.outbound.writer? n = w.outbound.writer? n := by
  rcases publish_outbound w m with h | h
  · rw [h]
  · obtain ⟨k, hk, hs⟩ := Outbound.publish_eq_ok h
    obtain ⟨v, b, -, -, -, ho⟩ := Outbound.send_eq_ok.1 hs
    have hne : k ≠ n := fun he => hn (he ▸ hk)
    rw [ho]
    exact List.getElem?_set_ne hne

/-- What comes of a message to a connection that is in the table, and that no other writer changes. -/
theorem publish_of_route (w : Surroundings Outbound) {m : OutboundMessage} {n : Nat} {v : Writer}
    (ht : m.topic ≠ "") (hc : m.content ≠ "") (hn : w.outbound.route? m.connection = some n)
    (hv : w.outbound.writer? n = some v) :
    let sent := w.publish m
    (∀ d, sent.1 ≠ .error (.notConnected d)) ∧
      (v.isOpen = true → ∀ b, (w.outbound.packetOf m).encode = .ok b → sent.1 = .ok () ∧
        sent.2.outbound.writer? n = some { v with packets := b :: v.packets }) ∧
      (v.isOpen = true → ∀ e, (w.outbound.packetOf m).encode = .error e →
        sent.1 = .error (.encode e) ∧ sent.2.outbound = w.outbound) ∧
      (v.isOpen = false → sent.1 = .error (.closed m.connection) ∧ sent.2.outbound = w.outbound) ∧
      ∀ k, k ≠ n → sent.2.outbound.writer? k = w.outbound.writer? k := by
  intro sent
  obtain ⟨hclosed, herror, hok⟩ := Outbound.publish_of_route ht hc hn hv
  have hgone : v.isOpen = false → sent.1 = .error (.closed m.connection) ∧
      sent.2.outbound = w.outbound := fun hopen => publish_of_error (hclosed hopen)
  have hfailed : v.isOpen = true → ∀ e, (w.outbound.packetOf m).encode = .error e →
      sent.1 = .error (.encode e) ∧ sent.2.outbound = w.outbound :=
    fun hopen e he => publish_of_error (herror hopen e he)
  have hwritten : v.isOpen = true → ∀ b, (w.outbound.packetOf m).encode = .ok b → sent.1 = .ok () ∧
      sent.2.outbound.writer? n = some { v with packets := b :: v.packets } := by
    intro hopen b hb
    obtain ⟨hone, hout⟩ := publish_of_ok (hok hopen b hb)
    refine ⟨hone, ?_⟩
    rw [hout]
    exact List.getElem?_set_self (List.getElem?_eq_some_iff.1 hv).1
  refine ⟨fun d hnot => ?_, hwritten, hfailed, hgone, fun k hk => ?_⟩
  · -- the writer is there, so what is turned away is so for another reason
    cases hopen : v.isOpen with
    | false => cases (hgone hopen).1.symm.trans hnot
    | true =>
      cases hp : (w.outbound.packetOf m).encode with
      | error e => cases (hfailed hopen e hp).1.symm.trans hnot
      | ok b => cases (hwritten hopen b hp).1.symm.trans hnot
  · exact w.writer?_publish fun hk' => hk (Option.some.inj (hk'.symm.trans hn))

theorem ownBuffer_publish (w : Surroundings Outbound) {m : OutboundMessage} {c : ConnectionId}
    {n : Nat} {b : Bytes} (hm : m.connection ≠ c) (h : w.outbound.OwnBuffer c n b) :
    (w.publish m).2.outbound.OwnBuffer c n b := by
  rcases publish_outbound w m with hw | hw
  · rw [hw]
    exact h
  · exact h.publish hm hw

theorem entries_publish (w : Surroundings Outbound) (m : OutboundMessage) :
    (w.publish m).2.journal.entries = w.journal.entries := by
  unfold publish
  dsimp only
  split <;> rfl

end Surroundings

end DeviceGateway
