import DeviceGateway.Packet.Stream
import DeviceGateway.Proofs.Packet.Framing

/-!
# Draining a buffer that grows

A buffer is drained up to where its octets wait or are wrong. When it grows, the packets taken off it
stay the same: behind what is wrong nothing counts any more (`ofBuffer_append_of_failure`), and
otherwise draining goes on with what was left (`ofBuffer_append`). The induction is on the packets at
the front of the buffer, and each of them is final (`Packet.decode_append`).
-/

namespace DeviceGateway.Drained

variable {limit n : Nat} {before : List Packet} {b x : Bytes} {p : Packet} {e : DecodeError}

theorem after_of_error (h : Packet.decode limit b = .error e) :
    after limit before b = ⟨before.reverse, b, some e⟩ := by
  rw [after]
  split <;> simp_all

theorem after_of_none (h : Packet.decode limit b = .ok none) :
    after limit before b = ⟨before.reverse, b, none⟩ := by
  rw [after]
  split <;> simp_all

theorem after_of_packet (h : Packet.decode limit b = .ok (some (p, n))) :
    after limit before b = after limit (p :: before) (b.drop n) := by
  rw [after]
  split <;> simp_all

/-- What was taken off earlier only stands in front of the rest. -/
theorem after_append (before before' : List Packet) (b : Bytes) : after limit (before ++ before') b =
    { after limit before b with packets := before'.reverse ++ (after limit before b).packets } := by
  fun_induction after limit before b with
  | case1 before b e h => rw [after_of_error h, List.reverse_append]
  | case2 before b h => rw [after_of_none h, List.reverse_append]
  | case3 before b p n h ih => rw [after_of_packet h, ← List.cons_append, ih]

/-! ### The first packet -/

theorem ofBuffer_of_error (h : Packet.decode limit b = .error e) : ofBuffer limit b = ⟨[], b, some e⟩ :=
  after_of_error h

theorem ofBuffer_of_none (h : Packet.decode limit b = .ok none) : ofBuffer limit b = ⟨[], b, none⟩ :=
  after_of_none h

theorem ofBuffer_of_packet (h : Packet.decode limit b = .ok (some (p, n))) : ofBuffer limit b =
    { ofBuffer limit (b.drop n) with packets := p :: (ofBuffer limit (b.drop n)).packets } :=
  (after_of_packet h).trans (after_append [] [p] _)

theorem drop_append (h : Packet.decode limit b = .ok (some (p, n))) (x : Bytes) :
    Packet.decode limit (b ++ x) = .ok (some (p, n)) ∧ (b ++ x).drop n = b.drop n ++ x := by
  obtain ⟨-, -, -, -, -, hn⟩ := Packet.count_of_decode h
  refine ⟨?_, List.drop_append_of_le_length hn⟩
  rw [Packet.decode_append (h ▸ nofun), h]

/-- Buffers from the packets at their front. -/
theorem bufferInduction {motive : Bytes → Prop} (limit : Nat)
    (error : ∀ b e, Packet.decode limit b = .error e → motive b)
    (none : ∀ b, Packet.decode limit b = .ok none → motive b)
    (packet : ∀ b p n, Packet.decode limit b = .ok (some (p, n)) → motive (b.drop n) → motive b)
    (b : Bytes) : motive b :=
  after.induct limit (fun _ b => motive b) (fun _ => error) (fun _ => none) (fun _ => packet) [] b

/-! ### More octets -/

theorem ofBuffer_append_of_failure (h : (ofBuffer limit b).failure = some e) (x : Bytes) :
    ofBuffer limit (b ++ x) = { ofBuffer limit b with rest := (ofBuffer limit b).rest ++ x } := by
  induction b using bufferInduction limit with
  | error b e' hb =>
    rw [ofBuffer_of_error hb, ofBuffer_of_error (e := e')]
    rw [Packet.decode_append (hb ▸ nofun), hb]
  | none b hb =>
    rw [ofBuffer_of_none hb] at h
    cases h
  | packet b p n hb ih =>
    obtain ⟨hx, hdrop⟩ := drop_append hb x
    rw [ofBuffer_of_packet hb] at h ⊢
    rw [ofBuffer_of_packet hx, hdrop, ih h]

theorem ofBuffer_append (h : (ofBuffer limit b).failure = none) (x : Bytes) :
    ofBuffer limit (b ++ x) = { ofBuffer limit ((ofBuffer limit b).rest ++ x) with
      packets := (ofBuffer limit b).packets ++ (ofBuffer limit ((ofBuffer limit b).rest ++ x)).packets } := by
  induction b using bufferInduction limit with
  | error b e' hb =>
    rw [ofBuffer_of_error hb] at h
    cases h
  | none b hb => rw [ofBuffer_of_none hb, List.nil_append]
  | packet b p n hb ih =>
    obtain ⟨hx, hdrop⟩ := drop_append hb x
    rw [ofBuffer_of_packet hb] at h ⊢
    rw [ofBuffer_of_packet hx, hdrop, ih h]
    rfl

/-! ### What is left and what was taken -/

theorem decode_rest (h : (ofBuffer limit b).failure = none) :
    Packet.decode limit (ofBuffer limit b).rest = .ok none := by
  induction b using bufferInduction limit with
  | error b e hb =>
    rw [ofBuffer_of_error hb] at h
    cases h
  | none b hb => rwa [ofBuffer_of_none hb]
  | packet b p n hb ih =>
    rw [ofBuffer_of_packet hb] at h ⊢
    exact ih h

theorem exists_decode_of_mem (h : p ∈ (ofBuffer limit b).packets) :
    ∃ b n, Packet.decode limit b = .ok (some (p, n)) := by
  induction b using bufferInduction limit with
  | error b e hb =>
    rw [ofBuffer_of_error hb] at h
    cases h
  | none b hb =>
    rw [ofBuffer_of_none hb] at h
    cases h
  | packet b q n hb ih =>
    rw [ofBuffer_of_packet hb] at h
    rcases List.mem_cons.1 h with rfl | h
    · exact ⟨b, n, hb⟩
    · exact ih h

end DeviceGateway.Drained
