import DeviceGateway.Proofs.Packet.Reads

/-!
# Sizes of written packets

`Piece.Writable` says which pieces can be written and `Piece.size` how many octets they take, without
writing them. Pieces are written exactly when each of them can be (`Piece.exists_encodeAll_iff`), and
the sizes of the pieces of a body add up to the remaining length that its packet announces
(`Packet.length_of_encodeAll_body`).
-/

namespace DeviceGateway

namespace Piece

/-- A piece that can be written. -/
def Writable : Piece → Prop
  | octets _ => True
  | length n => n.toNat ≤ VarInt.max
  | text s => (Utf8.encode s).length ≤ 65535
  | binary b => b.length ≤ 65535
  | packetId id => id.isSome = true

/-- The count of octets of a written piece. -/
def size : Piece → Nat
  | octets b => b.length
  | length n => (VarInt.groups 4 n.toNat).length
  | text s => Packet.fieldLength (Utf8.encode s)
  | binary b => Packet.fieldLength b
  | packetId _ => 2

def sizeAll : List Piece → Nat
  | [] => 0
  | p :: l => p.size + sizeAll l

variable {p : Piece} {l : List Piece} {b : Bytes}

theorem exists_encode_iff : (∃ b, p.encode = .ok b) ↔ p.Writable := by
  cases p with
  | octets b => exact iff_of_true ⟨b, rfl⟩ trivial
  | length n =>
    simp only [encode, VarInt.write, Writable]
    split <;> simp <;> omega
  | text s => simp [encode, Field.encodeText, Field.encodeBinary_eq_ok, BinaryValid, Writable]
  | binary b => simp [encode, Field.encodeBinary_eq_ok, BinaryValid, Writable]
  | packetId id => cases id <;> simp [encode, Writable]

theorem length_of_encode (h : p.encode = .ok b) : b.length = p.size := by
  cases p with
  | octets c => rw [encode_octets.1 h, size]
  | length n =>
    simp only [encode, VarInt.write] at h
    split at h
    · cases h
    · rw [← Except.ok.inj h, size]
  | text s => simp [(Field.encodeBinary_eq_ok.1 h).2, size, Packet.fieldLength, Field.encodeU16]; omega
  | binary c => simp [(Field.encodeBinary_eq_ok.1 h).2, size, Packet.fieldLength, Field.encodeU16]; omega
  | packetId id =>
    cases id with
    | none => cases h
    | some id => rw [← Except.ok.inj h, size]; rfl

theorem exists_encodeAll_iff : (∃ b, encodeAll l = .ok b) ↔ ∀ p ∈ l, p.Writable := by
  induction l with
  | nil => simp [encodeAll]
  | cons p l ih =>
    rw [List.forall_mem_cons, ← ih, ← exists_encode_iff]
    constructor
    · rintro ⟨_, h⟩
      obtain ⟨c, d, hc, hd, -⟩ := encodeAll_cons.1 h
      exact ⟨⟨c, hc⟩, d, hd⟩
    · rintro ⟨⟨c, hc⟩, d, hd⟩
      exact ⟨c ++ d, encodeAll_cons.2 ⟨c, d, hc, hd, rfl⟩⟩

theorem length_of_encodeAll (h : encodeAll l = .ok b) : b.length = sizeAll l := by
  induction l generalizing b with
  | nil => rw [encodeAll_nil.1 h, List.length_nil, sizeAll]
  | cons p l ih =>
    obtain ⟨c, d, hc, hd, rfl⟩ := encodeAll_cons.1 h
    rw [List.length_append, length_of_encode hc, ih hd, sizeAll]

end Piece

namespace Packet

theorem sizeAll_subscriptions (subs : List Subscription) :
    Piece.sizeAll (subs.flatMap fun s => [.text s.filter, .octets [s.qos.octet]]) =
      subs.foldr (fun s n => textLength s.filter + 1 + n) 0 := by
  induction subs with
  | nil => rfl
  | cons s subs ih =>
    rw [List.flatMap_cons, List.foldr_cons, ← ih, Nat.add_assoc]
    rfl

theorem sizeAll_filters (filters : List String) : Piece.sizeAll (filters.map .text) =
    filters.foldr (fun f n => textLength f + n) 0 := by
  induction filters with
  | nil => rfl
  | cons f filters ih =>
    rw [List.map_cons, List.foldr_cons, ← ih]
    rfl

/-- The remaining length is what the pieces behind the length header take. -/
theorem sizeAll_body (p : Packet) : Piece.sizeAll p.body = p.remainingLength := by
  cases p with
  | connect c =>
    rcases c with ⟨level, clientId, clean, keepAlive, username, password, will⟩
    cases will <;> cases username <;> cases password <;>
      simp [body, remainingLength, Piece.sizeAll, Piece.size, Field.encodeU16] <;> omega
  | publish q =>
    by_cases hq : q.qos = .atMostOnce
    · simp [body, remainingLength, Piece.sizeAll, Piece.size, hq]
    · simp [body, remainingLength, Piece.sizeAll, Piece.size, hq]
      omega
  | subscribe id subs =>
    rw [body, Piece.sizeAll, sizeAll_subscriptions]
    rfl
  | unsubscribe id filters =>
    rw [body, Piece.sizeAll, sizeAll_filters]
    rfl
  | subAck id codes => simp [body, remainingLength, Piece.sizeAll, Piece.size, Field.encodeU16]; omega
  | _ => rfl

theorem length_of_encodeAll_body {p : Packet} {b : Bytes} (h : Piece.encodeAll p.body = .ok b) :
    b.length = p.remainingLength := by
  rw [Piece.length_of_encodeAll h, sizeAll_body]

end Packet

end DeviceGateway
