import DeviceGateway.Packet.Decode
import DeviceGateway.Packet.Layout

/-!
# Bits of the flag octets

What the readers ask of single bits, for the three octets that pack several values: the first octet
of a packet, the lower half of that of PUBLISH, and the flag octet of CONNECT. Each octet is spelled
by one choice of the values, and the readers get that choice back (`firstOctet_eq_iff`,
`publishFlags_eq_iff`, `connectFlags_eq_iff`). The octets are few, so these are tables.
-/

namespace DeviceGateway.Packet

/-! ### The first octet -/

theorem halves_table : ∀ i j : Fin 16,
    let o := (16 : UInt8) * .ofNat i + .ofNat j
    o >>> 4 = UInt8.ofNat i ∧ o &&& 0x0F = UInt8.ofNat j := by
  decide

theorem octet_table : ∀ i : Fin 256,
    let o := UInt8.ofNat i
    (16 : UInt8) * (o >>> 4) + (o &&& 0x0F) = o ∧ o &&& 0x0F < 16 := by
  decide +kernel

theorem halves_eq (o : UInt8) : (16 : UInt8) * (o >>> 4) + (o &&& 0x0F) = o ∧ o &&& 0x0F < 16 := by
  simpa using octet_table ⟨o.toNat, o.toNat_lt⟩

theorem halves_of_lt {t f : UInt8} (ht : t < 16) (hf : f < 16) :
    (16 * t + f) >>> 4 = t ∧ (16 * t + f) &&& 0x0F = f := by
  simpa using halves_table ⟨t.toNat, UInt8.lt_iff_toNat_lt.1 ht⟩ ⟨f.toNat, UInt8.lt_iff_toNat_lt.1 hf⟩

theorem flags_lt (p : Packet) : p.flags < 16 := by
  cases p with
  | publish p =>
    show (if p.dup then 8 else 0) + 2 * p.qos.octet + (if p.retain then 1 else 0) < (16 : UInt8)
    cases p.dup <;> cases p.qos <;> cases p.retain <;> decide
  | pubRel _ | subscribe _ _ | unsubscribe _ _ => exact (by decide : (2 : UInt8) < 16)
  | _ => exact (by decide : (0 : UInt8) < 16)

theorem type_octet_lt (t : PacketType) : t.octet < 16 := by
  cases t <;> decide

theorem firstOctet_eq_iff {p : Packet} {o : UInt8} :
    p.firstOctet = o ↔ p.type.octet = o >>> 4 ∧ p.flags = o &&& 0x0F := by
  unfold firstOctet
  constructor
  · rintro rfl
    have h := halves_of_lt (type_octet_lt p.type) p.flags_lt
    exact ⟨h.1.symm, h.2.symm⟩
  · rintro ⟨ht, hf⟩
    rw [ht, hf]
    exact (halves_eq o).1

/-! ### PUBLISH -/

theorem publish_table : ∀ i : Fin 16, ∀ d r : Bool,
    let f := UInt8.ofNat i
    ∀ q ∈ [QoS.atMostOnce, .atLeastOnce, .exactlyOnce],
      ((if d then 8 else 0) + 2 * q.octet + (if r then 1 else 0) = f ↔
        (f &&& 0x08 != 0) = d ∧ QoS.ofOctet? ((f >>> 1) &&& 0x03) = some q ∧ (f &&& 0x01 != 0) = r) := by
  decide +kernel

theorem publishFlags_eq_iff {p : Publish} {f : UInt8} (hf : f < 16) :
    (publish p).flags = f ↔ (f &&& 0x08 != 0) = p.dup ∧
      QoS.ofOctet? ((f >>> 1) &&& 0x03) = some p.qos ∧ (f &&& 0x01 != 0) = p.retain := by
  have hq : p.qos ∈ [QoS.atMostOnce, .atLeastOnce, .exactlyOnce] := by cases p.qos <;> decide
  simpa [flags] using publish_table ⟨f.toNat, UInt8.lt_iff_toNat_lt.1 hf⟩ p.dup p.retain p.qos hq

/-! ### CONNECT -/

/-- The flag octet of CONNECT from what it packs. -/
def packConnect (clean : Bool) (will : Option (QoS × Bool)) (password username : Bool) : UInt8 :=
  (if clean then 0x02 else 0) +
  (match will with
    | some (qos, retain) => 0x04 + 8 * qos.octet + (if retain then 0x20 else 0)
    | none => 0) +
  (if password then 0x40 else 0) +
  (if username then 0x80 else 0)

theorem connectFlags_eq_pack (c : Connect) : connectFlags c = packConnect c.cleanSession
    (c.will.map fun w => (w.qos, w.retain)) c.password.isSome c.username.isSome := by
  unfold connectFlags packConnect
  cases c.will <;> rfl

/-- The will that a flag octet of CONNECT announces, with its quality of service. -/
def unpackWill (f : UInt8) (qos : QoS) : Option (QoS × Bool) :=
  if f &&& 0x04 != 0 then some (qos, f &&& 0x20 != 0) else none

/-- An octet that is read packs what its bits say, and has no password without a username. -/
theorem unpack_table : ∀ i : Fin 256,
    let f := UInt8.ofNat i
    ∀ q ∈ [QoS.atMostOnce, .atLeastOnce, .exactlyOnce], (readConnectFlags f).toOption = some q →
      f = packConnect (f &&& 0x02 != 0) (unpackWill f q) (f &&& 0x40 != 0) (f &&& 0x80 != 0) ∧
        ((f &&& 0x40 != 0) = true → (f &&& 0x80 != 0) = true) := by
  decide +kernel

/-- A packed octet is read back, when it has no password without a username. -/
theorem pack_table (clean : Bool) (will : Option (QoS × Bool)) (password username : Bool)
    (h : password = true → username = true) :
    let f := packConnect clean will password username
    let q := (will.map Prod.fst).getD .atMostOnce
    readConnectFlags f = .ok q ∧ (f &&& 0x02 != 0) = clean ∧ unpackWill f q = will ∧
      (f &&& 0x40 != 0) = password ∧ (f &&& 0x80 != 0) = username := by
  rcases will with _ | ⟨q, r⟩
  · cases clean <;> cases password <;> cases username <;> simp at h <;>
      exact ⟨rfl, rfl, rfl, rfl, rfl⟩
  · cases q <;> cases r <;> cases clean <;> cases password <;> cases username <;> simp at h <;>
      exact ⟨rfl, rfl, rfl, rfl, rfl⟩

/-- A will is that of the flags when it is there as they say and is as they say. -/
theorem unpackWill_eq_iff {f : UInt8} {q : QoS} {will : Option Will} :
    unpackWill f q = will.map (fun w => (w.qos, w.retain)) ↔
      will.isSome = (f &&& 0x04 != 0) ∧ ∀ w ∈ will, w.qos = q ∧ w.retain = (f &&& 0x20 != 0) := by
  unfold unpackWill
  cases f &&& 0x04 != 0 <;> cases will <;> simp [eq_comm]

theorem connectFlags_eq_iff {c : Connect} {f : UInt8} :
    (connectFlags c = f ∧ (c.password.isSome = true → c.username.isSome = true)) ↔
      ∃ q, readConnectFlags f = .ok q ∧ (f &&& 0x02 != 0) = c.cleanSession ∧
        unpackWill f q = c.will.map (fun w => (w.qos, w.retain)) ∧
        (f &&& 0x40 != 0) = c.password.isSome ∧ (f &&& 0x80 != 0) = c.username.isSome := by
  rw [connectFlags_eq_pack]
  constructor
  · rintro ⟨rfl, h⟩
    exact ⟨_, pack_table _ _ _ _ h⟩
  · rintro ⟨q, hq, hclean, hwill, hpassword, husername⟩
    have hmem : q ∈ [QoS.atMostOnce, .atLeastOnce, .exactlyOnce] := by cases q <;> decide
    have htable := unpack_table ⟨f.toNat, f.toNat_lt⟩ q hmem
    simp only [UInt8.ofNat_toNat, hq, Except.toOption, forall_const] at htable
    rw [hclean, hwill, hpassword, husername] at htable
    exact ⟨htable.1.symm, htable.2⟩

end DeviceGateway.Packet
