import DeviceGateway.Outbound.Table

/-!
# Whole packets in a writer

Whatever a writer is asked for, and in any order, it gives out whole packets (`Writer.frames_whole`).
Its octets may as well be kept in one buffer that packets are written to in place, piece by piece: a
`Spool` cuts off what is there of a packet that turns out not to be writable, and leaves nothing
behind (`Spool.send_eq`). Both answer every call alike and hold the same octets
(`Writer.call_spool`).
-/

namespace DeviceGateway

/-! ### Writing in place -/

/-- Writes pieces to the end of a buffer, up to the first that cannot be written. -/
def Piece.emit : List Piece → Bytes → Except EncodeError Unit × Bytes
  | [], buffer => (.ok (), buffer)
  | p :: ps, buffer =>
    match p.encode with
    | .error e => (.error e, buffer)
    | .ok b => emit ps (buffer ++ b)

theorem Piece.emit_eq (ps : List Piece) (buffer : Bytes) :
    emit ps buffer = ((encodeAll ps).map fun _ => (), buffer ++ written ps) := by
  induction ps generalizing buffer with
  | nil => exact congrArg (Prod.mk _) (List.append_nil buffer).symm
  | cons p ps ih =>
    unfold emit encodeAll written
    cases p.encode with
    | error e => exact congrArg (Prod.mk _) (List.append_nil buffer).symm
    | ok b =>
      dsimp only
      rw [ih, List.append_assoc]
      cases encodeAll ps <;> rfl

namespace Writer

/-- What a writer is asked for. -/
inductive Call
  | send (p : Packet)
  | take
  | close

/-- What a call came to. -/
inductive Outcome
  | sent (p : Packet) (result : Except SendError Unit)
  | taken (b : Bytes)
  | closed

namespace Outcome

/-- The packet that was taken in, if one was. -/
def accepted? : Outcome → Option Packet
  | sent p (.ok ()) => some p
  | _ => none

/-- The octets that were given out. -/
def given : Outcome → Bytes
  | taken b => b
  | _ => []

end Outcome

/-- A packet that is not taken in leaves the writer as it is. -/
def call (w : Writer) : Call → Outcome × Writer
  | .send p =>
    match w.send p with
    | .ok v => (.sent p (.ok ()), v)
    | .error e => (.sent p (.error e), w)
  | .take => (.taken w.take.1, w.take.2)
  | .close => (.closed, w.close)

/-- Calls one after the other, and what each came to. -/
def calls : List Call → Writer → List Outcome × Writer
  | [], w => ([], w)
  | c :: cs, w =>
    let (o, v) := w.call c
    let (os, u) := calls cs v
    (o :: os, u)

end Writer

/-- A buffer that packets are written to in place. -/
structure Spool where
  octets : Bytes := []
  isOpen : Bool := true
  deriving DecidableEq, Repr

namespace Spool

/-- Writes a packet behind what waits. If it cannot be written, the buffer is cut to its old
length. -/
def send (s : Spool) (p : Packet) : Except SendError Unit × Spool :=
  if s.isOpen then
    match Piece.emit p.layout s.octets with
    | (.ok (), b) => (.ok (), { s with octets := b })
    | (.error e, b) => (.error (.encode e), { s with octets := b.take s.octets.length })
  else (.error .closed, s)

def call (s : Spool) : Writer.Call → Writer.Outcome × Spool
  | .send p => (.sent p (s.send p).1, (s.send p).2)
  | .take => (.taken s.octets, { s with octets := [] })
  | .close => (.closed, { s with isOpen := false })

def calls : List Writer.Call → Spool → List Writer.Outcome × Spool
  | [], s => ([], s)
  | c :: cs, s =>
    let (o, t) := s.call c
    let (os, u) := calls cs t
    (o :: os, u)

/-- However much of a packet was written before it failed, nothing of it stays. -/
theorem send_eq (s : Spool) (p : Packet) : s.send p =
    if s.isOpen then
      match p.encode with
      | .ok b => (.ok (), { s with octets := s.octets ++ b })
      | .error e => (.error (.encode e), s)
    else (.error .closed, s) := by
  unfold send
  rw [Piece.emit_eq]
  show _ = if s.isOpen then match Piece.encodeAll p.layout with | .ok _ => _ | .error _ => _ else _
  cases he : Piece.encodeAll p.layout with
  | ok b => rw [Piece.written_eq_of_encodeAll he]; rfl
  | error e =>
    show (if s.isOpen then (_, { s with octets := List.take _ (_ ++ _) }) else _) = _
    rw [List.take_left]

end Spool

namespace Writer

variable {w v : Writer} {p : Packet} {e : EncodeError} {cs : List Call}

/-- The octets of a writer in one buffer. -/
def spool (w : Writer) : Spool := ⟨w.buffer, w.isOpen⟩

/-! ### One call -/

theorem call_send (w : Writer) (p : Packet) : w.call (.send p) =
    if w.isOpen then
      match p.encode with
      | .ok b => (.sent p (.ok ()), { w with packets := b :: w.packets })
      | .error e => (.sent p (.error (.encode e)), w)
    else (.sent p (.error .closed), w) := by
  cases h : w.isOpen <;> cases he : p.encode <;> simp [call, send, h, he]

theorem call_spool (w : Writer) (c : Call) : w.spool.call c = ((w.call c).1, (w.call c).2.spool) := by
  cases c with
  | take => rfl
  | close => rfl
  | send p =>
    rw [Spool.call, Spool.send_eq, call_send]
    obtain ⟨packets, _ | _⟩ := w
    · rfl
    · cases p.encode <;> simp [spool, buffer]

/-- What a call gives out and leaves is what waited, and the packet if it takes one in. -/
theorem given_call (w : Writer) (c : Call) : ∃ frames : List Bytes,
    (w.call c).1.accepted?.toList.map Packet.encode = frames.map .ok ∧
      (w.call c).1.given ++ (w.call c).2.buffer = w.buffer ++ frames.flatten := by
  cases c with
  | take => exact ⟨[], rfl, by simp [call, Outcome.given, take, buffer]⟩
  | close => exact ⟨[], rfl, by simp [call, Outcome.given, close, buffer]⟩
  | send p =>
    rw [call_send]
    cases w.isOpen with
    | false => exact ⟨[], rfl, by simp [Outcome.given]⟩
    | true =>
      cases he : p.encode with
      | error e => exact ⟨[], rfl, by simp [Outcome.given]⟩
      | ok b => exact ⟨[b], congrArg ([·]) he, by simp [Outcome.given, buffer]⟩

theorem isOpen_call (w : Writer) (c : Call) :
    (w.call c).2.isOpen = false ↔ w.isOpen = false ∨ c = .close := by
  cases c with
  | take => simp [call, take]
  | close => simp [call, close]
  | send p =>
    rw [call_send]
    cases h : w.isOpen with
    | false => simp [h]
    | true => cases p.encode <;> simp [h]

theorem accepted_call_of_closed (h : w.isOpen = false) (c : Call) :
    (w.call c).1.accepted? = none := by
  cases c with
  | send p =>
    rw [call_send, h]
    rfl
  | _ => rfl

theorem send_eq_closed : w.send p = .error .closed ↔ w.isOpen = false := by
  unfold send
  cases w.isOpen <;> cases p.encode <;> simp

theorem send_eq_encode : w.send p = .error (.encode e) ↔ w.isOpen = true ∧ p.encode = .error e := by
  unfold send
  cases w.isOpen <;> cases p.encode <;> simp

/-! ### Calls in a row -/

theorem calls_spool (cs : List Call) (w : Writer) :
    w.spool.calls cs = ((w.calls cs).1, (w.calls cs).2.spool) := by
  induction cs generalizing w with
  | nil => rfl
  | cons c cs ih => simp only [Spool.calls, calls, call_spool, ih]

theorem given_calls (cs : List Call) (w : Writer) : ∃ frames : List Bytes,
    ((w.calls cs).1.filterMap Outcome.accepted?).map Packet.encode = frames.map .ok ∧
      (w.calls cs).1.flatMap Outcome.given ++ (w.calls cs).2.buffer = w.buffer ++ frames.flatten := by
  induction cs generalizing w with
  | nil => exact ⟨[], rfl, (List.append_nil _).symm⟩
  | cons c cs ih =>
    obtain ⟨frames, hframes, hgiven⟩ := given_call w c
    obtain ⟨later, hlater, hrest⟩ := ih (w.call c).2
    refine ⟨frames ++ later, ?_, ?_⟩
    · rw [List.map_append, ← hframes, ← hlater, ← List.map_append]
      simp only [calls, List.filterMap_cons]
      cases (w.call c).1.accepted? <;> rfl
    · simp only [calls, List.flatMap_cons, List.append_assoc, hrest, List.flatten_append]
      rw [← List.append_assoc, hgiven, List.append_assoc]

theorem isOpen_calls (cs : List Call) (w : Writer) :
    (w.calls cs).2.isOpen = false ↔ w.isOpen = false ∨ .close ∈ cs := by
  induction cs generalizing w with
  | nil => simp [calls]
  | cons c cs ih =>
    show ((w.call c).2.calls cs).2.isOpen = false ↔ _
    rw [ih, isOpen_call, List.mem_cons, or_assoc, eq_comm (a := c)]

theorem accepted_calls_of_closed (h : w.isOpen = false) (cs : List Call) :
    (w.calls cs).1.filterMap Outcome.accepted? = [] := by
  induction cs generalizing w with
  | nil => rfl
  | cons c cs ih =>
    rw [calls, List.filterMap_cons_none (accepted_call_of_closed h c)]
    exact ih ((isOpen_call w c).2 (.inl h))

/-- Whatever a writer is asked for: what it gave out, with what still waits behind it, is what waited
at first and then the packets that it took in, each whole and in their order. After that a packet is
turned away as closed exactly if the writer was closed before. One that cannot be written, however
much of it was in the buffer when it failed, leaves the buffer as it was. From a close on no packet
is taken in, and what waits only leaves the writer, all of it if it is asked for. -/
theorem frames_whole (w : Writer) (cs : List Call) :
    let outcomes := (w.calls cs).1
    let v := (w.calls cs).2
    (∃ frames : List Bytes,
      (outcomes.filterMap Outcome.accepted?).map Packet.encode = frames.map .ok ∧
      outcomes.flatMap Outcome.given ++ v.buffer = w.buffer ++ frames.flatten) ∧
    w.spool.calls cs = (outcomes, v.spool) ∧
    (∀ p, v.send p = .error .closed ↔ w.isOpen = false ∨ .close ∈ cs) ∧
    (∀ p e, v.send p = .error (.encode e) ↔ v.isOpen = true ∧ p.encode = .error e) ∧
    (∀ p e, v.send p = .error (.encode e) →
      Piece.emit p.layout v.spool.octets = (.error e, v.buffer ++ p.written) ∧
      v.spool.send p = (.error (.encode e), v.spool) ∧ (v.call (.send p)).2 = v) ∧
    (w.isOpen = false ∨ .close ∈ cs → ∀ ds,
      let later := (v.calls ds).1
      let u := (v.calls ds).2
      later.filterMap Outcome.accepted? = [] ∧ later.flatMap Outcome.given ++ u.buffer = v.buffer ∧
        u.call .take = (.taken u.buffer, { u with packets := [] })) := by
  intro outcomes v
  refine ⟨given_calls cs w, calls_spool cs w, fun p => ?_, fun p e => send_eq_encode,
    fun p e he => ?_, fun hclosed ds => ?_⟩
  · rw [send_eq_closed]
    exact isOpen_calls cs w
  · obtain ⟨hopen, henc⟩ := send_eq_encode.1 he
    refine ⟨?_, ?_, ?_⟩
    · rw [Piece.emit_eq, show Piece.encodeAll p.layout = _ from henc]
      rfl
    · rw [Spool.send_eq, henc, show v.spool.isOpen = true from hopen]
      rfl
    · rw [call, he]
  · have hv : v.isOpen = false := (isOpen_calls cs w).2 hclosed
    have hnone := accepted_calls_of_closed hv ds
    obtain ⟨frames, hframes, hgiven⟩ := given_calls ds v
    obtain rfl : frames = [] := by simpa [hnone] using hframes
    exact ⟨hnone, by simpa using hgiven, rfl⟩

/-- A PUBLISH above QoS 0 without an identifier fails behind its topic. -/
example : (Packet.publish { topic := "t", qos := .atLeastOnce }).written =
    [0x32, 0x05, 0x00, 0x01, 0x74] := by decide

end Writer

end DeviceGateway
