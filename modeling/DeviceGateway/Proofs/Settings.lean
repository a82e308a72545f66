import DeviceGateway.Cli.Serving

/-!
# Settings in range

What is normalized is in range (`Settings.inRange_normalized`) and keeps what was in range before
(`Settings.keeps_normalized`), so that to normalize again changes nothing. Of the settings that an
override is put over, only what they are normalized to counts (`Settings.override_normalized_congr`):
it makes no difference whether a configuration is normalized before the command line has its say.
Main statement: `Settings.overrides_commute`.
-/

namespace DeviceGateway

namespace Settings

variable {parallelism n d : Nat} {s s' : Settings} {o : Overrides}

/-- Settings that a gateway can run with. -/
structure InRange (s : Settings) : Prop where
  acceptThreads : 1 ≤ s.acceptThreads ∧ s.acceptThreads ≤ 5
  ioThreads : 1 ≤ s.ioThreads ∧ s.ioThreads ≤ 100
  idleTimeout : s.idleTimeout.nanoseconds ≠ 0
  maxPacketSize : s.maxPacketSize ≠ 0
  queueCapacity : s.queueCapacity ≠ 0

/-- Every value of `s` that is in range is also that of `s'`, and so is what has no range. -/
structure Keeps (s s' : Settings) : Prop where
  address : s'.address = s.address
  charset : s'.charset = s.charset
  tls : s'.tls = s.tls
  acceptThreads (h : 1 ≤ s.acceptThreads ∧ s.acceptThreads ≤ 5) : s'.acceptThreads = s.acceptThreads
  ioThreads (h : 1 ≤ s.ioThreads ∧ s.ioThreads ≤ 100) : s'.ioThreads = s.ioThreads
  idleTimeout (h : s.idleTimeout.nanoseconds ≠ 0) : s'.idleTimeout = s.idleTimeout
  maxPacketSize (h : s.maxPacketSize ≠ 0) : s'.maxPacketSize = s.maxPacketSize
  queueCapacity (h : s.queueCapacity ≠ 0) : s'.queueCapacity = s.queueCapacity

/-- The settings agree on everything that the overrides leave to them. -/
structure Overrides.Hides (o : Overrides) (s s' : Settings) : Prop where
  address (h : o.address = none) : s.address = s'.address
  acceptThreads (h : o.acceptThreads = none) : s.acceptThreads = s'.acceptThreads
  ioThreads (h : o.ioThreads = none) : s.ioThreads = s'.ioThreads
  idleTimeout (h : o.idleTimeout = none) : s.idleTimeout = s'.idleTimeout
  maxPacketSize (h : o.maxPacketSize = none) : s.maxPacketSize = s'.maxPacketSize
  queueCapacity (h : o.queueCapacity = none) : s.queueCapacity = s'.queueCapacity
  charset (h : o.charset = none) : s.charset = s'.charset
  tls : s.tls = s'.tls

/-! ### What is normalized -/

theorem orDefault_of_ne_zero (h : n ≠ 0) : orDefault d n = n := if_neg h

theorem orDefault_ne_zero (h : d ≠ 0) (n : Nat) : orDefault d n ≠ 0 := by
  unfold orDefault
  split
  · exact h
  · assumption

theorem inRange_normalized (h : 1 ≤ parallelism) (s : Settings) :
    (s.normalized parallelism).InRange where
  acceptThreads := by simp only [normalized, maxAcceptThreads]; omega
  ioThreads := by
    have := orDefault_ne_zero (Nat.ne_of_gt h) s.ioThreads
    simp only [normalized, maxIoThreads]
    omega
  idleTimeout := by
    simp only [normalized]
    split
    · decide
    · assumption
  maxPacketSize := orDefault_ne_zero (by decide) _
  queueCapacity := orDefault_ne_zero (by decide) _

theorem keeps_normalized (parallelism : Nat) (s : Settings) : s.Keeps (s.normalized parallelism) where
  address := rfl
  charset := rfl
  tls := rfl
  acceptThreads h := by simp only [normalized, maxAcceptThreads]; omega
  ioThreads h := by
    simp only [normalized, maxIoThreads, orDefault_of_ne_zero (Nat.ne_of_gt h.1)]
    exact Nat.min_eq_left h.2
  idleTimeout h := if_neg h
  maxPacketSize h := orDefault_of_ne_zero h
  queueCapacity h := orDefault_of_ne_zero h

theorem Keeps.eq (h : s.Keeps s') (hs : s.InRange) : s' = s := by
  have h1 := h.acceptThreads hs.acceptThreads
  have h2 := h.ioThreads hs.ioThreads
  have h3 := h.idleTimeout hs.idleTimeout
  have h4 := h.maxPacketSize hs.maxPacketSize
  have h5 := h.queueCapacity hs.queueCapacity
  obtain ⟨ha, hc, ht, -⟩ := h
  cases s
  cases s'
  simp_all

theorem normalized_normalized (h : 1 ≤ parallelism) (s : Settings) :
    (s.normalized parallelism).normalized parallelism = s.normalized parallelism :=
  (keeps_normalized parallelism _).eq (inRange_normalized h s)

/-! ### What is put over it -/

section

variable {α β : Type} {a b : α} {x : Option α}

theorem getD_congr {f : α → β} (h : f a = f b) (x : Option α) : f (x.getD a) = f (x.getD b) := by
  cases x
  · exact h
  · rfl

theorem getD_eq_getD (h : x = none → a = b) : x.getD a = x.getD b := by
  cases x
  · exact h rfl
  · rfl

end

/-- Behind an override, too, only what settings are normalized to counts. -/
theorem override_normalized_congr (o : Overrides)
    (h : s.normalized parallelism = s'.normalized parallelism) :
    (s.override o).normalized parallelism = (s'.override o).normalized parallelism := by
  simp only [normalized, override, Settings.mk.injEq] at h ⊢
  obtain ⟨haddress, haccept, hio, hidle, hsize, hqueue, hcharset, htls⟩ := h
  exact ⟨getD_congr (f := id) haddress _,
    getD_congr (f := fun n => max 1 (min n maxAcceptThreads)) haccept _,
    getD_congr (f := fun n => min (orDefault parallelism n) maxIoThreads) hio _,
    getD_congr (f := fun d : Duration => if d.nanoseconds = 0 then defaultIdleTimeout else d) hidle _,
    getD_congr (f := orDefault Packet.defaultMaxSize) hsize _,
    getD_congr (f := orDefault defaultQueueCapacity) hqueue _,
    getD_congr (f := id) hcharset _, htls⟩

theorem override_congr (h : o.Hides s s') : s.override o = s'.override o := by
  simp only [override, Settings.mk.injEq]
  exact ⟨getD_eq_getD h.address, getD_eq_getD h.acceptThreads, getD_eq_getD h.ioThreads,
    getD_eq_getD h.idleTimeout, getD_eq_getD h.maxPacketSize, getD_eq_getD h.queueCapacity,
    getD_eq_getD h.charset, h.tls⟩

/-- An override that is zero asks for the default. -/
structure Overrides.Defaults (parallelism : Nat) (o : Overrides) (s : Settings) : Prop where
  acceptThreads (h : o.acceptThreads = some 0) : s.acceptThreads = 1
  ioThreads (h : o.ioThreads = some 0) : s.ioThreads = min parallelism 100
  idleTimeout (h : o.idleTimeout = some ⟨0⟩) : s.idleTimeout = .ofSeconds 90
  maxPacketSize (h : o.maxPacketSize = some 0) : s.maxPacketSize = 102400
  queueCapacity (h : o.queueCapacity = some 0) : s.queueCapacity = 100000

theorem defaults_override (parallelism : Nat) (s : Settings) (o : Overrides) :
    o.Defaults parallelism ((s.override o).normalized parallelism) where
  acceptThreads h := by simp [normalized, override, h]
  ioThreads h := by simp [normalized, override, h, orDefault, maxIoThreads]
  idleTimeout h := by simp [normalized, override, h, defaultIdleTimeout]
  maxPacketSize h := by simp [normalized, override, h, orDefault, Packet.defaultMaxSize]
  queueCapacity h := by simp [normalized, override, h, orDefault, defaultQueueCapacity]

end Settings

/-! ### The settings of the program -/

open Cli

/-- What a configuration says about the settings, as it stands. -/
def Config.stated (c : Config) : Settings where
  address := c.server.bind
  acceptThreads := c.server.acceptThreads
  ioThreads := c.server.ioThreads
  idleTimeout := c.limits.idleTimeout
  maxPacketSize := c.limits.maxPacketSize
  queueCapacity := c.limits.maxQueuedMessages
  charset := c.charset
  tls := c.server.tls.map tlsFiles

theorem Config.settings_eq (parallelism : Nat) (c : Config) :
    c.settings parallelism = c.stated.normalized parallelism :=
  rfl

namespace Settings

variable {parallelism : Nat} {c : Config} {o : Options} {l : Launch}

theorem settings_of_launch (h : Launch.ofOptions? parallelism c o = some l) :
    l.settings = Launch.settingsOf parallelism c o := by
  obtain ⟨filter, -, rfl⟩ := Option.map_eq_some_iff.1 h
  rfl

/-- Normalized settings make a decoder that takes packets in, whatever limit they had before. -/
theorem decoderLimit_normalized (parallelism : Nat) (s : Settings) :
    1 ≤ Packet.decoderLimit (s.normalized parallelism).maxPacketSize ∧
      Packet.decoderLimit (s.normalized parallelism).maxPacketSize ≤ 268435455 := by
  have h : orDefault Packet.defaultMaxSize s.maxPacketSize ≠ 0 := orDefault_ne_zero (by decide) _
  simp only [Packet.decoderLimit, normalized, VarInt.max]
  omega

/-- Normalizing brings every value into range, leaves alone those that are, and does nothing the second
time. It makes no difference whether settings are normalized before something is put over them: what an
override hides has no part in the result, and an override that is zero becomes the default. So it is
with the command line over a configuration, where the decoder always has a limit that it can work
with. -/
theorem overrides_commute (h : 1 ≤ parallelism) :
    (∀ s : Settings, (s.normalized parallelism).InRange ∧ s.Keeps (s.normalized parallelism) ∧
      (s.normalized parallelism).normalized parallelism = s.normalized parallelism) ∧
    (∀ (s : Settings) (o : Overrides), ((s.normalized parallelism).override o).normalized parallelism =
      (s.override o).normalized parallelism) ∧
    (∀ (s s' : Settings) (o : Overrides), o.Hides s s' →
      (s.override o).normalized parallelism = (s'.override o).normalized parallelism) ∧
    (∀ (s : Settings) (o : Overrides),
      o.Defaults parallelism ((s.override o).normalized parallelism)) ∧
    ∀ (c : Config) (o : Options) (l : Launch), Launch.ofOptions? parallelism c o = some l →
      l.settings = (c.stated.override o.overrides).normalized parallelism ∧
      l.settings.InRange ∧ 1 ≤ l.service.packetLimit ∧ l.service.packetLimit ≤ 268435455 := by
  have hcommute : ∀ (s : Settings) (o : Overrides),
      ((s.normalized parallelism).override o).normalized parallelism =
        (s.override o).normalized parallelism := fun s o =>
    override_normalized_congr o (normalized_normalized h s)
  refine ⟨fun s => ⟨inRange_normalized h s, keeps_normalized parallelism s,
    normalized_normalized h s⟩, hcommute, ?_, defaults_override parallelism, ?_⟩
  · intro s s' o hhides
    rw [override_congr hhides]
  · intro c o l hl
    have hsettings : l.settings = (c.stated.override o.overrides).normalized parallelism :=
      (settings_of_launch hl).trans (hcommute c.stated o.overrides)
    have hlimit := decoderLimit_normalized parallelism (c.stated.override o.overrides)
    rw [← hsettings] at hlimit
    exact ⟨hsettings, hsettings ▸ inRange_normalized h _, hlimit⟩

/-- No threads and a limit that no configuration may have, both from the command line. -/
theorem overrides_commute_oversized :
    let c : Config := { limits := { maxPacketSize := 64 } }
    let o : Options := {
      overrides := { acceptThreads := some 0, maxPacketSize := some 300000000 }, level := some .warn }
    1 ≤ 8 ∧ ∃ l, Launch.ofOptions? 8 c o = some l ∧ l.settings.maxPacketSize = 300000000 ∧
      l.settings.InRange ∧ l.service.packetLimit = 268435455 := by
  intro c o
  obtain ⟨-, hrange, -⟩ := (overrides_commute (by decide : 1 ≤ 8)).2.2.2.2 c o _ rfl
  exact ⟨by decide, _, rfl, rfl, hrange, rfl⟩

end Settings

end DeviceGateway
