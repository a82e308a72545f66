import DeviceGateway.Tls.Material

/-!
# Why TLS is not configured right

Loading TLS material fails for its configuration in two ways. Clients have to show certificates and
nobody is there to vouch for them, which no file can mend (`TlsFiles.LacksAuthority`); or everything
was read and the key is not that of the certificate (`TlsMaterial.Mismatched`). What is wrong with a
single file is another error (`TlsMaterial.load_eq_config`).
-/

namespace DeviceGateway

/-- Clients have to show certificates, and nobody vouches for them. -/
def TlsFiles.LacksAuthority (tls : TlsFiles) : Prop :=
  tls.requireClient = true ∧ tls.clientAuthority = none

namespace TlsMaterial

variable {files : Files} {tls : TlsFiles} {path : String} {e : TlsError}

/-- Everything was read, but the key is not the one that the first certificate is about. -/
inductive Mismatched (files : Files) (tls : TlsFiles) : Prop
  | intro {chain : List Bytes} {key : PrivateKey} {authorities : List Bytes}
      (hchain : readCertificates files tls.certificate = .ok chain)
      (hkey : readKey files tls.key = .ok key)
      (hauthorities : ∀ path ∈ tls.clientAuthority, readAuthorities files path = .ok authorities)
      (h : goesWith key chain = false)

theorem bind_eq_error {ε α β : Type} {x : Except ε α} {f : α → Except ε β} {e : ε} :
    (x >>= f) = .error e ↔ x = .error e ∨ ∃ a, x = .ok a ∧ f a = .error e := by
  cases x with
  | error e' =>
    constructor
    · exact fun h => .inl (congrArg _ (Except.error.inj h))
    · rintro (h | ⟨a, h, -⟩)
      · exact congrArg _ (Except.error.inj h)
      · cases h
  | ok a =>
    constructor
    · exact fun h => .inr ⟨a, rfl, h⟩
    · rintro (h | ⟨a, h, hf⟩)
      · cases h
      · exact Except.ok.inj h ▸ hf

/-! ### Single files -/

theorem eq_io_of_readFile (h : readFile files path = .error e) : e = .io := by
  unfold readFile at h
  split at h
  · cases h
  · exact (Except.error.inj h).symm

theorem readCertificates_ne_config : readCertificates files path ≠ .error .config := by
  intro h
  rcases bind_eq_error.1 h with h | ⟨pem, -, h⟩
  · cases eq_io_of_readFile h
  · dsimp only at h
    split at h <;> cases h

theorem readKey_ne_config : readKey files path ≠ .error .config := by
  intro h
  rcases bind_eq_error.1 h with h | ⟨pem, -, h⟩
  · cases eq_io_of_readFile h
  · split at h <;> cases h

theorem readAuthorities_ne_config : readAuthorities files path ≠ .error .config := by
  intro h
  rcases bind_eq_error.1 h with h | ⟨found, -, h⟩
  · exact readCertificates_ne_config h
  · split at h <;> cases h

/-! ### Together -/

theorem load_of_lacksAuthority (files : Files) (h : tls.LacksAuthority) :
    load files tls = .error .config := by
  have hguard : tls.requireClient = true ∧ tls.clientAuthority.isNone = true := by
    simpa [TlsFiles.LacksAuthority] using h
  exact if_pos hguard

/-- What is left to do when the files are read: the key is compared. -/
theorem compare_eq_config {chain authorities : List Bytes} {key : PrivateKey} :
    (if goesWith key chain then return ⟨chain, key, authorities⟩ else throw .config :
      Except TlsError TlsMaterial) = .error .config ↔ goesWith key chain = false := by
  cases goesWith key chain with
  | true => exact ⟨nofun, nofun⟩
  | false => exact ⟨fun _ => rfl, fun _ => rfl⟩

theorem load_eq_config :
    load files tls = .error .config ↔ tls.LacksAuthority ∨ Mismatched files tls := by
  by_cases hlacks : tls.LacksAuthority
  · exact iff_of_true (load_of_lacksAuthority files hlacks) (.inl hlacks)
  have hguard : ¬ (tls.requireClient = true ∧ tls.clientAuthority.isNone = true) := by
    simpa [TlsFiles.LacksAuthority] using hlacks
  rw [load, if_neg hguard, or_iff_right hlacks]
  dsimp only
  constructor
  · intro h
    obtain ⟨chain, hchain, h⟩ := (bind_eq_error.1 h).resolve_left readCertificates_ne_config
    obtain ⟨key, hkey, h⟩ := (bind_eq_error.1 h).resolve_left readKey_ne_config
    split at h
    case h_1 path hpath =>
      obtain ⟨authorities, hread, h⟩ := (bind_eq_error.1 h).resolve_left readAuthorities_ne_config
      have hauthorities : ∀ p ∈ tls.clientAuthority, readAuthorities files p = .ok authorities := by
        rintro p hp
        obtain rfl := Option.some.inj (hpath.symm.trans hp)
        exact hread
      exact .intro hchain hkey hauthorities (compare_eq_config.1 h)
    case h_2 hpath =>
      have hauthorities : ∀ p ∈ tls.clientAuthority, readAuthorities files p = .ok [] := by
        rintro p hp
        cases hpath.symm.trans hp
      exact .intro hchain hkey hauthorities (compare_eq_config.1 h)
  · rintro ⟨hchain, hkey, hauthorities, h⟩
    refine bind_eq_error.2 (.inr ⟨_, hchain, bind_eq_error.2 (.inr ⟨_, hkey, ?_⟩)⟩)
    split
    case h_1 path hpath =>
      exact bind_eq_error.2 (.inr ⟨_, hauthorities path hpath, compare_eq_config.2 h⟩)
    case h_2 => exact compare_eq_config.2 h

end TlsMaterial

end DeviceGateway
