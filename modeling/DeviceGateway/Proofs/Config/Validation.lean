import DeviceGateway.Proofs.Credentials
import DeviceGateway.Proofs.Gateway.Admission
import DeviceGateway.Proofs.Settings
import DeviceGateway.Proofs.Text.Utf8
import DeviceGateway.Proofs.Tls

/-!
# What validation is good for

A configuration is let through if it is sound (`Config.Sound`), and otherwise for what is wrong with it
first: with its limit, then with its users in their order, then with TLS (`Config.FirstWrong`). What
runs with a configuration relies on that: the verifier takes every user in and lets nobody in without
a password, the decoder has the limit that was asked for, and TLS does not lack what it needs
(`Config.Secured`). Main statement: `Config.validation_secures`.
-/

namespace DeviceGateway.Config

variable {c : Config} {f : Fault} {u : User} {t : Tls} {users : List User} {name : String}

/-! ### Sound configurations -/

/-- One secret and not two, a password that is not empty or a hash that begins like one. -/
structure User.Sound (u : User) : Prop where
  one : u.password = none ↔ u.passwordHash ≠ none
  password : u.password ≠ some ""
  hash : ∀ h ∈ u.passwordHash, "$argon2".toList <+: h.toList

structure Tls.Sound (t : Tls) : Prop where
  certificate : t.certificate ≠ ""
  key : t.key ≠ ""
  clientAuthority : t.requireClient = true → t.clientAuthority ≠ none

structure Sound (c : Config) : Prop where
  packetSize : c.limits.maxPacketSize ≤ 268435455
  users : ∀ u ∈ c.auth.users, u.Sound
  tls : ∀ t ∈ c.server.tls, t.Sound

/-! ### What is wrong -/

inductive User.Wrong (u : User) : Fault → Prop
  | noSecret (hp : u.password = none) (hh : u.passwordHash = none) : Wrong u (.noSecret u.username)
  | twoSecrets (hp : u.password ≠ none) (hh : u.passwordHash ≠ none) :
      Wrong u (.twoSecrets u.username)
  | emptyPassword (hp : u.password = some "") (hh : u.passwordHash = none) :
      Wrong u (.emptyPassword u.username)
  | hashFormat {h : String} (hp : u.password = none) (hh : u.passwordHash = some h)
      (hmark : ¬ "$argon2".toList <+: h.toList) : Wrong u (.hashFormat u.username)

inductive Tls.Wrong (t : Tls) : Fault → Prop
  | noCertificate (h : t.certificate = "") : Wrong t .noCertificate
  | noKey (hcertificate : t.certificate ≠ "") (h : t.key = "") : Wrong t .noKey
  | noClientAuthority (hcertificate : t.certificate ≠ "") (hkey : t.key ≠ "")
      (hrequire : t.requireClient = true) (h : t.clientAuthority = none) :
      Wrong t .noClientAuthority

/-- What is wrong first. What is looked at before is sound. -/
inductive FirstWrong (c : Config) : Fault → Prop
  | packetSize (h : 268435455 < c.limits.maxPacketSize) : FirstWrong c .packetSize
  | user {front behind : List User} {u : User} {f : Fault}
      (hsize : c.limits.maxPacketSize ≤ 268435455) (husers : c.auth.users = front ++ u :: behind)
      (hfront : ∀ v ∈ front, v.Sound) (h : u.Wrong f) : FirstWrong c f
  | tls {t : Tls} {f : Fault} (hsize : c.limits.maxPacketSize ≤ 268435455)
      (husers : ∀ u ∈ c.auth.users, u.Sound) (htls : c.server.tls = some t) (h : t.Wrong f) :
      FirstWrong c f

/-! ### The checks -/

theorem isPrefixOf_hashMark {h : String} :
    hashMark.isPrefixOf h.toList ↔ "$argon2".toList <+: h.toList :=
  List.isPrefixOf_iff_prefix

theorem User.fault?_eq_none : u.fault? = none ↔ u.Sound := by
  unfold fault?
  split
  case h_1 hp hh => exact ⟨nofun, fun h => absurd hh (h.one.1 hp)⟩
  case h_2 hp hh => exact ⟨nofun, fun h => absurd (h.one.2 (by simp [hh])) (by simp [hp])⟩
  case h_3 p hp hh =>
    split
    · exact ⟨nofun, fun h => absurd (‹p = ""› ▸ hp) h.password⟩
    · exact ⟨fun _ => ⟨by simp [hp, hh], by simpa [hp], by simp [hh]⟩, fun _ => rfl⟩
  case h_4 h hp hh =>
    split
    · have hmark := isPrefixOf_hashMark.1 ‹_›
      exact ⟨fun _ => ⟨by simp [hp, hh], by simp [hp], by simpa [hh]⟩, fun _ => rfl⟩
    · exact ⟨nofun, fun hs => absurd (isPrefixOf_hashMark.2 (hs.hash h hh)) ‹_›⟩

theorem User.fault?_eq_some : u.fault? = some f ↔ u.Wrong f := by
  constructor
  · intro h
    unfold fault? at h
    split at h
    case h_1 hp hh => cases h; exact .noSecret hp hh
    case h_2 hp hh => cases h; exact .twoSecrets (by simp [hp]) (by simp [hh])
    case h_3 p hp hh =>
      split at h
      · cases h; exact .emptyPassword (‹p = ""› ▸ hp) hh
      · cases h
    case h_4 hash hp hh =>
      split at h
      · cases h
      · cases h; exact .hashFormat hp hh (mt isPrefixOf_hashMark.2 ‹_›)
  · rintro (⟨hp, hh⟩ | ⟨hp, hh⟩ | ⟨hp, hh⟩ | ⟨hp, hh, hmark⟩)
    · simp [fault?, hp, hh]
    · obtain ⟨p, hp⟩ := Option.ne_none_iff_exists'.1 hp
      obtain ⟨h, hh⟩ := Option.ne_none_iff_exists'.1 hh
      simp [fault?, hp, hh]
    · simp [fault?, hp, hh]
    · have := mt isPrefixOf_hashMark.1 hmark
      simp [fault?, hp, hh, this]

theorem Tls.fault?_eq_none : t.fault? = none ↔ t.Sound := by
  unfold fault?
  constructor
  · intro h
    split at h
    · cases h
    split at h
    · cases h
    split at h
    · cases h
    exact ⟨‹_›, ‹_›, fun hrequire hnone => ‹¬ (_ ∧ _)› ⟨hrequire, hnone⟩⟩
  · intro h
    rw [if_neg h.certificate, if_neg h.key, if_neg fun hr => h.clientAuthority hr.1 hr.2]

theorem Tls.fault?_eq_some : t.fault? = some f ↔ t.Wrong f := by
  unfold fault?
  constructor
  · intro h
    split at h
    · cases h; exact .noCertificate ‹_›
    split at h
    · cases h; exact .noKey ‹_› ‹_›
    split at h
    · cases h; exact .noClientAuthority ‹_› ‹_› (And.left ‹_ ∧ _›) (And.right ‹_ ∧ _›)
    · cases h
  · rintro (h | ⟨hcertificate, h⟩ | ⟨hcertificate, hkey, hrequire, h⟩)
    · rw [if_pos h]
    · rw [if_neg hcertificate, if_pos h]
    · rw [if_neg hcertificate, if_neg hkey, if_pos ⟨hrequire, h⟩]

theorem Limits.fault?_eq_none {l : Limits} : l.fault? = none ↔ l.maxPacketSize ≤ 268435455 := by
  unfold fault?
  split
  · exact ⟨nofun, fun h => absurd ‹VarInt.max < _› (Nat.not_lt.2 h)⟩
  · exact ⟨fun _ => Nat.not_lt.1 ‹_›, fun _ => rfl⟩

theorem Limits.fault?_eq_some {l : Limits} :
    l.fault? = some f ↔ f = .packetSize ∧ 268435455 < l.maxPacketSize := by
  unfold fault?
  split
  · exact ⟨fun h => ⟨(Option.some.inj h).symm, ‹_›⟩, fun h => congrArg some h.1.symm⟩
  · exact ⟨nofun, fun h => absurd h.2 ‹_›⟩

/-! ### All checks in their order -/

theorem tls_fault?_eq_none : c.server.tls.bind Tls.fault? = none ↔ ∀ t ∈ c.server.tls, t.Sound := by
  simp only [Option.bind_eq_none_iff, Tls.fault?_eq_none]
  rfl

theorem faults_eq_nil : c.faults = [] ↔ c.Sound := by
  unfold faults
  rw [List.append_eq_nil_iff, List.append_eq_nil_iff, Option.toList_eq_nil_iff,
    Option.toList_eq_nil_iff, List.filterMap_eq_nil_iff, Limits.fault?_eq_none, tls_fault?_eq_none]
  simp only [User.fault?_eq_none]
  exact ⟨fun h => ⟨h.1.1, h.1.2, h.2⟩, fun h => ⟨⟨h.packetSize, h.users⟩, h.tls⟩⟩

/-- The first user with a fault, if one has any. -/
theorem findSome?_fault? : users.findSome? User.fault? = some f ↔
    ∃ front u behind, users = front ++ u :: behind ∧ u.Wrong f ∧ ∀ v ∈ front, v.Sound := by
  simp only [List.findSome?_eq_some_iff, User.fault?_eq_some, User.fault?_eq_none]

theorem head?_faults : c.faults.head? = some f ↔ c.FirstWrong f := by
  have hnone : c.auth.users.findSome? User.fault? = none ↔ ∀ u ∈ c.auth.users, u.Sound := by
    simp only [List.findSome?_eq_none_iff, User.fault?_eq_none]
  unfold faults
  -- the first of the limit, the users and TLS that is at fault, those before it being sound
  rw [List.append_assoc, List.head?_append, List.head?_append, List.head?_filterMap,
    Option.head?_toList, Option.head?_toList, Option.or_eq_some_iff, Option.or_eq_some_iff,
    Limits.fault?_eq_some, Limits.fault?_eq_none, findSome?_fault?, hnone]
  constructor
  · rintro (⟨rfl, h⟩ | ⟨hsize, ⟨front, u, behind, husers, h, hfront⟩ | ⟨husers, h⟩⟩)
    · exact .packetSize h
    · exact .user hsize husers hfront h
    · obtain ⟨t, htls, h⟩ := Option.bind_eq_some_iff.1 h
      exact .tls hsize husers htls (Tls.fault?_eq_some.1 h)
  · rintro (h | ⟨hsize, husers, hfront, h⟩ | ⟨hsize, husers, htls, h⟩)
    · exact .inl ⟨rfl, h⟩
    · exact .inr ⟨hsize, .inl ⟨_, _, _, husers, h, hfront⟩⟩
    · exact .inr ⟨hsize, .inr ⟨husers, Option.bind_eq_some_iff.2 ⟨_, htls, Tls.fault?_eq_some.2 h⟩⟩⟩

theorem exists_named (name rest : String) {text : String} (h : text = "' " ++ rest) :
    ∃ rest, "User '" ++ name ++ text = "User '" ++ name ++ "' " ++ rest :=
  ⟨rest, by simp only [h, String.append_assoc]⟩

/-- A fault of a user says whose it is. -/
theorem User.Wrong.message_eq (h : u.Wrong f) :
    ∃ rest, f.message = "User '" ++ u.username ++ "' " ++ rest := by
  cases h with
  | noSecret => exact exists_named _ "must have either 'password' or 'password_hash'" rfl
  | twoSecrets => exact exists_named _ "cannot have both 'password' and 'password_hash'" rfl
  | emptyPassword => exact exists_named _ "has empty password" rfl
  | hashFormat =>
    exact exists_named _ "has invalid password_hash format (must be argon2 PHC format)" rfl

/-! ### What runs with a sound configuration -/

/-- What the verifier, the decoder and TLS may count on. -/
structure Secured (c : Config) : Prop where
  /-- no entry is passed over -/
  entered : ∀ u ∈ c.auth.users, ∃ s, Secret.ofUser? u = some s
  /-- nobody on the list is a stranger to the verifier -/
  known (check : HashCheck) : ∀ u ∈ c.auth.users,
    (Credentials.ofAuth c.auth check).secrets.contains u.username ∧
      ∀ id password past, .unknownUser u.username id ∉
        ((Credentials.ofAuth c.auth check).verifier ⟨⟨id, some u.username, password⟩, past⟩).notices
  count (check : HashCheck) :
    (Credentials.ofAuth c.auth check).userCount = (c.auth.users.map (·.username)).dedup.length
  /-- the program runs with this verifier -/
  served {parallelism : Nat} {o : Cli.Options} {l : Cli.Launch}
    (h : Cli.Launch.ofOptions? parallelism c o = some l) :
    l.service.verifier = some (Credentials.ofAuth c.auth).verifier
  /-- without a password nobody is let in under a name whose last entry has one -/
  refused {ε : Type} {svc : Service ε} {check : HashCheck}
    (hsvc : svc.verifier = some (Credentials.ofAuth c.auth check).verifier) (g : Gateway ε)
    (id : ConnectionId) (conn : Connection) {q : Connect} {name : String} {u : User}
    (hname : q.username = some name)
    (hlast : (c.auth.users.filter (·.username = name)).getLast? = some u) (hu : u.password ≠ none)
    (hq : q.password = none ∨ q.password = some []) :
    ∃ ns, g.handle svc id conn (.connect q) = (some (.error (.protocol .notAuthorized)),
      (g.record (.verify (Gateway.login q))).noteAll ns)
  /-- the decoder has the limit that was asked for, and so has the program if nothing overrides it -/
  limit (h : c.limits.maxPacketSize ≠ 0) (parallelism : Nat) :
    Packet.decoderLimit (c.settings parallelism).maxPacketSize = c.limits.maxPacketSize ∧
    ∀ {o : Cli.Options} {l : Cli.Launch}, Cli.Launch.ofOptions? parallelism c o = some l →
      o.overrides.maxPacketSize = none → l.service.packetLimit = c.limits.maxPacketSize
  /-- only a key that does not go with its certificate is left to be wrong with TLS as a whole -/
  tls (parallelism : Nat) : ∀ tls ∈ (c.settings parallelism).tls, ¬ tls.LacksAuthority ∧
    ∀ files, TlsMaterial.load files tls = .error .config ↔ TlsMaterial.Mismatched files tls

theorem User.Sound.hasSecret (h : u.Sound) : u.HasSecret := by
  by_cases hp : u.password = none
  · exact .inr (h.one.1 hp)
  · exact .inl hp

/-- Among sound entries the last one for a name decides. -/
theorem deciding?_eq_getLast? (h : ∀ u ∈ users, u.Sound) (name : String) :
    deciding? users name = (users.filter (·.username = name)).getLast? := by
  unfold deciding?
  congr 1
  refine List.filter_congr fun u hu => ?_
  have hsecret := (h u hu).hasSecret
  simp only [hsecret, and_true]

theorem User.Sound.not_matches (check : HashCheck) (h : u.Sound) (hu : u.password ≠ none) :
    ¬ u.Matches check [] := by
  rintro (⟨hhash, -, -⟩ | ⟨-, hpassword, hb⟩)
  · exact hu (h.one.2 (by simp [hhash]))
  · exact h.password (Utf8.encode_eq_nil.1 hb.symm ▸ hpassword)

theorem mem_of_getLast?_filter (h : (users.filter (·.username = name)).getLast? = some u) :
    u ∈ users :=
  List.mem_of_mem_filter (List.mem_of_getLast? h)

theorem Tls.Sound.not_lacksAuthority (h : t.Sound) : ¬ (tlsFiles t).LacksAuthority :=
  fun ⟨hrequire, hnone⟩ => h.clientAuthority hrequire hnone

namespace Sound

open Cli

variable (hc : c.Sound)
include hc

theorem exists_secret (hu : u ∈ c.auth.users) : ∃ s, Secret.ofUser? u = some s :=
  Secret.exists_ofUser? (hc.users u hu).hasSecret

theorem exists_get?_secrets (check : HashCheck) (hu : u ∈ c.auth.users) :
    ∃ s, (Credentials.ofAuth c.auth check).secrets.get? u.username = some s := by
  have hkey := Credentials.mem_keys_secrets.2 ⟨u, hu, rfl, (hc.users u hu).hasSecret⟩
  exact Option.isSome_iff_exists.1 (Index.isSome_get?.2 hkey)

theorem unknownUser_not_mem (check : HashCheck) (hu : u ∈ c.auth.users) (id : String)
    (password : Option Bytes) (past : List Journal.Entry) : .unknownUser u.username id ∉
      ((Credentials.ofAuth c.auth check).verifier ⟨⟨id, some u.username, password⟩, past⟩).notices := by
  obtain ⟨s, hs⟩ := hc.exists_get?_secrets check hu
  show .unknownUser u.username id ∉
    (Credentials.ofAuth c.auth check).notices ⟨id, some u.username, password⟩
  unfold Credentials.notices
  dsimp only
  rw [hs]
  split
  · cases s with
    | hash text =>
      dsimp only
      split <;> simp
    | password text => exact List.not_mem_nil
  · exact List.not_mem_nil

theorem userCount_eq (check : HashCheck) :
    (Credentials.ofAuth c.auth check).userCount = (c.auth.users.map (·.username)).dedup.length := by
  have hall : c.auth.users.filter (·.HasSecret) = c.auth.users :=
    List.filter_eq_self.2 fun u hu => decide_eq_true (hc.users u hu).hasSecret
  rw [Credentials.userCount_ofAuth, hall]

theorem not_admits (check : HashCheck) {l : Login} (henabled : c.auth.enabled = true)
    (hname : l.username = some name)
    (hlast : (c.auth.users.filter (·.username = name)).getLast? = some u) (hu : u.password ≠ none)
    (hpassword : l.password.getD [] = []) : ¬ c.auth.Admits check l := by
  rw [Auth.admits_of_named hname, deciding?_eq_getLast? hc.users, hlast, hpassword]
  rintro (hdisabled | ⟨v, hv, hmatches⟩)
  · cases henabled.symm.trans hdisabled
  · obtain rfl := Option.some.inj hv
    exact (hc.users u (mem_of_getLast?_filter hlast)).not_matches check hu hmatches

theorem handle_connect {ε : Type} {svc : Service ε} {check : HashCheck}
    (henabled : c.auth.enabled = true)
    (hsvc : svc.verifier = some (Credentials.ofAuth c.auth check).verifier) (g : Gateway ε)
    (id : ConnectionId) (conn : Connection) {q : Connect} (hname : q.username = some name)
    (hlast : (c.auth.users.filter (·.username = name)).getLast? = some u) (hu : u.password ≠ none)
    (hq : q.password = none ∨ q.password = some []) : ∃ ns, g.handle svc id conn (.connect q) =
      (some (.error (.protocol .notAuthorized)), (g.record (.verify (Gateway.login q))).noteAll ns) := by
  have hpassword : q.password.getD [] = [] := by rcases hq with hq | hq <;> rw [hq] <;> rfl
  have hnot : ¬ c.auth.Admits check (Gateway.login q) :=
    hc.not_admits check henabled hname hlast hu hpassword
  have hverdict : ((Credentials.ofAuth c.auth check).verifier
      ⟨Gateway.login q, g.journal.entries⟩).accepted = .ok false :=
    congrArg _ (Bool.eq_false_iff.2 (mt (Credentials.admits_iff c.auth (Gateway.login q)).1 hnot))
  have hadmits : Gateway.admits svc g.journal.entries q = false :=
    Gateway.admits_eq_false.2 ⟨_, hsvc, .inl hverdict⟩
  exact ⟨_, (Gateway.handle_connect q).trans (Gateway.connect_of_not_admits hadmits)⟩

theorem decoderLimit_eq : Packet.decoderLimit c.limits.maxPacketSize = c.limits.maxPacketSize :=
  Nat.min_eq_left hc.packetSize

theorem packetLimit_eq {parallelism : Nat} {o : Options} {l : Launch}
    (h : c.limits.maxPacketSize ≠ 0) (hl : Launch.ofOptions? parallelism c o = some l)
    (ho : o.overrides.maxPacketSize = none) : l.service.packetLimit = c.limits.maxPacketSize := by
  have hsize : l.settings.maxPacketSize = c.limits.maxPacketSize := by
    rw [Settings.settings_of_launch hl]
    simp only [Launch.settingsOf, settings, Settings.normalized, Settings.override, ho,
      Option.getD_none, Settings.orDefault_of_ne_zero h]
  exact (congrArg Packet.decoderLimit hsize).trans hc.decoderLimit_eq

theorem load_eq_config {parallelism : Nat} {tls : TlsFiles}
    (htls : tls ∈ (c.settings parallelism).tls) : ¬ tls.LacksAuthority ∧
      ∀ files, TlsMaterial.load files tls = .error .config ↔ TlsMaterial.Mismatched files tls := by
  obtain ⟨t, ht, rfl⟩ := Option.map_eq_some_iff.1 htls
  have hauthority := (hc.tls t ht).not_lacksAuthority
  exact ⟨hauthority, fun files => TlsMaterial.load_eq_config.trans (or_iff_right hauthority)⟩

theorem secured (henabled : c.auth.enabled = true) : c.Secured where
  entered _ hu := hc.exists_secret hu
  known check u hu := by
    obtain ⟨s, hs⟩ := hc.exists_get?_secrets check hu
    exact ⟨Option.isSome_iff_exists.2 ⟨s, hs⟩, hc.unknownUser_not_mem check hu⟩
  count := hc.userCount_eq
  served hl := by
    obtain ⟨filter, -, rfl⟩ := Option.map_eq_some_iff.1 hl
    exact if_pos henabled
  refused hsvc g id conn _ _ _ hname hlast hu hq :=
    hc.handle_connect henabled hsvc g id conn hname hlast hu hq
  limit h parallelism := by
    refine ⟨?_, fun hl ho => hc.packetLimit_eq h hl ho⟩
    rw [settings_eq, (Settings.keeps_normalized parallelism c.stated).maxPacketSize h]
    exact hc.decoderLimit_eq
  tls _ _ htls := hc.load_eq_config htls

end Sound

/-- A configuration is let through exactly if it is sound, and is otherwise refused for what is wrong
with it first, by name if that is a user. One that is let through and asks for users to be known keeps
what it promises: the verifier knows everybody on the list and lets nobody in without a password, the
decoder has the limit that was asked for, and TLS has somebody who vouches for clients. -/
theorem validation_secures (c : Config) :
    (c.validate = .ok () ↔ c.Sound) ∧ (∀ f, c.validate = .error f ↔ c.FirstWrong f) ∧
    (∀ (u : User) (f : Fault), u.Wrong f →
      ∃ rest, f.message = "User '" ++ u.username ++ "' " ++ rest) ∧
    (c.validate = .ok () → c.auth.enabled = true → c.Secured) := by
  have hok : c.validate = .ok () ↔ c.Sound := validate_eq_ok.trans faults_eq_nil
  exact ⟨hok, fun f => validate_eq_error.trans head?_faults, fun u f h => h.message_eq,
    fun h henabled => (hok.1 h).secured henabled⟩

/-- Of two entries for one name the last has the password, and without it nobody is let in. -/
theorem validation_secures_twice_listed :
    let c : Config := { auth := {
      enabled := true
      users := [⟨"dev", none, some "$argon2id$"⟩, ⟨"ops", some "p", none⟩,
        ⟨"dev", some "q", none⟩] } }
    let svc : Service Unit := {
      packetLimit := 64
      idleTimeout := .ofSeconds 90
      verifier := some (Credentials.ofAuth c.auth).verifier
      handler := .echo }
    c.validate = .ok () ∧ (Credentials.ofAuth c.auth).userCount = 2 ∧
      ∀ (g : Gateway Unit) (id : ConnectionId) (conn : Connection),
        ∃ ns, g.handle svc id conn (.connect { username := some "dev", password := some [] }) =
          (some (.error (.protocol .notAuthorized)),
            (g.record (.verify ⟨"", some "dev", some []⟩)).noteAll ns) := by
  intro c svc
  have hsound : c.validate = .ok () := by decide
  have hsecured : c.Secured := (validation_secures c).2.2.2 hsound rfl
  exact ⟨hsound, hsecured.count .argon2, fun g id conn =>
    hsecured.refused rfl g id conn rfl rfl (by decide) (.inr rfl)⟩

end DeviceGateway.Config
