import DeviceGateway.Credentials
import Mathlib.Data.List.Dedup
import Mathlib.Data.List.Induction

/-!
# Who may connect, from the list of users

`Config.Auth.Admits` says who may connect without a table: of the entries for a name that have a secret
the last one in the list decides (`Config.deciding?`), by its hash if it has one and by its password
otherwise. The table that is built entry by entry finds the secrets of these entries
(`Credentials.get?_secrets`), so the verifier admits exactly these clients. How a hash is checked is a
parameter throughout. Main statement: `Credentials.admits_by_last_entry`.
-/

namespace DeviceGateway

variable {users : List Config.User} {u : Config.User} {name : String} {b : Bytes} {s : Secret}
  {check : HashCheck}

namespace Config

/-! ### Entries -/

/-- Whether there is something to check a password against. -/
def User.HasSecret (u : User) : Prop := u.password ≠ none ∨ u.passwordHash ≠ none

instance (u : User) : Decidable u.HasSecret := inferInstanceAs (Decidable (_ ∨ _))

/-- Whether a password is the one of an entry. A hash that cannot be read has no password. -/
inductive User.Matches (check : HashCheck) (u : User) (b : Bytes) : Prop
  | hash {text : String} {accepts : Bytes → Bool} (hu : u.passwordHash = some text)
      (hread : check text = some accepts) (haccepts : accepts b)
  | password {text : String} (hhash : u.passwordHash = none) (hu : u.password = some text)
      (hb : b = Utf8.encode text)

/-- The entry that decides about a name: the last one for it that has a secret. -/
def deciding? (users : List User) (name : String) : Option User :=
  (users.filter fun u => u.username = name ∧ u.HasSecret).getLast?

/-- Who may connect. A password that is not there counts as an empty one. -/
inductive Auth.Admits (check : HashCheck) (a : Auth) (l : Login) : Prop
  | disabled (h : a.enabled = false)
  | anonymous (hname : l.username = none) (h : a.allowAnonymous = true)
  | known {name : String} {u : User} (hname : l.username = some name)
      (hdecides : deciding? a.users name = some u) (hmatches : u.Matches check (l.password.getD []))

theorem hasSecret_of_deciding? (h : deciding? users name = some u) :
    u ∈ users ∧ u.username = name ∧ u.HasSecret := by
  simpa using List.mem_filter.1 (List.mem_of_getLast? h)

theorem isSome_deciding? :
    (deciding? users name).isSome ↔ ∃ u ∈ users, u.username = name ∧ u.HasSecret := by
  rw [Option.isSome_iff_ne_none, deciding?, ne_eq, List.getLast?_eq_none_iff, List.filter_eq_nil_iff]
  simp

/-- An entry at the end of the list decides about its name, if it has a secret. -/
theorem deciding?_concat : deciding? (users ++ [u]) name =
    if u.username = name ∧ u.HasSecret then some u else deciding? users name := by
  unfold deciding?
  rw [List.filter_append]
  split <;> simp_all

namespace Auth

variable {a : Auth} {l : Login}

theorem admits_of_nameless (hname : l.username = none) :
    a.Admits check l ↔ a.enabled = false ∨ a.allowAnonymous := by
  constructor
  · rintro (h | ⟨-, h⟩ | ⟨hsome, -, -⟩)
    · exact .inl h
    · exact .inr h
    · cases hname.symm.trans hsome
  · rintro (h | h)
    · exact .disabled h
    · exact .anonymous hname h

theorem admits_of_named (hname : l.username = some name) : a.Admits check l ↔
    a.enabled = false ∨ ∃ u, deciding? a.users name = some u ∧ u.Matches check (l.password.getD []) := by
  constructor
  · rintro (h | ⟨hnone, -⟩ | ⟨hsome, hdecides, hmatches⟩)
    · exact .inl h
    · cases hname.symm.trans hnone
    · obtain rfl := Option.some.inj (hname.symm.trans hsome)
      exact .inr ⟨_, hdecides, hmatches⟩
  · rintro (h | ⟨u, hdecides, hmatches⟩)
    · exact .disabled h
    · exact .known hname hdecides hmatches

end Auth

end Config

/-! ### The secret of an entry -/

namespace Secret

theorem ofUser?_eq_none : ofUser? u = none ↔ ¬ u.HasSecret := by
  unfold ofUser? Config.User.HasSecret
  split <;> simp_all

theorem exists_ofUser? (h : u.HasSecret) : ∃ s, ofUser? u = some s :=
  Option.ne_none_iff_exists'.1 (mt ofUser?_eq_none.1 (not_not.2 h))

theorem accepts_hash {text : String} : (hash text).accepts check b ↔
    ∃ accepts, check text = some accepts ∧ accepts b := by
  rw [accepts]
  split <;> simp_all

theorem accepts_password {text : String} : (password text).accepts check b ↔ b = Utf8.encode text :=
  decide_eq_true_iff

theorem accepts_iff (h : ofUser? u = some s) : s.accepts check b ↔ u.Matches check b := by
  unfold ofUser? at h
  split at h
  case h_1 text hhash =>
    obtain rfl := Option.some.inj h
    rw [accepts_hash]
    constructor
    · rintro ⟨accepts, hread, haccepts⟩
      exact .hash hhash hread haccepts
    · rintro (⟨hu, hread, haccepts⟩ | ⟨hnone, -, -⟩)
      · obtain rfl := Option.some.inj (hhash.symm.trans hu)
        exact ⟨_, hread, haccepts⟩
      · cases hhash.symm.trans hnone
  case h_2 text hpassword hnone =>
    obtain rfl := Option.some.inj h
    rw [accepts_password]
    constructor
    · exact .password hnone hpassword
    · rintro (⟨hu, -, -⟩ | ⟨-, hu, hb⟩)
      · cases hnone.symm.trans hu
      · obtain rfl := Option.some.inj (hpassword.symm.trans hu)
        exact hb
  case h_3 => cases h

end Secret

/-! ### The table -/

namespace Credentials

theorem addUser_of_not_hasSecret (m : Index String Secret) (h : ¬ u.HasSecret) : addUser m u = m := by
  rw [addUser, Secret.ofUser?_eq_none.2 h]

theorem get?_addUser (m : Index String Secret) : (addUser m u).get? name =
    if u.username = name ∧ u.HasSecret then Secret.ofUser? u else m.get? name := by
  by_cases hu : u.HasSecret
  · obtain ⟨s, hs⟩ := Secret.exists_ofUser? hu
    simp only [addUser, hs, Index.get?_insert, hu, and_true, eq_comm]
  · rw [addUser_of_not_hasSecret m hu, if_neg fun h => hu h.2]

/-- The table finds the secret of the entry that decides. -/
theorem get?_secrets : (users.foldl addUser ∅).get? name =
    (Config.deciding? users name).bind Secret.ofUser? := by
  induction users using List.reverseRecOn with
  | nil => rfl
  | append_singleton users u ih =>
    rw [List.foldl_append, List.foldl_cons, List.foldl_nil, get?_addUser, Config.deciding?_concat,
      ih]
    split <;> rfl

theorem get?_secrets_eq_some : (users.foldl addUser ∅).get? name = some s ↔
    ∃ u, Config.deciding? users name = some u ∧ Secret.ofUser? u = some s := by
  rw [get?_secrets, Option.bind_eq_some_iff]

/-- The names in the table are those that have an entry with a secret. -/
theorem mem_keys_secrets : name ∈ (users.foldl addUser ∅).keys ↔
    ∃ u ∈ users, u.username = name ∧ u.HasSecret := by
  rw [← Index.isSome_get?, get?_secrets, ← Config.isSome_deciding?]
  cases hdecides : Config.deciding? users name with
  | none => simp
  | some u =>
    have hu := (Config.hasSecret_of_deciding? hdecides).2.2
    simpa [Option.isSome_iff_ne_none, Secret.ofUser?_eq_none] using hu

theorem userCount_ofAuth (a : Config.Auth) : (ofAuth a check).userCount =
    ((a.users.filter (·.HasSecret)).map (·.username)).dedup.length := by
  set secrets := a.users.foldl addUser ∅
  have hmem : ∀ name, name ∈ secrets.keys ↔
      name ∈ ((a.users.filter (·.HasSecret)).map (·.username)).dedup := fun name => by
    rw [mem_keys_secrets]
    simp [and_comm, and_left_comm]
  have hperm : secrets.keys.Perm _ :=
    (List.perm_ext_iff_of_nodup secrets.nodup_keys (List.nodup_dedup _)).2 hmem
  exact (List.length_map _).symm.trans hperm.length_eq

/-! ### The verifier -/

/-- What the table says about a password under a name. -/
theorem accepted_iff : (∃ s, (users.foldl addUser ∅).get? name = some s ∧ s.accepts check b) ↔
    ∃ u, Config.deciding? users name = some u ∧ u.Matches check b := by
  constructor
  · rintro ⟨s, hs, haccepts⟩
    obtain ⟨u, hdecides, hu⟩ := get?_secrets_eq_some.1 hs
    exact ⟨u, hdecides, (Secret.accepts_iff hu).1 haccepts⟩
  · rintro ⟨u, hdecides, hmatches⟩
    obtain ⟨s, hu⟩ := Secret.exists_ofUser? (Config.hasSecret_of_deciding? hdecides).2.2
    exact ⟨s, get?_secrets_eq_some.2 ⟨u, hdecides, hu⟩, (Secret.accepts_iff hu).2 hmatches⟩

theorem admits_iff (a : Config.Auth) (l : Login) :
    (ofAuth a check).admits l.username l.password ↔ a.Admits check l := by
  cases hname : l.username with
  | none =>
    rw [Config.Auth.admits_of_nameless hname]
    cases h : a.enabled <;> simp [admits, ofAuth, h]
  | some name =>
    rw [Config.Auth.admits_of_named hname, ← accepted_iff]
    cases h : a.enabled with
    | false => simp [admits, ofAuth, h]
    | true =>
      cases hs : (a.users.foldl addUser ∅).get? name <;> simp [admits, ofAuth, h, hs]

/-- However hashes are checked, the verifier always comes to a verdict, and admits those that the list
of users says may connect; the client identifier and what was called before have no part in that. An
entry without a secret may as well not be in the list, and the users that are counted are the names for
which there is a secret. -/
theorem admits_by_last_entry (check : HashCheck) (a : Config.Auth) :
    (∀ l : Attempt, ∃ admitted, ((ofAuth a check).verifier l).accepted = .ok admitted ∧
      (admitted = true ↔ a.Admits check l.toLogin)) ∧
    (∀ (l : Attempt) id past, ((ofAuth a check).verifier { l with clientId := id, past }).accepted =
      ((ofAuth a check).verifier l).accepted) ∧
    (∀ front u behind, a.users = front ++ u :: behind → u.password = none → u.passwordHash = none →
      ofAuth a check = ofAuth { a with users := front ++ behind } check) ∧
    (ofAuth a check).userCount = ((a.users.filter (·.HasSecret)).map (·.username)).dedup.length := by
  refine ⟨fun l => ⟨_, rfl, admits_iff a l.toLogin⟩, fun l id past => rfl, ?_, userCount_ofAuth a⟩
  intro front u behind husers hpassword hhash
  have hu : ¬ u.HasSecret := by simp [Config.User.HasSecret, hpassword, hhash]
  rw [ofAuth, husers, List.foldl_append, List.foldl_cons, addUser_of_not_hasSecret _ hu,
    ← List.foldl_append]
  rfl

end Credentials

end DeviceGateway
