import DeviceGateway.Config.Basic
import DeviceGateway.Crypto.PasswordHash
import DeviceGateway.Handler
import DeviceGateway.Index

/-!
# Credentials

Who may connect, from the users of a configuration. A user has the secret of the last entry for the
name that has one; `Credentials.admits` decides about a name and a password.
-/

namespace DeviceGateway

inductive Secret
  | password (text : String)
  | hash (text : String)
  deriving DecidableEq, Repr

/-- How a hash is checked: what a text says of passwords, if it can be read as a hash. -/
abbrev HashCheck := String → Option (Bytes → Bool)

/-- The check of hashes in the format of Argon2. -/
def HashCheck.argon2 : HashCheck := fun text => (PasswordHash.ofText? text).map (·.accepts)

namespace Secret

/-- The secret of an entry. A hash goes before a password. -/
def ofUser? (u : Config.User) : Option Secret :=
  match u.password, u.passwordHash with
  | _, some h => some (hash h)
  | some p, none => some (password p)
  | none, none => none

/-- Whether a password is the secret one. Nothing matches a hash that cannot be read. -/
def accepts (check : HashCheck) : Secret → Bytes → Bool
  | password text, b => b = Utf8.encode text
  | hash text, b =>
    match check text with
    | some accepts => accepts b
    | none => false

end Secret

structure Credentials where
  enabled : Bool
  allowAnonymous : Bool
  secrets : Index String Secret
  check : HashCheck

namespace Credentials

/-- Takes an entry into account. -/
def addUser (secrets : Index String Secret) (u : Config.User) : Index String Secret :=
  match Secret.ofUser? u with
  | some s => secrets.insert u.username s
  | none => secrets

def ofAuth (a : Config.Auth) (check : HashCheck := .argon2) : Credentials where
  enabled := a.enabled
  allowAnonymous := a.allowAnonymous
  secrets := a.users.foldl addUser ∅
  check

/-- The number of users that have a secret. -/
def userCount (c : Credentials) : Nat := c.secrets.size

/-- Whether a client may connect. A missing password is an empty one. -/
def admits (c : Credentials) (username : Option String) (password : Option Bytes) : Bool :=
  if c.enabled then
    match username with
    | none => c.allowAnonymous
    | some u =>
      match c.secrets.get? u with
      | some s => s.accepts c.check (password.getD [])
      | none => false
  else true

/-- What there is to note about a client. -/
def notices (c : Credentials) (l : Login) : List Notice :=
  if c.enabled then
    match l.username with
    | none => [.anonymous l.clientId]
    | some u =>
      match c.secrets.get? u with
      | none => [.unknownUser u l.clientId]
      | some (.hash text) => if (c.check text).isNone then [.unreadableHash] else []
      | some (.password _) => []
  else []

def verifier (c : Credentials) : Verifier := fun a =>
  ⟨.ok (c.admits a.username a.password), c.notices a.toLogin⟩

end Credentials

end DeviceGateway
