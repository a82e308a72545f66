/-!
# Substitution in configuration files

A reference `${NAME}` or `${NAME:-default}` in a text stands for the value of a variable, for the
default if there is no such variable, and for nothing if there is no default either. A name is not
empty and has neither `}` nor `:`, a default has no `}`. `Config.substitute` replaces references
from left to right in one pass: what it puts in is not looked at again, and a form that is no
reference stays as it is.
-/

namespace DeviceGateway.Config

/-- A reference to a variable, and the text behind it. -/
structure Reference where
  name : List Char
  fallback : List Char
  rest : List Char
  deriving DecidableEq, Repr

namespace Reference

/-- The characters of names. -/
def inName (c : Char) : Bool := c ≠ '\x7d' && c ≠ ':'

/-- The characters of defaults. -/
def inFallback (c : Char) : Bool := c ≠ '\x7d'

/-- The reference whose name begins here, behind its opening mark. -/
def body? (cs : List Char) : Option Reference :=
  let name := cs.takeWhile inName
  if name = [] then none
  else
    match cs.dropWhile inName with
    | '\x7d' :: rest => some ⟨name, [], rest⟩
    | ':' :: '-' :: r =>
      match r.dropWhile inFallback with
      | '\x7d' :: rest => some ⟨name, r.takeWhile inFallback, rest⟩
      | _ => none
    | _ => none

/-- The reference at the front of a text. -/
def front? : List Char → Option Reference
  | '$' :: '\x7b' :: cs => body? cs
  | _ => none

theorem length_dropWhile_le (p : Char → Bool) (cs : List Char) :
    (cs.dropWhile p).length ≤ cs.length :=
  (List.dropWhile_sublist p).length_le

theorem body?_length {cs : List Char} {r : Reference} (h : body? cs = some r) :
    r.rest.length < cs.length := by
  have h1 := length_dropWhile_le inName cs
  unfold body? at h
  dsimp only at h
  split at h
  · cases h
  · split at h
    · rename_i rest he
      cases h
      rw [he] at h1
      simp only [List.length_cons] at h1 ⊢
      omega
    · rename_i r' he
      have h2 := length_dropWhile_le inFallback r'
      split at h
      · rename_i rest hf
        cases h
        rw [he] at h1
        rw [hf] at h2
        simp only [List.length_cons] at h1 h2 ⊢
        omega
      · cases h
    · cases h

theorem front?_length {cs : List Char} {r : Reference} (h : front? cs = some r) :
    r.rest.length < cs.length := by
  unfold front? at h
  split at h
  · have := body?_length h
    simp only [List.length_cons]
    omega
  · cases h

/-- What a reference stands for. -/
def value (env : String → Option String) (r : Reference) : List Char :=
  match env (String.ofList r.name) with
  | some s => s.toList
  | none => r.fallback

end Reference

/-- The characters of `cs` with its references replaced. -/
def substituteChars (env : String → Option String) (cs : List Char) : List Char :=
  match _h : Reference.front? cs with
  | some r => r.value env ++ substituteChars env r.rest
  | none =>
    match cs with
    | [] => []
    | c :: rest => c :: substituteChars env rest
termination_by cs.length
decreasing_by
  · exact Reference.front?_length _h
  · exact Nat.lt_succ_self _

def substitute (env : String → Option String) (s : String) : String :=
  String.ofList (substituteChars env s.toList)

end DeviceGateway.Config
