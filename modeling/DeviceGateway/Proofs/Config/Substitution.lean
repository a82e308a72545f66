import DeviceGateway.Config.Substitution

/-!
# Which references are replaced

`Config.Mention` is a reference as it is written, and `Config.Scan cs ps` takes a text apart from left to
right: into the references that start where the scan stands, and single characters where none does.
There is one scan of a text (`Scan.exists`, `Scan.unique`), whatever the variables are, and
`Config.substitute` replaces its references and nothing else (`Scan.substituteChars_eq`).

An opening mark starts a reference unless a malformed form stands behind it (`malformed_iff`). Then one
character is copied, and the scan goes on behind that.
-/

namespace DeviceGateway.Config

/-- A reference as it is written. -/
@[ext] structure Mention where
  name : List Char
  fallback : Option (List Char)
  name_ne_nil : name ≠ []
  name_chars : ∀ c ∈ name, c ≠ '\x7d' ∧ c ≠ ':'
  fallback_chars : ∀ d ∈ fallback, '\x7d' ∉ d

namespace Mention

/-- What stands between the name and the closing mark. -/
def fallbackText : Option (List Char) → List Char
  | none => []
  | some d => ':' :: '-' :: d

def text (m : Mention) : List Char :=
  '$' :: '\x7b' :: (m.name ++ (fallbackText m.fallback ++ ['\x7d']))

/-- The value of the variable, else the default, else nothing. -/
def value (env : String → Option String) (m : Mention) : List Char :=
  match env (String.ofList m.name) with
  | some s => s.toList
  | none => m.fallback.getD []

end Mention

/-- A reference starts in front of a text. -/
def Starts (cs : List Char) : Prop := ∃ m : Mention, m.text <+: cs

/-- What a scan takes off a text: a reference or a character. -/
inductive Part
  | plain (c : Char)
  | mention (m : Mention)

namespace Part

def text : Part → List Char
  | plain c => [c]
  | mention m => m.text

def value (env : String → Option String) : Part → List Char
  | plain c => [c]
  | mention m => m.value env

end Part

/-- A scan from left to right: behind a reference where one starts, else behind one character. -/
inductive Scan : List Char → List Part → Prop
  | done : Scan [] []
  | mention {rest : List Char} {ps : List Part} (m : Mention) (h : Scan rest ps) :
    Scan (m.text ++ rest) (.mention m :: ps)
  | plain {c : Char} {rest : List Char} {ps : List Part} (hc : ¬ Starts (c :: rest))
    (h : Scan rest ps) : Scan (c :: rest) (.plain c :: ps)

/-- What stands behind an opening mark that starts no reference: no name, a colon behind a name that is
not followed by a hyphen, or no closing mark in the whole text. -/
inductive Malformed : List Char → Prop
  | empty {c : Char} {rest : List Char} (hc : c = '\x7d' ∨ c = ':') : Malformed (c :: rest)
  | colon {name rest : List Char} (hname : ∀ c ∈ name, c ≠ '\x7d' ∧ c ≠ ':')
    (hrest : rest.head? ≠ some '-') : Malformed (name ++ ':' :: rest)
  | unclosed {cs : List Char} (hcs : '\x7d' ∉ cs) : Malformed cs

variable {env : String → Option String} {c : Char} {cs name rest rest' d : List Char}
  {ps ps' : List Part} {m m' : Mention}

/-! ### The reference in front of a text -/

namespace Reference

theorem inName_iff : inName c = true ↔ c ≠ '\x7d' ∧ c ≠ ':' := by
  simp [inName]

/-- A name ends where the first character stands that is none of its own. -/
theorem span_name (hname : ∀ c ∈ name, c ≠ '\x7d' ∧ c ≠ ':') (hc : c = '\x7d' ∨ c = ':')
    (rest : List Char) :
    (name ++ c :: rest).takeWhile inName = name ∧
    (name ++ c :: rest).dropWhile inName = c :: rest := by
  have hall : ∀ x ∈ name, inName x = true := fun x hx => inName_iff.2 (hname x hx)
  have hstop : inName c = false := by rcases hc with rfl | rfl <;> rfl
  rw [List.takeWhile_append_of_pos hall, List.dropWhile_append_of_pos hall]
  simp [hstop]

theorem span_fallback (hd : '\x7d' ∉ d) (rest : List Char) :
    (d ++ '\x7d' :: rest).takeWhile inFallback = d ∧
    (d ++ '\x7d' :: rest).dropWhile inFallback = '\x7d' :: rest := by
  have hall : ∀ x ∈ d, inFallback x = true := fun x hx => by
    have hne : x ≠ '\x7d' := fun h => hd (h ▸ hx)
    simpa [inFallback] using hne
  rw [List.takeWhile_append_of_pos hall, List.dropWhile_append_of_pos hall]
  simp [inFallback]

theorem front?_text (m : Mention) (rest : List Char) :
    front? (m.text ++ rest) = some ⟨m.name, m.fallback.getD [], rest⟩ := by
  obtain ⟨name, fallback, hne, hname, hfallback⟩ := m
  cases fallback with
  | none =>
    obtain ⟨htake, hdrop⟩ := span_name hname (.inl rfl) rest
    show front? ('$' :: '\x7b' :: (name ++ ['\x7d'] ++ rest)) = _
    rw [List.append_assoc, List.singleton_append]
    show body? _ = _
    rw [body?, htake, hdrop, if_neg hne]
    rfl
  | some d =>
    obtain ⟨htake, hdrop⟩ := span_name hname (.inr rfl) ('-' :: (d ++ '\x7d' :: rest))
    obtain ⟨htake', hdrop'⟩ := span_fallback (hfallback d rfl) rest
    have htext : Mention.text ⟨name, some d, hne, hname, hfallback⟩ ++ rest =
        '$' :: '\x7b' :: (name ++ ':' :: '-' :: (d ++ '\x7d' :: rest)) := by
      simp [Mention.text, Mention.fallbackText]
    rw [htext]
    show body? _ = _
    rw [body?, htake, hdrop, if_neg hne]
    simp only [hdrop', htake', Option.getD_some]

theorem front?_malformed (h : Malformed cs) : front? ('$' :: '\x7b' :: cs) = none := by
  show body? cs = none
  cases h with
  | empty hc => exact if_pos (by rcases hc with rfl | rfl <;> rfl)
  | @colon name rest hname hrest =>
    obtain ⟨htake, hdrop⟩ := span_name hname (.inr rfl) rest
    rw [body?, htake, hdrop]
    split
    · rfl
    · split
      · simp_all
      · simp_all
      · rfl
  | unclosed hcs =>
    -- the closing mark would be in one of the two rests
    have hrest := (List.dropWhile_sublist inName (l := cs)).subset
    rw [body?]
    split
    · rfl
    · split
      · rename_i hdrop
        exact absurd (hrest (hdrop ▸ List.mem_cons_self)) hcs
      · rename_i r hdrop
        split
        · rename_i hdrop'
          have hmem : '\x7d' ∈ r :=
            (List.dropWhile_sublist inFallback).subset (hdrop' ▸ List.mem_cons_self)
          exact absurd (hrest (hdrop ▸ List.mem_cons_of_mem _ (List.mem_cons_of_mem _ hmem))) hcs
        · rfl
      · rfl

end Reference

open Reference (front?_text)

theorem starts_text_append (m : Mention) (rest : List Char) : Starts (m.text ++ rest) :=
  ⟨m, List.prefix_append _ _⟩

/-- Behind an opening mark there is a reference, or one of the malformed forms. -/
theorem starts_or_malformed (cs : List Char) : Starts ('$' :: '\x7b' :: cs) ∨ Malformed cs := by
  have hcs := List.takeWhile_append_dropWhile (p := Reference.inName) (l := cs)
  have hname : ∀ c ∈ cs.takeWhile Reference.inName, c ≠ '\x7d' ∧ c ≠ ':' :=
    fun c hc => Reference.inName_iff.1 (List.all_eq_true.1 List.all_takeWhile c hc)
  generalize cs.takeWhile Reference.inName = name at hcs hname
  cases hdrop : cs.dropWhile Reference.inName with
  | nil =>
    rw [hdrop, List.append_nil] at hcs
    subst hcs
    exact .inr (.unclosed fun hmem => (hname _ hmem).1 rfl)
  | cons c rest =>
    rw [hdrop] at hcs
    subst hcs
    have hc : c = '\x7d' ∨ c = ':' := by
      have hstop := List.head?_dropWhile_not Reference.inName (name ++ c :: rest)
      rw [hdrop] at hstop
      simpa [Reference.inName, Decidable.or_iff_not_imp_left] using hstop
    by_cases hne : name = []
    · subst hne
      exact .inr (.empty hc)
    rcases hc with rfl | rfl
    · have h := starts_text_append ⟨name, none, hne, hname, nofun⟩ rest
      exact .inl (by simpa [Mention.text, Mention.fallbackText] using h)
    by_cases hrest : rest.head? = some '-'
    · obtain ⟨r, rfl⟩ : ∃ r, rest = '-' :: r := List.head?_eq_some_iff.1 hrest
      by_cases hr : '\x7d' ∈ r
      · obtain ⟨d, rest, rfl, hd⟩ := List.eq_append_cons_of_mem hr
        have h := starts_text_append ⟨name, some d, hne, hname, fun _ h => Option.some.inj h ▸ hd⟩ rest
        exact .inl (by simpa [Mention.text, Mention.fallbackText] using h)
      · refine .inr (.unclosed fun hmem => ?_)
        rcases List.mem_append.1 hmem with hmem | hmem
        · exact (hname _ hmem).1 rfl
        · simp_all
    · exact .inr (.colon hname hrest)

theorem front?_eq_none_iff : Reference.front? cs = none ↔ ¬ Starts cs := by
  constructor
  · rintro h ⟨m, rest, rfl⟩
    rw [front?_text] at h
    cases h
  · intro h
    unfold Reference.front?
    split
    · exact Reference.front?_malformed ((starts_or_malformed _).resolve_left h)
    · rfl

theorem malformed_iff : Malformed cs ↔ ¬ Starts ('$' :: '\x7b' :: cs) :=
  ⟨fun h => front?_eq_none_iff.1 (Reference.front?_malformed h), (starts_or_malformed cs).resolve_left⟩

/-- A text begins with one reference at most. -/
theorem Mention.text_append_inj (h : m.text ++ rest = m'.text ++ rest') : m = m' ∧ rest = rest' := by
  have hfront := front?_text m rest
  rw [h, front?_text, Option.some.injEq, Reference.mk.injEq] at hfront
  obtain ⟨hname, -, hrest⟩ := hfront
  refine ⟨Mention.ext hname.symm ?_, hrest.symm⟩
  have htext : m.text = m'.text := List.append_cancel_right (hrest ▸ h)
  have hfallback : fallbackText m.fallback = fallbackText m'.fallback := by
    simpa [Mention.text, hname] using htext
  cases hm : m.fallback <;> cases hm' : m'.fallback <;>
    simp_all [fallbackText]

/-! ### Scans -/

theorem not_starts_nil : ¬ Starts [] := by
  rintro ⟨m, h⟩
  exact absurd (List.prefix_nil.1 h) (List.cons_ne_nil _ _)

theorem Scan.exists (cs : List Char) : ∃ ps, Scan cs ps := by
  induction hk : cs.length using Nat.strongRecOn generalizing cs with
  | ind k ih =>
    subst hk
    by_cases hcs : Starts cs
    · obtain ⟨m, rest, rfl⟩ := hcs
      obtain ⟨ps, h⟩ := ih rest.length (by simp [Mention.text]; omega) rest rfl
      exact ⟨_, .mention m h⟩
    · cases cs with
      | nil => exact ⟨[], .done⟩
      | cons c rest =>
        obtain ⟨ps, h⟩ := ih rest.length (Nat.lt_succ_self _) rest rfl
        exact ⟨_, .plain hcs h⟩

theorem Scan.unique (h : Scan cs ps) (h' : Scan cs ps') : ps = ps' := by
  induction h generalizing ps' with
  | done =>
    cases h'
    rfl
  | @mention rest ps m h ih =>
    -- both scans stand at a reference, which is the same one
    generalize ht : m.text ++ rest = cs at h'
    cases h' with
    | done => exact absurd ⟨m, rest, ht⟩ not_starts_nil
    | mention m' h' =>
      obtain ⟨rfl, rfl⟩ := Mention.text_append_inj ht
      rw [ih h']
    | plain hc h' => exact absurd ⟨m, rest, ht⟩ hc
  | @plain c rest ps hc h ih =>
    generalize ht : c :: rest = cs at h'
    cases h' with
    | done => cases ht
    | mention m' h' => exact absurd ⟨m', _, ht.symm⟩ hc
    | plain hc' h' =>
      cases ht
      rw [ih h']

theorem Scan.text (h : Scan cs ps) : ps.flatMap Part.text = cs := by
  induction h with
  | done => rfl
  | mention m h ih => rw [List.flatMap_cons, ih, Part.text]
  | plain hc h ih => rw [List.flatMap_cons, ih, Part.text, List.singleton_append]

/-! ### Substitution -/

@[simp] theorem substituteChars_nil : substituteChars env [] = [] := by
  rw [substituteChars]
  rfl

theorem substituteChars_mention (m : Mention) (rest : List Char) :
    substituteChars env (m.text ++ rest) = m.value env ++ substituteChars env rest := by
  rw [substituteChars]
  split
  · rename_i r hr
    rw [front?_text] at hr
    cases hr
    rfl
  · rename_i hnone
    rw [front?_text] at hnone
    cases hnone

theorem substituteChars_plain (hc : ¬ Starts (c :: rest)) :
    substituteChars env (c :: rest) = c :: substituteChars env rest := by
  rw [substituteChars]
  split
  · rename_i r hr
    rw [front?_eq_none_iff.2 hc] at hr
    cases hr
  · rfl

theorem Scan.substituteChars_eq (h : Scan cs ps) :
    substituteChars env cs = ps.flatMap (Part.value env) := by
  induction h with
  | done => rw [substituteChars_nil, List.flatMap_nil]
  | mention m h ih => rw [substituteChars_mention, ih, List.flatMap_cons, Part.value]
  | plain hc h ih =>
    rw [substituteChars_plain hc, ih, List.flatMap_cons, Part.value, List.singleton_append]

/-! ### What is copied -/

theorem not_starts_of_ne (hc : c ≠ '$') : ¬ Starts (c :: rest) := by
  rintro ⟨m, h⟩
  exact hc (List.cons_prefix_cons.1 h).1.symm

theorem substituteChars_of_not_starts (h : ∀ cs', cs' <:+ cs → ¬ Starts cs') :
    substituteChars env cs = cs := by
  induction cs with
  | nil => exact substituteChars_nil
  | cons c rest ih =>
    rw [substituteChars_plain (h _ (List.suffix_refl _)),
      ih fun cs' hcs' => h cs' (hcs'.trans (List.suffix_cons c rest))]

theorem substituteChars_append (h : '$' ∉ cs) (rest : List Char) :
    substituteChars env (cs ++ rest) = cs ++ substituteChars env rest := by
  induction cs with
  | nil => rfl
  | cons c cs ih =>
    obtain ⟨hc, hcs⟩ := not_or.1 (mt List.mem_cons.2 h)
    rw [List.cons_append, substituteChars_plain (not_starts_of_ne (Ne.symm hc)), ih hcs,
      List.cons_append]

theorem substituteChars_malformed (h : Malformed cs) :
    substituteChars env ('$' :: '\x7b' :: cs) = '$' :: '\x7b' :: substituteChars env cs := by
  rw [substituteChars_plain (malformed_iff.1 h), substituteChars_plain (not_starts_of_ne (by decide))]

/-- Substitution is a single pass from left to right. The scan of a text, in which the variables have no
part, keeps its characters in order and puts in the values; so what is put in is not scanned. A text
without a reference stays as it is, and so does what has no dollar sign. An opening mark that starts no
reference is copied, and the pass goes on right behind it, so a reference there is found. -/
theorem substitute_single_pass (s : String) :
    (∃ ps, Scan s.toList ps ∧ (∀ ps', Scan s.toList ps' → ps' = ps) ∧
      ps.flatMap Part.text = s.toList ∧
      ∀ env, substitute env s = String.ofList (ps.flatMap (Part.value env))) ∧
    ((∀ m : Mention, ¬ m.text <:+: s.toList) → ∀ env, substitute env s = s) ∧
    (∀ cs, Malformed cs ↔ ¬ Starts ('$' :: '\x7b' :: cs)) ∧
    (∀ env cs, Malformed cs →
      substituteChars env ('$' :: '\x7b' :: cs) = '$' :: '\x7b' :: substituteChars env cs) ∧
    (∀ env cs rest, '$' ∉ cs →
      substituteChars env (cs ++ rest) = cs ++ substituteChars env rest) ∧
    (∀ env (m : Mention) rest,
      substituteChars env (m.text ++ rest) = m.value env ++ substituteChars env rest) := by
  refine ⟨?_, fun h env => ?_, fun _ => malformed_iff,
    fun env cs => substituteChars_malformed, fun env cs rest h => substituteChars_append h rest,
    fun env => substituteChars_mention⟩
  · obtain ⟨ps, hps⟩ := Scan.exists s.toList
    exact ⟨ps, hps, fun ps' h => h.unique hps, hps.text,
      fun env => congrArg String.ofList hps.substituteChars_eq⟩
  · rw [substitute, substituteChars_of_not_starts, String.ofList_toList]
    rintro cs hcs ⟨m, hm⟩
    exact h m (hm.isInfix.trans hcs.isInfix)

end DeviceGateway.Config
