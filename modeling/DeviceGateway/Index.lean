/-!
# Finite maps

A finite map is a list of entries with distinct keys. `Index.get?_insert`, `Index.get?_erase` and
`Index.get?_modify` say what the operations do to look-ups, and `Index.mem_entries` that the entries
are what look-ups find.
-/

namespace DeviceGateway

structure Index (κ α : Type) where
  entries : List (κ × α) := []
  nodup_keys : (entries.map Prod.fst).Nodup := by exact List.nodup_nil
  deriving Repr

namespace Index

variable {κ α : Type}

instance : EmptyCollection (Index κ α) := ⟨{}⟩

instance : Inhabited (Index κ α) := ⟨∅⟩

def keys (m : Index κ α) : List κ := m.entries.map Prod.fst

def size (m : Index κ α) : Nat := m.entries.length

variable [DecidableEq κ] {m : Index κ α} {k l : κ} {a : α}

def get? (m : Index κ α) (k : κ) : Option α := (m.entries.find? (·.1 = k)).map Prod.snd

def contains (m : Index κ α) (k : κ) : Bool := (m.get? k).isSome

/-- The map without what it has under `k`. -/
def erase (m : Index κ α) (k : κ) : Index κ α where
  entries := m.entries.filter (·.1 ≠ k)
  nodup_keys := m.nodup_keys.sublist (List.filter_sublist.map Prod.fst)

/-- The map with `a` under `k`, in place of what was there. -/
def insert (m : Index κ α) (k : κ) (a : α) : Index κ α where
  entries := (k, a) :: (m.erase k).entries
  nodup_keys := List.nodup_cons.2 ⟨by simp [erase], (m.erase k).nodup_keys⟩

/-- Changes what is under `k`, if there is something. -/
def modify (m : Index κ α) (k : κ) (f : α → α) : Index κ α where
  entries := m.entries.map fun e => if e.1 = k then (e.1, f e.2) else e
  nodup_keys := by
    have : (Prod.fst ∘ fun e : κ × α => if e.1 = k then (e.1, f e.2) else e) = Prod.fst := by
      funext e
      simp only [Function.comp]
      split <;> rfl
    rw [List.map_map, this]
    exact m.nodup_keys

/-! ### Look-ups -/

@[simp] theorem get?_empty : (∅ : Index κ α).get? k = none := rfl

theorem mem_of_get?_eq_some (h : m.get? k = some a) : (k, a) ∈ m.entries := by
  obtain ⟨e, he, rfl⟩ := Option.map_eq_some_iff.1 h
  obtain rfl : e.1 = k := by simpa using List.find?_some he
  exact List.mem_of_find?_eq_some he

theorem get?_eq_none : m.get? k = none ↔ k ∉ m.keys := by
  simp only [get?, keys, Option.map_eq_none_iff, List.find?_eq_none, List.mem_map,
    decide_eq_true_eq]
  constructor
  · rintro h ⟨e, he, rfl⟩
    exact h e he rfl
  · rintro h e he rfl
    exact h ⟨e, he, rfl⟩

theorem entries_eq_nil (h : ∀ k, m.get? k = none) : m.entries = [] := by
  rw [← List.map_eq_nil_iff, List.eq_nil_iff_forall_not_mem]
  exact fun k => get?_eq_none.1 (h k)

theorem find?_of_mem : ∀ {es : List (κ × α)}, (es.map Prod.fst).Nodup → (k, a) ∈ es →
    es.find? (·.1 = k) = some (k, a)
  | [], _, h => absurd h List.not_mem_nil
  | e :: es, hes, h => by
    rw [List.map_cons, List.nodup_cons] at hes
    rcases List.mem_cons.1 h with rfl | h
    · simp
    · have : e.1 ≠ k := fun he => hes.1 (he ▸ List.mem_map_of_mem h)
      simp [this, find?_of_mem hes.2 h]

theorem mem_entries : (k, a) ∈ m.entries ↔ m.get? k = some a :=
  ⟨fun h => by rw [get?, find?_of_mem m.nodup_keys h]; rfl, mem_of_get?_eq_some⟩

theorem get?_erase : (m.erase k).get? l = if l = k then none else m.get? l := by
  split
  · subst l
    simp [get?_eq_none, keys, erase]
  · rename_i h
    simp only [get?, erase, List.find?_filter]
    congr 2
    funext e
    by_cases he : e.1 = l <;> simp [he, h]

theorem get?_insert : (m.insert k a).get? l = if l = k then some a else m.get? l := by
  by_cases h : l = k
  · subst l
    simp [get?, insert]
  · have := get?_erase (m := m) (k := k) (l := l)
    simp only [h, if_false] at this ⊢
    rw [← this]
    simp [get?, insert, Ne.symm h]

theorem get?_modify {f : α → α} :
    (m.modify k f).get? l = if l = k then (m.get? l).map f else m.get? l := by
  have hkey : ((fun e : κ × α => decide (e.1 = l)) ∘ fun e => if e.1 = k then (e.1, f e.2) else e) =
      fun e => decide (e.1 = l) := by
    funext e
    simp only [Function.comp]
    split <;> rfl
  simp only [get?, modify, List.find?_map, hkey]
  cases he : m.entries.find? fun e => decide (e.1 = l) with
  | none => simp
  | some e =>
    obtain rfl : e.1 = l := by simpa using List.find?_some he
    by_cases hk : e.1 = k <;> simp [hk]

theorem modify_modify {f g : α → α} : (m.modify k f).modify k g = m.modify k (g ∘ f) := by
  simp only [modify, List.map_map, Index.mk.injEq]
  congr 1
  funext e
  by_cases hk : e.1 = k <;> simp [hk]

theorem keys_modify {f : α → α} : (m.modify k f).keys = m.keys := by
  simp only [keys, modify, List.map_map]
  refine List.map_congr_left fun e _ => ?_
  simp only [Function.comp]
  split <;> rfl

theorem isSome_get? : (m.get? k).isSome ↔ k ∈ m.keys := by
  by_cases hk : k ∈ m.keys
  · have : m.get? k ≠ none := fun hn => get?_eq_none.1 hn hk
    simp [hk, Option.isSome_iff_ne_none, this]
  · simp [hk, get?_eq_none.2 hk]

/-- Only what a change does to the value that is there counts. -/
theorem modify_congr {f g : α → α} (h : m.get? k = some a) (hfg : f a = g a) :
    m.modify k f = m.modify k g := by
  simp only [modify, Index.mk.injEq]
  refine List.map_congr_left fun e he => ?_
  by_cases hk : e.1 = k
  · have : m.get? e.1 = some e.2 := mem_entries.1 he
    rw [hk, h] at this
    rw [if_pos hk, if_pos hk, ← Option.some.inj this, hfg]
  · rw [if_neg hk, if_neg hk]

@[simp] theorem get?_erase_self : (m.erase k).get? k = none := by simp [get?_erase]

@[simp] theorem get?_insert_self : (m.insert k a).get? k = some a := by simp [get?_insert]

end Index

end DeviceGateway
