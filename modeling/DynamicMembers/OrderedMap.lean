/-!
# Ordered maps — finite maps that remember the order in which keys were first set

A map is its list of entries, no key occurring twice.  Setting a key that is present replaces the value and keeps its
place; a new key goes to the end; erasing keeps the order of the rest.  Each operation is described by `get?` and by
`keys`, so that nothing downstream unfolds it.
-/
namespace DynamicMembers

/-- A finite map in order of first insertion. -/
structure OrderedMap (κ : Type) (α : Type) where
  entries : List (κ × α)
  nodup : (entries.map Prod.fst).Nodup

namespace OrderedMap

variable {κ α β : Type}

/-- Two maps with the same entries in the same order are the same map. -/
@[ext] theorem ext {m n : OrderedMap κ α} (h : m.entries = n.entries) : m = n := by
  cases m; cases n; cases h; rfl

instance [DecidableEq κ] [DecidableEq α] : DecidableEq (OrderedMap κ α) := fun m n =>
  if h : m.entries = n.entries then isTrue (ext h) else isFalse (fun e => h (congrArg entries e))

def empty : OrderedMap κ α := ⟨[], List.nodup_nil⟩

instance : EmptyCollection (OrderedMap κ α) := ⟨empty⟩

instance : Inhabited (OrderedMap κ α) := ⟨empty⟩

def keys (m : OrderedMap κ α) : List κ := m.entries.map Prod.fst

def values (m : OrderedMap κ α) : List α := m.entries.map Prod.snd

def size (m : OrderedMap κ α) : Nat := m.entries.length

def isEmpty (m : OrderedMap κ α) : Bool := m.entries.isEmpty

variable [DecidableEq κ]

/-- The value of a key among a list of entries, the first one counting. -/
def lookup (k : κ) : List (κ × α) → Option α
  | [] => none
  | (k', v) :: r => if k' = k then some v else lookup k r

/-- The entries with a key's value replaced where it stands, or with the key added at the end. -/
def put (k : κ) (v : α) : List (κ × α) → List (κ × α)
  | [] => [(k, v)]
  | (k', v') :: r => if k' = k then (k, v) :: r else (k', v') :: put k v r

def drop (k : κ) : List (κ × α) → List (κ × α)
  | [] => []
  | (k', v') :: r => if k' = k then drop k r else (k', v') :: drop k r

theorem mem_keys_put (k j : κ) (v : α) :
    ∀ l : List (κ × α), j ∈ (put k v l).map Prod.fst ↔ j = k ∨ j ∈ l.map Prod.fst
  | [] => by simp [put]
  | (k', v') :: r => by
    by_cases h : k' = k
    · simp [put, h]
    · have ih := mem_keys_put k j v r
      simp only [put, h, if_false, List.map_cons, List.mem_cons, ih]
      constructor
      · rintro (h | h | h) <;> simp [h]
      · rintro (h | h | h) <;> simp [h]

theorem nodup_put (k : κ) (v : α) :
    ∀ l : List (κ × α), (l.map Prod.fst).Nodup → ((put k v l).map Prod.fst).Nodup
  | [], _ => by simp [put]
  | (k', v') :: r, h => by
    rw [List.map_cons, List.nodup_cons] at h
    by_cases hk : k' = k
    · subst hk
      simpa [put] using h
    · simp only [put, hk, if_false, List.map_cons, List.nodup_cons]
      refine ⟨fun hm => ?_, nodup_put k v r h.2⟩
      rcases (mem_keys_put k k' v r).1 hm with hm | hm
      · exact hk hm
      · exact h.1 hm

theorem drop_sublist (k : κ) : ∀ l : List (κ × α), (drop k l).Sublist l
  | [] => List.Sublist.slnil
  | (k', v') :: r => by
    by_cases h : k' = k
    · simpa [drop, h] using (drop_sublist k r).cons (k, v')
    · simpa [drop, h] using drop_sublist k r

theorem nodup_drop (k : κ) (l : List (κ × α)) (h : (l.map Prod.fst).Nodup) :
    ((drop k l).map Prod.fst).Nodup :=
  ((drop_sublist k l).map Prod.fst).nodup h

def get? (m : OrderedMap κ α) (k : κ) : Option α := lookup k m.entries

def contains (m : OrderedMap κ α) (k : κ) : Bool := (m.get? k).isSome

/-- Sets a key: in place when it is present, at the end when it is new. -/
def insert (m : OrderedMap κ α) (k : κ) (v : α) : OrderedMap κ α :=
  ⟨put k v m.entries, nodup_put k v m.entries m.nodup⟩

/-- Removes a key; the others keep their order. -/
def erase (m : OrderedMap κ α) (k : κ) : OrderedMap κ α :=
  ⟨drop k m.entries, nodup_drop k m.entries m.nodup⟩

/-- The map a list of settings builds, the last value of a repeated key winning and its first place kept. -/
def ofList (l : List (κ × α)) : OrderedMap κ α := l.foldl (fun m e => m.insert e.1 e.2) empty

/-! ## What each operation does to `get?` and `keys` -/

theorem lookup_put (k j : κ) (v : α) :
    ∀ l : List (κ × α), lookup j (put k v l) = if k = j then some v else lookup j l
  | [] => by simp [put, lookup]
  | (k', v') :: r => by
    by_cases h : k' = k
    · subst h
      by_cases hj : k' = j <;> simp [put, lookup, hj]
    · by_cases hj : k' = j
      · subst hj
        simp [put, lookup, h, Ne.symm h]
      · simp [put, lookup, h, hj, lookup_put k j v r]

theorem lookup_drop (k j : κ) :
    ∀ l : List (κ × α), lookup j (drop k l) = if k = j then none else lookup j l
  | [] => by simp [drop, lookup]
  | (k', v') :: r => by
    have ih := lookup_drop k j r
    by_cases h : k' = k
    · subst h
      by_cases hj : k' = j <;> simp [drop, lookup, hj] at ih ⊢ <;> exact ih
    · by_cases hj : k' = j
      · subst hj
        simp [drop, lookup, h, Ne.symm h]
      · simp [drop, lookup, h, hj, ih]

@[simp] theorem get?_empty (k : κ) : (∅ : OrderedMap κ α).get? k = none := rfl

@[simp] theorem get?_insert (m : OrderedMap κ α) (k j : κ) (v : α) :
    (m.insert k v).get? j = if k = j then some v else m.get? j := lookup_put k j v m.entries

@[simp] theorem get?_erase (m : OrderedMap κ α) (k j : κ) :
    (m.erase k).get? j = if k = j then none else m.get? j := lookup_drop k j m.entries

theorem lookup_eq_none_iff (k : κ) :
    ∀ l : List (κ × α), lookup k l = none ↔ k ∉ l.map Prod.fst
  | [] => by simp [lookup]
  | (k', v) :: r => by
    by_cases h : k' = k
    · simp [lookup, h]
    · simp [lookup, h, Ne.symm h, lookup_eq_none_iff k r]

theorem get?_eq_none_iff (m : OrderedMap κ α) (k : κ) : m.get? k = none ↔ k ∉ m.keys :=
  lookup_eq_none_iff k m.entries

theorem mem_values_of_lookup {k : κ} {v : α} : ∀ {l : List (κ × α)}, lookup k l = some v → v ∈ l.map Prod.snd
  | (k', v') :: r, h => by
    rw [lookup] at h
    rw [List.map_cons, List.mem_cons]
    by_cases hk : k' = k
    · rw [if_pos hk] at h
      exact Or.inl (Option.some.inj h).symm
    · rw [if_neg hk] at h
      exact Or.inr (mem_values_of_lookup h)

theorem mem_values_of_get? {m : OrderedMap κ α} {k : κ} {v : α} (h : m.get? k = some v) : v ∈ m.values :=
  mem_values_of_lookup h

theorem mem_entries_of_lookup {k : κ} {v : α} : ∀ {l : List (κ × α)}, lookup k l = some v → (k, v) ∈ l
  | (k', v') :: r, h => by
    rw [lookup] at h
    by_cases hk : k' = k
    · rw [if_pos hk] at h
      rw [hk, Option.some.inj h]
      exact List.mem_cons_self
    · rw [if_neg hk] at h
      exact List.mem_cons_of_mem _ (mem_entries_of_lookup h)

theorem mem_entries_of_get? {m : OrderedMap κ α} {k : κ} {v : α} (h : m.get? k = some v) : (k, v) ∈ m.entries :=
  mem_entries_of_lookup h

theorem mem_put {k : κ} {v : α} {e : κ × α} : ∀ {l : List (κ × α)}, e ∈ put k v l → e = (k, v) ∨ e ∈ l
  | [], h => Or.inl (List.mem_singleton.1 h)
  | (k', v') :: r, h => by
    rw [put] at h
    by_cases hk : k' = k
    · rw [if_pos hk] at h
      exact (List.mem_cons.1 h).imp_right (List.mem_cons_of_mem _)
    · rw [if_neg hk] at h
      rcases List.mem_cons.1 h with rfl | h
      · exact Or.inr List.mem_cons_self
      · exact (mem_put h).imp_right (List.mem_cons_of_mem _)

theorem mem_entries_insert {m : OrderedMap κ α} {k : κ} {v : α} {e : κ × α} (h : e ∈ (m.insert k v).entries) :
    e = (k, v) ∨ e ∈ m.entries := mem_put h

theorem mem_entries_erase {m : OrderedMap κ α} {k : κ} {e : κ × α} (h : e ∈ (m.erase k).entries) : e ∈ m.entries :=
  (drop_sublist k m.entries).subset h

/-! ## Operations that change nothing -/

theorem put_put (k : κ) (v w : α) : ∀ l : List (κ × α), put k w (put k v l) = put k w l
  | [] => by simp [put]
  | (k', v') :: r => by
    by_cases h : k' = k
    · simp [put, h]
    · simp [put, h, put_put k v w r]

theorem put_of_lookup (k : κ) (v : α) : ∀ l : List (κ × α), lookup k l = some v → put k v l = l
  | (k', v') :: r, hl => by
    by_cases h : k' = k
    · rw [lookup, if_pos h] at hl
      obtain rfl := Option.some.inj hl
      rw [put, if_pos h, h]
    · rw [lookup, if_neg h] at hl
      rw [put, if_neg h, put_of_lookup k v r hl]

theorem drop_of_lookup_eq_none (k : κ) : ∀ l : List (κ × α), lookup k l = none → drop k l = l
  | [], _ => rfl
  | (k', v') :: r, hl => by
    by_cases h : k' = k
    · rw [lookup, if_pos h] at hl
      cases hl
    · rw [lookup, if_neg h] at hl
      rw [drop, if_neg h, drop_of_lookup_eq_none k r hl]

@[simp] theorem insert_insert (m : OrderedMap κ α) (k : κ) (v w : α) : (m.insert k v).insert k w = m.insert k w :=
  ext (put_put k v w m.entries)

theorem insert_of_get? {m : OrderedMap κ α} {k : κ} {v : α} (h : m.get? k = some v) : m.insert k v = m :=
  ext (put_of_lookup k v m.entries h)

theorem erase_of_get?_eq_none {m : OrderedMap κ α} {k : κ} (h : m.get? k = none) : m.erase k = m :=
  ext (drop_of_lookup_eq_none k m.entries h)

/-! ## Maps from lists -/

theorem put_of_lookup_eq_none (k : κ) (v : α) : ∀ l : List (κ × α), lookup k l = none → put k v l = l ++ [(k, v)]
  | [], _ => rfl
  | (k', v') :: r, hl => by
    by_cases h : k' = k
    · rw [lookup, if_pos h] at hl
      cases hl
    · rw [lookup, if_neg h] at hl
      rw [put, if_neg h, put_of_lookup_eq_none k v r hl, List.cons_append]

theorem entries_foldl_insert : ∀ (l : List (κ × α)) (m : OrderedMap κ α), ((m.entries ++ l).map Prod.fst).Nodup →
    (l.foldl (fun m e => m.insert e.1 e.2) m).entries = m.entries ++ l
  | [], m, _ => (List.append_nil _).symm
  | (k, v) :: l, m, h => by
    have hnew : lookup k m.entries = none := by
      rw [lookup_eq_none_iff]
      intro hmem
      rw [List.map_append, List.nodup_append] at h
      exact h.2.2 k hmem k List.mem_cons_self rfl
    have hinsert : (m.insert k v).entries = m.entries ++ [(k, v)] := put_of_lookup_eq_none k v m.entries hnew
    have happend : (m.insert k v).entries ++ l = m.entries ++ (k, v) :: l := by
      rw [hinsert, List.append_assoc, List.singleton_append]
    have ih := entries_foldl_insert l (m.insert k v) (happend ▸ h)
    rw [List.foldl_cons, ih, happend]

/-- A map is built again from its own entries. -/
theorem ofList_entries (m : OrderedMap κ α) : ofList m.entries = m :=
  ext ((entries_foldl_insert m.entries empty m.nodup).trans (List.nil_append _))

end OrderedMap

end DynamicMembers
