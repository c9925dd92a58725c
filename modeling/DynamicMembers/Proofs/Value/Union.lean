import DynamicMembers.Value.Union
import Mathlib.Data.List.Basic
/-!
# Unions of normal types — the result is normal and has no member of its own

A union of normal types is normal (`unionOf_normalized`), its members are `mixed` or members of the types
(`mem_members_unionOf`), and a normal type is the union of its members (`unionOf_members`).
-/
namespace DynamicMembers
namespace PhpType

/-! ## Each once, in order -/

theorem mem_distinct {t : PhpType} : ∀ {l : List PhpType}, t ∈ distinct l ↔ t ∈ l
  | [] => by simp [distinct]
  | u :: l => by
    by_cases h : t = u
    · simp [distinct, h]
    · simp [distinct, h, mem_distinct (l := l)]

theorem nodup_distinct : ∀ l : List PhpType, (distinct l).Nodup
  | [] => List.nodup_nil
  | t :: l => by
    rw [distinct, List.nodup_cons]
    refine ⟨fun h => ?_, (nodup_distinct l).filter _⟩
    simpa using (List.mem_filter.1 h).2

theorem distinct_of_nodup : ∀ {l : List PhpType}, l.Nodup → distinct l = l
  | [], _ => rfl
  | t :: l, h => by
    obtain ⟨ht, hl⟩ := List.nodup_cons.1 h
    have hf : l.filter (· ≠ t) = l := List.filter_eq_self.2 (fun u hu => by
      simp only [decide_eq_true_eq]
      rintro rfl
      exact ht hu)
    rw [distinct, distinct_of_nodup hl, hf]

/-! ## Members -/

theorem members_of_not_union {t : PhpType} (h : t.isUnion = false) : t.members = [t] := by
  cases t with
  | union l => cases h
  | _ => rfl

theorem not_union_of_mem_members {t m : PhpType} (ht : t.Normalized) (hm : m ∈ t.members) : m.isUnion = false := by
  cases t with
  | union l => exact (ht.2.2 m hm).2
  | _ =>
    obtain rfl := List.mem_singleton.1 hm
    rfl

theorem members_ne_nil {t : PhpType} (h : t.Normalized) : t.members ≠ [] := by
  cases t with
  | union l =>
    rintro rfl
    exact absurd h.1 (by decide)
  | _ => exact List.cons_ne_nil _ _

/-- The members of a normal type have no further members. -/
theorem flatMap_members {t : PhpType} (h : t.Normalized) : t.members.flatMap members = t.members := by
  have hsingle : ∀ m ∈ t.members, members m = [m] := fun m hm =>
    members_of_not_union (not_union_of_mem_members h hm)
  rw [List.flatMap_congr hsingle, List.flatMap_singleton']

theorem normalized_of_not_union {t : PhpType} (h : t.isUnion = false) : t.Normalized := by
  cases t with
  | union l => cases h
  | _ => trivial

theorem ofMembers_normalized {l : List PhpType} (hd : l.Nodup) (hm : ∀ m ∈ l, m ≠ mixed ∧ m.isUnion = false) :
    (ofMembers l).Normalized := by
  unfold ofMembers
  split
  · trivial
  · exact normalized_of_not_union (hm _ List.mem_cons_self).2
  · rename_i hnil hone
    refine ⟨?_, hd, hm⟩
    rcases l with _ | ⟨t, _ | ⟨u, l⟩⟩
    · exact absurd rfl hnil
    · exact absurd rfl (hone t)
    · simp

theorem mem_members_ofMembers {l : List PhpType} (hm : ∀ m ∈ l, m.isUnion = false) {m : PhpType}
    (h : m ∈ (ofMembers l).members) : m = mixed ∨ m ∈ l := by
  unfold ofMembers at h
  split at h
  · exact Or.inl (List.mem_singleton.1 h)
  · rename_i t
    rw [members_of_not_union (hm t List.mem_cons_self)] at h
    exact Or.inr h
  · exact Or.inr h

/-! ## Unions -/

theorem unionOf_of_mem {types : List PhpType} (h : mixed ∈ types.flatMap members) : unionOf types = mixed := if_pos h

theorem unionOf_of_not_mem {types : List PhpType} (h : mixed ∉ types.flatMap members) :
    unionOf types = ofMembers (distinct (types.flatMap members)) := if_neg h

theorem not_union_of_mem_parts {types : List PhpType} (h : ∀ t ∈ types, t.Normalized) :
    ∀ m ∈ types.flatMap members, m.isUnion = false := by
  intro m hm
  obtain ⟨t, ht, hmt⟩ := List.mem_flatMap.1 hm
  exact not_union_of_mem_members (h t ht) hmt

/-- **A union of normal types is normal.** -/
theorem unionOf_normalized {types : List PhpType} (h : ∀ t ∈ types, t.Normalized) : (unionOf types).Normalized := by
  by_cases hmixed : mixed ∈ types.flatMap members
  · rw [unionOf_of_mem hmixed]
    trivial
  · rw [unionOf_of_not_mem hmixed]
    refine ofMembers_normalized (nodup_distinct _) (fun m hm => ?_)
    have hm' := mem_distinct.1 hm
    exact ⟨fun he => hmixed (he ▸ hm'), not_union_of_mem_parts h m hm'⟩

theorem mem_members_unionOf {types : List PhpType} (h : ∀ t ∈ types, t.Normalized) {m : PhpType}
    (hm : m ∈ (unionOf types).members) : m = mixed ∨ ∃ t ∈ types, m ∈ t.members := by
  by_cases hmixed : mixed ∈ types.flatMap members
  · rw [unionOf_of_mem hmixed] at hm
    exact Or.inl (List.mem_singleton.1 hm)
  · rw [unionOf_of_not_mem hmixed] at hm
    have hp := not_union_of_mem_parts h
    rcases mem_members_ofMembers (fun m hm => hp m (mem_distinct.1 hm)) hm with hm | hm
    · exact Or.inl hm
    · exact Or.inr (List.mem_flatMap.1 (mem_distinct.1 hm))

/-- **A normal type is the union of its members.** -/
theorem unionOf_members {t : PhpType} (h : t.Normalized) : unionOf t.members = t := by
  have hflat := flatMap_members h
  cases t with
  | union l =>
    obtain ⟨hlen, hd, hm⟩ := h
    have hmixed : mixed ∉ l := fun hc => (hm mixed hc).1 rfl
    rw [members] at hflat
    rw [members, unionOf_of_not_mem (by rwa [hflat]), hflat, distinct_of_nodup hd]
    rcases l with _ | ⟨t, _ | ⟨u, l⟩⟩
    · simp at hlen
    · simp at hlen
    · rfl
  | _ => rfl

end PhpType
end DynamicMembers
