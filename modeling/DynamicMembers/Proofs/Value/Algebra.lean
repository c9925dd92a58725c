import DynamicMembers.Proofs.Value.Union
/-!
# The algebra of unions — members in order of first occurrence

The members of a union of normal types are the members of these types in order of first occurrence, each once, unless
`mixed` is one of them and absorbs the rest.  So unions of unions are unions of all their types, and `nullable` adds
`null` where it is missing (`unionOf_algebra`).
-/
namespace DynamicMembers
namespace PhpType

/-! ## First occurrences -/

/-- The second list holds the members of the first, each once, in order of first occurrence. -/
structure FirstOccurrences (all firsts : List PhpType) : Prop where
  mem_iff : ∀ t, t ∈ firsts ↔ t ∈ all
  ordered : firsts.Pairwise (fun t u => all.idxOf t < all.idxOf u)

theorem firstOccurrences_distinct : ∀ l : List PhpType, FirstOccurrences l (distinct l)
  | [] => ⟨fun _ => Iff.rfl, List.Pairwise.nil⟩
  | t :: l => by
    have ih := (firstOccurrences_distinct l).ordered
    have hlater : ∀ u ∈ (distinct l).filter (· ≠ t), (t :: l).idxOf u = l.idxOf u + 1 := by
      intro u hu
      have hne : u ≠ t := by simpa using (List.mem_filter.1 hu).2
      exact List.idxOf_cons_ne l hne.symm
    refine ⟨fun _ => mem_distinct, ?_⟩
    rw [distinct, List.pairwise_cons]
    refine ⟨fun u hu => ?_, (ih.filter _).imp_of_mem (fun hu hv huv => ?_)⟩
    · rw [hlater u hu, List.idxOf_cons_self]
      omega
    · rw [hlater _ hu, hlater _ hv]
      omega

/-- What a list adds behind another: its members that are new. -/
theorem distinct_append (m : List PhpType) : ∀ l : List PhpType,
    distinct (l ++ m) = distinct l ++ (distinct m).filter (· ∉ distinct l)
  | [] => by simp [distinct]
  | t :: l => by
    have ih := distinct_append m l
    rw [List.cons_append, distinct, ih, distinct, List.filter_append, List.filter_filter, List.cons_append]
    congr 2
    refine List.filter_congr (fun u _ => ?_)
    by_cases hu : u = t
    · simp [hu]
    · simp [hu]

theorem distinct_distinct_append (l m : List PhpType) : distinct (distinct l ++ distinct m) = distinct (l ++ m) := by
  have hl : distinct (distinct l) = distinct l := distinct_of_nodup (nodup_distinct l)
  have hm : distinct (distinct m) = distinct m := distinct_of_nodup (nodup_distinct m)
  rw [distinct_append, distinct_append, hl, hm]

/-! ## Members of a union -/

theorem mixed_mem_members_iff {t : PhpType} (h : t.Normalized) : mixed ∈ t.members ↔ t = mixed := by
  cases t with
  | union l => simpa [members] using fun hm => (h.2.2 mixed hm).1 rfl
  | _ => simp [members]

theorem mixed_mem_parts_iff {types : List PhpType} (h : ∀ t ∈ types, t.Normalized) :
    mixed ∈ types.flatMap members ↔ mixed ∈ types := by
  rw [List.mem_flatMap]
  constructor
  · rintro ⟨t, ht, hm⟩
    rwa [← (mixed_mem_members_iff (h t ht)).1 hm]
  · exact fun hm => ⟨mixed, hm, List.mem_singleton.2 rfl⟩

theorem members_ofMembers {l : List PhpType} (hne : l ≠ []) (hm : ∀ m ∈ l, m.isUnion = false) :
    (ofMembers l).members = l := by
  unfold ofMembers
  split
  · exact absurd rfl hne
  · exact members_of_not_union (hm _ List.mem_cons_self)
  · rfl

theorem unionOf_congr {l m : List PhpType} (h : distinct (l.flatMap members) = distinct (m.flatMap members)) :
    unionOf l = unionOf m := by
  have hmixed : mixed ∈ l.flatMap members ↔ mixed ∈ m.flatMap members := by
    rw [← mem_distinct, h, mem_distinct]
  by_cases hm : mixed ∈ m.flatMap members
  · rw [unionOf_of_mem (hmixed.2 hm), unionOf_of_mem hm]
  · rw [unionOf_of_not_mem (fun hl => hm (hmixed.1 hl)), unionOf_of_not_mem hm, h]

theorem unionOf_of_mixed {types : List PhpType} (h : mixed ∈ types) : unionOf types = mixed :=
  unionOf_of_mem (List.mem_flatMap.2 ⟨mixed, h, List.mem_singleton.2 rfl⟩)

section Unmixed

variable {types : List PhpType}

theorem parts_ne_nil (h : ∀ t ∈ types, t.Normalized) (hne : types ≠ []) : types.flatMap members ≠ [] := by
  obtain ⟨t, ht⟩ := List.exists_mem_of_ne_nil types hne
  obtain ⟨m, hm⟩ := List.exists_mem_of_ne_nil t.members (members_ne_nil (h t ht))
  exact List.ne_nil_of_mem (List.mem_flatMap.2 ⟨t, ht, hm⟩)

/-- **Where `mixed` does not absorb them, the members of the types are the members of their union.** -/
theorem members_unionOf (h : ∀ t ∈ types, t.Normalized) (hne : types ≠ []) (hmixed : mixed ∉ types) :
    (unionOf types).members = distinct (types.flatMap members) := by
  have hparts : distinct (types.flatMap members) ≠ [] := by
    obtain ⟨m, hm⟩ := List.exists_mem_of_ne_nil _ (parts_ne_nil h hne)
    exact List.ne_nil_of_mem (mem_distinct.2 hm)
  rw [unionOf_of_not_mem (fun hm => hmixed ((mixed_mem_parts_iff h).1 hm))]
  exact members_ofMembers hparts (fun m hm => not_union_of_mem_parts h m (mem_distinct.1 hm))

theorem unionOf_eq_mixed_iff (h : ∀ t ∈ types, t.Normalized) : unionOf types = mixed ↔ types = [] ∨ mixed ∈ types := by
  constructor
  · intro hunion
    by_contra hnot
    obtain ⟨hne, hmixed⟩ := not_or.1 hnot
    have hmem : mixed ∈ (unionOf types).members := by
      rw [hunion]
      exact List.mem_singleton.2 rfl
    rw [members_unionOf h hne hmixed, mem_distinct, mixed_mem_parts_iff h] at hmem
    exact hmixed hmem
  · rintro (rfl | hmixed)
    · rfl
    · exact unionOf_of_mixed hmixed

end Unmixed

/-! ## Unions of unions -/

theorem unionOf_singleton {t : PhpType} (h : t.Normalized) : unionOf [t] = t := by
  have hparts : [t].flatMap members = t.members.flatMap members := by
    rw [flatMap_members h, List.flatMap_singleton]
  rw [unionOf_congr (congrArg distinct hparts), unionOf_members h]

/-- **The union of two unions is the union of all their types.** -/
theorem unionOf_pair {xs ys : List PhpType} (hx : ∀ t ∈ xs, t.Normalized) (hy : ∀ t ∈ ys, t.Normalized)
    (hxne : xs ≠ []) (hyne : ys ≠ []) : unionOf [unionOf xs, unionOf ys] = unionOf (xs ++ ys) := by
  by_cases hxm : mixed ∈ xs
  · rw [unionOf_of_mixed hxm, unionOf_of_mixed (List.mem_append_left ys hxm)]
    exact unionOf_of_mixed List.mem_cons_self
  by_cases hym : mixed ∈ ys
  · rw [unionOf_of_mixed hym, unionOf_of_mixed (List.mem_append_right xs hym)]
    exact unionOf_of_mixed (List.mem_cons_of_mem _ List.mem_cons_self)
  refine unionOf_congr ?_
  calc distinct ([unionOf xs, unionOf ys].flatMap members)
      = distinct ((unionOf xs).members ++ (unionOf ys).members) := by simp
    _ = distinct (distinct (xs.flatMap members) ++ distinct (ys.flatMap members)) := by
        rw [members_unionOf hx hxne hxm, members_unionOf hy hyne hym]
    _ = distinct ((xs ++ ys).flatMap members) := by rw [distinct_distinct_append, List.flatMap_append]

/-! ## Null -/

theorem isNullable_iff (t : PhpType) : t.isNullable = true ↔ t = mixed ∨ null ∈ t.members := by
  cases t <;> simp [isNullable, members]

theorem normalized_with_null {t : PhpType} (h : t.Normalized) : ∀ u ∈ [t, null], u.Normalized := by
  intro u hu
  rcases List.mem_cons.1 hu with rfl | hu
  · exact h
  · rw [List.mem_singleton.1 hu]
    trivial

theorem firstOccurrences_nullable {t : PhpType} (h : t.Normalized) (hmixed : t ≠ mixed) :
    FirstOccurrences (t.members ++ [null]) t.nullable.members := by
  have hnot : mixed ∉ [t, null] := by simpa using fun ht => hmixed ht.symm
  have hparts : [t, null].flatMap members = t.members ++ [null] := by simp [members]
  rw [nullable, members_unionOf (normalized_with_null h) (List.cons_ne_nil _ _) hnot, hparts]
  exact firstOccurrences_distinct _

theorem isNullable_nullable {t : PhpType} (h : t.Normalized) : t.nullable.isNullable = true := by
  by_cases hmixed : t = mixed
  · subst hmixed
    rfl
  · have hmem : null ∈ t.members ++ [null] := List.mem_append_right _ (List.mem_singleton.2 rfl)
    exact (isNullable_iff _).2 (Or.inr (((firstOccurrences_nullable h hmixed).mem_iff null).2 hmem))

theorem nullable_eq_self_iff {t : PhpType} (h : t.Normalized) : t.nullable = t ↔ t.isNullable = true := by
  constructor
  · intro hself
    rw [← hself]
    exact isNullable_nullable h
  · intro hnull
    rcases (isNullable_iff t).1 hnull with rfl | hmem
    · rfl
    · have hparts : distinct ([t, null].flatMap members) = distinct ([t].flatMap members) := by
        have hnew : (distinct [null]).filter (· ∉ distinct t.members) = [] := by
          simp [distinct, mem_distinct, hmem]
        have hpair : [t, null].flatMap members = t.members ++ [null] := by simp [members]
        rw [hpair, distinct_append, hnew, List.append_nil, List.flatMap_singleton]
      rw [nullable, unionOf_congr hparts, unionOf_singleton h]

/-- **The algebra of unions.**  A union of normal types is normal, is `mixed` when there is no type or one of them is
`mixed`, and else has their members in order of first occurrence; unions of unions are unions of all the types; and
`nullable` makes every normal type nullable, adds `null` to every one but `mixed`, and changes those that were not. -/
theorem unionOf_algebra :
    (∀ types : List PhpType, (∀ t ∈ types, t.Normalized) →
      (unionOf types).Normalized ∧ (unionOf types = mixed ↔ types = [] ∨ mixed ∈ types) ∧
      (types ≠ [] → mixed ∉ types → FirstOccurrences (types.flatMap members) (unionOf types).members)) ∧
    (∀ xs ys : List PhpType, (∀ t ∈ xs, t.Normalized) → (∀ t ∈ ys, t.Normalized) → xs ≠ [] → ys ≠ [] →
      unionOf [unionOf xs, unionOf ys] = unionOf (xs ++ ys)) ∧
    ∀ t : PhpType, t.Normalized →
      t.nullable.isNullable = true ∧ (t ≠ mixed → FirstOccurrences (t.members ++ [null]) t.nullable.members) ∧
      (t.nullable = t ↔ t.isNullable = true) := by
  refine ⟨fun types h => ⟨unionOf_normalized h, unionOf_eq_mixed_iff h, fun hne hmixed => ?_⟩, fun xs ys hx hy => ?_,
    fun t h => ⟨isNullable_nullable h, firstOccurrences_nullable h, nullable_eq_self_iff h⟩⟩
  · rw [members_unionOf h hne hmixed]
    exact firstOccurrences_distinct _
  · exact unionOf_pair hx hy

/-- Types that share members, in different orders. -/
def sharedMembers : List PhpType :=
  [.bool, .union [.intLiteral 0, .bool, .named "App\\Tag"], .null, .union [.named "App\\Tag", .stringLiteral "|"]]

theorem unionOf_algebra_shared :
    (∀ t ∈ sharedMembers, t.Normalized) ∧ mixed ∉ sharedMembers ∧
    FirstOccurrences (sharedMembers.flatMap members) (unionOf sharedMembers).members ∧
    unionOf [unionOf sharedMembers, unionOf sharedMembers.reverse] = unionOf (sharedMembers ++ sharedMembers.reverse) ∧
    (unionOf sharedMembers).nullable = unionOf sharedMembers ∧
    FirstOccurrences [.int, .float, .null] (union [.int, .float]).nullable.members := by
  have hnormal : ∀ t ∈ sharedMembers, t.Normalized := by
    simp only [sharedMembers, List.forall_mem_cons, List.not_mem_nil, false_imp_iff, implies_true, and_true]
    exact ⟨trivial, ⟨by decide, by decide, by decide⟩, trivial, ⟨by decide, by decide, by decide⟩⟩
  have hreverse : ∀ t ∈ sharedMembers.reverse, t.Normalized := fun t ht => hnormal t (List.mem_reverse.1 ht)
  have hnumber : (union [.int, .float]).Normalized := ⟨by decide, by decide, by decide⟩
  obtain ⟨hunion, -, hfirsts⟩ := unionOf_algebra.1 sharedMembers hnormal
  exact ⟨hnormal, by decide, hfirsts (by decide) (by decide),
    unionOf_algebra.2.1 sharedMembers sharedMembers.reverse hnormal hreverse (by decide) (by decide),
    (unionOf_algebra.2.2 (unionOf sharedMembers) hunion).2.2.2 (by decide),
    (unionOf_algebra.2.2 (.union [.int, .float]) hnumber).2.1 (by decide)⟩

/-- `mixed` admits `null` and absorbs it: `null` does not become a member. -/
theorem mixed_nullable_without_null :
    mixed.Normalized ∧ ¬ ∀ m, m ∈ mixed.nullable.members ↔ m ∈ mixed.members ∨ m = null := by
  refine ⟨trivial, fun h => ?_⟩
  have hnull : null ∈ mixed.nullable.members := (h null).2 (Or.inr rfl)
  exact absurd hnull (by decide)

end PhpType
end DynamicMembers
