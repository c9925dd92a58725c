import DynamicMembers.Proofs.Delegation.Graph
import Mathlib.Data.List.Nodup
/-!
# Searches of a delegation graph — what a search under a limit of depth enters

Every class is entered once, at the end of a chain of delegations as long as its depth, and whatever a class below the
limit delegates to is entered too.  With a limit no smaller than the number of classes the search is `preorder`.
-/
namespace DynamicMembers
namespace QueryContext

variable (x : QueryContext)

/-- Names in a row are searched one after the other, the later ones without what the earlier ones met. -/
theorem entered_append (seen : List ClassKey) (a b : List (Nat × String)) :
    x.entered seen (a ++ b) =
      x.entered seen a ++ x.entered (((x.entered seen a).map (·.2.key)).reverse ++ seen) b := by
  fun_induction entered x seen a with
  | case1 => rfl
  | case2 seen depth name rest h ih => rw [List.cons_append, entered_cons_of_unknown x depth seen _ h, ih]
  | case3 seen depth name rest c h hs ih => rw [List.cons_append, entered_cons_of_seen x depth _ h hs, ih]
  | case4 seen depth name rest c h hs ih =>
    rw [List.cons_append, entered_cons_of_new x depth _ h hs, ← List.append_assoc, ih]
    simp

/-- **With a limit no smaller than the number of classes, a search enters the whole pre-order**: a class at a depth has
as many classes before it on its way, so the limit is never met. -/
theorem map_snd_entered (hlimit : x.index.size ≤ x.settings.maxDepth) (seen : List ClassKey)
    (names : List (Nat × String)) (hdepth : ∀ p ∈ names, p.1 + x.index.unseen seen ≤ x.index.size) :
    (x.entered seen names).map Prod.snd = x.preorder seen (names.map Prod.snd) := by
  fun_induction entered x seen names with
  | case1 => rw [List.map_nil, List.map_nil, preorder]
  | case2 seen depth name rest h ih =>
    rw [List.map_cons, preorder_cons_of_unknown x seen _ h, ih (fun p hp => hdepth p (List.mem_cons_of_mem _ hp))]
  | case3 seen depth name rest c h hs ih =>
    rw [List.map_cons, preorder_cons_of_seen x _ h hs, ih (fun p hp => hdepth p (List.mem_cons_of_mem _ hp))]
  | case4 seen depth name rest c h hs ih =>
    have hlt := ClassIndex.unseen_cons_lt h hs
    have hd : depth + x.index.unseen seen ≤ x.index.size := hdepth _ List.mem_cons_self
    have hoffers : x.offers depth c = (x.targetNames c).map (depth + 1, ·) := if_pos (by omega)
    rw [List.map_cons, List.map_cons, preorder_cons_of_new x _ h hs, ih]
    · rw [hoffers, List.map_append, List.map_map]
      simp [Function.comp_def]
    · intro p hp
      rw [hoffers] at hp
      rcases List.mem_append.1 hp with hp | hp
      · obtain ⟨n, -, rfl⟩ := List.mem_map.1 hp
        simp only
        omega
      · have := hdepth p (List.mem_cons_of_mem _ hp)
        omega

theorem map_snd_enteredFrom (hlimit : x.index.size ≤ x.settings.maxDepth) (c : ClassInfo) :
    (x.enteredFrom c).map Prod.snd = x.preorder [] [c.name] :=
  x.map_snd_entered hlimit [] [(0, c.name)] (fun p hp => by
    rw [List.mem_singleton.1 hp, ClassIndex.unseen_nil]
    exact Nat.le_of_eq (Nat.zero_add _))

/-! ## Each class once, within the limit -/

theorem key_not_mem_of_mem_entered (seen : List ClassKey) (names : List (Nat × String)) :
    ∀ e ∈ x.entered seen names, e.2.key ∉ seen := by
  fun_induction entered x seen names with
  | case1 => intro e he; cases he
  | case2 seen depth name rest h ih => exact ih
  | case3 seen depth name rest c h hs ih => exact ih
  | case4 seen depth name rest c h hs ih =>
    intro e he
    rcases List.mem_cons.1 he with rfl | he
    · exact hs
    · exact fun hm => ih e he (List.mem_cons_of_mem _ hm)

theorem nodup_keys_entered (seen : List ClassKey) (names : List (Nat × String)) :
    ((x.entered seen names).map (·.2.key)).Nodup := by
  fun_induction entered x seen names with
  | case1 => exact List.nodup_nil
  | case2 seen depth name rest h ih => exact ih
  | case3 seen depth name rest c h hs ih => exact ih
  | case4 seen depth name rest c h hs ih =>
    rw [List.map_cons, List.nodup_cons]
    refine ⟨fun hm => ?_, ih⟩
    obtain ⟨e, he, hk⟩ := List.mem_map.1 hm
    exact key_not_mem_of_mem_entered x _ _ e he (by rw [hk]; exact List.mem_cons_self)

/-- A class is entered at one depth only. -/
theorem depth_unique {seen : List ClassKey} {names : List (Nat × String)} {i j : Nat} {c : ClassInfo}
    (hi : (i, c) ∈ x.entered seen names) (hj : (j, c) ∈ x.entered seen names) : i = j := by
  have h : (i, c) = (j, c) := List.inj_on_of_nodup_map (x.nodup_keys_entered seen names) hi hj rfl
  exact congrArg Prod.fst h

theorem depth_le_of_mem_entered (seen : List ClassKey) (names : List (Nat × String))
    (hn : ∀ p ∈ names, p.1 ≤ x.settings.maxDepth) : ∀ e ∈ x.entered seen names, e.1 ≤ x.settings.maxDepth := by
  fun_induction entered x seen names with
  | case1 => intro e he; cases he
  | case2 seen depth name rest h ih => exact ih (fun p hp => hn p (List.mem_cons_of_mem _ hp))
  | case3 seen depth name rest c h hs ih => exact ih (fun p hp => hn p (List.mem_cons_of_mem _ hp))
  | case4 seen depth name rest c h hs ih =>
    intro e he
    rcases List.mem_cons.1 he with rfl | he
    · exact hn _ List.mem_cons_self
    · refine ih (fun p hp => ?_) e he
      rcases List.mem_append.1 hp with hp | hp
      · unfold offers at hp
        split at hp
        · rename_i hlt
          obtain ⟨n, -, rfl⟩ := List.mem_map.1 hp
          exact hlt
        · cases hp
      · exact hn p (List.mem_cons_of_mem _ hp)

/-! ## What is entered leads on, and how it was reached -/

/-- Every named class is entered, unless it was seen before. -/
theorem exists_mem_entered {d : ClassInfo} {p : Nat × String} (hd : x.index.find? p.2 = some d)
    (seen : List ClassKey) (names : List (Nat × String)) (hp : p ∈ names) (hk : d.key ∉ seen) :
    ∃ depth, (depth, d) ∈ x.entered seen names := by
  fun_induction entered x seen names with
  | case1 => cases hp
  | case2 seen depth name rest h ih =>
    rcases List.mem_cons.1 hp with rfl | hp
    · rw [h] at hd; cases hd
    · exact ih hp hk
  | case3 seen depth name rest c h hs ih =>
    rcases List.mem_cons.1 hp with rfl | hp
    · rw [h] at hd; cases hd; exact absurd hs hk
    · exact ih hp hk
  | case4 seen depth name rest c h hs ih =>
    by_cases hcd : d.key = c.key
    · exact ⟨depth, by rw [ClassIndex.eq_of_key_eq hd h hcd]; exact List.mem_cons_self⟩
    · rcases List.mem_cons.1 hp with rfl | hp
      · rw [h] at hd; cases hd; exact absurd rfl hcd
      · obtain ⟨i, hi⟩ := ih (List.mem_append_right _ hp) (by simp [hcd, hk])
        exact ⟨i, List.mem_cons_of_mem _ hi⟩

/-- **A search is closed**: what an entered class hands the query on to is entered too, unless it was seen before. -/
theorem exists_mem_entered_of_offers {c d : ClassInfo} {depth : Nat} {p : Nat × String} (hp : p ∈ x.offers depth c)
    (hd : x.index.find? p.2 = some d) (seen : List ClassKey) (names : List (Nat × String))
    (hc : (depth, c) ∈ x.entered seen names) (hk : d.key ∉ seen) : ∃ i, (i, d) ∈ x.entered seen names := by
  fun_induction entered x seen names with
  | case1 => cases hc
  | case2 seen _ name rest h ih => exact ih hc hk
  | case3 seen _ name rest b h hs ih => exact ih hc hk
  | case4 seen i name rest b h hs ih =>
    by_cases hbd : d.key = b.key
    · exact ⟨i, by rw [ClassIndex.eq_of_key_eq hd h hbd]; exact List.mem_cons_self⟩
    · have hk' : d.key ∉ b.key :: seen := by simp [hbd, hk]
      rcases List.mem_cons.1 hc with hb | hc
      · cases hb
        obtain ⟨j, hj⟩ := x.exists_mem_entered hd _ _ (List.mem_append_left rest hp) hk'
        exact ⟨j, List.mem_cons_of_mem _ hj⟩
      · obtain ⟨j, hj⟩ := ih hc hk'
        exact ⟨j, List.mem_cons_of_mem _ hj⟩

/-- **An entered class is at the end of a chain as long as its depth**, and the classes before it on that chain are
entered at lesser depths. -/
theorem exists_chain_of_mem_entered (seen : List ClassKey) (names : List (Nat × String)) :
    ∀ depth e, (depth, e) ∈ x.entered seen names →
      ∃ p ∈ names, ∃ c before, x.index.find? p.2 = some c ∧ x.Chain c before e ∧ depth = p.1 + before.length ∧
        ∀ d ∈ before, ∃ i < depth, (i, d) ∈ x.entered seen names := by
  fun_induction entered x seen names with
  | case1 => intro depth e he; cases he
  | case2 seen _ name rest h ih =>
    intro depth e he
    obtain ⟨p, hp, hrest⟩ := ih depth e he
    exact ⟨p, List.mem_cons_of_mem _ hp, hrest⟩
  | case3 seen _ name rest b h hs ih =>
    intro depth e he
    obtain ⟨p, hp, hrest⟩ := ih depth e he
    exact ⟨p, List.mem_cons_of_mem _ hp, hrest⟩
  | case4 seen i name rest b h hs ih =>
    intro depth e he
    rcases List.mem_cons.1 he with he | he
    · cases he
      exact ⟨(i, name), List.mem_cons_self, b, [], h, .here b, by simp, by simp⟩
    · obtain ⟨p, hp, c, before, hc, hchain, hdepth, hbefore⟩ := ih depth e he
      have lift : ∀ d ∈ before, ∃ j < depth, (j, d) ∈ (i, b) :: x.entered (b.key :: seen) (x.offers i b ++ rest) :=
        fun d hd => by
          obtain ⟨j, hj, hm⟩ := hbefore d hd
          exact ⟨j, hj, List.mem_cons_of_mem _ hm⟩
      rcases List.mem_append.1 hp with hp | hp
      · -- the chain starts at a target of the class just entered, which goes in front
        unfold offers at hp
        split at hp
        · obtain ⟨n, hn, rfl⟩ := List.mem_map.1 hp
          refine ⟨(i, name), List.mem_cons_self, b, b :: before, h, .step ⟨n, hn, hc⟩ hchain, ?_, ?_⟩
          · simp only [List.length_cons] at hdepth ⊢
            omega
          · intro d hd
            rcases List.mem_cons.1 hd with rfl | hd
            · exact ⟨i, by simp only at hdepth; omega, List.mem_cons_self⟩
            · exact lift d hd
        · cases hp
      · exact ⟨p, List.mem_cons_of_mem _ hp, c, before, hc, hchain, hdepth, lift⟩

/-! ## From one class on -/

theorem depth_le_of_mem_enteredFrom {c : ClassInfo} {e : Nat × ClassInfo} (he : e ∈ x.enteredFrom c) :
    e.1 ≤ x.settings.maxDepth :=
  x.depth_le_of_mem_entered [] [(0, c.name)]
    (fun p hp => by rw [List.mem_singleton.1 hp]; exact Nat.zero_le _) e he

theorem enteredFrom_eq {c : ClassInfo} (hc : x.index.find? c.name = some c) :
    x.enteredFrom c = (0, c) :: x.entered [c.key] (x.offers 0 c) := by
  rw [enteredFrom, entered_cons_of_new x 0 [] hc List.not_mem_nil, List.append_nil]

/-- The classes of a chain are entered one after the other while none of them is first met at the limit. -/
theorem mem_enteredFrom_of_chain {asked c e : ClassInfo} {before : List ClassInfo} (hchain : x.Chain c before e)
    (hcut : ∀ d ∈ before, (x.settings.maxDepth, d) ∉ x.enteredFrom asked) :
    (∃ depth, (depth, c) ∈ x.enteredFrom asked) → ∃ depth, (depth, e) ∈ x.enteredFrom asked := by
  induction hchain with
  | here c => exact id
  | @step c d e before hcd hchain ih =>
    rintro ⟨depth, hc⟩
    obtain ⟨name, hname, hd⟩ := hcd
    have hle : depth ≤ x.settings.maxDepth := x.depth_le_of_mem_enteredFrom hc
    have hne : depth ≠ x.settings.maxDepth := fun h => hcut c List.mem_cons_self (h ▸ hc)
    have hoffer : (depth + 1, name) ∈ x.offers depth c := by
      rw [offers, if_pos (by omega)]
      exact List.mem_map.2 ⟨name, hname, rfl⟩
    exact ih (fun b hb => hcut b (List.mem_cons_of_mem _ hb))
      (x.exists_mem_entered_of_offers hoffer hd [] _ hc List.not_mem_nil)

/-- **What a search enters**: exactly the ends of chains within the limit on which no class before the last is first
met at the limit itself. -/
theorem exists_mem_enteredFrom_iff {c e : ClassInfo} (hc : x.index.find? c.name = some c) :
    (∃ depth, (depth, e) ∈ x.enteredFrom c) ↔
      ∃ before, x.Chain c before e ∧ before.length ≤ x.settings.maxDepth ∧
        ∀ d ∈ before, (x.settings.maxDepth, d) ∉ x.enteredFrom c := by
  constructor
  · rintro ⟨depth, he⟩
    have hle : depth ≤ x.settings.maxDepth := x.depth_le_of_mem_enteredFrom he
    obtain ⟨p, hp, c', before, hc', hchain, hdepth, hbefore⟩ := x.exists_chain_of_mem_entered [] _ depth e he
    rw [List.mem_singleton.1 hp] at hc' hdepth
    simp only [hc, Option.some.injEq] at hc'
    subst hc'
    refine ⟨before, hchain, by simp only at hdepth; omega, fun d hd hm => ?_⟩
    obtain ⟨i, hi, hmi⟩ := hbefore d hd
    have := x.depth_unique hm hmi
    omega
  · rintro ⟨before, hchain, -, hcut⟩
    exact x.mem_enteredFrom_of_chain hchain hcut ⟨0, by rw [x.enteredFrom_eq hc]; exact List.mem_cons_self⟩

end QueryContext
end DynamicMembers
