import DynamicMembers.Class.Index
import Mathlib.Data.List.Basic
/-!
# Classes of an index — found under their own names, and counted while they are not seen

A registered class is found under its own name and no other has its key.  `unseen` counts the registered classes outside
a list of keys; it falls whenever a class joins the list, which bounds every search that meets a class once.
-/
namespace DynamicMembers
namespace ClassIndex

/-- The number of registered classes that are not among the given ones. -/
def unseen (x : ClassIndex) (seen : List ClassKey) : Nat := x.classes.keys.countP (· ∉ seen)

theorem unseen_le_size (x : ClassIndex) (seen : List ClassKey) : x.unseen seen ≤ x.size := by
  have h := List.countP_le_length (p := fun k => decide (k ∉ seen)) (l := x.classes.keys)
  simpa [unseen, size, OrderedMap.size, OrderedMap.keys] using h

theorem unseen_nil (x : ClassIndex) : x.unseen [] = x.size := by
  simp [unseen, size, OrderedMap.size, OrderedMap.keys]

theorem key_mem_keys {x : ClassIndex} {name : String} {c : ClassInfo} (h : x.find? name = some c) :
    c.key ∈ x.classes.keys := by
  rw [key_of_find? h]
  by_contra hk
  rw [← OrderedMap.get?_eq_none_iff] at hk
  rw [find?, hk] at h
  cases h

theorem mem_values_of_find? {x : ClassIndex} {name : String} {c : ClassInfo} (h : x.find? name = some c) :
    c ∈ x.classes.values := OrderedMap.mem_values_of_get? h

theorem find?_own {x : ClassIndex} {name : String} {c : ClassInfo} (h : x.find? name = some c) :
    x.find? c.name = some c := by
  have hk : Name.classKey c.name = Name.classKey name := key_of_find? h
  rw [find?, hk]
  exact h

theorem eq_of_key_eq {x : ClassIndex} {m n : String} {c d : ClassInfo} (hc : x.find? m = some c)
    (hd : x.find? n = some d) (h : c.key = d.key) : c = d := by
  rw [key_of_find? hc, key_of_find? hd] at h
  rw [find?, h] at hc
  rw [find?, hc] at hd
  exact Option.some.inj hd

theorem countP_not_mem_cons_lt {k : ClassKey} {seen : List ClassKey} (hs : k ∉ seen) :
    ∀ {l : List ClassKey}, k ∈ l → l.countP (· ∉ k :: seen) < l.countP (· ∉ seen)
  | j :: l, hk => by
    have hle : l.countP (· ∉ k :: seen) ≤ l.countP (· ∉ seen) :=
      List.countP_mono_left (fun a _ ha => by simp only [decide_eq_true_eq, List.mem_cons] at ha ⊢; tauto)
    rw [List.countP_cons, List.countP_cons]
    by_cases hj : j = k
    · rw [if_neg (by simp [hj]), if_pos (by simpa [hj] using hs)]
      omega
    · have ih := countP_not_mem_cons_lt hs ((List.mem_cons.1 hk).resolve_left (Ne.symm hj))
      have hiff : decide (j ∉ k :: seen) = decide (j ∉ seen) := by simp [hj]
      rw [hiff]
      omega

/-- Seeing more leaves no more unseen. -/
theorem unseen_append_le (x : ClassIndex) (more seen : List ClassKey) : x.unseen (more ++ seen) ≤ x.unseen seen :=
  List.countP_mono_left (fun a _ ha => by simp only [decide_eq_true_eq, List.mem_append] at ha ⊢; tauto)

theorem unseen_cons_le (x : ClassIndex) (k : ClassKey) (seen : List ClassKey) :
    x.unseen (k :: seen) ≤ x.unseen seen := x.unseen_append_le [k] seen

theorem unseen_cons_lt {x : ClassIndex} {name : String} {c : ClassInfo} {seen : List ClassKey}
    (h : x.find? name = some c) (hs : c.key ∉ seen) : x.unseen (c.key :: seen) < x.unseen seen :=
  countP_not_mem_cons_lt hs (key_mem_keys h)

end ClassIndex

end DynamicMembers
