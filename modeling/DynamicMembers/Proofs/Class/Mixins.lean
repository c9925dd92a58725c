import DynamicMembers.Class.Hierarchy
import Mathlib.Data.List.Forall2
/-!
# Mixins — they have no part in the hierarchy

Two indexes of the same classes are compared whose descriptors differ in mixins.  A class is found in both or in
neither, both are walked the same way, and a class has the same ancestors and declarations in both.
-/
namespace DynamicMembers

/-- Two descriptors that differ in mixins only. -/
def ClassInfo.SameButMixins (c d : ClassInfo) : Prop := d = { c with mixins := d.mixins }

namespace ClassInfo.SameButMixins

variable {c d : ClassInfo}

theorem name (h : c.SameButMixins d) : c.name = d.name := by rw [h]

theorem supertypes (h : c.SameButMixins d) : c.supertypes = d.supertypes := by rw [h]; rfl

theorem isInterface (h : c.SameButMixins d) : c.isInterface = d.isInterface := by rw [h]; rfl

theorem declaredMethod (h : c.SameButMixins d) (method : String) :
    c.declaredMethod method = d.declaredMethod method := by rw [h]; rfl

end ClassInfo.SameButMixins

/-- Two indexes of the same classes in the same order, with related descriptors. -/
def ClassIndex.Pairs (T : ClassInfo → ClassInfo → Prop) (x y : ClassIndex) : Prop :=
  List.Forall₂ (fun e f => e.1 = f.1 ∧ T e.2 f.2) x.classes.entries y.classes.entries

theorem OrderedMap.rel_lookup {κ α β : Type} [DecidableEq κ] {R : α → β → Prop} (k : κ) {l : List (κ × α)}
    {l' : List (κ × β)} (h : List.Forall₂ (fun e f => e.1 = f.1 ∧ R e.2 f.2) l l') :
    Option.Rel R (lookup k l) (lookup k l') := by
  induction h with
  | nil => exact .none
  | @cons e f _ _ hef _ ih =>
    obtain ⟨hkey, hvalue⟩ := hef
    rw [lookup, lookup, hkey]
    split
    · exact .some hvalue
    · exact ih

theorem forall₂_toList {α β : Type} {R : α → β → Prop} {a : Option α} {b : Option β} (h : Option.Rel R a b) :
    List.Forall₂ R a.toList b.toList := by
  cases h with
  | none => exact .nil
  | some h => exact .cons h .nil

namespace ClassIndex.Pairs

variable {T : ClassInfo → ClassInfo → Prop} {x y : ClassIndex}

theorem imp {S : ClassInfo → ClassInfo → Prop} (hTS : ∀ c d, T c d → S c d) (h : x.Pairs T y) : x.Pairs S y :=
  List.Forall₂.imp (fun e f hef => And.imp_right (hTS e.2 f.2) hef) h

theorem size (h : x.Pairs T y) : x.size = y.size := List.Forall₂.length_eq h

/-- **A class is found in both indexes or in neither**, under all spellings of its name. -/
theorem find? (h : x.Pairs T y) {m n : String} (hmn : Name.classKey m = Name.classKey n) :
    Option.Rel T (x.find? m) (y.find? n) := by
  rw [ClassIndex.find?, ClassIndex.find?, hmn]
  exact OrderedMap.rel_lookup _ h

theorem knows (h : x.Pairs T y) {m n : String} (hmn : Name.classKey m = Name.classKey n) : x.knows m = y.knows n := by
  have hfind := h.find? hmn
  unfold ClassIndex.knows
  generalize x.find? m = found at hfind ⊢
  generalize y.find? n = found' at hfind ⊢
  cases hfind <;> rfl

end ClassIndex.Pairs

/-! ## The walk up -/

/-- What a walk knows, told twice: the same ancestors are met, and classes wait that differ in mixins only. -/
structure Walk.SameButMixins (v w : Walk) : Prop where
  met : v.met = w.met
  queue : List.Forall₂ ClassInfo.SameButMixins v.queue w.queue
  found : v.found = w.found

namespace ClassIndex.Pairs

variable {x y : ClassIndex}

theorem meet (h : x.Pairs ClassInfo.SameButMixins y) {v w : Walk} (hvw : v.SameButMixins w) (supertype : String) :
    (v.meet x supertype).SameButMixins (w.meet y supertype) := by
  unfold Walk.meet
  simp only [hvw.met]
  split
  · exact hvw
  · exact ⟨rfl, List.rel_append hvw.queue (forall₂_toList (h.find? rfl)), by rw [hvw.found]⟩

theorem foldl_meet (h : x.Pairs ClassInfo.SameButMixins y) : ∀ (supertypes : List String) {v w : Walk},
    v.SameButMixins w → (supertypes.foldl (Walk.meet x) v).SameButMixins (supertypes.foldl (Walk.meet y) w)
  | [], _, _, hvw => hvw
  | s :: supertypes, _, _, hvw => foldl_meet h supertypes (h.meet hvw s)

theorem advance (h : x.Pairs ClassInfo.SameButMixins y) {v w : Walk} (hvw : v.SameButMixins w) :
    (v.advance x).SameButMixins (w.advance y) := by
  obtain ⟨met, queue, found⟩ := v
  obtain ⟨met', queue', found'⟩ := w
  obtain ⟨rfl, hqueue, rfl⟩ := hvw
  cases hqueue with
  | nil => exact ⟨rfl, .nil, rfl⟩
  | cons hcd hrest =>
    simp only [Walk.advance, hcd.supertypes]
    exact h.foldl_meet _ ⟨rfl, hrest, rfl⟩

theorem run (h : x.Pairs ClassInfo.SameButMixins y) : ∀ (n : Nat) {v w : Walk}, v.SameButMixins w →
    (v.run x n).SameButMixins (w.run y n)
  | 0, _, _, hvw => hvw
  | n + 1, _, _, hvw => run h n (h.advance hvw)

/-- **The mixins of classes have no part in their ancestors.** -/
theorem ancestors (h : x.Pairs ClassInfo.SameButMixins y) (name : String) : x.ancestors name = y.ancestors name := by
  have hstart : (Walk.start x name).SameButMixins (Walk.start y name) := ⟨rfl, forall₂_toList (h.find? rfl), rfl⟩
  rw [ClassIndex.ancestors, ClassIndex.ancestors, h.size]
  exact (h.run _ hstart).found

theorem isSubclass (h : x.Pairs ClassInfo.SameButMixins y) (name : String) {a b : String}
    (hab : Name.classKey a = Name.classKey b) : x.isSubclass name a = y.isSubclass name b := by
  rw [ClassIndex.isSubclass, ClassIndex.isSubclass, h.ancestors]
  simp only [Name.sameClass, hab]

theorem nativeMethod (h : x.Pairs ClassInfo.SameButMixins y) {c d : ClassInfo} (hcd : c.SameButMixins d)
    (method : String) : x.nativeMethod c method = y.nativeMethod d method := by
  have hinherited : ∀ a : String, (x.find? a).bind (·.declaredMethod method) =
      (y.find? a).bind (·.declaredMethod method) := by
    intro a
    have hfind := h.find? (rfl : Name.classKey a = Name.classKey a)
    generalize x.find? a = found at hfind ⊢
    generalize y.find? a = found' at hfind ⊢
    cases hfind with
    | none => rfl
    | some hfound => exact hfound.declaredMethod method
  simp only [ClassIndex.nativeMethod, hcd.declaredMethod, hcd.name, h.ancestors, hinherited]

end ClassIndex.Pairs
end DynamicMembers
