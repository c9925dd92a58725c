import DynamicMembers.Proofs.Class.Mixins
/-!
# Respelt indexes — mixins in other spellings leave the hierarchy as it is

Two spellings of one class may differ in ASCII case and in leading separators.  An index is respelt when the mixins of
its classes are.  Both indexes then find related classes under all spellings of a name, and walk the same way, meeting
the same ancestors.
-/
namespace DynamicMembers

/-- Two spellings of one class. -/
def Name.Respells (m n : String) : Prop := classKey m = classKey n

instance : DecidableRel Name.Respells := fun m n => inferInstanceAs (Decidable (Name.classKey m = Name.classKey n))

theorem Name.Respells.refl (m : String) : Name.Respells m m := rfl

theorem Name.Respells.sameClass {m n a b : String} (h : Name.Respells m n) (hab : Name.Respells a b) :
    Name.sameClass m a = Name.sameClass n b := by
  unfold Name.Respells at h hab
  rw [Name.sameClass, Name.sameClass, h, hab]

/-- Two descriptors of a class that differ in the spelling of its mixins only. -/
structure ClassInfo.Respells (c d : ClassInfo) : Prop where
  mixins : List.Forall₂ Name.Respells c.mixins d.mixins
  rest : d = { c with mixins := d.mixins }

instance : DecidableRel ClassInfo.Respells := fun _ _ =>
  decidable_of_iff _ ⟨fun h => ⟨h.1, h.2⟩, fun h => And.intro h.mixins h.rest⟩

namespace ClassInfo.Respells

variable {c d : ClassInfo}

theorem sameButMixins (h : c.Respells d) : c.SameButMixins d := h.rest

theorem name (h : c.Respells d) : c.name = d.name := h.sameButMixins.name

theorem isInterface (h : c.Respells d) : c.isInterface = d.isInterface := h.sameButMixins.isInterface

end ClassInfo.Respells

/-- Two indexes of the same classes in the same order that differ in the spelling of mixins only. -/
def ClassIndex.Respells (x y : ClassIndex) : Prop :=
  List.Forall₂ (fun e f => e.1 = f.1 ∧ e.2.Respells f.2) x.classes.entries y.classes.entries

instance : DecidableRel ClassIndex.Respells := fun x y =>
  inferInstanceAs (Decidable (List.Forall₂ _ x.classes.entries y.classes.entries))

namespace ClassIndex.Respells

variable {x y : ClassIndex}

theorem pairs (h : x.Respells y) : x.Pairs ClassInfo.Respells y := h

theorem sameButMixins (h : x.Respells y) : x.Pairs ClassInfo.SameButMixins y :=
  h.pairs.imp (fun _ _ hcd => hcd.sameButMixins)

theorem size (h : x.Respells y) : x.size = y.size := h.pairs.size

theorem find? (h : x.Respells y) {m n : String} (hmn : Name.Respells m n) :
    Option.Rel ClassInfo.Respells (x.find? m) (y.find? n) := h.pairs.find? hmn

theorem ancestors (h : x.Respells y) (name : String) : x.ancestors name = y.ancestors name :=
  h.sameButMixins.ancestors name

theorem isSubclass (h : x.Respells y) (name : String) {a b : String} (hab : Name.Respells a b) :
    x.isSubclass name a = y.isSubclass name b := h.sameButMixins.isSubclass name hab

theorem nativeMethod (h : x.Respells y) {c d : ClassInfo} (hcd : c.Respells d) (method : String) :
    x.nativeMethod c method = y.nativeMethod d method := h.sameButMixins.nativeMethod hcd.sameButMixins method

end ClassIndex.Respells
end DynamicMembers
