import DynamicMembers.Proofs.Class.Respelling
import DynamicMembers.Proofs.Method.Memory
/-!
# Respelt settings — how a class is spelt in the settings does not matter

Settings and mixins name classes.  When some of these names are replaced by other spellings of the same classes, the
contexts before and after match: whatever is looked up in them is related.  So every query has the same answer in both
(`resolve_respelled`).
-/
namespace DynamicMembers

/-- Two maps from classes with as many entries, in order of related values under spellings of the same classes. -/
def OrderedMap.Respells {α : Type} (R : α → α → Prop) (m n : OrderedMap String α) : Prop :=
  List.Forall₂ (fun e f => Name.Respells e.1 f.1 ∧ R e.2 f.2) m.entries n.entries

instance {α : Type} (R : α → α → Prop) [DecidableRel R] : DecidableRel (OrderedMap.Respells R) := fun m n =>
  inferInstanceAs (Decidable (List.Forall₂ _ m.entries n.entries))

/-- **The entry of a class stands at the same place in both maps.** -/
theorem OrderedMap.Respells.forClass {α : Type} {R : α → α → Prop} {m n : OrderedMap String α} (h : m.Respells R n)
    (name : String) : Option.Rel R (m.forClass name) (n.forClass name) := by
  obtain ⟨l, _⟩ := m
  obtain ⟨l', _⟩ := n
  unfold OrderedMap.forClass
  simp only [OrderedMap.Respells] at h ⊢
  induction h with
  | nil => exact .none
  | cons hef _ ih =>
    rw [List.find?_cons, List.find?_cons, hef.1.sameClass (.refl name)]
    split
    · exact .some hef.2
    · exact ih ((List.nodup_cons.1 ‹_›).2) ((List.nodup_cons.1 ‹_›).2)

/-- Settings that differ in the spelling of the classes they name only. -/
structure MethodSettings.Respells (s t : MethodSettings) : Prop where
  statics : List.Forall₂ Name.Respells s.statics t.statics
  facadeClass : Name.Respells s.facadeClass t.facadeClass
  facades : s.facades.Respells Name.Respells t.facades
  managerClass : Name.Respells s.managerClass t.managerClass
  managers : s.managers.Respells Name.Respells t.managers
  bindings : s.bindings.Respells (List.Forall₂ Name.Respells) t.bindings
  macros : s.macros.Respells Eq t.macros
  maxDepth : s.maxDepth = t.maxDepth

theorem any_eq_of_forall₂ {α β : Type} {R : α → β → Prop} {p : α → Bool} {p' : β → Bool}
    (hp : ∀ a b, R a b → p a = p' b) {l : List α} {l' : List β} (h : List.Forall₂ R l l') : l.any p = l'.any p' := by
  induction h with
  | nil => rfl
  | cons hab _ ih => rw [List.any_cons, List.any_cons, hp _ _ hab, ih]

namespace QueryContext

variable {x y : QueryContext}

theorem alwaysStatic_respelled (hindex : x.index.Respells y.index) (hsettings : x.settings.Respells y.settings)
    (name : String) : x.settings.alwaysStatic x.index name = y.settings.alwaysStatic y.index name := by
  refine any_eq_of_forall₂ (fun entry entry' hentry => ?_) hsettings.statics
  rw [hentry.sameClass (.refl name), hindex.isSubclass name hentry]

theorem macroOf_respelled (hindex : x.index.Respells y.index) (hsettings : x.settings.Respells y.settings)
    {c d : ClassInfo} (hcd : c.Respells d) (method : String) : x.macroOf method c = y.macroOf method d := by
  have hentry : ∀ owner : String, x.settings.macros.forClass owner = y.settings.macros.forClass owner := by
    intro owner
    have hrel := hsettings.macros.forClass owner
    generalize x.settings.macros.forClass owner = found at hrel ⊢
    generalize y.settings.macros.forClass owner = found' at hrel ⊢
    cases hrel with
    | none => rfl
    | some h => rw [h]
  simp only [macroOf, hcd.name, hindex.ancestors, hentry]

theorem known_respelled (hindex : x.index.Respells y.index) {ms ns : List String}
    (h : List.Forall₂ Name.Respells ms ns) : List.Forall₂ Name.Respells (x.known ms) (y.known ns) :=
  List.rel_filter (fun _ _ hmn => Bool.eq_iff_iff.1 (hindex.pairs.knows hmn)) h

/-- **Respelt contexts match**: whatever a query looks up in them is a spelling of the same. -/
theorem matches_of_respells (hindex : x.index.Respells y.index) (hsettings : x.settings.Respells y.settings) :
    x.Matches Name.Respells ClassInfo.Respells y where
  limit := hsettings.maxDepth
  size := hindex.size
  find := hindex.find?
  own h := by rw [h.name]; exact .refl _
  name h := h.name
  native hcd hmn := by rw [hindex.nativeMethod hcd, y.index.nativeMethod_congr hmn]
  added hcd hmn := by rw [macroOf_respelled hindex hsettings hcd, y.macroOf_congr hmn]
  concretes {c d} hcd := by
    refine known_respelled hindex ?_
    have hbound := hsettings.bindings.forClass d.name
    rw [concreteNames, concreteNames, hcd.isInterface, hcd.name]
    split
    · generalize x.settings.bindings.forClass d.name = bound at hbound ⊢
      generalize y.settings.bindings.forClass d.name = bound' at hbound ⊢
      cases hbound with
      | none => exact .nil
      | some h => exact h
    · exact .nil
  roots {c d} hcd := by
    refine known_respelled hindex ?_
    rw [rootNames, rootNames, hcd.name, hindex.isSubclass _ hsettings.facadeClass]
    split
    · exact forall₂_toList (hsettings.facades.forClass d.name)
    · exact .nil
  drivers {c d} hcd := by
    refine known_respelled hindex ?_
    rw [driverNames, driverNames, hcd.name, hindex.isSubclass _ hsettings.managerClass]
    split
    · exact forall₂_toList (hsettings.managers.forClass d.name)
    · exact .nil
  mixins h := known_respelled hindex h.mixins
  permits hcd := by rw [hcd.name, alwaysStatic_respelled hindex hsettings]

end QueryContext

namespace MethodResolver

section

variable {index index' : ClassIndex} {settings settings' : MethodSettings} (types : TypeResolver)

theorem compute_respelled (hindex : index.Respells index') (hsettings : settings.Respells settings') {c d : ClassInfo}
    (hcd : c.Respells d) (method : String) :
    (standard index settings types).compute c method = (standard index' settings' types).compute d method := by
  have hmatch : QueryContext.Matches Name.Respells ClassInfo.Respells ⟨index, settings⟩ ⟨index', settings'⟩ :=
    QueryContext.matches_of_respells hindex hsettings
  exact compute_eq_of_matches hmatch (Pipeline.simulates_standard hmatch types) hcd rfl

/-- **How classes are spelt in settings and mixins does not matter.**  Whatever was asked before, every query about a
registered class has the same answer after the names are spelt differently, the error included; and the same classes are
registered. -/
theorem resolve_respelled (hindex : index.Respells index') (hsettings : settings.Respells settings')
    {calls calls' : List MethodCall} (hcalls : ∀ call ∈ calls, call.AsksIn index)
    (hcalls' : ∀ call ∈ calls', call.AsksIn index') (name method : String) :
    let r := standard index settings types
    let r' := standard index' settings' types
    (index.find? name).map (fun c => (r.resolve (r.memoryAfter ∅ calls) c method).1) =
      (index'.find? name).map (fun d => (r'.resolve (r'.memoryAfter ∅ calls') d method).1) := by
  intro r r'
  have hfind := hindex.find? (.refl name)
  cases hc : index.find? name with
  | none =>
    cases hd : index'.find? name with
    | none => rw [Option.map_none, Option.map_none]
    | some d => rw [hc, hd] at hfind; cases hfind
  | some c =>
    cases hd : index'.find? name with
    | none => rw [hc, hd] at hfind; cases hfind
    | some d =>
      rw [hc, hd] at hfind
      cases hfind with
      | some hcd =>
        -- both remember only what they would compute, and they compute the same
        have hleft : (r.resolve (r.memoryAfter ∅ calls) c method).1 = r.compute c method :=
          fst_resolve_after (Pipeline.insensitive_standard types) hcalls hc method
        have hright : (r'.resolve (r'.memoryAfter ∅ calls') d method).1 = r'.compute d method :=
          fst_resolve_after (Pipeline.insensitive_standard types) hcalls' hd method
        have hcompute : r.compute c method = r'.compute d method :=
          compute_respelled types hindex hsettings hcd method
        exact congrArg some (hleft.trans (hcompute.trans hright.symm))

end

/-- A counter is a facade of stock, which is bound to a store; its ledger has what taxes have mixed in. -/
def counter (tax : String) : ClassIndex := .ofList
  [{ name := "Counter", parent := some "Facade" }, { name := "Stock", kind := .interface },
   { name := "Store", interfaces := ["Stock", "Manager"] }, { name := "Ledger", mixins := [tax] }, { name := "Tax" }]

def counterSettings : MethodSettings where
  statics := ["Ledger"]
  facadeClass := "Facade"
  facades := .ofList [("Counter", "Stock")]
  managerClass := "Manager"
  managers := .ofList [("Store", "Ledger")]
  bindings := .ofList [("Stock", ["Missing", "Store"])]
  macros := .ofList [("Tax", [{ name := "rate", returnType := "int" }])]

def respeltSettings : MethodSettings where
  statics := ["\\ledger"]
  facadeClass := "\\\\FACADE"
  facades := .ofList [("counter", "\\STOCK")]
  managerClass := "manager"
  managers := .ofList [("\\STORE", "ledger")]
  bindings := .ofList [("\\stock", ["\\missing", "STORE"])]
  macros := .ofList [("\\TAX", [{ name := "rate", returnType := "int" }])]

theorem resolve_respelled_counter :
    (counter "Tax").Respells (counter "\\tax") ∧ counterSettings.Respells respeltSettings ∧
    ((counter "\\tax").find? "Counter").map (fun d =>
      ((standard (counter "\\tax") respeltSettings PhpDoc.resolve).resolve ∅ d "RATE").1) =
      some (.ok (some ⟨.added { name := "rate", declaringClass := "Tax", returnType := .int }, true⟩)) := by
  have hindex : (counter "Tax").Respells (counter "\\tax") := by decide +kernel
  have hsettings : counterSettings.Respells respeltSettings :=
    ⟨by decide +kernel, by decide +kernel, by decide +kernel, by decide +kernel, by decide +kernel, by decide +kernel,
      by decide +kernel, rfl⟩
  refine ⟨hindex, hsettings, ?_⟩
  have hcalls : ∀ index : ClassIndex, ∀ call ∈ ([] : List MethodCall), call.AsksIn index :=
    fun _ _ hcall => absurd hcall List.not_mem_nil
  have hsame := resolve_respelled PhpDoc.resolve hindex hsettings (hcalls _) (hcalls _) "Counter" "RATE"
  exact hsame.symm.trans (by decide +kernel)

end MethodResolver
end DynamicMembers
