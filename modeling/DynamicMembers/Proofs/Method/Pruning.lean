import DynamicMembers.Proofs.Class.Mixins
import DynamicMembers.Proofs.Method.Questions
/-!
# Pruning — names of classes that are not registered are passed over

Mixins, bindings, facades, drivers and base classes may name classes that the index does not know.  Deleting such names
from the mixins and the bindings gives a context that matches the first one: what is registered is named in the same
order.  So every query has the same answer, and an unknown name is never the reason for which one fails
(`resolve_pruned`).
-/
namespace DynamicMembers

/-! ## Leaving names out -/

namespace OrderedMap

variable {κ α β : Type}

/-- The map with a function applied to every value. -/
def mapValues (f : α → β) (m : OrderedMap κ α) : OrderedMap κ β where
  entries := m.entries.map fun e => (e.1, f e.2)
  nodup := by
    rw [List.map_map]
    exact m.nodup

theorem lookup_map [DecidableEq κ] (f : α → β) (k : κ) : ∀ l : List (κ × α),
    lookup k (l.map fun e => (e.1, f e.2)) = (lookup k l).map f
  | [] => rfl
  | (j, v) :: l => by
    rw [List.map_cons, lookup, lookup]
    split
    · rfl
    · exact lookup_map f k l

theorem get?_mapValues [DecidableEq κ] (f : α → β) (m : OrderedMap κ α) (k : κ) :
    (m.mapValues f).get? k = (m.get? k).map f := lookup_map f k m.entries

theorem find?_mapValues (f : α → β) (p : κ → Bool) (l : List (κ × α)) :
    (l.map fun e => (e.1, f e.2)).find? (fun e => p e.1) = (l.find? fun e => p e.1).map fun e => (e.1, f e.2) :=
  List.find?_map

theorem forClass_mapValues (f : α → β) (m : OrderedMap String α) (cls : String) :
    (m.mapValues f).forClass cls = (m.forClass cls).map f := by
  rw [forClass, forClass, mapValues, find?_mapValues f (Name.sameClass · cls)]
  cases m.entries.find? fun e => Name.sameClass e.1 cls <;> rfl

end OrderedMap

/-- The descriptor without the mixins that fail a test. -/
def ClassInfo.filterMixins (keep : String → Bool) (c : ClassInfo) : ClassInfo :=
  { c with mixins := c.mixins.filter keep }

/-- The index without mixins that name no class of it. -/
def ClassIndex.pruned (x : ClassIndex) : ClassIndex where
  classes := x.classes.mapValues (ClassInfo.filterMixins x.knows)
  key_eq k d h := by
    rw [OrderedMap.get?_mapValues] at h
    obtain ⟨c, hc, rfl⟩ := Option.map_eq_some_iff.1 h
    exact x.key_eq k c hc

/-- The settings without bindings to classes that an index does not know. -/
def MethodSettings.pruned (s : MethodSettings) (x : ClassIndex) : MethodSettings :=
  { s with bindings := s.bindings.mapValues (·.filter x.knows) }

/-! ## Pruned contexts -/

theorem ClassInfo.sameButMixins_filterMixins (keep : String → Bool) (c : ClassInfo) :
    c.SameButMixins (c.filterMixins keep) := rfl

namespace ClassIndex

variable (x : ClassIndex)

theorem pairs_pruned : x.Pairs (fun c d => d = c.filterMixins x.knows) x.pruned := by
  have hentries : x.pruned.classes.entries = x.classes.entries.map fun e => (e.1, e.2.filterMixins x.knows) := rfl
  rw [Pairs, hentries, List.forall₂_map_right_iff, List.forall₂_same]
  exact fun e _ => ⟨rfl, rfl⟩

theorem find?_pruned (name : String) : x.pruned.find? name = (x.find? name).map (ClassInfo.filterMixins x.knows) :=
  OrderedMap.get?_mapValues (ClassInfo.filterMixins x.knows) x.classes (Name.classKey name)

theorem sameButMixins_pruned : x.Pairs ClassInfo.SameButMixins x.pruned :=
  x.pairs_pruned.imp fun c d hcd => by
    rw [hcd]
    exact c.sameButMixins_filterMixins x.knows

theorem knows_pruned (name : String) : x.pruned.knows name = x.knows name := (x.pairs_pruned.knows rfl).symm

end ClassIndex

namespace QueryContext

/-- The context without mixins and bindings that name no registered class. -/
def pruned (x : QueryContext) : QueryContext := ⟨x.index.pruned, x.settings.pruned x.index⟩

variable (x : QueryContext)

theorem known_pruned (names : List String) : x.pruned.known names = x.known names :=
  congrArg (fun keep => names.filter keep) (funext x.index.knows_pruned)

/-- What is registered is registered still, and the other names are gone. -/
theorem known_pruned_known (names : List String) : x.pruned.known (x.known names) = x.known names := by
  rw [known_pruned, known, known, List.filter_filter]
  simp only [Bool.and_self]

theorem ancestors_pruned (name : String) : x.pruned.index.ancestors name = x.index.ancestors name :=
  (x.index.sameButMixins_pruned.ancestors name).symm

theorem isSubclass_pruned (name ancestor : String) :
    x.pruned.index.isSubclass name ancestor = x.index.isSubclass name ancestor :=
  (x.index.sameButMixins_pruned.isSubclass name rfl).symm

theorem macroOf_pruned (method : String) (c : ClassInfo) (keep : String → Bool) :
    x.pruned.macroOf method (c.filterMixins keep) = x.macroOf method c := by
  unfold macroOf
  rw [ancestors_pruned]
  rfl

theorem known_concreteNames_pruned (c : ClassInfo) (keep : String → Bool) :
    x.pruned.known (x.pruned.concreteNames (c.filterMixins keep)) = x.known (x.concreteNames c) := by
  have hbound : x.pruned.settings.bindings.forClass c.name = (x.settings.bindings.forClass c.name).map x.known :=
    OrderedMap.forClass_mapValues _ _ _
  unfold concreteNames
  rw [show (c.filterMixins keep).isInterface = c.isInterface from rfl,
    show (c.filterMixins keep).name = c.name from rfl, hbound]
  split
  · cases x.settings.bindings.forClass c.name with
    | none => rfl
    | some names => exact x.known_pruned_known names
  · rfl

/-- **A context matches what is left of it when it is pruned.** -/
theorem matches_pruned : x.Matches Eq (fun c d => d = c.filterMixins x.index.knows) x.pruned where
  limit := rfl
  size := x.index.pairs_pruned.size
  find := by
    rintro m _ rfl
    exact x.index.pairs_pruned.find? rfl
  own := by
    rintro c _ rfl
    rfl
  name := by
    rintro c _ rfl
    rfl
  native := by
    rintro c _ m n rfl hmn
    rw [x.index.sameButMixins_pruned.nativeMethod (c.sameButMixins_filterMixins x.index.knows)]
    exact x.pruned.index.nativeMethod_congr hmn _
  added := by
    rintro c _ m n rfl hmn
    rw [macroOf_pruned, x.macroOf_congr hmn]
  concretes := by
    rintro c _ rfl
    rw [known_concreteNames_pruned, List.forall₂_eq_eq_eq]
  roots := by
    rintro c _ rfl
    have hroots : x.pruned.rootNames (c.filterMixins x.index.knows) = x.rootNames c := by
      unfold rootNames
      rw [isSubclass_pruned]
      rfl
    rw [hroots, known_pruned, List.forall₂_eq_eq_eq]
  drivers := by
    rintro c _ rfl
    have hdrivers : x.pruned.driverNames (c.filterMixins x.index.knows) = x.driverNames c := by
      unfold driverNames
      rw [isSubclass_pruned]
      rfl
    rw [hdrivers, known_pruned, List.forall₂_eq_eq_eq]
  mixins := by
    rintro c _ rfl
    rw [List.forall₂_eq_eq_eq]
    exact (x.known_pruned_known c.mixins).symm
  permits := by
    rintro c _ rfl
    unfold MethodSettings.alwaysStatic
    simp only [isSubclass_pruned]
    rfl

end QueryContext

namespace MethodResolver

section

variable {index : ClassIndex} {settings : MethodSettings} (types : TypeResolver)

theorem compute_pruned (c : ClassInfo) (method : String) : (standard index settings types).compute c method =
    (standard index.pruned (settings.pruned index) types).compute (c.filterMixins index.knows) method :=
  have hmatch := QueryContext.matches_pruned ⟨index, settings⟩
  compute_eq_of_matches hmatch (Pipeline.simulates_standard hmatch types) rfl rfl

/-- **Names of classes that are not registered do no harm.**  Whatever was asked before, a query about a registered
class fails only for a macro whose result type is refused, found on a class that a chain of delegations leads to; and
every query has the same answer when all such names are left out of the mixins of classes and of the bindings. -/
theorem resolve_pruned {calls calls' : List MethodCall} (hcalls : ∀ call ∈ calls, call.AsksIn index)
    (hcalls' : ∀ call ∈ calls', call.AsksIn index.pruned) (name method : String) :
    let r := standard index settings types
    let r' := standard index.pruned (settings.pruned index) types
    (∀ c e, index.find? name = some c → (r.resolve (r.memoryAfter ∅ calls) c method).1 = .error e →
      ∃ before b owner d, QueryContext.Chain ⟨index, settings⟩ c before b ∧ before.length ≤ settings.maxDepth ∧
        index.nativeMethod b method = none ∧
        QueryContext.macroOf ⟨index, settings⟩ method b = some (owner, d) ∧ types d.returnType = .error e ∧
        (RefusesTexts types → ∃ fault, e = .unresolvedType d.returnType fault)) ∧
    (index.find? name).map (fun c => (r.resolve (r.memoryAfter ∅ calls) c method).1) =
      (index.pruned.find? name).map (fun d => (r'.resolve (r'.memoryAfter ∅ calls') d method).1) := by
  intro r r'
  have hafresh : ∀ c, index.find? name = some c →
      (r.resolve (r.memoryAfter ∅ calls) c method).1 = r.compute c method := fun c hc =>
    fst_resolve_after (Pipeline.insensitive_standard types) hcalls hc method
  refine ⟨fun c e hc he => ?_, ?_⟩
  · rw [hafresh c hc] at he
    obtain ⟨before, b, owner, d, hchain, hlength, hnative, hmacro, htype⟩ :=
      refused_of_compute index settings types (ClassIndex.find?_own hc) he
    exact ⟨before, b, owner, d, hchain, hlength, hnative, hmacro, htype, fun htypes => htypes d.returnType e htype⟩
  · rw [index.find?_pruned name, Option.map_map]
    refine Option.map_congr (fun c hc => ?_)
    have hpruned : index.pruned.find? name = some (c.filterMixins index.knows) := by
      rw [index.find?_pruned, hc, Option.map_some]
    calc (r.resolve (r.memoryAfter ∅ calls) c method).1
      _ = r.compute c method := hafresh c hc
      _ = r'.compute (c.filterMixins index.knows) method := compute_pruned types c method
      _ = (r'.resolve (r'.memoryAfter ∅ calls') (c.filterMixins index.knows) method).1 :=
        (fst_resolve_after (Pipeline.insensitive_standard types) hcalls' hpruned method).symm

end

/-- A parlour is the facade of a phantom, below a base class that is not there; a ghost and lamps are mixed into it, and
lamps are bound to a spook and a bulb. -/
def parlour : ClassInfo := { name := "Parlour", parent := some "Nowhere", mixins := ["Ghost", "Lamp"] }

def haunted : ClassIndex := .ofList
  [parlour, { name := "Lamp", kind := .interface, mixins := ["\\ghost"] },
   ({ name := "Bulb" } : ClassInfo).declaring { name := "shine", declaringClass := "Bulb" }]

def hauntedSettings : MethodSettings where
  statics := ["Ghost"]
  facadeClass := "Nowhere"
  facades := .ofList [("Parlour", "Phantom")]
  bindings := .ofList [("Lamp", ["Spook", "Bulb"])]
  macros := .ofList [("Bulb", [{ name := "burn", returnType := "list<" }]), ("Ghost", [{ name := "haunt" }])]

theorem resolve_pruned_haunted :
    let x : QueryContext := ⟨haunted, hauntedSettings⟩
    let r' := standard haunted.pruned (hauntedSettings.pruned haunted) PhpDoc.resolve
    (∀ call ∈ [MethodCall.has parlour "shine"], call.AsksIn haunted) ∧
    (∀ call ∈ [MethodCall.clear], call.AsksIn haunted.pruned) ∧
    (∃ before b owner d, x.Chain parlour before b ∧ before.length ≤ hauntedSettings.maxDepth ∧
      x.macroOf "BURN" b = some (owner, d) ∧
      ∃ fault, InferenceError.unresolvedType "list<" .unbalancedBrackets = .unresolvedType d.returnType fault) ∧
    (haunted.pruned.find? "\\parlour").map (fun d => (r'.resolve (r'.memoryAfter ∅ [.clear]) d "SHINE").1) =
      some (.ok (some ⟨.staticForwarding (.native { name := "shine", declaringClass := "Bulb" }), false⟩)) := by
  intro x r'
  have hcalls : ∀ call ∈ [MethodCall.has parlour "shine"], call.AsksIn haunted := by
    intro call hcall
    obtain rfl := List.mem_singleton.1 hcall
    exact ⟨"parlour", rfl⟩
  have hcalls' : ∀ call ∈ [MethodCall.clear], call.AsksIn haunted.pruned := by
    intro call hcall
    obtain rfl := List.mem_singleton.1 hcall
    trivial
  have hpruned := @resolve_pruned haunted hauntedSettings PhpDoc.resolve _ _ hcalls hcalls' "\\parlour"
  refine ⟨hcalls, hcalls', ?_, (hpruned "SHINE").2.symm.trans (by decide +kernel)⟩
  obtain ⟨before, b, owner, d, hchain, hlength, -, hmacro, -, hfault⟩ := (hpruned "BURN").1 parlour _ rfl rfl
  exact ⟨before, b, owner, d, hchain, hlength, hmacro, hfault refusesTexts_resolve⟩

end MethodResolver
end DynamicMembers
