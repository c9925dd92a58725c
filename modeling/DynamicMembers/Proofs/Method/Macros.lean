import DynamicMembers.Proofs.Class.Ancestors
import DynamicMembers.Proofs.Method.Questions
/-!
# Reachable macros — which of the macros that are registered can be called

Macros are registered under names of classes, and two entries may name one class in different spellings.  A query looks
only at the first entry that denotes a class.  So a macro can be called on its class and on every subclass exactly when
the first entry for the class has a macro of that name (`macro_reachable_iff`).
-/
namespace DynamicMembers

open QueryContext

theorem ClassIndex.ancestors_of_root {x : ClassIndex} {name : String} {c : ClassInfo} (hc : x.find? name = some c)
    (hroot : c.supertypes = []) : x.ancestors name = [] := by
  have hopened : Walk.advance x (Walk.start x name) = ⟨[Name.classKey name], [], []⟩ := by
    simp only [Walk.advance, Walk.start, hc, Option.toList_some, hroot, List.foldl_nil]
  unfold ClassIndex.ancestors
  cases x.size with
  | zero => rfl
  | succ n => rw [Walk.run, hopened, Walk.run_of_queue_nil rfl]

namespace QueryContext

variable {x : QueryContext}

/-- A search without an answer entered no class that answers by itself. -/
theorem ownAnswer_eq_none_of_firstAnswer {types : TypeResolver} {method : String} {asked c : ClassInfo}
    {order : List ClassInfo} (h : x.firstAnswer types method asked order = .ok none) (hc : c ∈ order) :
    x.ownAnswer types method c = none := by
  unfold firstAnswer at h
  cases hfind : order.findSome? fun d => (x.ownAnswer types method d).map (d, ·) with
  | none => exact Option.map_eq_none_iff.1 (List.findSome?_eq_none_iff.1 hfind c hc)
  | some found =>
    obtain ⟨d, answer⟩ := found
    rw [hfind] at h
    cases answer <;> cases h

/-- A class has a macro when it or an ancestor is the class of an entry whose first one has a macro of that name. -/
theorem macroOf_isSome {key : String} {first : List MacroDefinition} {d : MacroDefinition} {method : String}
    {c : ClassInfo} (hfirst : x.settings.macros.forClass key = some first) (hd : d ∈ first)
    (hname : Name.methodKey d.name = Name.methodKey method)
    (hclass : Name.sameClass c.name key = true ∨ x.index.isSubclass c.name key = true) :
    (x.macroOf method c).isSome := by
  obtain ⟨owner, howner, hsame⟩ : ∃ owner ∈ c.name :: x.index.ancestors c.name, Name.sameClass owner key = true := by
    rcases hclass with h | h
    · exact ⟨c.name, List.mem_cons_self, h⟩
    · obtain ⟨owner, howner, hsame⟩ := List.any_eq_true.1 h
      exact ⟨owner, List.mem_cons_of_mem _ howner, hsame⟩
  unfold macroOf
  rw [List.findSome?_isSome_iff]
  refine ⟨owner, howner, ?_⟩
  rw [OrderedMap.forClass_congr (Name.sameClass_iff.1 hsame), hfirst, Option.getD_some, Option.isSome_map,
    List.find?_isSome]
  exact ⟨d, hd, decide_eq_true hname⟩

end QueryContext

/-- A class that has an entry of its own has a first one. -/
theorem OrderedMap.exists_forClass {α : Type} {m : OrderedMap String α} {key : String} {a : α}
    (h : (key, a) ∈ m.entries) : ∃ first, m.forClass key = some first := by
  have hsome : (m.entries.find? (fun e => Name.sameClass e.1 key)).isSome :=
    List.find?_isSome.2 ⟨(key, a), h, Name.sameClass_iff.2 rfl⟩
  obtain ⟨entry, hentry⟩ := Option.isSome_iff_exists.1 hsome
  exact ⟨entry.2, by rw [OrderedMap.forClass, hentry, Option.map_some]⟩

namespace MethodResolver

variable (settings : MethodSettings) (types : TypeResolver)

/-- A query for a macro is answered, or fails because the result type is refused. -/
def Reaches (answer : Answer (Option MethodResolution)) : Prop :=
  (∃ r, answer = .ok (some r)) ∨ ∃ text fault, answer = .error (.unresolvedType text fault)

theorem reaches_of_macroOf (index : ClassIndex) (htypes : RefusesTexts types) {c : ClassInfo}
    (hc : index.find? c.name = some c) {method : String}
    (hadded : (macroOf ⟨index, settings⟩ method c).isSome) :
    Reaches ((standard index settings types).compute c method) := by
  have hfirst := compute_standard index settings types hc method
  cases hcompute : (standard index settings types).compute c method with
  | error e =>
    obtain ⟨text, htext⟩ := error_of_compute index settings types hc hcompute
    obtain ⟨fault, rfl⟩ := htypes text e htext
    exact .inr ⟨text, fault, rfl⟩
  | ok found =>
    cases found with
    | some r => exact .inl ⟨r, rfl⟩
    | none =>
      -- the class itself is the first that the search enters, and it has the macro
      rw [hcompute] at hfirst
      have hmem : c ∈ (enteredFrom ⟨index, settings⟩ c).map Prod.snd := by
        rw [enteredFrom_eq _ hc]
        exact List.mem_cons_self
      have hnone := ownAnswer_eq_none_of_firstAnswer hfirst.symm hmem
      have hsome := (ownAnswer_isSome_iff ⟨index, settings⟩ types method c).2 (.inr hadded)
      rw [hnone] at hsome
      cases hsome

/-- A class that declares nothing and stands above nothing has no method but its macros. -/
theorem compute_of_bare {index : ClassIndex} {name : String} (hc : index.find? name = some { name }) {method : String}
    (hadded : macroOf ⟨index, settings⟩ method { name } = none) :
    (standard index settings types).compute { name } method = .ok none := by
  let x : QueryContext := ⟨index, settings⟩
  let c : ClassInfo := { name }
  have hancestors : index.ancestors name = [] := ClassIndex.ancestors_of_root hc rfl
  have hsubclass : ∀ ancestor, index.isSubclass name ancestor = false := by
    intro ancestor
    rw [ClassIndex.isSubclass, hancestors, List.any_nil]
  have htargets : x.targetNames c = [] := by
    simp [x, c, targetNames, concreteNames, rootNames, driverNames, ClassInfo.isInterface, hsubclass]
  have hnative : index.nativeMethod c method = none := by
    simp [c, ClassIndex.nativeMethod, ClassInfo.declaredMethod, hancestors]
  have hentered : (x.enteredFrom c).map Prod.snd = [c] := by
    rw [x.enteredFrom_eq (c := c) hc, offers, htargets, List.map_nil, ite_self, entered_nil, List.map_singleton]
  have hown : x.ownAnswer types method c = none := by
    simp only [ownAnswer, x, hnative, c, hadded, Option.map_none]
  have hfirst : _ = x.firstAnswer types method c _ := compute_standard index settings types (c := c) hc method
  rw [hentered, firstAnswer, List.findSome?_singleton, hown] at hfirst
  rcases hcompute : (standard index settings types).compute c method with _ | _ | r
  · rw [hcompute] at hfirst
    cases hfirst
  · rfl
  · rw [hcompute] at hfirst
    cases hfirst

/-- **A registered macro can be called exactly when the first entry for its class has a macro of that name.**  Whatever
the classes are and whatever was asked before, a query for it on its class or on a subclass is then answered, or fails
because a result type is refused.  When an entry in another spelling comes first that lacks the name, there is a class
on which the macro is registered and not found. -/
theorem macro_reachable_iff (htypes : RefusesTexts types) {key : String} {definitions : List MacroDefinition}
    (hentry : (key, definitions) ∈ settings.macros.entries) : ∀ d ∈ definitions,
    (∀ (index : ClassIndex) (calls : List MethodCall) (name : String) (c : ClassInfo),
      (∀ call ∈ calls, call.AsksIn index) → index.find? name = some c →
      Name.sameClass c.name key = true ∨ index.isSubclass c.name key = true →
        let r := standard index settings types
        Reaches (r.resolve (r.memoryAfter ∅ calls) c d.name).1) ↔
      ∃ first, settings.macros.forClass key = some first ∧ ∃ e ∈ first, Name.methodKey e.name = Name.methodKey d.name := by
  intro d _
  constructor
  · intro h
    obtain ⟨first, hfirst⟩ := OrderedMap.exists_forClass hentry
    refine ⟨first, hfirst, ?_⟩
    by_contra hlacks
    push Not at hlacks
    -- the class that the entry names, alone in its index
    obtain ⟨index, hc⟩ : ∃ index : ClassIndex, index.find? key = some { name := key } :=
      ⟨.ofList [{ name := key }], (OrderedMap.get?_insert ∅ _ _ _).trans (if_pos rfl)⟩
    have hfind : first.find? (fun e => Name.methodKey e.name = Name.methodKey d.name) = none :=
      List.find?_eq_none.2 (fun e he => by simpa using hlacks e he)
    have hadded : macroOf ⟨index, settings⟩ d.name { name := key } = none := by
      rw [macroOf, ClassIndex.ancestors_of_root hc rfl, List.findSome?_singleton, hfirst, Option.getD_some, hfind,
        Option.map_none]
    have hreaches := h index [] key { name := key } (fun _ hcall => absurd hcall List.not_mem_nil) hc (.inl (Name.sameClass_iff.2 rfl))
    have hanswer : ((standard index settings types).resolve ∅ { name := key } d.name).1 = .ok none :=
      (fst_resolve faithful_empty hc d.name).trans (compute_of_bare settings types hc hadded)
    simp only [memoryAfter, List.foldl_nil, hanswer] at hreaches
    rcases hreaches with ⟨r, hr⟩ | ⟨text, fault, he⟩
    · cases hr
    · cases he
  · rintro ⟨first, hfirst, e, he, hname⟩ index calls name c hcalls hc hclass r
    rw [fst_resolve_after (Pipeline.insensitive_standard types) hcalls hc]
    exact reaches_of_macroOf settings types index htypes (ClassIndex.find?_own hc)
      (macroOf_isSome (x := ⟨index, settings⟩) hfirst he hname hclass)

/-- The macros of the second entry for tags. -/
def laterTags : List MacroDefinition :=
  [{ name := "toLower", returnType := "string" }, { name := "TOUPPER", returnType := "list<" }]

/-- Macros on tags, registered under two spellings of the class. -/
def tagSettings : MethodSettings :=
  { macros := .ofList [("Tags", [{ name := "toUpper", returnType := "string" }]), ("\\tags", laterTags)] }

def tagIndex : ClassIndex := .ofList [{ name := "Tags" }, { name := "PostTags", parent := some "\\TAGS" }]

theorem macro_reachable_iff_tags :
    RefusesTexts PhpDoc.resolve ∧ ("\\tags", laterTags) ∈ tagSettings.macros.entries ∧
    Reaches ((standard tagIndex tagSettings PhpDoc.resolve).resolve ∅ { name := "PostTags", parent := some "\\TAGS" }
      "TOUPPER").1 ∧
    ¬ ∀ (index : ClassIndex) (calls : List MethodCall) (name : String) (c : ClassInfo),
      (∀ call ∈ calls, call.AsksIn index) → index.find? name = some c →
      Name.sameClass c.name "\\tags" = true ∨ index.isSubclass c.name "\\tags" = true →
        let r := standard index tagSettings PhpDoc.resolve
        Reaches (r.resolve (r.memoryAfter ∅ calls) c "toLower").1 := by
  have hentry : ("\\tags", laterTags) ∈ tagSettings.macros.entries := by decide +kernel
  have hiff := macro_reachable_iff tagSettings PhpDoc.resolve refusesTexts_resolve hentry
  refine ⟨refusesTexts_resolve, hentry, ?_, fun h => ?_⟩
  · -- the first entry has a macro of that name too, and it is the one that answers
    have hfirst : ∃ first, tagSettings.macros.forClass "\\tags" = some first ∧
        ∃ e ∈ first, Name.methodKey e.name = Name.methodKey "TOUPPER" :=
      ⟨[{ name := "toUpper", returnType := "string" }], by decide +kernel, _, List.mem_cons_self, by decide +kernel⟩
    exact (hiff { name := "TOUPPER", returnType := "list<" } (by decide)).2 hfirst tagIndex [] "posttags" _
      (fun _ hcall => absurd hcall List.not_mem_nil) (by decide +kernel) (.inr (by decide +kernel))
  · obtain ⟨first, hfirst, e, he, hname⟩ := (hiff { name := "toLower", returnType := "string" } (by decide)).1 h
    have hupper : tagSettings.macros.forClass "\\tags" = some [{ name := "toUpper", returnType := "string" }] := by
      decide +kernel
    obtain rfl := Option.some.inj (hfirst.symm.trans hupper)
    rw [List.mem_singleton.1 he] at hname
    exact absurd hname (by decide +kernel)

/-- Not every macro that is registered on a class is found on it. -/
theorem macro_hidden_behind_spelling :
    ¬ ∀ (index : ClassIndex) (settings : MethodSettings) (types : TypeResolver) (key : String)
      (definitions : List MacroDefinition) (d : MacroDefinition) (name : String) (c : ClassInfo),
      (key, definitions) ∈ settings.macros.entries → d ∈ definitions → index.find? name = some c →
      Name.sameClass c.name key = true ∨ index.isSubclass c.name key = true →
        ((standard index settings types).resolve ∅ c d.name).1 ≠ .ok none := by
  intro h
  have hnone : ((standard tagIndex tagSettings PhpDoc.resolve).resolve ∅ { name := "Tags" } "toLower").1 = .ok none := by
    decide +kernel
  exact h tagIndex tagSettings PhpDoc.resolve "\\tags" laterTags { name := "toLower", returnType := "string" } "tags" _
    (by decide +kernel) (by decide) (by decide +kernel) (.inl (by decide +kernel)) hnone

end MethodResolver
end DynamicMembers
