import DynamicMembers.Proofs.Delegation.Answers
import DynamicMembers.Proofs.Delegation.Permission
/-!
# Found methods — where an answer comes from, and whether it may be called statically

An answer is that of the class at the end of the query's way: its native method, made static once when the way is not
empty, or else a macro as it was registered (`resolve_some_origin`).  Static calls are allowed for macros and for what
some delegation on the way permits, and for nothing else that was tried (`staticAllowed_iff`).
-/
namespace DynamicMembers

namespace QueryContext

variable {x : QueryContext}

/-- Some delegation on a way permits static calls: one of a facade, or one to a class that always allows them. -/
theorem wayPermits_iff {legs : List Leg} :
    x.wayPermits legs = true ↔ ∃ leg ∈ legs, ∃ handoff ∈ leg.vain ++ [leg.onward], handoff.viaFacade = true ∨
      ∃ entry ∈ x.settings.statics, Name.sameClass entry handoff.target.name = true ∨
        x.index.isSubclass handoff.target.name entry = true := by
  simp only [wayPermits, Leg.made, permits, MethodSettings.alwaysStatic, List.any_eq_true, Bool.or_eq_true]

end QueryContext

@[simp] theorem MethodReflection.isAdded_forwarded (m : MethodReflection) : m.forwarded.isAdded = m.isAdded := by
  cases m <;> rfl

namespace MethodResolver

variable (index : ClassIndex) (settings : MethodSettings) (types : TypeResolver)

/-- **What is computed is what the way leads to**, with the permission that the way gives. -/
theorem compute_some {c : ClassInfo} (hc : index.find? c.name = some c) {method : String} {r : MethodResolution}
    (h : (standard index settings types).compute c method = .ok (some r)) :
    let x : QueryContext := ⟨index, settings⟩
    ∃ legs e m, x.Way (x.ownAnswer types method) c legs e ∧ x.ownAnswer types method e = some (.ok m) ∧
      r.method = (if legs = [] then m else m.forwarded) ∧ r.staticAllowed = (x.wayPermits legs || m.isAdded) := by
  intro x
  let run := ((Pipeline.standard types).runWithin x (index.size + 1)).runOn (Query.start c method)
  have hends : (Query.start c method).Ends x (x.ownAnswer types method) run :=
    Pipeline.ends_runWithin types (index.size + 1) _ rfl rfl hc (Nat.le_succ_of_le (ClassIndex.unseen_le_size index _))
  have hcompute : run.1.map (fun _ => resolutionOf run.2) = .ok (some r) := h
  generalize run = outcome at hcompute hends
  obtain ⟨result, q⟩ := outcome
  have htarget : (Query.start c method).target = c := rfl
  unfold Query.Ends at hends
  rw [htarget] at hends
  rcases result with err | flow
  · cases hcompute
  have hheld : resolutionOf q = some r := Except.ok.inj hcompute
  split at hends
  · rename_i hown
    cases flow with
    | pass =>
      -- a query that nothing settled holds nothing
      obtain ⟨made, seen, -, hafter⟩ := hends
      simp only at hafter
      rw [hafter] at hheld
      cases hheld
    | handled =>
      obtain ⟨vain, onward, legs, e, m, hleads, hownE, hheldQ, hallowed⟩ := hends
      simp only at hheldQ hallowed
      rw [resolutionOf, hheldQ] at hheld
      cases hheld
      refine ⟨⟨c, vain, onward⟩ :: legs, e, m, .onward hown hleads, hownE, rfl, ?_⟩
      rw [hallowed]
      simp [Query.start, QueryContext.wayPermits, Leg.made, Bool.or_assoc]
  · rename_i m hown
    obtain ⟨-, hheldQ, hallowed⟩ := hends
    simp only at hheldQ hallowed
    rw [resolutionOf, hheldQ] at hheld
    cases hheld
    exact ⟨[], c, m, .here (by simp [hown]), hown, rfl, hallowed⟩
  · rename_i e hown
    cases hends

/-- After any calls, what is resolved is what the way leads to. -/
theorem resolve_some {calls : List MethodCall} (hcalls : ∀ call ∈ calls, call.AsksIn index) {name : String}
    {c : ClassInfo} (hc : index.find? name = some c) {method : String} {r : MethodResolution}
    (h : ((standard index settings types).resolve ((standard index settings types).memoryAfter ∅ calls) c method).1 =
      .ok (some r)) :
    let x : QueryContext := ⟨index, settings⟩
    ∃ legs e m, x.Way (x.ownAnswer types method) c legs e ∧ x.ownAnswer types method e = some (.ok m) ∧
      r.method = (if legs = [] then m else m.forwarded) ∧ r.staticAllowed = (x.wayPermits legs || m.isAdded) := by
  rw [fst_resolve_after (Pipeline.insensitive_standard types) hcalls hc] at h
  exact compute_some index settings types (ClassIndex.find?_own hc) h

/-- **Every answer has an origin, and the shape that fits it.**  Whatever was asked before, a method that is found is
at the end of a chain of delegations within the limit: it is the native method of the last class, as it is on the class
asked and made static once further on; or, where the last class has no native method, a macro that the settings register
on that class or an ancestor, as it is, with the owner that was found and the result type that was read. -/
theorem resolve_some_origin {calls : List MethodCall} (hcalls : ∀ call ∈ calls, call.AsksIn index) {name : String}
    {c : ClassInfo} (hc : index.find? name = some c) {method : String} {r : MethodResolution}
    (h : ((standard index settings types).resolve ((standard index settings types).memoryAfter ∅ calls) c method).1 =
      .ok (some r)) :
    (∃ before e, QueryContext.Chain ⟨index, settings⟩ c before e ∧ before.length ≤ settings.maxDepth ∧
      ((∃ info, index.nativeMethod e method = some info ∧
          r.method = if before.length = 0 then .native info else .staticForwarding (.native info)) ∨
        index.nativeMethod e method = none ∧ ∃ owner ∈ e.name :: index.ancestors e.name,
          ∃ entry ∈ settings.macros.entries, ∃ d ∈ entry.2, ∃ t, Name.sameClass entry.1 owner = true ∧
            Name.methodKey d.name = Name.methodKey method ∧ types d.returnType = .ok t ∧
            r.method = .added (d.toMethod owner t))) ∧
    ∀ inner, r.method = .staticForwarding inner → ∃ info, inner = .native info := by
  obtain ⟨legs, e, m, hway, hown, hmethod, -⟩ := resolve_some index settings types hcalls hc h
  obtain ⟨hchain, hlength⟩ := hway.chain
  have hlegs : (legs.map Leg.source).length = legs.length := List.length_map _
  rcases QueryContext.native_or_macro _ types hown with ⟨info, hnative, rfl⟩ | ⟨hnone, owner, d, t, hmacro, htype, rfl⟩
  · have hshape : r.method = if legs.length = 0 then .native info else .staticForwarding (.native info) := by
      rw [hmethod]
      simp only [List.length_eq_zero_iff, MethodReflection.forwarded]
    refine ⟨⟨_, e, hchain, by rwa [hlegs], Or.inl ⟨info, hnative, by rwa [hlegs]⟩⟩, fun inner hinner => ?_⟩
    rw [hshape] at hinner
    split at hinner
    · cases hinner
    · cases hinner
      exact ⟨info, rfl⟩
  · have hadded : r.method = .added (d.toMethod owner t) := by
      rw [hmethod]
      simp only [MethodReflection.forwarded, ite_self]
    obtain ⟨howner, entry, hentry, hd, hclass, hname⟩ := QueryContext.macro_of_macroOf _ hmacro
    refine ⟨⟨_, e, hchain, by rwa [hlegs], Or.inr ⟨hnone, owner, howner, entry, hentry, d, hd, t, hclass, hname, htype,
      hadded⟩⟩, fun inner hinner => ?_⟩
    rw [hadded] at hinner
    cases hinner

/-- A shop whose desk is a facade of the till, with a cart mixed in that mixes in what knows the rate of a tax. -/
def shop : ClassIndex := .ofList
  [{ name := "Facade" }, { name := "Till" }, { name := "Cart", mixins := ["Tax"] },
   { name := "Desk", parent := some "Facade", mixins := ["Cart"] }, { name := "Side", parent := some "Facade" },
   { name := "Shop", mixins := ["Side", "Cart"] },
   (ClassInfo.ofName "Tax").declaring { name := "rate", declaringClass := "Tax" }]

/-- Settings with two facades of the till and a macro on it. -/
def shopSettings : MethodSettings :=
  { facadeClass := "\\facade", facades := .ofList [("Desk", "Till"), ("\\side", "Till")], statics := [], maxDepth := 2,
    macros := .ofList [("\\TILL", [{ name := "sum", returnType := "int" }])] }

def desk : ClassInfo := { name := "Desk", parent := some "Facade", mixins := ["Cart"] }

def shopResolver : MethodResolver := standard shop shopSettings PhpDoc.resolve

def deskCalls : List MethodCall := [.has desk "none", .resolve desk "Sum"]

theorem deskCalls_asksIn : ∀ call ∈ deskCalls, call.AsksIn shop := by
  intro call hcall
  simp only [deskCalls, List.mem_cons, List.not_mem_nil, or_false] at hcall
  rcases hcall with rfl | rfl
  · exact ⟨"\\desk", rfl⟩
  · exact ⟨"DESK", rfl⟩

theorem resolve_desk_rate : (shopResolver.resolve (shopResolver.memoryAfter ∅ deskCalls) desk "RATE").1 =
    .ok (some ⟨.staticForwarding (.native { name := "rate", declaringClass := "Tax" }), true⟩) := by
  decide +kernel

theorem resolve_some_origin_desk :
    (∀ call ∈ deskCalls, call.AsksIn shop) ∧ shop.find? "\\desk" = some desk ∧
    (shopResolver.resolve (shopResolver.memoryAfter ∅ deskCalls) desk "RATE").1 =
      .ok (some ⟨.staticForwarding (.native { name := "rate", declaringClass := "Tax" }), true⟩) ∧
    (shopResolver.resolve (shopResolver.memoryAfter ∅ deskCalls) desk "SUM").1 =
      .ok (some ⟨.added { name := "sum", declaringClass := "Till", returnType := .int }, true⟩) ∧
    (∃ before e, QueryContext.Chain ⟨shop, shopSettings⟩ desk before e ∧ before.length ≤ 2 ∧ before.length ≠ 0 ∧
      shop.nativeMethod e "RATE" = some { name := "rate", declaringClass := "Tax" }) ∧
    ∃ before e, QueryContext.Chain ⟨shop, shopSettings⟩ desk before e ∧ before.length ≤ 2 ∧
      shop.nativeMethod e "SUM" = none := by
  have hdesk : shop.find? "\\desk" = some desk := rfl
  have hsum : (shopResolver.resolve (shopResolver.memoryAfter ∅ deskCalls) desk "SUM").1 =
      .ok (some ⟨.added { name := "sum", declaringClass := "Till", returnType := .int }, true⟩) := by decide +kernel
  refine ⟨deskCalls_asksIn, hdesk, resolve_desk_rate, hsum, ?_, ?_⟩
  · obtain ⟨⟨before, e, hchain, hlength, ⟨info, hnative, hshape⟩ |
      ⟨-, _, -, _, -, _, -, _, -, -, -, hshape⟩⟩, -⟩ :=
      resolve_some_origin shop shopSettings PhpDoc.resolve deskCalls_asksIn hdesk resolve_desk_rate
    · split at hshape
      · cases hshape
      · rename_i hbefore
        cases hshape
        exact ⟨before, e, hchain, hlength, hbefore, hnative⟩
    · cases hshape
  · obtain ⟨⟨before, e, hchain, hlength, ⟨info, -, hshape⟩ | ⟨hnone, -⟩⟩, -⟩ :=
      resolve_some_origin shop shopSettings PhpDoc.resolve deskCalls_asksIn hdesk hsum
    · split at hshape <;> cases hshape
    · exact ⟨before, e, hchain, hlength, hnone⟩

/-- **Static calls are allowed for macros and for what the way permits.**  A query that finds a method has one way to
it.  Static calls are allowed exactly when the method is a macro, or some class on the way before the last, up to the
delegation that leads on from it, made a delegation that is one of a facade or goes to a class which is, or descends
from, one that always allows static calls.  What the failed delegations tried further down does not count. -/
theorem staticAllowed_iff {calls : List MethodCall} (hcalls : ∀ call ∈ calls, call.AsksIn index) {name : String}
    {c : ClassInfo} (hc : index.find? name = some c) {method : String} {r : MethodResolution}
    (h : ((standard index settings types).resolve ((standard index settings types).memoryAfter ∅ calls) c method).1 =
      .ok (some r)) :
    let x : QueryContext := ⟨index, settings⟩
    ∃ legs e, x.Way (x.ownAnswer types method) c legs e ∧
      (∀ legs' e', x.Way (x.ownAnswer types method) c legs' e' → legs' = legs ∧ e' = e) ∧
      c :: legs.map (·.onward.target) = legs.map Leg.source ++ [e] ∧
      (∃ m, x.ownAnswer types method e = some (.ok m) ∧ r.method = if legs = [] then m else m.forwarded) ∧
      (r.staticAllowed = true ↔ (∃ d, r.method = .added d) ∨
        ∃ leg ∈ legs, ∃ handoff ∈ leg.vain ++ [leg.onward], handoff.viaFacade = true ∨
          ∃ entry ∈ settings.statics, Name.sameClass entry handoff.target.name = true ∨
            index.isSubclass handoff.target.name entry = true) := by
  intro x
  obtain ⟨legs, e, m, hway, hown, hmethod, hallowed⟩ := resolve_some index settings types hcalls hc h
  have hadded : r.method.isAdded = m.isAdded := by
    rw [hmethod]
    split
    · rfl
    · exact m.isAdded_forwarded
  refine ⟨legs, e, hway, fun legs' e' hway' => hway'.unique hway, hway.targets, ⟨m, hown, hmethod⟩, ?_⟩
  rw [hallowed, ← hadded, Bool.or_eq_true, MethodReflection.isAdded_iff, QueryContext.wayPermits_iff, or_comm]

theorem staticAllowed_iff_shop :
    let x : QueryContext := ⟨shop, shopSettings⟩
    let asked : ClassInfo := { name := "Shop", mixins := ["Side", "Cart"] }
    let rate : MethodReflection := .staticForwarding (.native { name := "rate", declaringClass := "Tax" })
    (∀ call ∈ deskCalls, call.AsksIn shop) ∧ shop.find? "\\desk" = some desk ∧ shop.find? "shop" = some asked ∧
    (shopResolver.resolve (shopResolver.memoryAfter ∅ deskCalls) desk "RATE").1 = .ok (some ⟨rate, true⟩) ∧
    (shopResolver.resolve (shopResolver.memoryAfter ∅ deskCalls) asked "rate").1 = .ok (some ⟨rate, false⟩) ∧
    (∃ legs e, x.Way (x.ownAnswer PhpDoc.resolve "RATE") desk legs e ∧
      ∃ leg ∈ legs, ∃ handoff ∈ leg.vain ++ [leg.onward], handoff.viaFacade = true) ∧
    ∃ legs e, x.Way (x.ownAnswer PhpDoc.resolve "rate") asked legs e ∧
      ∀ leg ∈ legs, ∀ handoff ∈ leg.vain ++ [leg.onward], handoff.viaFacade = false := by
  intro x asked rate
  have hdesk : shop.find? "\\desk" = some desk := rfl
  have hasked : shop.find? "shop" = some asked := rfl
  -- the side goes on to the till as its facade, in vain: what is tried below the side does not count
  have hdenied : (shopResolver.resolve (shopResolver.memoryAfter ∅ deskCalls) asked "rate").1 =
      .ok (some ⟨rate, false⟩) := by decide +kernel
  refine ⟨deskCalls_asksIn, hdesk, hasked, resolve_desk_rate, hdenied, ?_, ?_⟩
  · obtain ⟨legs, e, hway, -, -, -, hiff⟩ :=
      staticAllowed_iff shop shopSettings PhpDoc.resolve deskCalls_asksIn hdesk resolve_desk_rate
    rcases hiff.1 rfl with ⟨d, hd⟩ | ⟨leg, hleg, handoff, hhandoff, hfacade | ⟨entry, hentry, -⟩⟩
    · cases hd
    · exact ⟨legs, e, hway, leg, hleg, handoff, hhandoff, hfacade⟩
    · cases hentry
  · obtain ⟨legs, e, hway, -, -, -, hiff⟩ :=
      staticAllowed_iff shop shopSettings PhpDoc.resolve deskCalls_asksIn hasked hdenied
    refine ⟨legs, e, hway, fun leg hleg handoff hhandoff => ?_⟩
    by_contra hfacade
    exact absurd (hiff.2 (.inr ⟨leg, hleg, handoff, hhandoff, .inl (eq_true_of_ne_false hfacade)⟩)) Bool.false_ne_true

end MethodResolver
end DynamicMembers
