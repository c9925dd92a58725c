import DynamicMembers.Proofs.Delegation.Answers
import DynamicMembers.Proofs.Method.Memory
/-!
# Questions about a method — each is answered afresh, and all agree

Whatever was asked before, a resolver answers as a new one would.  Whether a method exists and what it is are two
questions with one outcome: the method is there, it is not, or a macro's result type is refused (`answers_eq_fresh`).
-/
namespace DynamicMembers
namespace MethodResolver

variable (index : ClassIndex) (settings : MethodSettings) (types : TypeResolver)

/-- A resolver of types fails only because a text denotes no type. -/
def RefusesTexts : Prop := ∀ text e, types text = .error e → ∃ fault, e = .unresolvedType text fault

theorem refusesTexts_resolve : RefusesTexts PhpDoc.resolve := by
  intro text e h
  unfold PhpDoc.resolve at h
  cases hread : PhpDoc.read text.toList with
  | ok t =>
    rw [hread] at h
    cases h
  | error fault =>
    rw [hread] at h
    cases h
    exact ⟨fault, rfl⟩

theorem error_of_map {α β : Type} {f : α → β} {a : Answer α} {e : InferenceError} (h : a.map f = .error e) :
    a = .error e := by
  cases a with
  | ok v => cases h
  | error e' => exact congrArg Except.error (Except.error.inj h)

/-- A search fails only when a class that it enters fails by itself. -/
theorem error_of_firstAnswer {x : QueryContext} {method : String} {asked : ClassInfo} {order : List ClassInfo}
    {e : InferenceError} (h : x.firstAnswer types method asked order = .error e) :
    ∃ d ∈ order, x.ownAnswer types method d = some (.error e) := by
  unfold QueryContext.firstAnswer at h
  cases hfind : order.findSome? fun d => (x.ownAnswer types method d).map (d, ·) with
  | none =>
    rw [hfind] at h
    cases h
  | some found =>
    rw [hfind] at h
    obtain ⟨d, hd, hfound⟩ := List.exists_of_findSome?_eq_some hfind
    obtain ⟨answer, hanswer, rfl⟩ := Option.map_eq_some_iff.1 hfound
    obtain rfl : answer = .error e := error_of_map h
    exact ⟨d, hd, hanswer⟩

/-- **The one way in which a query fails** is a macro whose result type is refused, on a class that a chain of
delegations within the limit leads to and that has no native method. -/
theorem refused_of_compute {c : ClassInfo} (hc : index.find? c.name = some c) {method : String} {e : InferenceError}
    (h : (standard index settings types).compute c method = .error e) :
    ∃ before b owner d, QueryContext.Chain ⟨index, settings⟩ c before b ∧ before.length ≤ settings.maxDepth ∧
      index.nativeMethod b method = none ∧
      QueryContext.macroOf ⟨index, settings⟩ method b = some (owner, d) ∧ types d.returnType = .error e := by
  let x : QueryContext := ⟨index, settings⟩
  have hfirst := compute_standard index settings types hc method
  rw [h] at hfirst
  obtain ⟨b, hb, hrefused⟩ := error_of_firstAnswer types hfirst.symm
  obtain ⟨hnative, owner, d, hmacro, htype⟩ := x.macro_of_refused types hrefused
  obtain ⟨⟨depth, b'⟩, hentered, rfl⟩ := List.mem_map.1 hb
  obtain ⟨before, hchain, hlength, -⟩ := (x.exists_mem_enteredFrom_iff hc).1 ⟨depth, hentered⟩
  exact ⟨before, b', owner, d, hchain, hlength, hnative, hmacro, htype⟩

theorem error_of_compute {c : ClassInfo} (hc : index.find? c.name = some c) {method : String} {e : InferenceError}
    (h : (standard index settings types).compute c method = .error e) : ∃ text, types text = .error e := by
  obtain ⟨-, -, -, d, -, -, -, -, htype⟩ := refused_of_compute index settings types hc h
  exact ⟨d.returnType, htype⟩

/-- **Remembering changes no answer.**  Any calls about registered classes are answered as if each were the first;
afterwards too, a method can be had exactly when it exists, having it is a fault of state exactly when it does not, and
otherwise both questions fail alike. -/
theorem answers_eq_fresh (calls : List MethodCall) (hcalls : ∀ call ∈ calls, call.AsksIn index) :
    let r := standard index settings types
    r.answers ∅ calls = calls.map (fun call => (r.perform ∅ call).1) ∧
    ∀ (name : String) (c : ClassInfo) (method : String), index.find? name = some c →
      let has := (r.hasMethod (r.memoryAfter ∅ calls) c method).1
      let get := (r.getMethod (r.memoryAfter ∅ calls) c method).1
      ((∃ m, get = .ok m) ↔ has = .ok true) ∧
      (has = .ok false → get = .error (.invalidState (.methodNotResolvable c.name method))) ∧
      (RefusesTexts types → ∀ fault, get = .error (.invalidState fault) → has = .ok false) ∧
      ∀ e, has = .error e → get = .error e := by
  intro r
  have hspelling : ∀ s ∈ r.pipeline.strategies, s.Insensitive r.context := Pipeline.insensitive_standard types
  refine ⟨answers_of_faithful hspelling calls faithful_empty hcalls, fun name c method hc => ?_⟩
  have hmemory : r.Faithful (r.memoryAfter ∅ calls) := faithful_memoryAfter hspelling calls faithful_empty hcalls
  have hresolve := fst_resolve hmemory hc method
  simp only [hasMethod, getMethod, hresolve]
  cases hcompute : r.compute c method with
  | ok found =>
    cases found with
    | some resolution => simp [Except.map]
    | none => simp [Except.map]
  | error e =>
    -- the only texts read on the way are result types of macros, so the error is one of a type
    obtain ⟨text, htext⟩ := error_of_compute index settings types (ClassIndex.find?_own hc) hcompute
    have hfault : RefusesTexts types → ∀ fault, e ≠ .invalidState fault := by
      intro htypes fault he
      obtain ⟨typeFault, hunresolved⟩ := htypes text e htext
      rw [hunresolved] at he
      cases he
    simpa [Except.map] using hfault

/-- Settings of the diamond with a macro on `E` that no query can answer with. -/
def brokenMacro : MethodSettings := { macros := .ofList [("\\e", [{ name := "broken", returnType := "list<" }])] }

def diamondCalls : List MethodCall :=
  [.has { name := "A", mixins := ["B", "D"] } "RUN", .get { name := "D", mixins := ["E", "A"] } "Broken",
   .resolve { name := "A", mixins := ["B", "D"] } "run", .clear, .get { name := "A", mixins := ["B", "D"] } "Run"]

theorem answers_eq_fresh_diamond :
    (∀ call ∈ diamondCalls, call.AsksIn diamond) ∧
    diamond.find? "\\a" = some { name := "A", mixins := ["B", "D"] } ∧
    (standard diamond brokenMacro PhpDoc.resolve).answers ∅ diamondCalls =
      [.existence (.ok true), .reflection (.error (.unresolvedType "list<" .unbalancedBrackets)),
       .resolution (.ok (some ⟨.staticForwarding (.native { name := "run", declaringClass := "E" }), false⟩)), .cleared,
       .reflection (.ok (.staticForwarding (.native { name := "run", declaringClass := "E" })))] ∧
    (∃ m, ((standard diamond brokenMacro PhpDoc.resolve).getMethod
      ((standard diamond brokenMacro PhpDoc.resolve).memoryAfter ∅ diamondCalls) { name := "A", mixins := ["B", "D"] }
      "rUN").1 = .ok m) ∧
    ((standard diamond brokenMacro PhpDoc.resolve).hasMethod
      ((standard diamond brokenMacro PhpDoc.resolve).memoryAfter ∅ diamondCalls) { name := "A", mixins := ["B", "D"] }
      "none").1 = .ok false := by
  have hcalls : ∀ call ∈ diamondCalls, call.AsksIn diamond := by
    intro call hcall
    simp only [diamondCalls, List.mem_cons, List.not_mem_nil, or_false] at hcall
    rcases hcall with rfl | rfl | rfl | rfl | rfl
    · exact ⟨"A", rfl⟩
    · exact ⟨"D", rfl⟩
    · exact ⟨"A", rfl⟩
    · trivial
    · exact ⟨"A", rfl⟩
  have ha : diamond.find? "\\a" = some { name := "A", mixins := ["B", "D"] } := rfl
  obtain ⟨hfresh, hquestions⟩ := answers_eq_fresh diamond brokenMacro PhpDoc.resolve diamondCalls hcalls
  refine ⟨hcalls, ha, ?_, ?_, ?_⟩
  · rw [hfresh]
    rfl
  · exact (hquestions "\\a" _ "rUN" ha).1.2 rfl
  · exact (hquestions "\\a" _ "none" ha).2.2.1 refusesTexts_resolve (.methodNotResolvable "A" "none") rfl

end MethodResolver
end DynamicMembers
