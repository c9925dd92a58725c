import DynamicMembers.Property.Resolver
import Mathlib.Data.List.Induction
/-!
# Histories of property queries — what is read is what was last decided

A resolver is asked in any order whether properties exist, what they are and how they look up.  Over a schema that stays
the same, a property is read as the last question about it on a class of that key decided, however often it was read or
looked up since; a rebuild forgets the decision (`getProperty_after`).
-/
namespace DynamicMembers

open Schema (Registry)

/-- A call on a resolver of properties. -/
inductive PropertyCall where
  | has (c : ClassInfo) (property : String)
  | get (c : ClassInfo) (property : String)
  | lookup (c : ClassInfo) (property : String)
  | schema
  | rebuild

namespace PropertyRules

variable (rules : PropertyRules)

/-- What a call leaves of the state of a resolver. -/
def perform (source : SchemaSource) (s : PropertyState) : PropertyCall → PropertyState
  | .has c property => (rules.hasProperty source s c property).2
  | .get c property => (rules.getProperty source s c property).2
  | .lookup c property => (rules.lookup source s c property).2
  | .schema => (s.schema source).2
  | .rebuild => s.rebuild

/-- The state of a new resolver after calls. -/
def after (source : SchemaSource) (calls : List PropertyCall) : PropertyState := calls.foldl (rules.perform source) {}

/-- The pair that a schema decides for a property: none when something else claims the property or the table of the
class has no such column. -/
def decision? (r : Registry) (c : ClassInfo) (property : String) : Option TypePair :=
  match rules.claimed c property with
  | some _ => none
  | none => (r.column? c.tableName property).map fun column =>
      Decision.typePair (Decision.dateType rules.dateClass) (factsOf c property column) rules.index.knows

/-- The pair that was decided last for a class key and a property since the last rebuild, the calls latest first. -/
def lastDecision (r : Registry) (k : ClassKey) (property : String) : List PropertyCall → Option TypePair
  | [] => none
  | .rebuild :: _ => none
  | .has c q :: earlier =>
    if c.key = k ∧ q = property then (rules.decision? r c property).or (lastDecision r k property earlier)
    else lastDecision r k property earlier
  | _ :: earlier => lastDecision r k property earlier

/-! ## Reading a pair -/

/-- What the two expressions of a pair are read as. -/
def readings (types : TypeResolver) (p : TypePair) : Answer PhpType × Answer PhpType :=
  (p.readable.resolve types, p.writable.resolve types)

theorem resolve_settle (types : TypeResolver) (e : TypeExpr) : (e.settle types).2.resolve types = e.resolve types := by
  unfold TypeExpr.settle
  cases h : e.resolve types with
  | ok t => rfl
  | error err => exact h

theorem fst_settle (types : TypeResolver) (e : TypeExpr) : (e.settle types).1 = e.resolve types := by
  unfold TypeExpr.settle
  cases e.resolve types <;> rfl

/-- Settling a pair reads the readable expression first and then the writable one. -/
theorem fst_settlePair (types : TypeResolver) (p : TypePair) : (settlePair types p).1 = do
    let t ← (readings types p).1
    let u ← (readings types p).2
    return (t, u) := by
  have hr := fst_settle types p.readable
  have hw := fst_settle types p.writable
  unfold settlePair readings
  rw [← hr, ← hw]
  rcases p.readable.settle types with ⟨_ | t, r⟩
  · rfl
  · rcases p.writable.settle types with ⟨_ | u, w⟩ <;> rfl

/-- **A settled pair is read as before**, also when settling it failed halfway. -/
theorem readings_settlePair (types : TypeResolver) (p : TypePair) :
    readings types (settlePair types p).2 = readings types p := by
  have hr := resolve_settle types p.readable
  have hw := resolve_settle types p.writable
  unfold settlePair readings
  generalize p.readable.settle types = r at hr
  generalize p.writable.settle types = w at hw
  rcases r with ⟨_ | t, r⟩
  · exact congrArg (·, _) hr
  · rcases w with ⟨_ | u, w⟩ <;> exact congrArg₂ Prod.mk hr hw

/-! ## One call over a fixed schema -/

/-- The schema of a state, if it is loaded. -/
def Loaded (r : Registry) (s : PropertyState) : Prop := ∀ q, s.registry = some q → q = r

theorem loaded_of_none {r : Registry} {s : PropertyState} (h : s.registry = none) : Loaded r s := by
  intro q hq
  rw [h] at hq
  cases hq

theorem schema_fixed {r : Registry} {s : PropertyState} (h : Loaded r s) :
    ∃ s', s.schema (.fixed r) = (.ok r, s') ∧ Loaded r s' ∧ s'.decisions = s.decisions := by
  unfold PropertyState.schema
  cases hs : s.registry with
  | some q =>
    obtain rfl := h q hs
    exact ⟨s, rfl, h, rfl⟩
  | none => exact ⟨_, rfl, fun q hq => (Option.some.inj hq).symm, rfl⟩

/-- What looking a property up gives over a schema. -/
def outcome (r : Registry) (c : ClassInfo) (property : String) : PropertyLookup :=
  match rules.claimed c property with
  | some reason => .notApplicable reason
  | none => rules.lookupIn r c property

theorem outcome_resolved_iff (r : Registry) (c : ClassInfo) (property : String) (pair : TypePair) :
    rules.outcome r c property = .resolved pair ↔ rules.decision? r c property = some pair := by
  unfold outcome decision?
  cases rules.claimed c property with
  | some reason => simp
  | none =>
    simp only [lookupIn]
    cases r.column? c.tableName property with
    | some column => simp
    | none => by_cases hid : property = idName <;> simp [hid]

theorem decision?_eq_none {r : Registry} {c : ClassInfo} {property : String}
    (h : ∀ pair, rules.outcome r c property ≠ .resolved pair) : rules.decision? r c property = none :=
  Option.eq_none_iff_forall_ne_some.2 (fun pair hp => h pair ((rules.outcome_resolved_iff r c property pair).2 hp))

/-- Only the identifier of a table without such a column is found without a decision. -/
theorem lookupIn_implicitId {r : Registry} {c : ClassInfo} {property : String}
    (h : rules.lookupIn r c property = .implicitId) : property = idName ∧ r.column? c.tableName idName = none := by
  unfold lookupIn at h
  cases hcolumn : r.column? c.tableName property with
  | some column =>
    rw [hcolumn] at h
    cases h
  | none =>
    rw [hcolumn] at h
    by_cases hid : property = idName
    · exact ⟨hid, hid ▸ hcolumn⟩
    · simp [hid] at h

theorem outcome_implicitId {r : Registry} {c : ClassInfo} {property : String}
    (h : rules.outcome r c property = .implicitId) : property = idName ∧ r.column? c.tableName idName = none := by
  unfold outcome at h
  cases hclaimed : rules.claimed c property with
  | some reason =>
    rw [hclaimed] at h
    cases h
  | none =>
    rw [hclaimed] at h
    exact rules.lookupIn_implicitId h

theorem decided_or_implicit {r : Registry} {c : ClassInfo} {property : String}
    (h : (rules.outcome r c property).found = true) : (∃ pair, rules.decision? r c property = some pair) ∨
      rules.decision? r c property = none ∧ property = idName ∧ r.column? c.tableName idName = none := by
  cases hout : rules.outcome r c property with
  | resolved pair => exact Or.inl ⟨pair, (rules.outcome_resolved_iff r c property pair).1 hout⟩
  | implicitId => exact Or.inr ⟨rules.decision?_eq_none (by simp [hout]), rules.outcome_implicitId hout⟩
  | _ =>
    rw [hout] at h
    cases h

theorem lookup_fixed {r : Registry} {s : PropertyState} (h : Loaded r s) (c : ClassInfo) (property : String) :
    ∃ s', rules.lookup (.fixed r) s c property = (.ok (rules.outcome r c property), s') ∧ Loaded r s' ∧
      s'.decisions = s.decisions := by
  unfold lookup outcome
  cases rules.claimed c property with
  | some reason => exact ⟨s, rfl, h, rfl⟩
  | none =>
    obtain ⟨s', hschema, hloaded, hdecisions⟩ := schema_fixed h
    simp only [hschema]
    exact ⟨s', rfl, hloaded, hdecisions⟩

theorem hasProperty_fixed {r : Registry} {s : PropertyState} (h : Loaded r s) (c : ClassInfo) (property : String) :
    let s' := (rules.hasProperty (.fixed r) s c property).2
    (rules.hasProperty (.fixed r) s c property).1 = .ok (rules.outcome r c property).found ∧ Loaded r s' ∧
      s'.decisions = match rules.decision? r c property with
      | some pair => s.decisions.insert (decisionKey c property) pair
      | none => s.decisions := by
  obtain ⟨s', hlookup, hloaded, hdecisions⟩ := rules.lookup_fixed h c property
  unfold hasProperty
  rw [hlookup]
  cases hout : rules.outcome r c property with
  | resolved pair =>
    rw [(rules.outcome_resolved_iff r c property pair).1 hout]
    exact ⟨rfl, hloaded, by simp only [hdecisions]⟩
  | _ =>
    rw [rules.decision?_eq_none (by simp [hout])]
    exact ⟨rfl, hloaded, hdecisions⟩

/-- The answer of a resolver that reads a property, given what its decision is read as. -/
def readAs (r : Registry) (c : ClassInfo) (property : String) :
    Option (Answer PhpType × Answer PhpType) → Answer ModelProperty
  | some (readable, writable) => do
    let t ← readable
    let u ← writable
    return ⟨c.name, t, u⟩
  | none =>
    if property = idName ∧ r.column? c.tableName idName = none then .ok ⟨c.name, .int, .int⟩
    else .error (.invalidState (.propertyNotResolved c.name property))

theorem getProperty_of_decided (source : SchemaSource) {s : PropertyState} {c : ClassInfo} {property : String}
    {pair : TypePair} (hget : s.decisions.get? (decisionKey c property) = some pair) :
    rules.getProperty source s c property =
      ((settlePair rules.types pair).1.map (fun t => ⟨c.name, t.1, t.2⟩),
        { s with decisions := s.decisions.insert (decisionKey c property) (settlePair rules.types pair).2 }) := by
  unfold getProperty
  rw [hget]

theorem getProperty_of_undecided {r : Registry} {s : PropertyState} (h : Loaded r s) {c : ClassInfo}
    {property : String} (hget : s.decisions.get? (decisionKey c property) = none) :
    ∃ s', rules.getProperty (.fixed r) s c property = (readAs r c property none, s') ∧ Loaded r s' ∧
      s'.decisions = s.decisions := by
  obtain ⟨s', hschema, hloaded, hdecisions⟩ := schema_fixed h
  unfold getProperty readAs
  rw [hget]
  by_cases hid : property = idName
  · refine ⟨s', ?_, hloaded, hdecisions⟩
    simp only [hid, if_true, hschema, true_and]
    cases r.column? c.tableName idName with
    | none => rw [if_pos rfl]
    | some column => rw [if_neg (fun hn => nomatch hn)]
  · refine ⟨s, ?_, h, rfl⟩
    simp only [hid, if_false, false_and]

theorem getProperty_fixed {r : Registry} {s : PropertyState} (h : Loaded r s) (c : ClassInfo) (property : String) :
    (rules.getProperty (.fixed r) s c property).1 =
      readAs r c property ((s.decisions.get? (decisionKey c property)).map (readings rules.types)) ∧
    Loaded r (rules.getProperty (.fixed r) s c property).2 ∧
    ∀ key, ((rules.getProperty (.fixed r) s c property).2.decisions.get? key).map (readings rules.types) =
      (s.decisions.get? key).map (readings rules.types) := by
  cases hget : s.decisions.get? (decisionKey c property) with
  | some pair =>
    rw [rules.getProperty_of_decided _ hget]
    refine ⟨?_, h, fun key => ?_⟩
    · rw [fst_settlePair, Option.map_some]
      rcases readings rules.types pair with ⟨_ | t, _ | u⟩ <;> rfl
    · -- the settled pair stands where the decided one stood
      rw [OrderedMap.get?_insert]
      split
      · rename_i hkey
        rw [← hkey, hget, Option.map_some, Option.map_some, readings_settlePair]
      · rfl
  | none =>
    obtain ⟨s', hget', hloaded, hdecisions⟩ := rules.getProperty_of_undecided h hget
    rw [hget']
    exact ⟨rfl, hloaded, fun key => by rw [hdecisions]⟩

/-! ## Any calls over a fixed schema -/

/-- A state that reads every property as the calls so far, latest first, last decided it. -/
structure Follows (r : Registry) (history : List PropertyCall) (s : PropertyState) : Prop where
  loaded : Loaded r s
  decided : ∀ k property, (s.decisions.get? (k, property)).map (readings rules.types) =
    (rules.lastDecision r k property history).map (readings rules.types)

/-- **Every call keeps the state in step with the history.** -/
theorem Follows.perform {r : Registry} {history : List PropertyCall} {s : PropertyState}
    (h : rules.Follows r history s) (call : PropertyCall) :
    rules.Follows r (call :: history) (rules.perform (.fixed r) s call) := by
  cases call with
  | has c property =>
    obtain ⟨-, hloaded, hdecisions⟩ := rules.hasProperty_fixed h.loaded c property
    refine ⟨hloaded, fun k q => ?_⟩
    rw [PropertyRules.perform, hdecisions, lastDecision]
    -- only the key of the class counts: a question on another class of the same key decides here too
    by_cases hkey : c.key = k ∧ property = q
    · obtain ⟨rfl, rfl⟩ := hkey
      rw [if_pos ⟨rfl, rfl⟩]
      cases rules.decision? r c property with
      | some pair => rw [OrderedMap.get?_insert, decisionKey, if_pos rfl, Option.some_or]
      | none => rw [Option.none_or, h.decided]
    · rw [if_neg hkey, ← h.decided]
      cases rules.decision? r c property with
      | some pair =>
        rw [OrderedMap.get?_insert, decisionKey, if_neg (fun he => hkey (Prod.mk.inj he))]
      | none => rfl
  | get c property =>
    obtain ⟨-, hloaded, hdecisions⟩ := rules.getProperty_fixed h.loaded c property
    exact ⟨hloaded, fun k q => (hdecisions (k, q)).trans (h.decided k q)⟩
  | lookup c property =>
    obtain ⟨s', hlookup, hloaded, hdecisions⟩ := rules.lookup_fixed h.loaded c property
    rw [PropertyRules.perform, hlookup]
    exact ⟨hloaded, fun k q => by rw [hdecisions]; exact h.decided k q⟩
  | schema =>
    obtain ⟨s', hschema, hloaded, hdecisions⟩ := schema_fixed h.loaded
    rw [PropertyRules.perform, hschema]
    exact ⟨hloaded, fun k q => by rw [hdecisions]; exact h.decided k q⟩
  | rebuild => exact ⟨loaded_of_none rfl, fun _ _ => rfl⟩

end PropertyRules
end DynamicMembers
