import DynamicMembers.Proofs.Property.Loading
/-!
# Fresh decisions — when a property is read as it has just been found

A question that finds a column records its decision.  One that finds the identifier of a table without such a column
records nothing, and leaves what was recorded before on a class of the same key.  So, over any source of schemas, a
property that has just been found is read as it looks up, unless it is an implicit identifier and a column of that name
was found under the same key before (`getProperty_fresh_iff`).
-/
namespace DynamicMembers

open Schema (Registry)

namespace PropertyRules

variable (rules : PropertyRules)

/-- What reading a property gives when it is read as it looks up. -/
def readLookup (c : ClassInfo) (property : String) : PropertyLookup → Answer ModelProperty
  | .resolved pair => do
    let readable ← pair.readable.resolve rules.types
    let writable ← pair.writable.resolve rules.types
    return ⟨c.name, readable, writable⟩
  | .implicitId => .ok ⟨c.name, .int, .int⟩
  | _ => .error (.invalidState (.propertyNotResolved c.name property))

/-- The pair that was found last for a class key and a property since the last rebuild, the calls latest first; each
question counts with what it looked up at its time. -/
def lastFound (source : SchemaSource) (k : ClassKey) (property : String) : List PropertyCall → Option TypePair
  | [] => none
  | .rebuild :: _ => none
  | .has c q :: earlier =>
    match (rules.lookup source (rules.after source earlier.reverse) c q).1 with
    | .ok (.resolved pair) => if (c.key, q) = (k, property) then some pair else lastFound source k property earlier
    | _ => lastFound source k property earlier
  | _ :: earlier => lastFound source k property earlier

variable {rules} {source : SchemaSource}

/-! ## What one call records -/

theorem decisions_schema (s : PropertyState) : (s.schema source).2.decisions = s.decisions := by
  unfold PropertyState.schema
  cases s.registry with
  | some r => rfl
  | none => cases source s.loads <;> rfl

theorem schema_of_registry {s : PropertyState} {r : Registry} (h : s.registry = some r) :
    s.schema source = (.ok r, s) := by
  simp only [PropertyState.schema, h]

theorem registry_of_schema {s s' : PropertyState} {r : Registry} (h : s.schema source = (.ok r, s')) :
    s'.registry = some r := by
  unfold PropertyState.schema at h
  cases hs : s.registry with
  | some q =>
    simp only [hs, Prod.mk.injEq, Except.ok.injEq] at h
    rw [← h.2, hs, h.1]
  | none =>
    cases hload : source s.loads with
    | error e => simp [hs, hload] at h
    | ok q =>
      simp only [hs, hload, Prod.mk.injEq, Except.ok.injEq] at h
      rw [← h.2, h.1]

theorem decisions_lookup (s : PropertyState) (c : ClassInfo) (property : String) :
    (rules.lookup source s c property).2.decisions = s.decisions := by
  cases h : rules.claimed c property with
  | some reason => rw [lookup_of_claimed h]
  | none => rw [lookup_of_unclaimed h, decisions_schema]

/-- A question records a decision exactly when it finds a column. -/
theorem decisions_hasProperty (s : PropertyState) (c : ClassInfo) (property : String) :
    (rules.hasProperty source s c property).2.decisions = match (rules.lookup source s c property).1 with
      | .ok (.resolved pair) => s.decisions.insert (decisionKey c property) pair
      | _ => s.decisions := by
  have h : (rules.lookup source s c property).2.decisions = s.decisions := decisions_lookup s c property
  unfold hasProperty
  generalize rules.lookup source s c property = looked at h
  obtain ⟨answer, s'⟩ := looked
  simp only at h
  rw [← h]
  rcases answer with _ | _ | _ | _ | _ <;> rfl

theorem readings_getProperty (s : PropertyState) (c : ClassInfo) (property : String) (key : ClassKey × String) :
    ((rules.getProperty source s c property).2.decisions.get? key).map (readings rules.types) =
      (s.decisions.get? key).map (readings rules.types) := by
  cases hget : s.decisions.get? (decisionKey c property) with
  | some pair =>
    rw [rules.getProperty_of_decided source hget, OrderedMap.get?_insert]
    split
    · rename_i hkey
      rw [← hkey, hget, Option.map_some, Option.map_some, readings_settlePair]
    · rfl
  | none =>
    have h : (s.schema source).2.decisions = s.decisions := decisions_schema s
    unfold getProperty
    rw [hget]
    by_cases hid : property = idName
    · simp only [hid, if_true]
      generalize s.schema source = loaded at h
      obtain ⟨_ | r, s'⟩ := loaded
      · simp only at h
        rw [h]
      · simp only at h
        rw [← h]
        cases hcolumn : r.column? c.tableName idName <;> simp only [hcolumn]
    · simp only [hid, if_false]

/-- **What is recorded reads as what was found last**, whatever schemas the source gave and whichever loads failed. -/
theorem decided_after (calls : List PropertyCall) (k : ClassKey) (property : String) :
    ((rules.after source calls).decisions.get? (k, property)).map (readings rules.types) =
      (rules.lastFound source k property calls.reverse).map (readings rules.types) := by
  induction calls using List.reverseRecOn with
  | nil => rfl
  | append_singleton calls call ih =>
    rw [after_concat, List.reverse_append, List.reverse_singleton, List.singleton_append]
    cases call with
    | rebuild => rfl
    | schema => rw [perform, decisions_schema, ih]; rfl
    | lookup c q => rw [perform, decisions_lookup, ih]; rfl
    | get c q => rw [perform, readings_getProperty, ih]; rfl
    | has c q =>
      rw [perform, decisions_hasProperty, lastFound, List.reverse_reverse]
      -- only a question that finds a column records anything
      cases (rules.lookup source (rules.after source calls) c q).1 with
      | error e => exact ih
      | ok l =>
        cases l with
        | resolved pair =>
          simp only [OrderedMap.get?_insert, decisionKey]
          split
          · rfl
          · exact ih
        | _ => exact ih

/-! ## Reading what has just been found -/

theorem hasProperty_of_schema {s s' : PropertyState} {c : ClassInfo} {property : String} {r : Registry}
    (hclaimed : rules.claimed c property = none) (hschema : s.schema source = (.ok r, s')) :
    rules.hasProperty source s c property = (.ok (rules.lookupIn r c property).found,
      match rules.lookupIn r c property with
      | .resolved pair => { s' with decisions := s'.decisions.insert (decisionKey c property) pair }
      | _ => s') := by
  simp only [hasProperty, lookup_of_unclaimed hclaimed, hschema, Except.map]
  cases rules.lookupIn r c property <;> rfl

/-- **A property that is found is looked up in a schema that stays loaded**, and what is found there is all that is
recorded. -/
theorem loaded_of_hasProperty {s : PropertyState} {c : ClassInfo} {property : String}
    (h : (rules.hasProperty source s c property).1 = .ok true) :
    let s' := (rules.hasProperty source s c property).2
    ∃ r, s'.schema source = (.ok r, s') ∧ rules.lookup source s' c property = (.ok (rules.lookupIn r c property), s') ∧
      (rules.lookupIn r c property).found = true ∧
      s'.decisions = match rules.lookupIn r c property with
        | .resolved pair => s.decisions.insert (decisionKey c property) pair
        | _ => s.decisions := by
  cases hclaimed : rules.claimed c property with
  | some reason =>
    rw [hasProperty_of_claimed hclaimed] at h
    cases h
  | none =>
    have hlookup : ∀ s : PropertyState, rules.lookup source s c property =
        ((s.schema source).1.map (rules.lookupIn · c property), (s.schema source).2) := lookup_of_unclaimed hclaimed
    rcases hschema : s.schema source with ⟨e | r, s₁⟩
    · simp only [hasProperty, hlookup, hschema, Except.map] at h
      cases h
    · have hregistry := registry_of_schema hschema
      have hdecisions : s₁.decisions = s.decisions := by rw [← decisions_schema s, hschema]
      rw [hasProperty_of_schema hclaimed hschema] at h ⊢
      intro s'
      have hloaded : s'.schema source = (.ok r, s') := schema_of_registry (by
        simp only [s']
        cases rules.lookupIn r c property <;> exact hregistry)
      refine ⟨r, hloaded, ?_, Except.ok.inj h, ?_⟩
      · rw [hlookup, hloaded]
        rfl
      · rw [← hdecisions]
        simp only [s']
        cases rules.lookupIn r c property <;> rfl

/-- A recorded pair is read as it reads afresh, also when it was settled in between. -/
theorem getProperty_of_recorded {s : PropertyState} {c : ClassInfo} {property : String} {recorded pair : TypePair}
    (hget : s.decisions.get? (decisionKey c property) = some recorded)
    (hread : readings rules.types recorded = readings rules.types pair) :
    (rules.getProperty source s c property).1 = rules.readLookup c property (.resolved pair) := by
  rw [rules.getProperty_of_decided source hget, fst_settlePair, hread, readings, readLookup]
  rcases pair.readable.resolve rules.types with _ | t
  · rfl
  · rcases pair.writable.resolve rules.types with _ | u <;> rfl

theorem getProperty_of_implicitId {s : PropertyState} {r : Registry} {c : ClassInfo} {property : String}
    (hget : s.decisions.get? (decisionKey c property) = none) (hschema : s.schema source = (.ok r, s))
    (hl : rules.lookupIn r c property = .implicitId) :
    (rules.getProperty source s c property).1 = .ok ⟨c.name, .int, .int⟩ := by
  obtain ⟨rfl, hcolumn⟩ := rules.lookupIn_implicitId hl
  simp only [getProperty, hget, if_true, hschema, hcolumn]

/-- **A property that has just been found is read as it looks up, but for one case.**  After any calls over any source
of schemas, when the property is found, reading it next gives the types that looking it up decides.  The one exception
is an implicit identifier after a column of that name was found on a class of the same key since the last rebuild: then
the pair that was found last is read, and the types are right only if that pair happens to be two integers. -/
theorem getProperty_fresh_iff (rules : PropertyRules) (source : SchemaSource) (calls : List PropertyCall)
    (c : ClassInfo) (property : String)
    (h : (rules.hasProperty source (rules.after source calls) c property).1 = .ok true) :
    let s := (rules.hasProperty source (rules.after source calls) c property).2
    ∃ l, rules.lookup source s c property = (.ok l, s) ∧ l.found = true ∧
      ((rules.getProperty source s c property).1 = rules.readLookup c property l ↔
        ∀ pair, l = .implicitId → rules.lastFound source c.key property calls.reverse = some pair →
          rules.readLookup c property (.resolved pair) = .ok ⟨c.name, .int, .int⟩) ∧
      ∀ pair, l = .implicitId → rules.lastFound source c.key property calls.reverse = some pair →
        (rules.getProperty source s c property).1 = rules.readLookup c property (.resolved pair) := by
  intro s
  obtain ⟨r, hschema, hlookup, hfound, hdecisions⟩ := loaded_of_hasProperty h
  refine ⟨rules.lookupIn r c property, hlookup, hfound, ?_⟩
  cases hl : rules.lookupIn r c property with
  | resolved pair =>
    have hget : s.decisions.get? (decisionKey c property) = some pair := by
      rw [show s.decisions = _ from hdecisions, hl]
      simp only [OrderedMap.get?_insert, if_true]
    have hread : (rules.getProperty source s c property).1 = rules.readLookup c property (.resolved pair) :=
      getProperty_of_recorded hget rfl
    exact ⟨iff_of_true hread (fun _ himplicit => nomatch himplicit), fun _ himplicit => nomatch himplicit⟩
  | implicitId =>
    -- nothing was recorded now, so what is recorded is what was found before
    have hrecorded : ((rules.after source calls).decisions.get? (c.key, property)).map (readings rules.types) =
        (rules.lastFound source c.key property calls.reverse).map (readings rules.types) :=
      decided_after calls c.key property
    rw [hl] at hdecisions
    simp only at hdecisions
    rw [← hdecisions] at hrecorded
    cases hlast : rules.lastFound source c.key property calls.reverse with
    | some pair =>
      rw [hlast, Option.map_some, Option.map_eq_some_iff] at hrecorded
      obtain ⟨recorded, hget, hread⟩ := hrecorded
      have hstale : (rules.getProperty source s c property).1 = rules.readLookup c property (.resolved pair) :=
        getProperty_of_recorded hget hread
      rw [hstale]
      refine ⟨⟨fun hright pair' _ hpair => ?_, fun hright => hright pair rfl rfl⟩, fun pair' _ hpair => ?_⟩
      · rw [← Option.some.inj hpair]
        exact hright
      · rw [← Option.some.inj hpair]
    | none =>
      rw [hlast, Option.map_none, Option.map_eq_none_iff] at hrecorded
      have hint : (rules.getProperty source s c property).1 = .ok ⟨c.name, .int, .int⟩ :=
        getProperty_of_implicitId hrecorded hschema hl
      exact ⟨iff_of_true hint (fun _ _ hpair => nomatch hpair), fun _ _ hpair => nomatch hpair⟩
  | _ =>
    rw [hl] at hfound
    cases hfound

/-- Accounts, which have identifiers of their own that are no integers. -/
def accountRules : PropertyRules where
  index := .ofList [{ name := "Model" }, { name := "Account", parent := some "Model" }]
  modelClass := "Model"
  dateClass := "Carbon"

def account : ClassInfo := { name := "Account", parent := some "Model" }

/-- The same class, stored in a table without identifiers. -/
def archived : ClassInfo := { account with record := some { table := some "archive" } }

def accounts : Registry := (∅ : Registry).insert
  { name := "accounts", columns := .ofList [("id", .ofStored "id" "string" false)] }

/-- The identifier that was found on the account is read of the archived one, which looks up as an integer; the other
way round each is read as it looks up. -/
theorem getProperty_fresh_iff_account :
    let found := (accountRules.hasProperty (.fixed accounts) (accountRules.after (.fixed accounts) [.has account "id"])
      archived "id")
    let found' := (accountRules.hasProperty (.fixed accounts)
      (accountRules.after (.fixed accounts) [.has archived "id"]) account "id")
    found.1 = .ok true ∧ found'.1 = .ok true ∧
    accountRules.lookup (.fixed accounts) found.2 archived "id" = (.ok .implicitId, found.2) ∧
    (accountRules.getProperty (.fixed accounts) found.2 archived "id").1 = .ok ⟨"Account", .string, .string⟩ ∧
    (accountRules.getProperty (.fixed accounts) found'.2 account "id").1 = .ok ⟨"Account", .string, .string⟩ := by
  intro found found'
  have hfound : found.1 = .ok true := by decide +kernel
  have hfound' : found'.1 = .ok true := by decide +kernel
  have himplicit : accountRules.lookup (.fixed accounts) found.2 archived "id" = (.ok .implicitId, found.2) := rfl
  have hresolved : accountRules.lookup (.fixed accounts) found'.2 account "id" =
      (.ok (.resolved (.both (.textual "string"))), found'.2) := rfl
  have hlast : accountRules.lastFound (.fixed accounts) archived.key "id" [.has account "id"] =
      some (.both (.textual "string")) := rfl
  refine ⟨hfound, hfound', himplicit, ?_, ?_⟩
  · obtain ⟨l, hl, -, -, hstale⟩ := getProperty_fresh_iff accountRules (.fixed accounts) [.has account "id"] archived
      "id" hfound
    obtain rfl : l = .implicitId := Except.ok.inj (congrArg Prod.fst (hl.symm.trans himplicit))
    exact (hstale _ rfl hlast).trans (by decide +kernel)
  · obtain ⟨l, hl, -, hread, -⟩ := getProperty_fresh_iff accountRules (.fixed accounts) [.has archived "id"] account
      "id" hfound'
    obtain rfl : l = .resolved (.both (.textual "string")) :=
      Except.ok.inj (congrArg Prod.fst (hl.symm.trans hresolved))
    exact (hread.2 (fun _ himplicit => nomatch himplicit)).trans (by decide +kernel)

/-- Not every property that has just been found is read as it looks up. -/
theorem read_stale_under_one_key :
    ¬ ∀ (rules : PropertyRules) (source : SchemaSource) (calls : List PropertyCall) (c : ClassInfo) (property : String),
      let s := (rules.hasProperty source (rules.after source calls) c property).2
      (rules.hasProperty source (rules.after source calls) c property).1 = .ok true →
        ∃ l, (rules.lookup source s c property).1 = .ok l ∧
          (rules.getProperty source s c property).1 = rules.readLookup c property l := by
  intro h
  obtain ⟨l, hl, hread⟩ := h accountRules (.fixed accounts) [.has account "id"] archived "id" (by decide +kernel)
  obtain rfl : l = .implicitId := (Except.ok.inj hl).symm
  have hstale : (accountRules.getProperty (.fixed accounts) (accountRules.hasProperty (.fixed accounts)
      (accountRules.after (.fixed accounts) [.has account "id"]) archived "id").2 archived "id").1 =
      .ok ⟨"Account", .string, .string⟩ := by decide +kernel
  rw [hstale] at hread
  cases hread

end PropertyRules
end DynamicMembers
