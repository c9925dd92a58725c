import DynamicMembers.Proofs.Class.Inheritance
import DynamicMembers.Proofs.Property.Freshness
/-!
# Precedence — who answers for a property

A property is left to others for the first of four reasons that applies; they are told here by what is declared above
the class, not by how they are checked.  The schema counts only when none applies.  `Finds` lists the outcomes with
their conditions, and a lookup gives exactly the outcome whose conditions hold (`lookup_precedence`).
-/
namespace DynamicMembers

open Schema (Registry Column)

/-! ## The dates of a record -/

namespace Record

theorem mem_foldl_addField (field : String) : ∀ (dates fields : List String),
    field ∈ dates.foldl addField fields ↔ field ∈ fields ∨ field ∈ dates
  | [], fields => by simp
  | date :: dates, fields => by
    have hadd : field ∈ addField fields date ↔ field ∈ fields ∨ field = date := by
      unfold addField
      split
      · rename_i hdate
        exact ⟨Or.inl, fun h => h.elim id (fun heq => heq ▸ hdate)⟩
      · simp
    rw [List.foldl_cons, mem_foldl_addField field dates, hadd, List.mem_cons, or_assoc]

theorem isDate_iff (r : Record) (property : String) :
    r.isDate property = true ↔ property ∈ r.dates ∨ r.timestamps = true ∧ property ∈ timestampFields := by
  rw [isDate, decide_eq_true_iff, dateFields, mem_foldl_addField, or_comm]
  refine or_congr_right ?_
  cases r.timestamps <;> simp

end Record

/-- What a decision about the column of a property rests on.  A class without a record casts nothing, names no date and
maintains its timestamps. -/
structure ColumnFacts.Describe (c : ClassInfo) (property : String) (column : Column) (f : ColumnFacts) : Prop where
  storedType : f.storedType = column.storedType
  nullable : f.nullable = column.nullable
  options : f.options = column.options
  cast : f.cast = c.record.bind (·.casts.get? property)
  isDate : f.isDate = true ↔ (∃ r, c.record = some r ∧ property ∈ r.dates) ∨
    (∀ r, c.record = some r → r.timestamps = true) ∧ property ∈ ["created_at", "updated_at"]

namespace PropertyRules

/-! ## The reasons in order -/

/-- When a reason to leave a property to others applies. -/
def Applies (rules : PropertyRules) (c : ClassInfo) (property : String) : NotApplicable → Prop
  | .notARecord => ¬rules.index.StrictlyAbove c.key (Name.classKey rules.modelClass)
  | .abstract => c.isAbstract = true
  | .nativeAccessor => c.declaredMethod (accessorMethod property) ≠ none ∨
      ∃ k d, rules.index.StrictlyAbove c.key k ∧ rules.index.classes.get? k = some d ∧
        d.declaredMethod (accessorMethod property) ≠ none
  | .annotated => rules.annotated c property = true

/-- The reasons, those that take precedence first. -/
def precedence : List NotApplicable := [.notARecord, .abstract, .nativeAccessor, .annotated]

/-- A reason applies, and none before it does. -/
def FirstReason (rules : PropertyRules) (c : ClassInfo) (property : String) (reason : NotApplicable) : Prop :=
  rules.Applies c property reason ∧ ∃ before after, precedence = before ++ reason :: after ∧
    ∀ other ∈ before, ¬rules.Applies c property other

/-- Nothing else claims a property. -/
def Unclaimed (rules : PropertyRules) (c : ClassInfo) (property : String) : Prop :=
  ∀ reason, ¬rules.Applies c property reason

/-- The outcomes of a lookup, with what each requires of the class and of what loading the schema gives. -/
inductive Finds (rules : PropertyRules) (loaded : Answer Registry) (c : ClassInfo) (property : String) :
    Answer PropertyLookup → Prop
  | claimed {reason : NotApplicable} : rules.FirstReason c property reason →
      Finds rules loaded c property (.ok (.notApplicable reason))
  | unloaded {e : InferenceError} : rules.Unclaimed c property → loaded = .error e →
      Finds rules loaded c property (.error e)
  | column {registry : Registry} {column : Column} {facts : ColumnFacts} : rules.Unclaimed c property →
      loaded = .ok registry → registry.column? c.tableName property = some column → facts.Describe c property column →
      Finds rules loaded c property
        (.ok (.resolved (Decision.typePair (Decision.dateType rules.dateClass) facts rules.index.knows)))
  | implicitId {registry : Registry} : rules.Unclaimed c property → loaded = .ok registry →
      registry.column? c.tableName property = none → property = "id" → Finds rules loaded c property (.ok .implicitId)
  | absent {registry : Registry} : rules.Unclaimed c property → loaded = .ok registry →
      registry.column? c.tableName property = none → property ≠ "id" → Finds rules loaded c property (.ok .absent)

variable {rules : PropertyRules} {source : SchemaSource} {s : PropertyState} {c : ClassInfo} {property : String}

/-- Whether a reason applies, as it is checked. -/
def checks (rules : PropertyRules) (c : ClassInfo) (property : String) : NotApplicable → Bool
  | .notARecord => !rules.index.isSubclass c.name rules.modelClass
  | .abstract => c.isAbstract
  | .nativeAccessor => rules.index.hasNativeMethod c (accessorMethod property)
  | .annotated => rules.annotated c property

theorem checks_iff (reason : NotApplicable) :
    rules.checks c property reason = true ↔ rules.Applies c property reason := by
  cases reason with
  | notARecord =>
    rw [checks, Applies, Bool.not_eq_true', ← Bool.not_eq_true, rules.index.isSubclass_iff]
    exact Iff.rfl
  | abstract => exact Iff.rfl
  | nativeAccessor => exact rules.index.hasNativeMethod_iff c _
  | annotated => exact Iff.rfl

theorem claimed_eq_find? : rules.claimed c property = precedence.find? (rules.checks c property) := by
  simp only [claimed, precedence, List.find?_cons, List.find?_nil, checks]
  cases rules.index.isSubclass c.name rules.modelClass <;> cases c.isAbstract <;>
    cases rules.index.hasNativeMethod c (accessorMethod property) <;> cases rules.annotated c property <;> rfl

theorem claimed_eq_some_iff {reason : NotApplicable} :
    rules.claimed c property = some reason ↔ rules.FirstReason c property reason := by
  rw [claimed_eq_find?, List.find?_eq_some_iff_append, checks_iff, FirstReason]
  simp only [Bool.not_eq_true', ← Bool.not_eq_true, checks_iff]

theorem claimed_eq_none_iff : rules.claimed c property = none ↔ rules.Unclaimed c property := by
  rw [claimed_eq_find?, List.find?_eq_none]
  constructor
  · intro hnone reason happlies
    exact hnone reason (by cases reason <;> decide) (checks_iff reason |>.2 happlies)
  · intro hunclaimed reason _ hchecks
    exact hunclaimed reason (checks_iff reason |>.1 hchecks)

/-! ## The outcomes -/

theorem describe_factsOf (c : ClassInfo) (property : String) (column : Column) :
    (factsOf c property column).Describe c property column where
  storedType := rfl
  nullable := rfl
  options := rfl
  cast := by cases hrecord : c.record <;> simp [factsOf, hrecord, Record.castFor]
  isDate := by
    simp only [factsOf, Record.isDate_iff, Record.timestampFields]
    cases hrecord : c.record <;> simp

theorem eq_factsOf_of_describe {column : Column} {f : ColumnFacts} (h : f.Describe c property column) :
    f = factsOf c property column := by
  have hfacts := describe_factsOf c property column
  have hdate : f.isDate = (factsOf c property column).isDate := Bool.eq_iff_iff.2 (h.isDate.trans hfacts.isDate.symm)
  have hcast : f.cast = (factsOf c property column).cast := h.cast.trans hfacts.cast.symm
  obtain ⟨storedType, nullable, options, cast, isDate⟩ := f
  obtain rfl := h.storedType
  obtain rfl := h.nullable
  obtain rfl := h.options
  obtain rfl := hcast
  obtain rfl := hdate
  rfl

theorem finds_lookup (rules : PropertyRules) (source : SchemaSource) (s : PropertyState) (c : ClassInfo)
    (property : String) : rules.Finds (s.schema source).1 c property (rules.lookup source s c property).1 := by
  cases hclaimed : rules.claimed c property with
  | some reason =>
    rw [lookup_of_claimed hclaimed]
    exact .claimed (claimed_eq_some_iff.1 hclaimed)
  | none =>
    have hunclaimed := claimed_eq_none_iff.1 hclaimed
    rw [lookup_of_unclaimed hclaimed]
    cases hload : (s.schema source).1 with
    | error e => exact .unloaded hunclaimed rfl
    | ok registry =>
      rw [Except.map, lookupIn]
      cases hcolumn : registry.column? c.tableName property with
      | some column => exact .column hunclaimed rfl hcolumn (describe_factsOf c property column)
      | none =>
        by_cases hid : property = idName
        · rw [if_pos hid]
          exact .implicitId hunclaimed rfl hcolumn hid
        · rw [if_neg hid]
          exact .absent hunclaimed rfl hcolumn hid

/-- The conditions of the outcomes exclude one another. -/
theorem lookup_of_finds {answer : Answer PropertyLookup} (h : rules.Finds (s.schema source).1 c property answer) :
    (rules.lookup source s c property).1 = answer := by
  have hlookup : ∀ {registry : Registry}, rules.Unclaimed c property → (s.schema source).1 = .ok registry →
      (rules.lookup source s c property).1 = .ok (rules.lookupIn registry c property) := by
    intro registry hunclaimed hload
    rw [lookup_of_unclaimed (claimed_eq_none_iff.2 hunclaimed), hload]
    rfl
  cases h with
  | claimed hreason => rw [lookup_of_claimed (claimed_eq_some_iff.2 hreason)]
  | unloaded hunclaimed hload =>
    rw [lookup_of_unclaimed (claimed_eq_none_iff.2 hunclaimed), hload]
    rfl
  | column hunclaimed hload hcolumn hfacts =>
    rw [hlookup hunclaimed hload, lookupIn, hcolumn, eq_factsOf_of_describe hfacts]
  | implicitId hunclaimed hload hcolumn hid =>
    have hid : property = idName := hid
    rw [hlookup hunclaimed hload, lookupIn, hcolumn, hid]
    rfl
  | absent hunclaimed hload hcolumn hid =>
    have hid : property ≠ idName := hid
    rw [hlookup hunclaimed hload, lookupIn, hcolumn]
    exact congrArg Except.ok (if_neg hid)

theorem found_lookupIn (registry : Registry) : (rules.lookupIn registry c property).found = true ↔
    (registry.column? c.tableName property).isSome = true ∨ property = "id" := by
  rw [lookupIn]
  cases registry.column? c.tableName property with
  | some column => simp [PropertyLookup.found]
  | none => by_cases hid : property = "id" <;> simp [PropertyLookup.found, idName, hid]

theorem fst_hasProperty_of_unclaimed (h : rules.Unclaimed c property) : (rules.hasProperty source s c property).1 =
    (s.schema source).1.map fun registry => (rules.lookupIn registry c property).found := by
  have hclaimed := claimed_eq_none_iff.2 h
  rcases hschema : s.schema source with ⟨e | registry, s'⟩
  · rw [hasProperty, lookup_of_unclaimed hclaimed, hschema]
    rfl
  · rw [hasProperty_of_schema hclaimed hschema]
    rfl

/-- **A lookup gives the one outcome whose conditions hold**: the first reason that applies, before anything is loaded;
else the error of a failed load; else what the table has for the property.  So a property exists exactly when nothing
else claims it and there is a column of that name, or none is needed. -/
theorem lookup_precedence (rules : PropertyRules) (source : SchemaSource) (s : PropertyState) (c : ClassInfo)
    (property : String) :
    (∀ answer, (rules.lookup source s c property).1 = answer ↔ rules.Finds (s.schema source).1 c property answer) ∧
    (¬rules.Unclaimed c property → (rules.lookup source s c property).2 = s) ∧
    (rules.Unclaimed c property → (rules.lookup source s c property).2 = (s.schema source).2) ∧
    ((rules.hasProperty source s c property).1 = .ok true ↔ rules.Unclaimed c property ∧
      ∃ registry, (s.schema source).1 = .ok registry ∧
        ((registry.column? c.tableName property).isSome = true ∨ property = "id")) ∧
    ∀ e, (rules.hasProperty source s c property).1 = .error e ↔
      rules.Unclaimed c property ∧ (s.schema source).1 = .error e := by
  refine ⟨fun answer => ⟨?finds, lookup_of_finds⟩, fun hclaimed => ?claimed, fun hunclaimed => ?loads, ?found,
    fun e => ?fails⟩
  case finds =>
    rintro rfl
    exact finds_lookup rules source s c property
  case claimed =>
    rw [← claimed_eq_none_iff] at hclaimed
    obtain ⟨reason, hreason⟩ := Option.ne_none_iff_exists'.1 hclaimed
    rw [lookup_of_claimed hreason]
  case loads => rw [lookup_of_unclaimed (claimed_eq_none_iff.2 hunclaimed)]
  case found =>
    by_cases hunclaimed : rules.Unclaimed c property
    · rw [fst_hasProperty_of_unclaimed hunclaimed]
      cases (s.schema source).1 with
      | error e => simp [Except.map]
      | ok registry => simp [Except.map, hunclaimed, found_lookupIn]
    · obtain ⟨reason, hreason⟩ := Option.ne_none_iff_exists'.1 (claimed_eq_none_iff.not.2 hunclaimed)
      rw [hasProperty_of_claimed hreason]
      simp [hunclaimed]
  case fails =>
    by_cases hunclaimed : rules.Unclaimed c property
    · rw [fst_hasProperty_of_unclaimed hunclaimed]
      cases (s.schema source).1 <;> simp [Except.map, hunclaimed]
    · obtain ⟨reason, hreason⟩ := Option.ne_none_iff_exists'.1 (claimed_eq_none_iff.not.2 hunclaimed)
      rw [hasProperty_of_claimed hreason]
      simp [hunclaimed]

end PropertyRules
end DynamicMembers
