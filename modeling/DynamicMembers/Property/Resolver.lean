import DynamicMembers.Class.Hierarchy
import DynamicMembers.Property.Decision
import DynamicMembers.Schema.Column
import DynamicMembers.Settings
import DynamicMembers.Text.Plural
/-!
# Properties — the dynamic properties of record classes, typed from the schema

A property is looked up only when nothing else claims it, in a fixed order of precedence.  The schema is loaded when it
is first needed and kept; a failed load is not kept.  A decision is recorded when a property is found, and its written
types are read when the property is asked for.
-/
namespace DynamicMembers

open Schema (Registry Column)

/-! ## Conventions -/

/-- The table that a class base name stands for: its plural, in snake case. -/
def conventionalTable (baseName : String) : String := String.ofList (Text.snake (Text.plural baseName.toList))

/-- The table of a record class: the one it names, else the conventional one. -/
def ClassInfo.tableName (c : ClassInfo) : String :=
  match c.record.bind Record.table with
  | some table => table
  | none => conventionalTable (Name.baseName c.name)

/-- The method that, when it is declared, shadows a property. -/
def accessorMethod (property : String) : String :=
  "get" ++ String.ofList (Text.pascal property.toList) ++ "Attribute"

/-! ## Lookups and their outcomes -/

/-- A property as it is reported. -/
structure ModelProperty where
  declaringClass : String
  readable : PhpType
  writable : PhpType
  deriving DecidableEq, Repr

namespace ModelProperty

def isStatic (_ : ModelProperty) : Bool := false

def isPublic (_ : ModelProperty) : Bool := true

def isReadable (_ : ModelProperty) : Bool := true

def isWritable (_ : ModelProperty) : Bool := true

end ModelProperty

/-- Why a property is left to others. -/
inductive NotApplicable where
  | notARecord
  | abstract
  | nativeAccessor
  | annotated
  deriving DecidableEq, Repr

/-- The outcome of looking a property up. -/
inductive PropertyLookup where
  | notApplicable (reason : NotApplicable)
  /-- The identifier, which every table has. -/
  | implicitId
  | resolved (pair : TypePair)
  | absent
  deriving DecidableEq, Repr

def PropertyLookup.found : PropertyLookup → Bool
  | implicitId => true
  | resolved _ => true
  | _ => false

/-- Where schemas come from: the outcome of each load, by the number of loads before it. -/
abbrev SchemaSource := Nat → Answer Registry

/-- A source that always gives the same schema. -/
def SchemaSource.fixed (r : Registry) : SchemaSource := fun _ => .ok r

/-- How properties are resolved. -/
structure PropertyRules where
  index : ClassIndex
  /-- The properties that annotations claim. -/
  annotated : ClassInfo → String → Bool := fun _ _ => false
  types : TypeResolver := PhpDoc.resolve
  modelClass : String
  dateClass : String

def PropertyRules.ofSettings (index : ClassIndex) (s : Settings) : PropertyRules :=
  { index, modelClass := s.modelClass, dateClass := s.dateClass }

/-- What a resolver has loaded and decided so far. -/
structure PropertyState where
  registry : Option Registry := none
  /-- The number of loads so far. -/
  loads : Nat := 0
  decisions : OrderedMap (ClassKey × String) TypePair := ∅

instance : Inhabited PropertyState := ⟨{}⟩

namespace PropertyState

/-- Forgets the schema and every decision. -/
def rebuild (s : PropertyState) : PropertyState := { loads := s.loads }

/-- The schema, loaded now unless it is loaded already. -/
def schema (source : SchemaSource) (s : PropertyState) : Answer Registry × PropertyState :=
  match s.registry with
  | some r => (.ok r, s)
  | none =>
    match source s.loads with
    | .ok r => (.ok r, { s with registry := some r, loads := s.loads + 1 })
    | .error e => (.error e, { s with loads := s.loads + 1 })

end PropertyState

namespace PropertyRules

def idName : String := "id"

/-- The first reason for which a property is left to others. -/
def claimed (rules : PropertyRules) (c : ClassInfo) (property : String) : Option NotApplicable :=
  if !rules.index.isSubclass c.name rules.modelClass then some .notARecord
  else if c.isAbstract then some .abstract
  else if rules.index.hasNativeMethod c (accessorMethod property) then some .nativeAccessor
  else if rules.annotated c property then some .annotated
  else none

def factsOf (c : ClassInfo) (property : String) (column : Column) : ColumnFacts :=
  let record := c.record.getD {}
  { storedType := column.storedType, nullable := column.nullable, options := column.options,
    cast := record.castFor property, isDate := record.isDate property }

/-- The outcome for a property that nothing else claims, in a given schema. -/
def lookupIn (rules : PropertyRules) (registry : Registry) (c : ClassInfo) (property : String) : PropertyLookup :=
  match registry.column? c.tableName property with
  | some column =>
    .resolved (Decision.typePair (Decision.dateType rules.dateClass) (factsOf c property column) rules.index.knows)
  | none => if property = idName then .implicitId else .absent

/-- Looks a property up; the schema is loaded only when nothing else claims the property. -/
def lookup (rules : PropertyRules) (source : SchemaSource) (s : PropertyState) (c : ClassInfo) (property : String) :
    Answer PropertyLookup × PropertyState :=
  match rules.claimed c property with
  | some reason => (.ok (.notApplicable reason), s)
  | none =>
    match s.schema source with
    | (.ok registry, s) => (.ok (rules.lookupIn registry c property), s)
    | (.error e, s) => (.error e, s)

def decisionKey (c : ClassInfo) (property : String) : ClassKey × String := (c.key, property)

/-- Whether a property exists; what was decided about it is recorded. -/
def hasProperty (rules : PropertyRules) (source : SchemaSource) (s : PropertyState) (c : ClassInfo)
    (property : String) : Answer Bool × PropertyState :=
  match rules.lookup source s c property with
  | (.error e, s) => (.error e, s)
  | (.ok l, s) =>
    match l with
    | .resolved pair => (.ok true, { s with decisions := s.decisions.insert (decisionKey c property) pair })
    | other => (.ok other.found, s)

/-- Reads the types of a pair, the readable one first; each text that could be read is replaced by its type. -/
def settlePair (types : TypeResolver) (p : TypePair) : Answer (PhpType × PhpType) × TypePair :=
  match p.readable.settle types with
  | (.error e, r) => (.error e, { p with readable := r })
  | (.ok t, r) =>
    match p.writable.settle types with
    | (.error e, w) => (.error e, ⟨r, w⟩)
    | (.ok u, w) => (.ok (t, u), ⟨r, w⟩)

/-- A property whose decision is recorded, or the identifier of a table without such a column. -/
def getProperty (rules : PropertyRules) (source : SchemaSource) (s : PropertyState) (c : ClassInfo)
    (property : String) : Answer ModelProperty × PropertyState :=
  let unresolved : InferenceError := .invalidState (.propertyNotResolved c.name property)
  match s.decisions.get? (decisionKey c property) with
  | some pair =>
    let (types, settled) := settlePair rules.types pair
    (types.map (fun t => ⟨c.name, t.1, t.2⟩),
      { s with decisions := s.decisions.insert (decisionKey c property) settled })
  | none =>
    if property = idName then
      match s.schema source with
      | (.error e, s) => (.error e, s)
      | (.ok registry, s) =>
        match registry.column? c.tableName idName with
        | none => (.ok ⟨c.name, .int, .int⟩, s)
        | some _ => (.error unresolved, s)
    else (.error unresolved, s)

end PropertyRules
end DynamicMembers
