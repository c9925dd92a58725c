import DynamicMembers.Class.Basic
import DynamicMembers.Json.Decode
import DynamicMembers.Settings
import DynamicMembers.Value.Expr
/-!
# The JSON form of the models — types, methods, classes, records and settings

Each model has its decoder here and, where it is written as well, its encoding beside it.  Only the name of a class and
the names of a method and its class must be given; everything else has a default.
-/
namespace DynamicMembers

open Json (Decoder)

/-! ## Types -/

/-- The kinds of a type. -/
inductive TypeKind where
  | plain (type : PhpType)
  | boolLiteral
  | intLiteral
  | stringLiteral
  | named
  | union
  deriving Repr

namespace TypeKind

def words : List (String × TypeKind) :=
  [("Mixed", plain .mixed), ("Null", plain .null), ("Bool", plain .bool), ("Int", plain .int),
   ("Float", plain .float), ("String", plain .string), ("Array", plain .array), ("Object", plain .object),
   ("ConstantBool", boolLiteral), ("ConstantInt", intLiteral), ("ConstantString", stringLiteral), ("Class", named),
   ("Union", union)]

end TypeKind

namespace PhpType

def ofJsonAt : Json.Moment → Decoder PhpType
  | _, 0, _ => none
  | _, 1, _ => none
  | now, b + 2, v => do
    let (kind, content) ← Json.tagged TypeKind.words now (b + 1) v
    match kind with
    | .plain t => (Json.noContent content).map fun _ => t
    | .boolLiteral => (Json.content Decoder.flag b content).map boolLiteral
    | .intLiteral => (Json.content Decoder.int64 b content).map intLiteral
    | .stringLiteral => (Json.content Decoder.text b content).map stringLiteral
    | .named => (Json.content Decoder.text b content).map named
    | .union =>
      match content with
      | some ⟨.array l, moment⟩ => if b = 0 then none else (l.mapM (ofJsonAt moment b)).map union
      | _ => none

def ofJson : Decoder PhpType := ofJsonAt .asItComes

def plainJson (kind : String) : Json := Json.obj [(Json.tagName, .str kind)]

def carryingJson (kind : String) (content : Json) : Json :=
  Json.obj [(Json.tagName, .str kind), (Json.contentName, content)]

mutual

def toJson : PhpType → Json
  | mixed => plainJson "Mixed"
  | null => plainJson "Null"
  | bool => plainJson "Bool"
  | int => plainJson "Int"
  | float => plainJson "Float"
  | string => plainJson "String"
  | array => plainJson "Array"
  | object => plainJson "Object"
  | boolLiteral b => carryingJson "ConstantBool" (.bool b)
  | intLiteral n => carryingJson "ConstantInt" (.integer n.toInt)
  | stringLiteral s => carryingJson "ConstantString" (.str s)
  | named name => carryingJson "Class" (.str name)
  | union l => carryingJson "Union" (.array (toJsonList l))

def toJsonList : List PhpType → List Json
  | [] => []
  | t :: l => toJson t :: toJsonList l

end

end PhpType

namespace TypeExpr

def ofJson : Decoder TypeExpr := fun b v => do
  let b ← Json.enter b
  let (isText, content) ← Json.tagged [("Resolved", false), ("Textual", true)] .asItComes b v
  if isText then (Json.content Decoder.text b content).map textual
  else content.bind fun c => (PhpType.ofJsonAt c.moment b c.value).map resolved

def toJson : TypeExpr → Json
  | resolved t => PhpType.carryingJson "Resolved" t.toJson
  | textual s => PhpType.carryingJson "Textual" (.str s)

end TypeExpr

/-! ## Methods -/

namespace Visibility

def words : List (String × Visibility) := [("public", pub), ("protected", prot), ("private", priv)]

def word : Visibility → String
  | pub => "public"
  | prot => "protected"
  | priv => "private"

end Visibility

namespace Parameter

def ofJson : Decoder Parameter := fun b v => do
  let r ← Json.fieldsOf ["name", "type_ref", "is_optional", "is_variadic"] b v
  pure {
    name := ← Json.required Decoder.text r "name"
    type := ← Json.optional PhpType.ofJson r "type_ref" .mixed
    isOptional := ← Json.optional Decoder.flag r "is_optional" false
    isVariadic := ← Json.optional Decoder.flag r "is_variadic" false }

def toJson (p : Parameter) : Json :=
  .obj [("name", .str p.name), ("type_ref", p.type.toJson), ("is_optional", .bool p.isOptional),
    ("is_variadic", .bool p.isVariadic)]

end Parameter

namespace Method

def ofJson : Decoder Method := fun b v => do
  let r ← Json.fieldsOf ["name", "declaring_class", "visibility", "is_static", "parameters", "return_type"] b v
  pure {
    name := ← Json.required Decoder.text r "name"
    declaringClass := ← Json.required Decoder.text r "declaring_class"
    visibility := ← Json.optional (Decoder.choice Visibility.words) r "visibility" .pub
    isStatic := ← Json.optional Decoder.flag r "is_static" false
    parameters := ← Json.optional (Decoder.list Parameter.ofJson) r "parameters" []
    returnType := ← Json.optional PhpType.ofJson r "return_type" .mixed }

def toJson (m : Method) : Json :=
  .obj [("name", .str m.name), ("declaring_class", .str m.declaringClass), ("visibility", .str m.visibility.word),
    ("is_static", .bool m.isStatic), ("parameters", .array (m.parameters.map Parameter.toJson)),
    ("return_type", m.returnType.toJson)]

end Method

/-! ## Classes -/

namespace Record

def ofJson : Decoder Record := fun b v => do
  let r ← Json.fieldsOf ["table", "casts", "dates", "timestamps"] b v
  pure {
    table := ← Json.optional (Decoder.nullable Decoder.text) r "table" none
    casts := ← Json.optional (Decoder.map Decoder.text) r "casts" ∅
    dates := ← Json.optional (Decoder.list Decoder.text) r "dates" []
    timestamps := ← Json.optional Decoder.flag r "timestamps" true }

/-- An optional text, or null. -/
def optionalText : Option String → Json
  | some s => .str s
  | none => .null

def toJson (r : Record) : Json :=
  .obj [("table", optionalText r.table), ("casts", .obj (r.casts.entries.map fun e => (e.1, .str e.2))),
    ("dates", .array (r.dates.map .str)), ("timestamps", .bool r.timestamps)]

end Record

namespace ClassKind

def words : List (String × ClassKind) := [("class", cls), ("interface", interface), ("trait", trait)]

def word : ClassKind → String
  | cls => "class"
  | interface => "interface"
  | trait => "trait"

end ClassKind

namespace ClassInfo

def ofJson : Decoder ClassInfo := fun b v => do
  let r ← Json.fieldsOf ["name", "kind", "parent", "interfaces", "is_abstract", "methods", "mixins", "record"] b v
  pure {
    name := ← Json.required Decoder.text r "name"
    kind := ← Json.optional (Decoder.choice ClassKind.words) r "kind" .cls
    parent := ← Json.optional (Decoder.nullable Decoder.text) r "parent" none
    interfaces := ← Json.optional (Decoder.list Decoder.text) r "interfaces" []
    isAbstract := ← Json.optional Decoder.flag r "is_abstract" false
    methods := ← Json.optional (Decoder.map Method.ofJson) r "methods" ∅
    mixins := ← Json.optional (Decoder.list Decoder.text) r "mixins" []
    record := ← Json.optional (Decoder.nullable Record.ofJson) r "record" none }

def toJson (c : ClassInfo) : Json :=
  .obj [("name", .str c.name), ("kind", .str c.kind.word), ("parent", Record.optionalText c.parent),
    ("interfaces", .array (c.interfaces.map .str)), ("is_abstract", .bool c.isAbstract),
    ("methods", .obj (c.methods.entries.map fun e => (e.1, e.2.toJson))), ("mixins", .array (c.mixins.map .str)),
    ("record", match c.record with | some r => r.toJson | none => .null)]

end ClassInfo

/-! ## Settings -/

namespace MacroDefinition

def ofJson : Decoder MacroDefinition := fun b v => do
  let r ← Json.fieldsOf ["name", "return_type", "parameters", "is_static"] b v
  pure {
    name := ← Json.required Decoder.text r "name"
    returnType := ← Json.optional Decoder.text r "return_type" "mixed"
    parameters := ← Json.optional (Decoder.list Parameter.ofJson) r "parameters" []
    isStatic := ← Json.optional Decoder.flag r "is_static" false }

end MacroDefinition

namespace MethodSettings

def ofJson : Decoder MethodSettings := fun b v => do
  let r ← Json.fieldsOf
    ["statics", "facade_class", "facades", "manager_class", "managers", "bindings", "macros", "max_depth"] b v
  let d : MethodSettings := {}
  pure {
    statics := ← Json.optional (Decoder.list Decoder.text) r "statics" d.statics
    facadeClass := ← Json.optional Decoder.text r "facade_class" d.facadeClass
    facades := ← Json.optional (Decoder.map Decoder.text) r "facades" d.facades
    managerClass := ← Json.optional Decoder.text r "manager_class" d.managerClass
    managers := ← Json.optional (Decoder.map Decoder.text) r "managers" d.managers
    bindings := ← Json.optional (Decoder.map (Decoder.list Decoder.text)) r "bindings" d.bindings
    macros := ← Json.optional (Decoder.map (Decoder.list MacroDefinition.ofJson)) r "macros" d.macros
    maxDepth := ← Json.optional Decoder.nat64 r "max_depth" d.maxDepth }

end MethodSettings

namespace LogSettings

def ofJson : Decoder LogSettings := fun b v => do
  let r ← Json.fieldsOf ["directory", "level"] b v
  let d : LogSettings := {}
  pure {
    directory := ← Json.optional (Decoder.nullable Decoder.text) r "directory" d.directory
    level := ← Json.optional Decoder.text r "level" d.level }

end LogSettings

namespace Settings

def ofJson : Decoder Settings := fun b v => do
  let r ← Json.fieldsOf
    ["migrations_path", "migration_file_pattern", "model_class", "date_class", "methods", "logging"] b v
  let d : Settings := {}
  pure {
    migrationsPath := ← Json.optional Decoder.text r "migrations_path" d.migrationsPath
    filePattern := ← Json.optional Decoder.text r "migration_file_pattern" d.filePattern
    modelClass := ← Json.optional Decoder.text r "model_class" d.modelClass
    dateClass := ← Json.optional Decoder.text r "date_class" d.dateClass
    methods := ← Json.optional MethodSettings.ofJson r "methods" d.methods
    logging := ← Json.optional LogSettings.ofJson r "logging" d.logging }

end Settings

namespace Json

def decodeText {α : Type} (d : Decoder α) (s : String) : Answer α :=
  match (ofText? s).bind (d nestingLimit) with
  | some a => .ok a
  | none => .error .json

end Json
end DynamicMembers
