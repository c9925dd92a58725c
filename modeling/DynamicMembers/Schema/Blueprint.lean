import DynamicMembers.Text.Characters
/-!
# Blueprint methods — what each method of a table blueprint does to the table

Names are compared without regard to ASCII case; indexes, constraints and unknown methods do nothing.
-/
namespace DynamicMembers
namespace Schema

/-- How a value is stored. -/
inductive Storage where
  | int
  | string
  | bool
  | float
  | mixed
  | enum
  deriving DecidableEq, Repr

def Storage.word : Storage → String
  | int => "int"
  | string => "string"
  | bool => "bool"
  | float => "float"
  | mixed => "mixed"
  | enum => "enum"

/-- The effect of a blueprint method. -/
inductive ColumnOp where
  /-- Defines a column of one storage type. -/
  | define (storage : Storage)
  /-- Defines a column with listed values. -/
  | enum
  /-- Defines the identifier column. -/
  | id
  | dropColumn
  | renameColumn
  /-- Defines the two columns of a polymorphic reference. -/
  | morphs (idStorage : Storage)
  | dropMorphs
  | timestamps
  | dropTimestamps
  | softDeletes
  | dropSoftDeletes
  | rememberToken
  | dropRememberToken
  | ignore
  deriving DecidableEq, Repr

def intMethods : List String :=
  ["bigincrements", "biginteger", "increments", "integer", "mediumincrements", "mediuminteger", "smallincrements",
   "smallinteger", "tinyincrements", "tinyinteger", "unsignedbiginteger", "unsignedinteger", "unsignedmediuminteger",
   "unsignedsmallinteger", "unsignedtinyinteger", "foreignid", "year"]

/-- Methods that define a text, a point in time or another value kept as text. -/
def stringMethods : List String :=
  ["char", "string", "text", "tinytext", "mediumtext", "longtext", "date", "datetime", "datetimetz", "time", "timetz",
   "timestamp", "timestamptz", "json", "jsonb", "uuid", "ulid", "foreignuuid", "foreignulid", "ipaddress",
   "macaddress", "binary", "linestring", "multilinestring", "set"]

def floatMethods : List String := ["decimal", "unsigneddecimal", "double", "float"]

def mixedMethods : List String :=
  ["geometry", "geometrycollection", "point", "polygon", "multipoint", "multipolygon"]

def classify (method : String) : ColumnOp :=
  let m := Text.lower method
  if m ∈ intMethods then .define .int
  else if m ∈ stringMethods then .define .string
  else if m = "boolean" then .define .bool
  else if m ∈ floatMethods then .define .float
  else if m ∈ mixedMethods then .define .mixed
  else if m = "enum" then .enum
  else if m = "id" then .id
  else if m ∈ ["dropcolumn", "dropifexists"] then .dropColumn
  else if m = "renamecolumn" then .renameColumn
  else if m ∈ ["morphs", "nullablemorphs"] then .morphs .int
  else if m ∈ ["uuidmorphs", "nullableuuidmorphs", "ulidmorphs", "nullableulidmorphs"] then .morphs .string
  else if m = "dropmorphs" then .dropMorphs
  else if m ∈ ["timestamps", "timestampstz", "nullabletimestamps"] then .timestamps
  else if m ∈ ["droptimestamps", "droptimestampstz"] then .dropTimestamps
  else if m ∈ ["softdeletes", "softdeletestz"] then .softDeletes
  else if m ∈ ["dropsoftdeletes", "dropsoftdeletestz"] then .dropSoftDeletes
  else if m = "remembertoken" then .rememberToken
  else if m = "dropremembertoken" then .dropRememberToken
  else .ignore

end Schema
end DynamicMembers
