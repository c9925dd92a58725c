import DynamicMembers.Name
import DynamicMembers.Text.Characters
import DynamicMembers.Text.Split
import DynamicMembers.Value.Expr
/-!
# Decisions — from how a column is stored to what reading and writing it give

Dates come first, then casts, then the storage type.  A cast is looked up by its name alone, without parameters and
blanks and without regard to ASCII case; a cast to a class counts when the class is known.
-/
namespace DynamicMembers

/-- What reading a property gives, and what may be written to it. -/
structure TypePair where
  readable : TypeExpr
  writable : TypeExpr
  deriving DecidableEq, Repr

namespace TypePair

def both (e : TypeExpr) : TypePair := ⟨e, e⟩

def mixed : TypePair := both (.textual "mixed")

end TypePair

/-- What the decision about a column rests on. -/
structure ColumnFacts where
  storedType : String
  nullable : Bool
  options : List String
  /-- The cast that the record class declares. -/
  cast : Option String
  /-- The record class counts the column among its dates. -/
  isDate : Bool
  deriving DecidableEq, Repr

namespace ColumnFacts

def nullSuffix (f : ColumnFacts) : String := if f.nullable then "|null" else ""

end ColumnFacts

namespace Decision

/-- The date class that is always among the types of a date. -/
def carbon : String := "Carbon\\Carbon"

def collection : String := "\\Illuminate\\Support\\Collection"

/-- The type of dates: the configured class and the standard one, which is not repeated. -/
def dateType (dateClass : String) : String :=
  if Name.sameClass dateClass carbon then Name.qualified dateClass
  else Name.qualified dateClass ++ "|" ++ Name.qualified carbon

/-- A truth value, which may also be written as zero or one. -/
def truthPair : TypePair :=
  ⟨.resolved .bool, .resolved (.unionOf [.bool, .intLiteral 0, .intLiteral 1])⟩

/-- The listed values, or any string when none are listed. -/
def enumPair (options : List String) : TypePair :=
  if options.isEmpty then .both (.textual "string")
  else .both (.resolved (.unionOf (options.map .stringLiteral)))

/-- The decision that a storage type and a cast of the same name share, if there is one. -/
def dispatch (type : String) (f : ColumnFacts) : Option TypePair :=
  match Text.lower type with
  | "string" => some (.both (.textual ("string" ++ f.nullSuffix)))
  | "int" => some (.both (.textual ("int" ++ f.nullSuffix)))
  | "float" => some (.both (.textual ("float" ++ f.nullSuffix)))
  | "boolean" | "bool" => some truthPair
  | "enum" => some (enumPair f.options)
  | _ => none

def canonicalCast (cast : String) : String :=
  match cast with
  | "int" | "integer" | "timestamp" => "int"
  | "real" | "double" | "float" => "float"
  | "bool" | "boolean" => "bool"
  | other => other

def castName (cast : String) : String := String.ofList (Text.trim (cast.toList.takeWhile (· != ':')))

/-- The type of a cast that no storage type shares. -/
def castType (date : String) (name : String) (known : String → Bool) : String :=
  match Text.lower name with
  | "array" | "json" => "array"
  | "object" => "object"
  | "date" | "datetime" | "immutable_date" | "immutable_datetime" => date
  | "collection" => collection
  | _ => if known name then Name.qualified name else "mixed"

def ofCast (date : String) (cast : String) (f : ColumnFacts) (known : String → Bool) : TypePair :=
  let name := castName cast
  match dispatch (canonicalCast (Text.lower name)) f with
  | some pair => pair
  | none => .both (.textual (castType date name known))

/-- The decision about a date column, which may be written as a string too. -/
def ofDate (date : String) (f : ColumnFacts) : TypePair :=
  ⟨.textual (date ++ f.nullSuffix), .textual (date ++ "|string" ++ f.nullSuffix)⟩

/-- What reading and writing a column give, for a type of dates and the classes that are known. -/
def typePair (date : String) (f : ColumnFacts) (known : String → Bool) : TypePair :=
  if f.isDate then ofDate date f
  else
    match f.cast with
    | some cast => ofCast date cast f known
    | none => (dispatch f.storedType f).getD .mixed

end Decision
end DynamicMembers
