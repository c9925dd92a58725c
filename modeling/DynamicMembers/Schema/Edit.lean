import DynamicMembers.Code.Basic
import DynamicMembers.Schema.Blueprint
import DynamicMembers.Schema.Column
/-!
# Edits — the single steps into which every blueprint call resolves

A call on a blueprint defines, drops or renames columns, one edit for each column.  Dropping or renaming a column that
the table does not have leaves the table alone and is an anomaly; anomalies are tolerated and kept for diagnosis.
-/
namespace DynamicMembers
namespace Schema

open Code (Expr Stmt)

/-! ## Anomalies -/

/-- What was attempted on something absent. -/
inductive Attempt where
  | alter
  | drop
  | rename
  deriving DecidableEq, Repr

def Attempt.word : Attempt → String
  | alter => "alter"
  | drop => "drop"
  | rename => "rename"

/-- A reference to an absent table or column. -/
inductive Anomaly where
  | unknownTable (table : String) (attempt : Attempt)
  | unknownColumn (table column : String) (attempt : Attempt)
  deriving DecidableEq, Repr

def Anomaly.message : Anomaly → String
  | unknownTable table attempt => attempt.word ++ " on unknown table \x60" ++ table ++ "\x60"
  | unknownColumn table column attempt => attempt.word ++ " on unknown column \x60" ++ table ++ "." ++ column ++ "\x60"

/-! ## Steps -/

/-- One step on a table. -/
inductive Edit where
  | set (column : Column)
  | drop (name : String)
  | rename (old new : String)
  deriving DecidableEq, Repr

namespace Edit

def apply (t : Table) : Edit → Table
  | set c => t.setColumn c
  | drop name => t.dropColumn name
  | rename old new => t.renameColumn old new

def anomaly? (t : Table) : Edit → Option Anomaly
  | set _ => none
  | drop name => if t.hasColumn name then none else some (.unknownColumn t.name name .drop)
  | rename old _ => if t.hasColumn old then none else some (.unknownColumn t.name old .rename)

def applyAll (t : Table) (edits : List Edit) : Table := edits.foldl apply t

/-- The anomalies that a list of steps meets, each step seeing the table that the steps before it left. -/
def anomalies : Table → List Edit → List Anomaly
  | _, [] => []
  | t, e :: es => (e.anomaly? t).toList ++ anomalies (e.apply t) es

end Edit

/-! ## What a blueprint call does -/

/-- The column names that the arguments of a drop list, single names and arrays of names alike. -/
def droppedNames (args : List Expr) : List String :=
  args.flatMap fun
    | .str name => [name]
    | .array values => values.filterMap Expr.asStr
    | _ => []

/-- The texts of an array argument; any other argument lists none. -/
def listedOptions : Option Expr → List String
  | some (.array values) => values.filterMap Expr.asStr
  | _ => []

/-- A column that holds its moment of change, which is always nullable. -/
def momentColumn (name : String) : Edit := .set (.ofStored name Storage.string.word true)

/-- The steps of a blueprint operation with the given arguments; a missing name means no step. -/
def ColumnOp.edits (op : ColumnOp) (args : List Expr) (nullable : Bool) : List Edit :=
  let name := args.head?.bind Expr.asStr
  match op with
  | define storage => name.toList.map fun n => .set (.ofStored n storage.word nullable)
  | enum =>
    name.toList.map fun n =>
      .set { Column.ofStored n Storage.enum.word nullable with options := listedOptions args[1]? }
  | id => [.set (.ofStored (name.getD "id") Storage.int.word nullable)]
  | dropColumn => (droppedNames args).map .drop
  | renameColumn =>
    match name, args[1]?.bind Expr.asStr with
    | some old, some new => [.rename old new]
    | _, _ => []
  | morphs idStorage =>
    name.toList.flatMap fun n =>
      [.set (.ofStored (n ++ "_type") Storage.string.word nullable),
       .set (.ofStored (n ++ "_id") idStorage.word nullable)]
  | dropMorphs => name.toList.flatMap fun n => [.drop (n ++ "_type"), .drop (n ++ "_id")]
  | timestamps => [momentColumn "created_at", momentColumn "updated_at"]
  | dropTimestamps => [.drop "created_at", .drop "updated_at"]
  | softDeletes => [momentColumn (name.getD "deleted_at")]
  | dropSoftDeletes => [.drop (name.getD "deleted_at")]
  | rememberToken => [momentColumn "remember_token"]
  | dropRememberToken => [.drop "remember_token"]
  | ignore => []

/-- A call that makes its column nullable: any of that name whose first argument is not a literal false. -/
def makesNullable (call : String × List Expr) : Bool :=
  Text.lower call.1 = "nullable" &&
    match call.2.head? with
    | some (.bool false) => false
    | _ => true

def chainNullable (method : String) (calls : List (String × List Expr)) : Bool :=
  "nullable".toList.isPrefixOf (Text.lower method).toList || calls.any makesNullable

/-- The steps of a method chain: its innermost call decides them, the later calls only whether it is nullable. -/
def chainEdits : List (String × List Expr) → List Edit
  | [] => []
  | (method, args) :: later => (classify method).edits args (chainNullable method ((method, args) :: later))

/-- The steps of an expression of a blueprint closure: none unless it is a chain on the blueprint itself. -/
def exprEdits (blueprint : String) (e : Expr) : List Edit :=
  if e.chainRoot.asVariable = some blueprint then chainEdits e.chainCalls else []

end Schema
end DynamicMembers
