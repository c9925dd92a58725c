import DynamicMembers.Schema.Call
import DynamicMembers.Schema.Edit
/-!
# The fold — a schema from the calls of its migrations

Calls are applied in order, later definitions overriding earlier ones.  A call on an absent table changes nothing but
the list of anomalies, which only grows.
-/
namespace DynamicMembers
namespace Schema

open Code (Expr Stmt)

/-- The schema so far, and what was amiss on the way. -/
structure State where
  registry : Registry := ∅
  anomalies : List Anomaly := []
  deriving DecidableEq

namespace State

instance : Inhabited State := ⟨{}⟩

def bodyEdits (blueprint : String) (body : List Stmt) : List Edit :=
  (expressionsIn body).flatMap (exprEdits blueprint)

/-- Notes an anomaly and changes nothing else. -/
def note (s : State) (a : Anomaly) : State := { s with anomalies := s.anomalies ++ [a] }

/-- Makes steps on a table, if there is such a table. -/
def alter (s : State) (table : String) (edits : List Edit) : State :=
  match s.registry.table? table with
  | none => s.note (.unknownTable table .alter)
  | some t =>
    { registry := s.registry.update table (Edit.applyAll t edits), anomalies := s.anomalies ++ Edit.anomalies t edits }

def apply (s : State) : Call → State
  | .create table blueprint body =>
    { s with registry := s.registry.insert { name := table } }.alter table (bodyEdits blueprint body)
  | .alter table blueprint body => s.alter table (bodyEdits blueprint body)
  | .drop table =>
    match s.registry.table? table with
    | none => s.note (.unknownTable table .drop)
    | some _ => { s with registry := s.registry.erase table }
  | .rename old new =>
    match s.registry.table? old with
    | none => s.note (.unknownTable old .rename)
    | some _ => { s with registry := s.registry.rename old new }

def addStatements (s : State) (stmts : List Stmt) : State := (callsIn stmts).foldl apply s

/-- The state after migrations, from an empty schema. -/
def ofMigrations (migrations : List (List Stmt)) : State := migrations.foldl addStatements {}

end State
end Schema
end DynamicMembers
