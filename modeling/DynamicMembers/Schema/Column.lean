import DynamicMembers.OrderedMap
import DynamicMembers.Value.Expr
/-!
# Columns, tables and registries — the schema that migrations leave behind

Tables stand in creation order and columns in order of first definition; a definition that is repeated replaces the old
one in its place, and a renaming moves its subject to the end.
-/
namespace DynamicMembers
namespace Schema

/-- A column as it was last defined. -/
structure Column where
  name : String
  /-- What reading the column gives. -/
  readable : TypeExpr
  /-- What may be written to the column. -/
  writable : TypeExpr
  nullable : Bool
  /-- The values of an enumeration. -/
  options : List String := []
  deriving DecidableEq, Repr

namespace Column

/-- A column that stores one type, the same for reading and writing. -/
def ofStored (name storedType : String) (nullable : Bool) : Column :=
  { name, readable := .textual storedType, writable := .textual storedType, nullable }

/-- The storage type in writing, or `mixed` once the column has been resolved. -/
def storedType (c : Column) : String := c.readable.asText.getD "mixed"

end Column

/-- A table, its columns by name. -/
structure Table where
  name : String
  columns : OrderedMap String Column := ∅
  deriving DecidableEq

namespace Table

/-- Defines a column, in place of one of the same name. -/
def setColumn (t : Table) (c : Column) : Table := { t with columns := t.columns.insert c.name c }

def column? (t : Table) (name : String) : Option Column := t.columns.get? name

def hasColumn (t : Table) (name : String) : Bool := (t.column? name).isSome

theorem hasColumn_eq_false_iff {t : Table} {name : String} : t.hasColumn name = false ↔ name ∉ t.columns.keys := by
  rw [hasColumn, Option.isSome_eq_false_iff, Option.isNone_iff_eq_none, column?, OrderedMap.get?_eq_none_iff]

theorem hasColumn_iff {t : Table} {name : String} : t.hasColumn name = true ↔ name ∈ t.columns.keys := by
  rw [← Bool.not_eq_false, hasColumn_eq_false_iff, Decidable.not_not]

def dropColumn (t : Table) (name : String) : Table := { t with columns := t.columns.erase name }

/-- Moves a column's definition to another name; nothing happens when there is no such column. -/
def renameColumn (t : Table) (old new : String) : Table :=
  match t.column? old with
  | none => t
  | some c => { t with columns := (t.columns.erase old).insert new { c with name := new } }

end Table

/-- The tables of a schema, by name. -/
structure Registry where
  tables : OrderedMap String Table := ∅
  deriving DecidableEq

namespace Registry

def empty : Registry := {}

instance : EmptyCollection Registry := ⟨empty⟩

instance : Inhabited Registry := ⟨empty⟩

def insert (r : Registry) (t : Table) : Registry := { tables := r.tables.insert t.name t }

def table? (r : Registry) (name : String) : Option Table := r.tables.get? name

def erase (r : Registry) (name : String) : Registry := { tables := r.tables.erase name }

def update (r : Registry) (name : String) (t : Table) : Registry := { tables := r.tables.insert name t }

/-- Moves a table to another name; nothing happens when there is no such table. -/
def rename (r : Registry) (old new : String) : Registry :=
  match r.table? old with
  | none => r
  | some t => (r.erase old).insert { t with name := new }

def column? (r : Registry) (table column : String) : Option Column :=
  (r.table? table).bind (·.column? column)

def size (r : Registry) : Nat := r.tables.size

def isEmpty (r : Registry) : Bool := r.tables.isEmpty

end Registry
end Schema
end DynamicMembers
