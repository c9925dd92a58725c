import DynamicMembers.Code.Basic
import DynamicMembers.Name
/-!
# Schema calls — the flat sequence of calls that a migration makes

Only the `up` methods of classes count.  Their bodies are read through blocks and all branches of conditionals, so a
migration is the list of its schema calls in program order.
-/
namespace DynamicMembers
namespace Schema

open Code (Expr Stmt)

/-- A call on the schema, with the table it names. -/
inductive Call where
  /-- Creates a table and runs a closure on its blueprint. -/
  | create (table blueprint : String) (body : List Stmt)
  /-- Runs a closure on the blueprint of a table. -/
  | alter (table blueprint : String) (body : List Stmt)
  | drop (table : String)
  | rename (old new : String)
  deriving Repr

namespace Call

def facade : String := "Illuminate\\Support\\Facades\\Schema"

/-- A class name that denotes the schema, in full or by its alias. -/
def isFacade (cls : String) : Bool := Name.sameClass cls "Schema" || Name.sameClass cls facade

def isConnection : Expr → Bool
  | .staticCall cls method _ => isFacade cls && Text.sameIgnoringCase method "connection"
  | _ => false

/-- The method and arguments of a call on the schema or on one of its connections. -/
def onSchema? : Expr → Option (String × List Expr)
  | .staticCall cls method args => if isFacade cls then some (method, args) else none
  | .methodCall target method args => if isConnection target then some (method, args) else none
  | _ => none

/-- The table, blueprint and closure body that the arguments name. -/
def blueprintArgs : List Expr → Option (String × String × List Stmt)
  | .str table :: .closure (blueprint :: _) body :: _ => some (table, blueprint, body)
  | _ => none

/-- The schema call that an expression makes; arguments of another shape make it none. -/
def ofExpr? (e : Expr) : Option Call := do
  let (method, args) ← onSchema? e
  match Text.lower method with
  | "create" => (blueprintArgs args).map fun (t, b, body) => create t b body
  | "table" => (blueprintArgs args).map fun (t, b, body) => alter t b body
  | "drop" | "dropifexists" => (args.head?.bind Expr.asStr).map drop
  | "rename" =>
    match args with
    | .str old :: .str new :: _ => some (rename old new)
    | _ => none
  | _ => none

end Call

/-! ## Expression statements, through blocks and branches -/

mutual

/-- The expression statements of a statement, in program order. -/
def expressionsOf : Stmt → List Expr
  | .expression e => [e]
  | .block body => expressionsIn body
  | .conditional branches => expressionsInAll branches
  | _ => []

def expressionsIn : List Stmt → List Expr
  | [] => []
  | s :: r => expressionsOf s ++ expressionsIn r

def expressionsInAll : List (List Stmt) → List Expr
  | [] => []
  | b :: r => expressionsIn b ++ expressionsInAll r

end

/-! ## Migrations -/

/-- The schema calls of the `up` methods among the members of a class. -/
def memberCalls (members : List Stmt) : List Call :=
  members.flatMap fun
    | .method name body => if Text.sameIgnoringCase name "up" then (expressionsIn body).filterMap Call.ofExpr? else []
    | _ => []

mutual

def callsOf : Stmt → List Call
  | .namespaced _ body => callsIn body
  | .block body => callsIn body
  | .conditional branches => callsInAll branches
  | .classDecl _ members => memberCalls members
  | .ret (some (.new _ members)) => memberCalls members
  | .expression (.new _ members) => memberCalls members
  | _ => []

/-- The schema calls of a migration, in program order. -/
def callsIn : List Stmt → List Call
  | [] => []
  | s :: r => callsOf s ++ callsIn r

def callsInAll : List (List Stmt) → List Call
  | [] => []
  | b :: r => callsIn b ++ callsInAll r

end

end Schema
end DynamicMembers
