/-!
# Statements and expressions — the part of a program that migrations are made of

Only calls, closures, literals and the nesting of statements are kept; everything else is `other`.  Conditions are
dropped, so an `if` is the list of its branches.
-/
namespace DynamicMembers
namespace Code

mutual

inductive Stmt where
  /-- A namespace; one without braces has an empty body. -/
  | namespaced (name : Option String) (body : List Stmt)
  /-- A class with its methods. -/
  | classDecl (name : Option String) (members : List Stmt)
  | method (name : String) (body : List Stmt)
  | expression (value : Expr)
  | ret (value : Option Expr)
  | block (body : List Stmt)
  /-- A conditional, one body for each branch. -/
  | conditional (branches : List (List Stmt))
  | other
  deriving Repr

inductive Expr where
  | staticCall (cls method : String) (args : List Expr)
  | methodCall (target : Expr) (method : String) (args : List Expr)
  /-- A variable, without its sigil. -/
  | var (name : String)
  | str (value : String)
  | int (value : Int64)
  | bool (value : Bool)
  | null
  /-- The values of an array, without their keys. -/
  | array (values : List Expr)
  /-- A closure: the names of its parameters, without sigils, and its body. -/
  | closure (params : List String) (body : List Stmt)
  /-- An object creation; an anonymous class keeps its methods. -/
  | new (cls : Option String) (members : List Stmt)
  | classConstant (text : String)
  | other
  deriving Repr

end

instance : Inhabited Stmt := ⟨.other⟩

instance : Inhabited Expr := ⟨.other⟩

def Stmt.nestedBodies : Stmt → List (List Stmt)
  | block body => [body]
  | conditional branches => branches
  | _ => []

namespace Expr

def asStr : Expr → Option String
  | str s => some s
  | _ => none

def asVariable : Expr → Option String
  | var name => some name
  | _ => none

def isMethodCall : Expr → Bool
  | methodCall _ _ _ => true
  | _ => false

def chainRoot : Expr → Expr
  | methodCall target _ _ => chainRoot target
  | e => e

/-- The calls of a chain, the innermost first. -/
def chainCalls : Expr → List (String × List Expr)
  | methodCall target method args => chainCalls target ++ [(method, args)]
  | _ => []

/-- Calls methods on a root, one after the other. -/
def chain (root : Expr) (calls : List (String × List Expr)) : Expr :=
  calls.foldl (fun e c => methodCall e c.1 c.2) root

end Expr
end Code
end DynamicMembers
