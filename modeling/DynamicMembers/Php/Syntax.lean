/-!
# Syntax trees — what the reading of PHP code keeps

A tree keeps calls, closures, literals, the nesting of statements and the comments among them.  Everything else is
`other`.  Names, literals and the scopes of calls are kept as they are written.
-/
namespace DynamicMembers
namespace Php

/-- A parameter, or a comment among parameters. -/
inductive Param where
  | comment
  /-- A parameter, by its variable as it is written. -/
  | named (text : String)
  deriving DecidableEq, Repr

mutual

inductive Stmt where
  | comment
  /-- A namespace; one without braces has an empty body. -/
  | namespaced (name : Option String) (body : List Stmt)
  | classDecl (name : String) (members : List Member)
  | expression (value : Expr)
  /-- A return, and whether a comment stands right behind its keyword. -/
  | ret (commented : Bool) (value : Option Expr)
  | block (body : List Stmt)
  /-- A conditional: its first body, and the clauses that follow. -/
  | conditional (body : List Stmt) (clauses : List Clause)
  | other

/-- A further branch of a conditional. -/
inductive Clause where
  | comment
  | elseIf (body : List Stmt)
  | otherwise (body : List Stmt)

inductive Member where
  | comment
  | method (name : String) (body : List Stmt)
  | other

inductive Expr where
  /-- A call on a class: the scope as it is written, and the name unless it is computed. -/
  | scopedCall (scope : String) (method : Option String) (args : List Item)
  /-- A call on a value; the name is absent when it is computed. -/
  | memberCall (target : Expr) (method : Option String) (args : List Item)
  /-- A variable as it is written. -/
  | var (text : String)
  /-- A string in single quotes as it is written. -/
  | single (raw : String)
  /-- A string in double quotes as it is written; nothing is interpolated in it. -/
  | double (raw : String)
  | integer (raw : String)
  | bool (value : Bool)
  | null
  | array (items : List Item)
  | closure (params : List Param) (body : List Stmt)
  | arrow (params : List Param) (body : Expr)
  /-- The creation of an object, with its class unless that is computed. -/
  | new (cls : Option String)
  /-- The creation of an object of an anonymous class. -/
  | newAnonymous (members : List Member)
  /-- A constant of a class as it is written. -/
  | classConstant (text : String)
  /-- A parenthesised expression, and whether a comment stands right behind the parenthesis. -/
  | paren (commented : Bool) (inner : Expr)
  | other

/-- An argument or an array element, which may be a comment; of a pair only the value is kept. -/
inductive Item where
  | comment
  | value (e : Expr)

end

instance : Inhabited Stmt := ⟨.other⟩

instance : Inhabited Expr := ⟨.other⟩

end Php
end DynamicMembers
