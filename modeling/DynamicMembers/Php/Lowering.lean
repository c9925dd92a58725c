import DynamicMembers.Code.Basic
import DynamicMembers.Php.Literal
import DynamicMembers.Php.Parser
/-!
# Lowering — the statements that a syntax tree stands for

Statements that hold no calls and no closures are left out, and so are comments; in an expression what is not kept
becomes `other`.  The first thing inside a `return` or a pair of parentheses is what is taken, so a comment that stands
there hides the expression behind it.
-/
namespace DynamicMembers
namespace Php

def variableName (text : String) : String := String.ofList (text.toList.dropWhile (· == '$'))

/-- The names of parameters, without sigils. -/
def paramNames (params : List Param) : List String :=
  params.filterMap fun
    | .comment => none
    | .named v => some (variableName v)

mutual

/-- The statement that a tree stands for, if it is kept. -/
def Stmt.lower : Stmt → Option Code.Stmt
  | .comment => none
  | .namespaced name body => some (.namespaced name (lowerStmts body))
  | .classDecl name members => some (.classDecl (some name) (lowerMembers members))
  | .expression value => some (.expression value.lower)
  | .ret true _ => some (.ret (some .other))
  | .ret false none => some (.ret none)
  | .ret false (some value) => some (.ret (some value.lower))
  | .block body => some (.block (lowerStmts body))
  | .conditional body clauses => some (.conditional (lowerStmts body :: lowerClauses clauses))
  | .other => none

def lowerStmts : List Stmt → List Code.Stmt
  | [] => []
  | s :: ss =>
    match s.lower with
    | none => lowerStmts ss
    | some t => t :: lowerStmts ss

def lowerClauses : List Clause → List (List Code.Stmt)
  | [] => []
  | .comment :: cs => lowerClauses cs
  | .elseIf body :: cs => lowerStmts body :: lowerClauses cs
  | .otherwise body :: cs => lowerStmts body :: lowerClauses cs

def lowerMembers : List Member → List Code.Stmt
  | [] => []
  | .comment :: ms => lowerMembers ms
  | .method name body :: ms => .method name (lowerStmts body) :: lowerMembers ms
  | .other :: ms => lowerMembers ms

def Expr.lower : Expr → Code.Expr
  | .scopedCall scope (some method) args => .staticCall scope method (lowerItems args)
  | .scopedCall _ none _ => .other
  | .memberCall target (some method) args => .methodCall target.lower method (lowerItems args)
  | .memberCall _ none _ => .other
  | .var text => .var (variableName text)
  | .single raw =>
    match Literal.single raw.toList with
    | some cs => .str (String.ofList cs)
    | none => .other
  | .double raw =>
    match Literal.double raw.toList with
    | some cs => .str (String.ofList cs)
    | none => .other
  | .integer raw =>
    match Literal.integer raw.toList with
    | some n => .int n
    | none => .other
  | .bool b => .bool b
  | .null => .null
  | .array items => .array (lowerItems items)
  | .closure params body => .closure (paramNames params) (lowerStmts body)
  | .arrow params body => .closure (paramNames params) [.expression body.lower]
  | .new cls => .new cls []
  | .newAnonymous members => .new none (lowerMembers members)
  | .classConstant text => .classConstant text
  | .paren true _ => .other
  | .paren false inner => inner.lower
  | .other => .other

def lowerItems : List Item → List Code.Expr
  | [] => []
  | .comment :: is => lowerItems is
  | .value e :: is => e.lower :: lowerItems is

end

/-- The statements of a source; every source has a reading. -/
def statements (source : String) : List Code.Stmt := lowerStmts (program source)

end Php
end DynamicMembers
