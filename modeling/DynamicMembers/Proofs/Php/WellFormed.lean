import DynamicMembers.Php.Lowering
/-!
# Well-formed programs — what may stand where in lowered code

Lists of statements are made in many places: for a file, a namespace, a body, a branch, a class, an object of an
anonymous class, and for closures inside expressions.  Wherever a list is made, nothing is left in it that is not kept,
and methods stand among members and nowhere else.  A conditional that is kept, at whatever depth, has a branch for its
body and one for each clause behind it, in their order (`lowerStmts_wellFormed`).
-/
namespace DynamicMembers
namespace Code

/-- A name without the sigil of a variable. -/
def IsBareName (name : String) : Prop := name.toList.head? ≠ some '$'

mutual

/-- A statement may stand in a list of statements: it is kept, it is no method, and what it holds is well-formed. -/
def Stmt.WellFormed : Stmt → Prop
  | .namespaced _ body => WellFormedBody body
  | .classDecl _ members => WellFormedMembers members
  | .method _ _ => False
  | .expression value => value.WellFormed
  | .ret none => True
  | .ret (some value) => value.WellFormed
  | .block body => WellFormedBody body
  | .conditional branches => WellFormedBranches branches
  | .other => False

/-- A statement may stand among the members of a class: it is a method. -/
def Stmt.WellFormedMember : Stmt → Prop
  | .method _ body => WellFormedBody body
  | _ => False

def WellFormedBody : List Stmt → Prop
  | [] => True
  | s :: ss => s.WellFormed ∧ WellFormedBody ss

def WellFormedMembers : List Stmt → Prop
  | [] => True
  | s :: ss => s.WellFormedMember ∧ WellFormedMembers ss

def WellFormedBranches : List (List Stmt) → Prop
  | [] => True
  | body :: bodies => WellFormedBody body ∧ WellFormedBranches bodies

def Expr.WellFormed : Expr → Prop
  | .staticCall _ _ args => WellFormedValues args
  | .methodCall target _ args => target.WellFormed ∧ WellFormedValues args
  | .var name => IsBareName name
  | .array values => WellFormedValues values
  | .closure params body => (∀ p ∈ params, IsBareName p) ∧ WellFormedBody body
  | .new _ members => WellFormedMembers members
  | _ => True

def WellFormedValues : List Expr → Prop
  | [] => True
  | e :: es => e.WellFormed ∧ WellFormedValues es

end

/-! ## Conditionals at any depth -/

mutual

/-- The conditionals of a statement with all that is nested in it, each by its branches, an outer one before those in
it. -/
def Stmt.conditionals : Stmt → List (List (List Stmt))
  | .namespaced _ body => conditionalsIn body
  | .classDecl _ members => conditionalsIn members
  | .method _ body => conditionalsIn body
  | .expression value => value.conditionals
  | .ret (some value) => value.conditionals
  | .block body => conditionalsIn body
  | .conditional branches => branches :: branchConditionals branches
  | _ => []

def conditionalsIn : List Stmt → List (List (List Stmt))
  | [] => []
  | s :: ss => s.conditionals ++ conditionalsIn ss

def branchConditionals : List (List Stmt) → List (List (List Stmt))
  | [] => []
  | body :: bodies => conditionalsIn body ++ branchConditionals bodies

def Expr.conditionals : Expr → List (List (List Stmt))
  | .staticCall _ _ args => valueConditionals args
  | .methodCall target _ args => target.conditionals ++ valueConditionals args
  | .array values => valueConditionals values
  | .closure _ body => conditionalsIn body
  | .new _ members => conditionalsIn members
  | _ => []

def valueConditionals : List Expr → List (List (List Stmt))
  | [] => []
  | e :: es => e.conditionals ++ valueConditionals es

end

end Code

namespace Php

open Code (IsBareName WellFormedBody WellFormedMembers WellFormedBranches WellFormedValues)

theorem isBareName_variableName (text : String) : IsBareName (variableName text) := by
  unfold IsBareName variableName
  rw [String.toList_ofList]
  intro h
  have hsigil := List.head?_dropWhile_not (· == '$') text.toList
  rw [h] at hsigil
  simp at hsigil

theorem isBareName_of_mem_paramNames {params : List Param} {name : String} (h : name ∈ paramNames params) :
    IsBareName name := by
  obtain ⟨p, -, hp⟩ := List.mem_filterMap.1 h
  cases p with
  | comment => cases hp
  | named text =>
    obtain rfl := Option.some.inj hp
    exact isBareName_variableName text

mutual

/-- **A statement that is kept may stand in a list of statements.** -/
theorem Stmt.lower_wellFormed : ∀ (s : Stmt) {t : Code.Stmt}, s.lower = some t → t.WellFormed
  | .namespaced _ body, _, rfl => lowerStmts_wellFormedBody body
  | .classDecl _ members, _, rfl => lowerMembers_wellFormed members
  | .expression value, _, rfl => value.lower_wellFormed
  | .ret true _, _, rfl => trivial
  | .ret false none, _, rfl => trivial
  | .ret false (some value), _, rfl => value.lower_wellFormed
  | .block body, _, rfl => lowerStmts_wellFormedBody body
  | .conditional body clauses, _, rfl => ⟨lowerStmts_wellFormedBody body, lowerClauses_wellFormed clauses⟩

theorem lowerStmts_wellFormedBody : ∀ ss : List Stmt, WellFormedBody (lowerStmts ss)
  | [] => trivial
  | s :: ss => by
    have hrest := lowerStmts_wellFormedBody ss
    rw [lowerStmts]
    cases h : s.lower with
    | none => exact hrest
    | some t => exact ⟨s.lower_wellFormed h, hrest⟩

theorem lowerClauses_wellFormed : ∀ cs : List Clause, WellFormedBranches (lowerClauses cs)
  | [] => trivial
  | .comment :: cs => lowerClauses_wellFormed cs
  | .elseIf body :: cs => ⟨lowerStmts_wellFormedBody body, lowerClauses_wellFormed cs⟩
  | .otherwise body :: cs => ⟨lowerStmts_wellFormedBody body, lowerClauses_wellFormed cs⟩

theorem lowerMembers_wellFormed : ∀ ms : List Member, WellFormedMembers (lowerMembers ms)
  | [] => trivial
  | .comment :: ms => lowerMembers_wellFormed ms
  | .method _ body :: ms => ⟨lowerStmts_wellFormedBody body, lowerMembers_wellFormed ms⟩
  | .other :: ms => lowerMembers_wellFormed ms

theorem Expr.lower_wellFormed : ∀ e : Expr, e.lower.WellFormed
  | .scopedCall _ (some _) args => lowerItems_wellFormed args
  | .scopedCall _ none _ => trivial
  | .memberCall target (some _) args => ⟨target.lower_wellFormed, lowerItems_wellFormed args⟩
  | .memberCall _ none _ => trivial
  | .var text => isBareName_variableName text
  | .single raw => by
    rw [Expr.lower]
    cases Literal.single raw.toList <;> trivial
  | .double raw => by
    rw [Expr.lower]
    cases Literal.double raw.toList <;> trivial
  | .integer raw => by
    rw [Expr.lower]
    cases Literal.integer raw.toList <;> trivial
  | .bool _ => trivial
  | .null => trivial
  | .array items => lowerItems_wellFormed items
  | .closure _ body => ⟨fun _ => isBareName_of_mem_paramNames, lowerStmts_wellFormedBody body⟩
  | .arrow _ body => ⟨fun _ => isBareName_of_mem_paramNames, body.lower_wellFormed, trivial⟩
  | .new _ => trivial
  | .newAnonymous members => lowerMembers_wellFormed members
  | .classConstant _ => trivial
  | .paren true _ => trivial
  | .paren false inner => inner.lower_wellFormed
  | .other => trivial

theorem lowerItems_wellFormed : ∀ is : List Item, WellFormedValues (lowerItems is)
  | [] => trivial
  | .comment :: is => lowerItems_wellFormed is
  | .value e :: is => ⟨e.lower_wellFormed, lowerItems_wellFormed is⟩

end

/-! ## Conditionals at any depth -/

def Clause.body? : Clause → Option (List Stmt)
  | .comment => none
  | .elseIf body => some body
  | .otherwise body => some body

def Clause.isElseIf : Clause → Bool
  | .elseIf _ => true
  | _ => false

def Clause.isElse : Clause → Bool
  | .otherwise _ => true
  | _ => false

/-- A conditional as it is written: its first body and the clauses that follow. -/
structure Conditional where
  body : List Stmt
  clauses : List Clause

/-- The branches that a conditional stands for: its first body, and the body of each clause in order. -/
def Conditional.branches (c : Conditional) : List (List Code.Stmt) :=
  (c.body :: c.clauses.filterMap Clause.body?).map lowerStmts

mutual

/-- The conditionals in what is kept of a statement, at any depth. -/
def Stmt.conditionals : Stmt → List Conditional
  | .namespaced _ body => conditionalsIn body
  | .classDecl _ members => memberConditionals members
  | .expression value => value.conditionals
  | .ret false (some value) => value.conditionals
  | .block body => conditionalsIn body
  | .conditional body clauses => ⟨body, clauses⟩ :: (conditionalsIn body ++ clauseConditionals clauses)
  | _ => []

def conditionalsIn : List Stmt → List Conditional
  | [] => []
  | s :: ss => s.conditionals ++ conditionalsIn ss

def clauseConditionals : List Clause → List Conditional
  | [] => []
  | .comment :: cs => clauseConditionals cs
  | .elseIf body :: cs => conditionalsIn body ++ clauseConditionals cs
  | .otherwise body :: cs => conditionalsIn body ++ clauseConditionals cs

def memberConditionals : List Member → List Conditional
  | [] => []
  | .method _ body :: ms => conditionalsIn body ++ memberConditionals ms
  | _ :: ms => memberConditionals ms

def Expr.conditionals : Expr → List Conditional
  | .scopedCall _ (some _) args => itemConditionals args
  | .memberCall target (some _) args => target.conditionals ++ itemConditionals args
  | .array items => itemConditionals items
  | .closure _ body => conditionalsIn body
  | .arrow _ body => body.conditionals
  | .newAnonymous members => memberConditionals members
  | .paren false inner => inner.conditionals
  | _ => []

def itemConditionals : List Item → List Conditional
  | [] => []
  | .comment :: is => itemConditionals is
  | .value e :: is => e.conditionals ++ itemConditionals is

end

theorem lowerClauses_eq : ∀ cs : List Clause, lowerClauses cs = (cs.filterMap Clause.body?).map lowerStmts
  | [] => rfl
  | .comment :: cs => lowerClauses_eq cs
  | .elseIf body :: cs => congrArg (lowerStmts body :: ·) (lowerClauses_eq cs)
  | .otherwise body :: cs => congrArg (lowerStmts body :: ·) (lowerClauses_eq cs)

theorem Stmt.conditionals_of_dropped (s : Stmt) (h : s.lower = none) : s.conditionals = [] := by
  cases s with
  | comment | other => rfl
  | ret commented value => cases commented <;> cases value <;> cases h
  | _ => cases h

theorem Conditional.length_branches (c : Conditional) :
    c.branches.length = 1 + c.clauses.countP Clause.isElseIf + c.clauses.countP Clause.isElse := by
  have hclauses : ∀ cs : List Clause,
      (cs.filterMap Clause.body?).length = cs.countP Clause.isElseIf + cs.countP Clause.isElse := by
    intro cs
    induction cs with
    | nil => rfl
    | cons clause cs ih =>
      simp only [List.filterMap_cons, List.countP_cons]
      cases clause <;> simp [Clause.body?, Clause.isElseIf, Clause.isElse, ih] <;> omega
  rw [branches, List.length_map, List.length_cons, hclauses]
  omega

mutual

/-- **What is kept of a statement has its conditionals, in their order, with the branches that they stand for.** -/
theorem Stmt.conditionals_lower : ∀ (s : Stmt) {t : Code.Stmt}, s.lower = some t →
    t.conditionals = s.conditionals.map Conditional.branches
  | .namespaced _ body, _, rfl => conditionalsIn_lowerStmts body
  | .classDecl _ members, _, rfl => conditionalsIn_lowerMembers members
  | .expression value, _, rfl => value.conditionals_lower
  | .ret true _, _, rfl => rfl
  | .ret false none, _, rfl => rfl
  | .ret false (some value), _, rfl => value.conditionals_lower
  | .block body, _, rfl => conditionalsIn_lowerStmts body
  | .conditional body clauses, _, rfl => by
    have hbranches : lowerStmts body :: lowerClauses clauses = (Conditional.mk body clauses).branches := by
      rw [lowerClauses_eq]
      rfl
    rw [Code.Stmt.conditionals, Code.branchConditionals, Stmt.conditionals, List.map_cons, List.map_append,
      conditionalsIn_lowerStmts body, branchConditionals_lowerClauses clauses, hbranches]

theorem conditionalsIn_lowerStmts : ∀ ss : List Stmt,
    Code.conditionalsIn (lowerStmts ss) = (conditionalsIn ss).map Conditional.branches
  | [] => rfl
  | s :: ss => by
    have hrest := conditionalsIn_lowerStmts ss
    rw [lowerStmts, conditionalsIn, List.map_append, ← hrest]
    cases h : s.lower with
    | none => rw [s.conditionals_of_dropped h, List.map_nil, List.nil_append]
    | some t => rw [Code.conditionalsIn, s.conditionals_lower h]

theorem branchConditionals_lowerClauses : ∀ cs : List Clause,
    Code.branchConditionals (lowerClauses cs) = (clauseConditionals cs).map Conditional.branches
  | [] => rfl
  | .comment :: cs => branchConditionals_lowerClauses cs
  | .elseIf body :: cs | .otherwise body :: cs => by
    rw [lowerClauses, Code.branchConditionals, clauseConditionals, List.map_append, conditionalsIn_lowerStmts body,
      branchConditionals_lowerClauses cs]

theorem conditionalsIn_lowerMembers : ∀ ms : List Member,
    Code.conditionalsIn (lowerMembers ms) = (memberConditionals ms).map Conditional.branches
  | [] => rfl
  | .comment :: ms => conditionalsIn_lowerMembers ms
  | .other :: ms => conditionalsIn_lowerMembers ms
  | .method _ body :: ms => by
    rw [lowerMembers, Code.conditionalsIn, Code.Stmt.conditionals, memberConditionals, List.map_append,
      conditionalsIn_lowerStmts body, conditionalsIn_lowerMembers ms]

theorem Expr.conditionals_lower : ∀ e : Expr, e.lower.conditionals = e.conditionals.map Conditional.branches
  | .scopedCall _ (some _) args => valueConditionals_lowerItems args
  | .scopedCall _ none _ => rfl
  | .memberCall target (some _) args => by
    rw [Expr.lower, Code.Expr.conditionals, Expr.conditionals, List.map_append, target.conditionals_lower,
      valueConditionals_lowerItems args]
  | .memberCall _ none _ => rfl
  | .var _ => rfl
  | .single raw => by
    rw [Expr.lower]
    cases Literal.single raw.toList <;> rfl
  | .double raw => by
    rw [Expr.lower]
    cases Literal.double raw.toList <;> rfl
  | .integer raw => by
    rw [Expr.lower]
    cases Literal.integer raw.toList <;> rfl
  | .bool _ => rfl
  | .null => rfl
  | .array items => valueConditionals_lowerItems items
  | .closure _ body => conditionalsIn_lowerStmts body
  | .arrow _ body => by
    rw [Expr.lower, Code.Expr.conditionals, Code.conditionalsIn, Code.conditionalsIn, Code.Stmt.conditionals,
      List.append_nil, Expr.conditionals, body.conditionals_lower]
  | .new _ => rfl
  | .newAnonymous members => conditionalsIn_lowerMembers members
  | .classConstant _ => rfl
  | .paren true _ => rfl
  | .paren false inner => inner.conditionals_lower
  | .other => rfl

theorem valueConditionals_lowerItems : ∀ is : List Item,
    Code.valueConditionals (lowerItems is) = (itemConditionals is).map Conditional.branches
  | [] => rfl
  | .comment :: is => valueConditionals_lowerItems is
  | .value e :: is => by
    rw [lowerItems, Code.valueConditionals, itemConditionals, List.map_append, e.conditionals_lower,
      valueConditionals_lowerItems is]

end

/-- **Lowered programs are well-formed.**  In every list of statements, at any depth, nothing is left that is not kept,
methods are members and members are methods, and names have no sigils.  The conditionals are those of the program in
their order, each with a branch for its body and one for each clause that follows. -/
theorem lowerStmts_wellFormed (program : List Stmt) :
    WellFormedBody (lowerStmts program) ∧
    Code.conditionalsIn (lowerStmts program) = (conditionalsIn program).map Conditional.branches ∧
    ∀ c : Conditional, c.branches.length = 1 + c.clauses.countP Clause.isElseIf + c.clauses.countP Clause.isElse :=
  ⟨lowerStmts_wellFormedBody program, conditionalsIn_lowerStmts program, fun c => c.length_branches⟩

end Php
end DynamicMembers
