import DynamicMembers.Proofs.Schema.Outline
import Mathlib.Logic.Relation
/-!
# Surroundings — everything in a migration around one of its parts

Statements stand in places: at the top level, among the members of a class, in an `up` method, in a closure on a
blueprint, or where the fold never looks.  What the fold reads of a place depends on the place only, so two lists of
statements that are read alike may stand for each other however deep the place lies (`BodyContext.same_plug`).
-/
namespace DynamicMembers
namespace Schema

open Code (Expr Stmt)

/-- Where a list of statements stands. -/
inductive Place where
  | top
  /-- Among the members of a class. -/
  | members
  /-- In the body of an `up` method. -/
  | up
  /-- In a closure that takes the blueprint as its first parameter. -/
  | closure (blueprint : String)
  /-- In the body of another method or of a closure without parameters. -/
  | unread
  deriving DecidableEq, Repr

namespace Place

def ofMethod (name : String) : Place := if Text.sameIgnoringCase name "up" then up else unread

def ofClosure (params : List String) : Place := (params.head?.map closure).getD unread

end Place

/-! ## Parts and what is around them -/

mutual

/-- All of a migration around a list of statements, with the place where that list stands. -/
inductive BodyContext : Place → Type
  /-- The list is the migration. -/
  | root : BodyContext .top
  | block {k : Place} (outer : StmtContext k) : BodyContext k
  | branch {k : Place} (outer : StmtContext k) (earlier later : List (List Stmt)) : BodyContext k
  | namespaced {k : Place} (outer : StmtContext k) (name : Option String) : BodyContext .top
  | classDecl {k : Place} (outer : StmtContext k) (name : Option String) : BodyContext .members
  | method {k : Place} (outer : StmtContext k) (name : String) : BodyContext (.ofMethod name)
  | closure (outer : ExprContext) (params : List String) : BodyContext (.ofClosure params)
  | new (outer : ExprContext) (cls : Option String) : BodyContext .members

/-- All of a migration around a statement. -/
inductive StmtContext : Place → Type
  | among {k : Place} (outer : BodyContext k) (before after : List Stmt) : StmtContext k

/-- All of a migration around an expression. -/
inductive ExprContext : Type
  | expression {k : Place} (outer : StmtContext k) : ExprContext
  | ret {k : Place} (outer : StmtContext k) : ExprContext
  | target (outer : ExprContext) (method : String) (args : List Expr) : ExprContext
  | methodArg (outer : ExprContext) (target : Expr) (method : String) (earlier later : List Expr) : ExprContext
  | staticArg (outer : ExprContext) (cls method : String) (earlier later : List Expr) : ExprContext
  | element (outer : ExprContext) (earlier later : List Expr) : ExprContext

end

mutual

/-- The migration with a list of statements in its place. -/
def BodyContext.plug {k : Place} : BodyContext k → List Stmt → List Stmt
  | .root, body => body
  | .block outer, body => outer.plug (.block body)
  | .branch outer earlier later, body => outer.plug (.conditional (earlier ++ body :: later))
  | .namespaced outer name, body => outer.plug (.namespaced name body)
  | .classDecl outer name, body => outer.plug (.classDecl name body)
  | .method outer name, body => outer.plug (.method name body)
  | .closure outer params, body => outer.plug (.closure params body)
  | .new outer cls, body => outer.plug (.new cls body)

def StmtContext.plug {k : Place} : StmtContext k → Stmt → List Stmt
  | .among outer before after, s => outer.plug (before ++ s :: after)

def ExprContext.plug : ExprContext → Expr → List Stmt
  | .expression outer, e => outer.plug (.expression e)
  | .ret outer, e => outer.plug (.ret (some e))
  | .target outer method args, e => outer.plug (.methodCall e method args)
  | .methodArg outer target method earlier later, e => outer.plug (.methodCall target method (earlier ++ e :: later))
  | .staticArg outer cls method earlier later, e => outer.plug (.staticCall cls method (earlier ++ e :: later))
  | .element outer earlier later, e => outer.plug (.array (earlier ++ e :: later))

end

/-! ## What is read of a place -/

/-- The steps of the body of an `up` method. -/
def upSteps (body : List Stmt) : List Step := (expressionsIn body).flatMap Step.ofExpr

/-- Lists of statements of which the fold reads the same in a place. -/
def Place.Same : Place → List Stmt → List Stmt → Prop
  | top, xs, ys => stepsIn xs = stepsIn ys
  | members, xs, ys => memberSteps xs = memberSteps ys
  | up, xs, ys => upSteps xs = upSteps ys
  | closure blueprint, xs, ys => State.bodyEdits blueprint xs = State.bodyEdits blueprint ys
  | unread, _, _ => True

/-! Reading a list of statements is reading them one after the other. -/

theorem expressionsIn_append : ∀ xs ys : List Stmt, expressionsIn (xs ++ ys) = expressionsIn xs ++ expressionsIn ys
  | [], _ => rfl
  | s :: xs, ys => by rw [List.cons_append, expressionsIn, expressionsIn, expressionsIn_append xs ys, List.append_assoc]

theorem expressionsInAll_eq (branches : List (List Stmt)) :
    expressionsInAll branches = expressionsIn branches.flatten := by
  induction branches with
  | nil => rfl
  | cons b bs ih => rw [expressionsInAll, List.flatten_cons, expressionsIn_append, ih]

theorem upExpressionsIn_append : ∀ xs ys : List Stmt,
    upExpressionsIn (xs ++ ys) = upExpressionsIn xs ++ upExpressionsIn ys
  | [], _ => rfl
  | s :: xs, ys => by
    rw [List.cons_append, upExpressionsIn, upExpressionsIn, upExpressionsIn_append xs ys, List.append_assoc]

theorem upExpressionsInAll_eq (branches : List (List Stmt)) :
    upExpressionsInAll branches = upExpressionsIn branches.flatten := by
  induction branches with
  | nil => rfl
  | cons b bs ih => rw [upExpressionsInAll, List.flatten_cons, upExpressionsIn_append, ih]

theorem stepsIn_append (xs ys : List Stmt) : stepsIn (xs ++ ys) = stepsIn xs ++ stepsIn ys := by
  rw [stepsIn, upExpressionsIn_append, List.flatMap_append]
  rfl

theorem memberSteps_append (xs ys : List Stmt) : memberSteps (xs ++ ys) = memberSteps xs ++ memberSteps ys := by
  rw [memberSteps, memberExpressions, List.flatMap_append, List.flatMap_append]
  rfl

theorem upSteps_append (xs ys : List Stmt) : upSteps (xs ++ ys) = upSteps xs ++ upSteps ys := by
  rw [upSteps, expressionsIn_append, List.flatMap_append]
  rfl

theorem bodyEdits_append (blueprint : String) (xs ys : List Stmt) :
    State.bodyEdits blueprint (xs ++ ys) = State.bodyEdits blueprint xs ++ State.bodyEdits blueprint ys := by
  rw [State.bodyEdits, expressionsIn_append, List.flatMap_append]
  rfl

namespace Place.Same

variable {k : Place} {xs ys zs : List Stmt}

theorem refl (k : Place) (xs : List Stmt) : k.Same xs xs := by
  cases k with
  | top | members | up | closure => exact Eq.refl _
  | unread => trivial

theorem symm (h : k.Same xs ys) : k.Same ys xs := by
  cases k with
  | top | members | up | closure => exact Eq.symm h
  | unread => trivial

theorem trans (h : k.Same xs ys) (h' : k.Same ys zs) : k.Same xs zs := by
  cases k with
  | top | members | up | closure => exact Eq.trans h h'
  | unread => trivial

theorem append (h : k.Same xs ys) {xs' ys' : List Stmt} (h' : k.Same xs' ys') : k.Same (xs ++ xs') (ys ++ ys') := by
  have join : ∀ {α : Type} {f : List Stmt → List α}, (∀ l m, f (l ++ m) = f l ++ f m) → f xs = f ys → f xs' = f ys' →
      f (xs ++ xs') = f (ys ++ ys') := fun happend he he' => by rw [happend, happend, he, he']
  cases k with
  | top => exact join stepsIn_append h h'
  | members => exact join memberSteps_append h h'
  | up => exact join upSteps_append h h'
  | closure blueprint => exact join (bodyEdits_append blueprint) h h'
  | unread => trivial

/-- What is read alike may stand among other statements. -/
theorem around (h : k.Same xs ys) (before after : List Stmt) : k.Same (before ++ xs ++ after) (before ++ ys ++ after) :=
  ((refl k before).append h).append (refl k after)

/-! ## Nested statements -/

/-- A block is its body, everywhere but among the members of a class. -/
theorem of_block (hk : k ≠ .members) (body : List Stmt) : k.Same [.block body] body := by
  have hup : upExpressionsIn [.block body] = upExpressionsIn body := List.append_nil _
  have hbody : expressionsIn [.block body] = expressionsIn body := List.append_nil _
  cases k with
  | top => exact congrArg (List.flatMap Step.ofExpr) hup
  | members => exact absurd rfl hk
  | up => exact congrArg (List.flatMap Step.ofExpr) hbody
  | closure blueprint => exact congrArg (List.flatMap (exprEdits blueprint)) hbody
  | unread => trivial

/-- A conditional is its branches in a row, everywhere but among the members of a class. -/
theorem of_conditional (hk : k ≠ .members) (branches : List (List Stmt)) :
    k.Same [.conditional branches] branches.flatten := by
  have hup : upExpressionsIn [.conditional branches] = upExpressionsIn branches.flatten :=
    (List.append_nil _).trans (upExpressionsInAll_eq branches)
  have hbody : expressionsIn [.conditional branches] = expressionsIn branches.flatten :=
    (List.append_nil _).trans (expressionsInAll_eq branches)
  cases k with
  | top => exact congrArg (List.flatMap Step.ofExpr) hup
  | members => exact absurd rfl hk
  | up => exact congrArg (List.flatMap Step.ofExpr) hbody
  | closure blueprint => exact congrArg (List.flatMap (exprEdits blueprint)) hbody
  | unread => trivial

/-- At the top level a namespace is its body. -/
theorem of_namespaced (name : Option String) (body : List Stmt) : top.Same [.namespaced name body] body :=
  congrArg (List.flatMap Step.ofExpr) (List.append_nil (upExpressionsIn body))

theorem block (h : k.Same xs ys) : k.Same [.block xs] [.block ys] := by
  by_cases hk : k = .members
  · subst hk
    exact Eq.refl (memberSteps [])
  · exact ((of_block hk xs).trans h).trans (of_block hk ys).symm

theorem branch (h : k.Same xs ys) (earlier later : List (List Stmt)) :
    k.Same [.conditional (earlier ++ xs :: later)] [.conditional (earlier ++ ys :: later)] := by
  by_cases hk : k = .members
  · subst hk
    exact Eq.refl (memberSteps [])
  · have hflat : k.Same (earlier ++ xs :: later).flatten (earlier ++ ys :: later).flatten := by
      have haround := h.around earlier.flatten later.flatten
      rwa [List.flatten_append, List.flatten_append, List.flatten_cons, List.flatten_cons, ← List.append_assoc,
        ← List.append_assoc]
    exact ((of_conditional hk _).trans hflat).trans (of_conditional hk _).symm

/-- A namespace is read at the top level only. -/
theorem namespaced (h : top.Same xs ys) (k : Place) (name : Option String) :
    k.Same [.namespaced name xs] [.namespaced name ys] := by
  cases k with
  | top => exact ((of_namespaced name xs).trans h).trans (of_namespaced name ys).symm
  | members | up | closure => exact Eq.refl _
  | unread => trivial

/-- A class is read at the top level only. -/
theorem classDecl (h : members.Same xs ys) (k : Place) (name : Option String) :
    k.Same [.classDecl name xs] [.classDecl name ys] := by
  cases k with
  | top =>
    have hsteps : ∀ ms, stepsIn [.classDecl name ms] = memberSteps ms := fun ms =>
      congrArg (List.flatMap Step.ofExpr) (List.append_nil (memberExpressions ms))
    exact (hsteps xs).trans (Eq.trans h (hsteps ys).symm)
  | members | up | closure => exact Eq.refl _
  | unread => trivial

/-- A method is read among the members of a class only, and there when it is named `up`. -/
theorem method {name : String} (h : (ofMethod name).Same xs ys) (k : Place) :
    k.Same [.method name xs] [.method name ys] := by
  cases k with
  | members =>
    unfold ofMethod at h
    by_cases hup : Text.sameIgnoringCase name "up" = true
    · rw [if_pos hup] at h
      have hsteps : ∀ body, memberSteps [.method name body] = upSteps body := fun body => by
        simp [memberSteps, memberExpressions, upSteps, hup]
      exact (hsteps xs).trans (Eq.trans h (hsteps ys).symm)
    · have hsteps : ∀ body, memberSteps [.method name body] = [] := fun body => by
        simp [memberSteps, memberExpressions, hup]
      exact (hsteps xs).trans (hsteps ys).symm
  | top | up | closure => exact Eq.refl _
  | unread => trivial

end Place.Same

/-! ## Expressions -/

theorem bodyEdits_ofClosure {params : List String} {xs ys : List Stmt} (h : (Place.ofClosure params).Same xs ys) :
    ∀ blueprint ∈ params.head?, State.bodyEdits blueprint xs = State.bodyEdits blueprint ys := by
  intro blueprint hblueprint
  rw [Place.ofClosure, hblueprint] at h
  exact h

theorem stepsIn_expression (e : Expr) : stepsIn [.expression e] = createdSteps e := by
  cases e with
  | new cls members => exact congrArg (List.flatMap Step.ofExpr) (List.append_nil (memberExpressions members))
  | _ => rfl

theorem stepsIn_ret (e : Expr) : stepsIn [.ret (some e)] = createdSteps e := by
  cases e with
  | new cls members => exact congrArg (List.flatMap Step.ofExpr) (List.append_nil (memberExpressions members))
  | _ => rfl

namespace Alike

variable {e e' : Expr}

theorem expression (h : Alike e e') (k : Place) : k.Same [.expression e] [.expression e'] := by
  cases k with
  | top => exact (stepsIn_expression e).trans (h.created.trans (stepsIn_expression e').symm)
  | members => exact Eq.refl _
  | up => exact (List.append_nil _).trans (h.steps.trans (List.append_nil _).symm)
  | closure blueprint => exact (List.append_nil _).trans ((h.exprEdits_eq blueprint).trans (List.append_nil _).symm)
  | unread => trivial

theorem ret (h : Alike e e') (k : Place) : k.Same [.ret (some e)] [.ret (some e')] := by
  cases k with
  | top => exact (stepsIn_ret e).trans (h.created.trans (stepsIn_ret e').symm)
  | members | up | closure => exact Eq.refl _
  | unread => trivial

end Alike

/-! ## Parts that are read alike -/

mutual

/-- **What is read alike in its place may be put there**, with any migration around it. -/
theorem BodyContext.same_plug {k : Place} : ∀ (ctx : BodyContext k) {xs ys : List Stmt}, k.Same xs ys →
    Place.top.Same (ctx.plug xs) (ctx.plug ys)
  | .root, _, _, h => h
  | .block outer, _, _, h => outer.same_plug h.block
  | .branch outer earlier later, _, _, h => outer.same_plug (h.branch earlier later)
  | .namespaced outer name, _, _, h => outer.same_plug (h.namespaced _ name)
  | .classDecl outer name, _, _, h => outer.same_plug (h.classDecl _ name)
  | .method outer name, _, _, h => outer.same_plug (h.method _)
  | .closure outer params, _, _, h => outer.same_plug (.closure (bodyEdits_ofClosure h))
  | .new outer cls, _, _, h => outer.same_plug (.new h cls)

theorem StmtContext.same_plug {k : Place} : ∀ (ctx : StmtContext k) {s t : Stmt}, k.Same [s] [t] →
    Place.top.Same (ctx.plug s) (ctx.plug t)
  | .among outer before after, s, t, h => by
    have haround := h.around before after
    rw [List.append_assoc, List.append_assoc] at haround
    exact outer.same_plug haround

theorem ExprContext.same_plug : ∀ (ctx : ExprContext) {e e' : Expr}, Alike e e' →
    Place.top.Same (ctx.plug e) (ctx.plug e')
  | .expression outer, _, _, h => outer.same_plug (h.expression _)
  | .ret outer, _, _, h => outer.same_plug (h.ret _)
  | .target outer method _, _, _, h => outer.same_plug (h.methodCall rfl method)
  | .methodArg outer target method earlier later, _, _, h =>
    outer.same_plug ((Alike.refl target).methodCall (h.outline_around earlier later) method)
  | .staticArg outer cls method earlier later, _, _, h =>
    outer.same_plug (.staticCall (h.outline_around earlier later) cls method)
  | .element outer earlier later, _, _, h => outer.same_plug (h.array earlier later)

end

/-- A statement of a migration may give way to statements that are read like it in its place. -/
theorem BodyContext.same_replace {k : Place} (ctx : BodyContext k) {s : Stmt} {body : List Stmt} (h : k.Same [s] body)
    (before after : List Stmt) :
    Place.top.Same (ctx.plug (before ++ s :: after)) (ctx.plug (before ++ body ++ after)) := by
  have haround := h.around before after
  rw [List.append_assoc before [_]] at haround
  exact ctx.same_plug haround

/-- Migrations of which the fold reads the same leave any state in the same state. -/
theorem addStatements_congr {xs ys : List Stmt} (h : Place.top.Same xs ys) (s : State) :
    s.addStatements xs = s.addStatements ys := by
  have h : stepsIn xs = stepsIn ys := h
  rw [State.addStatements_eq_run, State.addStatements_eq_run, h]

/-- Any number of changes to a migration of which the fold reads nothing leave the state that it leads to. -/
theorem addStatements_of_changes {change : List Stmt → List Stmt → Prop}
    (hsame : ∀ {xs ys : List Stmt}, change xs ys → Place.top.Same xs ys) {xs ys : List Stmt}
    (h : Relation.ReflTransGen change xs ys) (s : State) : s.addStatements xs = s.addStatements ys := by
  induction h with
  | refl => rfl
  | tail _ hchange ih => exact ih.trans (addStatements_congr (hsame hchange) s)

end Schema
end DynamicMembers
