import DynamicMembers.Proofs.Schema.Surroundings
/-!
# Irrelevance — what a migration may lose without a trace

Of a class only the `up` methods count, of an `up` method only the calls on the schema, of a closure on a blueprint
only the chains on that blueprint whose innermost method does something.  Everything else may be deleted, wherever it
stands, and leaves the same schema and the same anomalies (`addStatements_of_deletions`).
-/
namespace DynamicMembers
namespace Schema

open Code (Expr Stmt)

/-- An expression that calls the schema, by itself or through one of its connections. -/
inductive CallsSchema : Expr → Prop
  | direct {cls : String} (hfacade : Call.isFacade cls = true) (method : String) (args : List Expr) :
    CallsSchema (.staticCall cls method args)
  | connection {cls name : String} (hfacade : Call.isFacade cls = true)
    (hname : Text.sameIgnoringCase name "connection" = true) (connection : List Expr) (method : String)
    (args : List Expr) : CallsSchema (.methodCall (.staticCall cls name connection) method args)

theorem CallsSchema.of_isConnection {target : Expr} (h : Call.isConnection target = true) (method : String)
    (args : List Expr) : CallsSchema (.methodCall target method args) := by
  cases target with
  | staticCall cls name connection =>
    rw [Call.isConnection, Bool.and_eq_true_iff] at h
    obtain ⟨hfacade, hname⟩ := h
    exact .connection hfacade hname connection method args
  | _ => cases h

theorem Call.onSchema?_of_not_callsSchema {e : Expr} (h : ¬CallsSchema e) : Call.onSchema? e = none := by
  cases e with
  | staticCall cls method args => rw [Call.onSchema?, if_neg fun hfacade => h (.direct hfacade method args)]
  | methodCall target method args =>
    rw [Call.onSchema?, if_neg fun htarget => h (.of_isConnection htarget method args)]
  | _ => rfl

theorem Step.ofExpr_of_not_callsSchema {e : Expr} (h : ¬CallsSchema e) : Step.ofExpr e = [] := by
  rw [Step.ofExpr, Call.onSchema?_of_not_callsSchema h]

/-! ## Edits that are none -/

theorem exprEdits_of_stranger {blueprint : String} {e : Expr}
    (h : ¬(e.isMethodCall = true ∧ e.chainRoot = .var blueprint)) : exprEdits blueprint e = [] := by
  unfold exprEdits
  by_cases hroot : e.chainRoot.asVariable = some blueprint
  · -- the root is the blueprint, so the expression calls nothing on it
    rw [if_pos hroot]
    have hvar : e.chainRoot = .var blueprint := by
      generalize e.chainRoot = root at hroot
      cases root with
      | var name => exact congrArg Expr.var (Option.some.inj hroot)
      | _ => cases hroot
    cases e with
    | methodCall => exact (h ⟨rfl, hvar⟩).elim
    | _ => rfl
  · rw [if_neg hroot]

theorem exprEdits_of_ignored {e : Expr} {method : String} {args : List Expr} {later : List (String × List Expr)}
    (hcalls : e.chainCalls = (method, args) :: later) (h : classify method = .ignore) (blueprint : String) :
    exprEdits blueprint e = [] := by
  have hedits : chainEdits e.chainCalls = [] := by rw [hcalls, chainEdits, h, ColumnOp.edits]
  rw [exprEdits, hedits, ite_self]

/-! ## Irrelevant statements -/

/-- A statement that does nothing in its place. -/
inductive Irrelevant : Place → Stmt → Prop
  /-- A member of a class that is not an `up` method. -/
  | member {s : Stmt} (h : ∀ name body, s = .method name body → Text.sameIgnoringCase name "up" = false) :
    Irrelevant .members s
  /-- A statement of an `up` method that neither nests others nor calls the schema. -/
  | statement {s : Stmt} (hblock : ∀ body, s ≠ .block body) (hconditional : ∀ branches, s ≠ .conditional branches)
    (hcall : ∀ e, s = .expression e → ¬CallsSchema e) : Irrelevant .up s
  /-- A statement of a closure that is no chain on the blueprint. -/
  | stranger {blueprint : String} {e : Expr} (h : ¬(e.isMethodCall = true ∧ e.chainRoot = .var blueprint)) :
    Irrelevant (.closure blueprint) (.expression e)
  /-- A chain whose innermost method is an index, a constraint or unknown. -/
  | ignored {e : Expr} {method : String} {args : List Expr} {later : List (String × List Expr)}
    (hcalls : e.chainCalls = (method, args) :: later) (h : classify method = .ignore) (blueprint : String) :
    Irrelevant (.closure blueprint) (.expression e)
  /-- Any statement of a method that is not read, or of a closure that takes no blueprint. -/
  | unread (s : Stmt) : Irrelevant .unread s

theorem memberSteps_of_not_up {s : Stmt}
    (h : ∀ name body, s = .method name body → Text.sameIgnoringCase name "up" = false) : memberSteps [s] = [] := by
  cases s with
  | method name body => simp [memberSteps, memberExpressions, h name body rfl]
  | _ => rfl

theorem upSteps_of_not_callsSchema {s : Stmt} (hblock : ∀ body, s ≠ .block body)
    (hconditional : ∀ branches, s ≠ .conditional branches) (hcall : ∀ e, s = .expression e → ¬CallsSchema e) :
    upSteps [s] = [] := by
  cases s with
  | block body => exact (hblock body rfl).elim
  | conditional branches => exact (hconditional branches rfl).elim
  | expression e => exact (List.append_nil _).trans (Step.ofExpr_of_not_callsSchema (hcall e rfl))
  | _ => rfl

theorem Irrelevant.same {k : Place} {s : Stmt} (h : Irrelevant k s) : k.Same [s] [] := by
  cases h with
  | member h => exact memberSteps_of_not_up h
  | statement hblock hconditional hcall => exact upSteps_of_not_callsSchema hblock hconditional hcall
  | stranger h => exact (List.append_nil _).trans (exprEdits_of_stranger h)
  | ignored hcalls h blueprint => exact (List.append_nil _).trans (exprEdits_of_ignored hcalls h blueprint)
  | unread => trivial

/-! ## Deletions -/

/-- Two migrations of which the second lacks an irrelevant statement of the first. -/
inductive Deletes : List Stmt → List Stmt → Prop
  | delete {k : Place} (ctx : BodyContext k) (before after : List Stmt) {s : Stmt} :
    Irrelevant k s → Deletes (ctx.plug (before ++ s :: after)) (ctx.plug (before ++ after))

theorem Deletes.same {xs ys : List Stmt} (h : Deletes xs ys) : Place.top.Same xs ys := by
  obtain ⟨ctx, before, after, hirrelevant⟩ := h
  have hreplaced := ctx.same_replace hirrelevant.same before after
  rwa [List.append_nil] at hreplaced

/-- **Irrelevant code leaves no trace.**  Whatever irrelevant statements a migration loses, at any depth and in any
order, it takes every state to the same registry and the same anomalies as before. -/
theorem addStatements_of_deletions (s : State) {xs ys : List Stmt} (h : Relation.ReflTransGen Deletes xs ys) :
    s.addStatements xs = s.addStatements ys := addStatements_of_changes Deletes.same h s

/-- A `down` method that drops the table, a call on another class, a statement on another variable and an index go. -/
theorem addStatements_of_deletions_down :
    let on (name method : String) : Stmt := .expression (.methodCall (.var name) method [.str "name"])
    let stranger := on "other" "string"
    let column := on "table" "string"
    let index := on "table" "index"
    let creating (body : List Stmt) : Stmt :=
      .expression (.staticCall "Schema" "create" [.str "users", .closure ["table"] body])
    let logging : Stmt := .expression (.staticCall "Log" "drop" [.str "users"])
    let down : Stmt := .method "down" [.expression (.staticCall "Schema" "drop" [.str "users"])]
    let migration (up others : List Stmt) : List Stmt := [.classDecl none (.method "up" up :: others)]
    let full : List Stmt := migration [logging, creating [stranger, column, index]] [down]
    let bare : List Stmt := migration [creating [column]] []
    Relation.ReflTransGen Deletes full bare ∧ State.addStatements {} full = State.addStatements {} bare := by
  intro on stranger column index creating logging down migration full bare
  let inClass : BodyContext .members := .classDecl (.among .root [] []) none
  let inUp : BodyContext .up := .method (.among inClass [] []) "up"
  let inClosure : BodyContext (.closure "table") :=
    .closure (.staticArg (.expression (.among inUp [] [])) "Schema" "create" [.str "users"] []) ["table"]
  have hnotUp : ∀ name body, down = .method name body → Text.sameIgnoringCase name "up" = false := by
    intro name body h
    rw [← (Stmt.method.inj h).1]
    decide
  have hnoCall : ∀ e, logging = .expression e → ¬CallsSchema e := by
    intro e h hcalls
    obtain rfl := Stmt.expression.inj h
    cases hcalls with
    | direct hfacade => exact absurd hfacade (by decide)
  have hdown : Deletes full (migration [logging, creating [stranger, column, index]] []) :=
    .delete inClass [_] [] (.member hnotUp)
  have hlogging : Deletes (migration [logging, creating [stranger, column, index]] [])
      (migration [creating [stranger, column, index]] []) :=
    .delete inUp [] [_] (.statement nofun nofun hnoCall)
  have hstranger : Deletes (migration [creating [stranger, column, index]] [])
      (migration [creating [column, index]] []) :=
    .delete inClosure [] [_, _] (.stranger fun h => absurd (Expr.var.inj h.2) (by decide))
  have hindex : Deletes (migration [creating [column, index]] []) bare :=
    .delete inClosure [_] [] (.ignored rfl (by decide) "table")
  have hdeletes : Relation.ReflTransGen Deletes full bare :=
    .head hdown (.head hlogging (.head hstranger (.single hindex)))
  exact ⟨hdeletes, addStatements_of_deletions {} hdeletes⟩

end Schema
end DynamicMembers
