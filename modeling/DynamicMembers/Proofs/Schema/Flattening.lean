import DynamicMembers.Proofs.Schema.Surroundings
/-!
# Flattening — the fold sees the flat sequence of calls

Files may be folded one after the other or as one, and wherever a block, a conditional or a namespace stands, the
statements that it nests may stand instead, in the order of the source (`addStatements_flat`).
-/
namespace DynamicMembers
namespace Schema

open Code (Expr Stmt)

/-- A statement that only nests others, and what it nests: a conditional its branches in order, and a namespace at the
top level only. -/
inductive Unwraps : Place → Stmt → List Stmt → Prop
  | block {k : Place} (hk : k ≠ .members) (body : List Stmt) : Unwraps k (.block body) body
  | conditional {k : Place} (hk : k ≠ .members) (branches : List (List Stmt)) :
    Unwraps k (.conditional branches) branches.flatten
  | namespaced (name : Option String) (body : List Stmt) : Unwraps .top (.namespaced name body) body

theorem Unwraps.same {k : Place} {s : Stmt} {body : List Stmt} (h : Unwraps k s body) : k.Same [s] body := by
  cases h with
  | block hk body => exact .of_block hk body
  | conditional hk branches => exact .of_conditional hk branches
  | namespaced name body => exact .of_namespaced name body

/-- Two migrations of which the second has the body of a nesting statement where the first has that statement. -/
inductive Flattens : List Stmt → List Stmt → Prop
  | replace {k : Place} (ctx : BodyContext k) (before after : List Stmt) {s : Stmt} {body : List Stmt} :
    Unwraps k s body → Flattens (ctx.plug (before ++ s :: after)) (ctx.plug (before ++ body ++ after))

theorem Flattens.same {xs ys : List Stmt} (h : Flattens xs ys) : Place.top.Same xs ys := by
  obtain ⟨ctx, before, after, hunwraps⟩ := h
  exact ctx.same_replace hunwraps.same before after

theorem addStatements_append (s : State) (xs ys : List Stmt) :
    s.addStatements (xs ++ ys) = (s.addStatements xs).addStatements ys := by
  simp only [State.addStatements_eq_run, stepsIn_append, State.run_append]

/-- **The fold sees only the flat sequence of calls.**  Files are folded as one, in order, and any number of nesting
statements, at any depth of the top level, of `up` methods and of closures on a blueprint, may give way to what they
nest, with the same registry and the same anomalies at the end. -/
theorem addStatements_flat :
    (∀ (s : State) (xs ys : List Stmt), s.addStatements (xs ++ ys) = (s.addStatements xs).addStatements ys) ∧
    (∀ (s : State) (files : List (List Stmt)), files.foldl State.addStatements s = s.addStatements files.flatten) ∧
    ∀ (s : State) (xs ys : List Stmt), Relation.ReflTransGen Flattens xs ys →
      s.addStatements xs = s.addStatements ys := by
  refine ⟨addStatements_append, fun s files => ?_, fun s xs ys h => addStatements_of_changes Flattens.same h s⟩
  induction files generalizing s with
  | nil => rfl
  | cons stmts files ih => rw [List.foldl_cons, ih, List.flatten_cons, addStatements_append]

/-- A namespace around the class, a conditional in its `up` method and a block in the closure give way in turn. -/
theorem addStatements_flat_nested :
    let column (name : String) : Stmt := .expression (.methodCall (.var "table") "string" [.str name])
    let creating (body : List Stmt) : Stmt :=
      .expression (.staticCall "Schema" "create" [.str "users", .closure ["table"] body])
    let dropping : Stmt := .expression (.staticCall "Schema" "drop" [.str "guests"])
    let migration (body : List Stmt) : List Stmt := [.classDecl none [.method "up" body]]
    let nested : List Stmt := [.namespaced none
      (migration [.conditional [[dropping], [creating [column "name", .block [column "city"]]]]])]
    let flat : List Stmt := migration [dropping, creating [column "name", column "city"]]
    Relation.ReflTransGen Flattens nested flat ∧ State.addStatements {} nested = State.addStatements {} flat := by
  intro column creating dropping migration nested flat
  let inUp : BodyContext .up := .method (.among (.classDecl (.among .root [] []) none) [] []) "up"
  let inClosure : BodyContext (.closure "table") :=
    .closure (.staticArg (.expression (.among inUp [dropping] [])) "Schema" "create" [.str "users"] []) ["table"]
  have hnamespace : Flattens nested
      (migration [.conditional [[dropping], [creating [column "name", .block [column "city"]]]]]) :=
    .replace .root [] [] (.namespaced none _)
  have hconditional : Flattens
      (migration [.conditional [[dropping], [creating [column "name", .block [column "city"]]]]])
      (migration [dropping, creating [column "name", .block [column "city"]]]) :=
    .replace inUp [] [] (.conditional (by decide) _)
  have hblock : Flattens (migration [dropping, creating [column "name", .block [column "city"]]]) flat :=
    .replace inClosure [column "name"] [] (.block (by decide) _)
  have hflattens : Relation.ReflTransGen Flattens nested flat := .head hnamespace (.head hconditional (.single hblock))
  exact ⟨hflattens, addStatements_flat.2.2 {} nested flat hflattens⟩

end Schema
end DynamicMembers
