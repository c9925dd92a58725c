import DynamicMembers.Schema.Fold
/-!
# Steps of a migration — the fold of a migration as a run of small steps

Every expression statement of an `up` method makes a list of steps, each about one table or one of its columns, and each
with its own effect on the registry of the moment.  `State.addStatements_eq_run`: the fold is the run of these steps,
and it appends one anomaly for each step that dangles, in order.
-/
namespace DynamicMembers
namespace Schema

open Code (Expr Stmt)

/-! ## What an absent subject leaves alone -/

namespace Table

theorem dropColumn_of_absent {t : Table} {name : String} (h : t.hasColumn name = false) : t.dropColumn name = t := by
  have hn : t.columns.get? name = none := by simpa [hasColumn, column?] using h
  rw [dropColumn, OrderedMap.erase_of_get?_eq_none hn]

theorem renameColumn_of_absent {t : Table} {old : String} (new : String) (h : t.hasColumn old = false) :
    t.renameColumn old new = t := by
  have hn : t.column? old = none := by simpa [hasColumn] using h
  rw [renameColumn, hn]

end Table

namespace Registry

theorem erase_of_absent {r : Registry} {name : String} (h : r.table? name = none) : r.erase name = r := by
  rw [erase, OrderedMap.erase_of_get?_eq_none h]

theorem rename_of_absent {r : Registry} {old : String} (new : String) (h : r.table? old = none) :
    r.rename old new = r := by
  rw [rename, h]

theorem update_of_table? {r : Registry} {name : String} {t : Table} (h : r.table? name = some t) :
    r.update name t = r := by
  rw [update, OrderedMap.insert_of_get? h]

@[simp] theorem table?_update (r : Registry) (name : String) (t : Table) : (r.update name t).table? name = some t := by
  simp [table?, update]

@[simp] theorem update_update (r : Registry) (name : String) (t u : Table) :
    (r.update name t).update name u = r.update name u := by
  simp [update]

@[simp] theorem table?_insert (r : Registry) (t : Table) : (r.insert t).table? t.name = some t := by
  simp [table?, insert]

end Registry

/-! ## Steps -/

/-- The column that a step on a table must find there, and what is attempted on it. -/
def Edit.reference? : Edit → Option (String × Attempt)
  | set _ => none
  | drop name => some (name, .drop)
  | rename old _ => some (old, .rename)

/-- A step of a migration. -/
inductive Step where
  /-- Puts an empty table under a name. -/
  | create (table : String)
  /-- Turns to a table, on which steps are to follow. -/
  | alter (table : String)
  | drop (table : String)
  | rename (old new : String)
  /-- A step on the table of that name, or no step when there is none. -/
  | edit (table : String) (e : Edit)
  deriving DecidableEq, Repr

namespace Step

/-- The registry after a step. -/
def effect (r : Registry) : Step → Registry
  | create table => r.insert { name := table }
  | alter _ => r
  | drop table => r.erase table
  | rename old new => r.rename old new
  | edit table e =>
    match r.table? table with
    | none => r
    | some t => r.update table (e.apply t)

/-- The anomaly of a step that refers to something absent. -/
def dangling? (r : Registry) : Step → Option Anomaly
  | create _ => none
  | alter table => if (r.table? table).isSome then none else some (.unknownTable table .alter)
  | drop table => if (r.table? table).isSome then none else some (.unknownTable table .drop)
  | rename old _ => if (r.table? old).isSome then none else some (.unknownTable old .rename)
  | edit table e => do
    let t ← r.table? table
    let (column, attempt) ← e.reference?
    if t.hasColumn column then none else some (.unknownColumn t.name column attempt)

def run (r : Registry) (steps : List Step) : Registry := steps.foldl effect r

/-- The anomalies of the steps that dangle, each judged by the registry of its moment. -/
def danglings : Registry → List Step → List Anomaly
  | _, [] => []
  | r, x :: xs => (x.dangling? r).toList ++ danglings (x.effect r) xs

theorem run_append (r : Registry) (xs ys : List Step) : run r (xs ++ ys) = run (run r xs) ys :=
  List.foldl_append

theorem danglings_append : ∀ (r : Registry) (xs ys : List Step),
    danglings r (xs ++ ys) = danglings r xs ++ danglings (run r xs) ys
  | _, [], _ => rfl
  | r, x :: xs, ys => by
    rw [List.cons_append, danglings, danglings, danglings_append (x.effect r) xs ys, List.append_assoc]
    rfl

/-- The steps of a blueprint closure on a table. -/
def ofBody (table blueprint : String) (body : List Stmt) : List Step :=
  (State.bodyEdits blueprint body).map (edit table)

/-- The steps of a call on the schema, by its method in lower case; arguments of another shape make none. -/
def ofCall : String → List Expr → List Step
  | "create", .str table :: .closure (blueprint :: _) body :: _ => create table :: ofBody table blueprint body
  | "table", .str table :: .closure (blueprint :: _) body :: _ => alter table :: ofBody table blueprint body
  | "drop", .str table :: _ => [drop table]
  | "dropifexists", .str table :: _ => [drop table]
  | "rename", .str old :: .str new :: _ => [rename old new]
  | _, _ => []

/-- The steps of an expression statement of an `up` method. -/
def ofExpr (e : Expr) : List Step :=
  match Call.onSchema? e with
  | some (method, args) => ofCall (Text.lower method) args
  | none => []

end Step

/-! ## The steps of a migration -/

/-- The expression statements of the `up` methods among the members of a class. -/
def memberExpressions (members : List Stmt) : List Expr :=
  members.flatMap fun
    | .method name body => if Text.sameIgnoringCase name "up" then expressionsIn body else []
    | _ => []

mutual

/-- The expression statements of the `up` methods of a statement at the top level, in program order. -/
def upExpressionsOf : Stmt → List Expr
  | .namespaced _ body => upExpressionsIn body
  | .block body => upExpressionsIn body
  | .conditional branches => upExpressionsInAll branches
  | .classDecl _ members => memberExpressions members
  | .ret (some (.new _ members)) => memberExpressions members
  | .expression (.new _ members) => memberExpressions members
  | _ => []

def upExpressionsIn : List Stmt → List Expr
  | [] => []
  | s :: r => upExpressionsOf s ++ upExpressionsIn r

def upExpressionsInAll : List (List Stmt) → List Expr
  | [] => []
  | b :: r => upExpressionsIn b ++ upExpressionsInAll r

end

/-- The steps of a migration, in the order in which they are made. -/
def stepsIn (stmts : List Stmt) : List Step := (upExpressionsIn stmts).flatMap Step.ofExpr

theorem memberCalls_eq (members : List Stmt) :
    memberCalls members = (memberExpressions members).filterMap Call.ofExpr? := by
  unfold memberCalls memberExpressions
  rw [List.filterMap_flatMap]
  congr 1
  funext member
  cases member with
  | method name body =>
    by_cases h : Text.sameIgnoringCase name "up" = true
    · simp only [h, if_true]
    · simp only [h, Bool.false_eq_true, if_false, List.filterMap_nil]
  | _ => rfl

mutual

theorem callsOf_eq : ∀ stmt : Stmt, callsOf stmt = (upExpressionsOf stmt).filterMap Call.ofExpr?
  | .namespaced _ body => by rw [callsOf, upExpressionsOf, callsIn_eq body]
  | .block body => by rw [callsOf, upExpressionsOf, callsIn_eq body]
  | .conditional branches => by rw [callsOf, upExpressionsOf, callsInAll_eq branches]
  | .classDecl _ members => by rw [callsOf, upExpressionsOf, memberCalls_eq]
  | .method _ _ | .other | .ret none => rfl
  | .ret (some e) | .expression e => by
    cases e with
    | new _ members => exact memberCalls_eq members
    | _ => rfl

theorem callsIn_eq : ∀ stmts : List Stmt, callsIn stmts = (upExpressionsIn stmts).filterMap Call.ofExpr?
  | [] => rfl
  | s :: r => by rw [callsIn, upExpressionsIn, callsOf_eq s, callsIn_eq r, List.filterMap_append]

theorem callsInAll_eq : ∀ branches : List (List Stmt),
    callsInAll branches = (upExpressionsInAll branches).filterMap Call.ofExpr?
  | [] => rfl
  | b :: r => by rw [callsInAll, upExpressionsInAll, callsIn_eq b, callsInAll_eq r, List.filterMap_append]

end

/-! ## The fold is the run -/

theorem Edit.dangling?_eq {r : Registry} {name : String} {t : Table} (h : r.table? name = some t) (e : Edit) :
    (Step.edit name e).dangling? r = e.anomaly? t := by
  cases e <;> simp [Step.dangling?, Edit.reference?, Edit.anomaly?, h]

theorem Step.effect_edit {r : Registry} {name : String} {t : Table} (h : r.table? name = some t) (e : Edit) :
    (Step.edit name e).effect r = r.update name (e.apply t) := by
  rw [Step.effect, h]

/-- The steps on one table are those steps on it, put back under its name. -/
theorem Step.run_edits {name : String} : ∀ {edits : List Edit} {r : Registry} {t : Table}, r.table? name = some t →
    Step.run r (edits.map (.edit name)) = r.update name (Edit.applyAll t edits)
  | [], r, t, h => (Registry.update_of_table? h).symm
  | e :: es, r, t, h => by
    have ih : run (r.update name (e.apply t)) (es.map (.edit name)) = _ :=
      run_edits (Registry.table?_update r name (e.apply t))
    calc Step.run r ((e :: es).map (.edit name))
        = Step.run ((Step.edit name e).effect r) (es.map (.edit name)) := rfl
      _ = (r.update name (e.apply t)).update name (Edit.applyAll (e.apply t) es) := by rw [effect_edit h, ih]
      _ = r.update name (Edit.applyAll t (e :: es)) := Registry.update_update r name _ _

theorem Step.danglings_edits {name : String} : ∀ {edits : List Edit} {r : Registry} {t : Table},
    r.table? name = some t → Step.danglings r (edits.map (.edit name)) = Edit.anomalies t edits
  | [], _, _, _ => rfl
  | e :: es, r, t, h => by
    have ih : danglings (r.update name (e.apply t)) (es.map (.edit name)) = _ :=
      danglings_edits (Registry.table?_update r name (e.apply t))
    rw [List.map_cons, danglings, Edit.dangling?_eq h, effect_edit h, ih, Edit.anomalies]

/-- Steps on an absent table are no steps. -/
theorem Step.run_edits_of_absent {r : Registry} {name : String} (h : r.table? name = none) :
    ∀ edits : List Edit, Step.run r (edits.map (.edit name)) = r ∧ Step.danglings r (edits.map (.edit name)) = []
  | [] => ⟨rfl, rfl⟩
  | e :: es => by
    have he : (Step.edit name e).effect r = r := by rw [effect, h]
    have hd : (Step.edit name e).dangling? r = none := by rw [dangling?, h]; rfl
    obtain ⟨hr, ha⟩ := run_edits_of_absent h es
    constructor
    · rw [List.map_cons, run, List.foldl_cons, he]
      exact hr
    · rw [List.map_cons, danglings, he, hd, ha]
      rfl

namespace State

def run (s : State) (steps : List Step) : State where
  registry := Step.run s.registry steps
  anomalies := s.anomalies ++ Step.danglings s.registry steps

theorem run_nil (s : State) : s.run [] = s := by
  rw [run, Step.danglings, List.append_nil]
  rfl

theorem run_append (s : State) (xs ys : List Step) : s.run (xs ++ ys) = (s.run xs).run ys := by
  simp only [run, Step.run_append, Step.danglings_append, List.append_assoc]

theorem run_cons (s : State) (x : Step) (xs : List Step) :
    s.run (x :: xs) = (State.mk (x.effect s.registry) (s.anomalies ++ (x.dangling? s.registry).toList)).run xs := by
  simp only [run, Step.danglings, List.append_assoc]
  rfl

theorem run_ofBody_of_absent {s : State} {table : String} (h : s.registry.table? table = none) (blueprint : String)
    (body : List Stmt) : s.run (Step.ofBody table blueprint body) = s := by
  obtain ⟨hr, ha⟩ := Step.run_edits_of_absent h (bodyEdits blueprint body)
  rw [run, Step.ofBody, hr, ha, List.append_nil]

theorem run_ofBody_of_table? {s : State} {table : String} {t : Table} (h : s.registry.table? table = some t)
    (blueprint : String) (body : List Stmt) :
    s.run (Step.ofBody table blueprint body) = s.alter table (bodyEdits blueprint body) := by
  rw [run, Step.ofBody, Step.run_edits h, Step.danglings_edits h, alter, h]

theorem alter_eq_run (s : State) (table blueprint : String) (body : List Stmt) :
    s.alter table (bodyEdits blueprint body) = s.run (.alter table :: Step.ofBody table blueprint body) := by
  rw [run_cons]
  cases h : s.registry.table? table with
  | none =>
    have hd : (Step.alter table).dangling? s.registry = some (.unknownTable table .alter) := by simp [Step.dangling?, h]
    rw [hd, alter, h]
    exact (run_ofBody_of_absent (s := s.note (.unknownTable table .alter)) h blueprint body).symm
  | some t =>
    have hd : (Step.alter table).dangling? s.registry = none := by simp [Step.dangling?, h]
    rw [hd, Option.toList_none, List.append_nil]
    exact (run_ofBody_of_table? h blueprint body).symm

theorem create_eq_run (s : State) (table blueprint : String) (body : List Stmt) :
    s.apply (.create table blueprint body) = s.run (.create table :: Step.ofBody table blueprint body) := by
  have h : (s.registry.insert { name := table }).table? table = some { name := table } :=
    Registry.table?_insert s.registry { name := table }
  rw [run_cons, Step.dangling?, Option.toList_none, List.append_nil]
  exact (run_ofBody_of_table? (s := ⟨s.registry.insert { name := table }, s.anomalies⟩) h blueprint body).symm

theorem drop_eq_run (s : State) (table : String) : s.apply (.drop table) = s.run [.drop table] := by
  rw [run_cons, run_nil, apply]
  cases h : s.registry.table? table with
  | none => simp [Step.effect, Step.dangling?, h, Registry.erase_of_absent h, note]
  | some t => simp [Step.effect, Step.dangling?, h]

theorem rename_eq_run (s : State) (old new : String) : s.apply (.rename old new) = s.run [.rename old new] := by
  rw [run_cons, run_nil, apply]
  cases h : s.registry.table? old with
  | none => simp [Step.effect, Step.dangling?, h, Registry.rename_of_absent new h, note]
  | some t => simp [Step.effect, Step.dangling?, h]

theorem firstName_eq_none {args : List Expr} (h : ∀ name rest, args = .str name :: rest → False) :
    args.head?.bind Expr.asStr = none := by
  rcases args with _ | ⟨e, rest⟩
  · rfl
  · cases e with
    | str name => exact (h name rest rfl).elim
    | _ => rfl

/-- **An expression statement runs its steps**, whether or not it is a call on the schema of the right shape. -/
theorem applyExpr_eq_run (s : State) (e : Expr) : (Call.ofExpr? e).elim s s.apply = s.run (Step.ofExpr e) := by
  unfold Step.ofExpr Call.ofExpr?
  cases Call.onSchema? e with
  | none => exact (run_nil s).symm
  | some call =>
    obtain ⟨method, args⟩ := call
    simp only [Option.bind_eq_bind, Option.bind_some]
    fun_cases Step.ofCall (Text.lower method) args with
    | case1 table blueprint _ body _ => exact create_eq_run s table blueprint body
    | case2 table blueprint _ body _ => exact alter_eq_run s table blueprint body
    | case3 table _ => exact drop_eq_run s table
    | case4 table _ => exact drop_eq_run s table
    | case5 old new _ => exact rename_eq_run s old new
    | case6 _ _ hcreate htable hdrop hdropIfExists hrename =>
      -- the arguments are of another shape than the method takes
      rw [run_nil]
      unfold Call.blueprintArgs
      repeat' split
      · exact (hcreate _ _ _ _ _ rfl rfl).elim
      · rfl
      · exact (htable _ _ _ _ _ rfl rfl).elim
      · rfl
      · rw [firstName_eq_none (fun table rest => hdrop table rest rfl)]
        rfl
      · rw [firstName_eq_none (fun table rest => hdropIfExists table rest rfl)]
        rfl
      · exact (hrename _ _ _ rfl rfl).elim
      · rfl
      · rfl

/-- **The fold of a migration is the run of its steps.** -/
theorem addStatements_eq_run (s : State) (stmts : List Stmt) : s.addStatements stmts = s.run (stepsIn stmts) := by
  rw [addStatements, callsIn_eq, stepsIn]
  induction upExpressionsIn stmts generalizing s with
  | nil => exact (run_nil s).symm
  | cons e es ih =>
    rw [List.flatMap_cons, run_append, ← applyExpr_eq_run, ← ih]
    cases h : Call.ofExpr? e with
    | none => rw [List.filterMap_cons_none h, Option.elim_none]
    | some c => rw [List.filterMap_cons_some h, Option.elim_some, List.foldl_cons]

end State
end Schema
end DynamicMembers
