import DynamicMembers.Proofs.Schema.Steps
/-!
# Dangling references — what a migration refers to and does not find

A schema call refers to the table that it alters, drops or renames, a call on a blueprint to the columns that it drops
or renames.  Of all these references exactly those are noted, in order, whose subject is absent at their moment, and
none of them changes the schema.
-/
namespace DynamicMembers
namespace Schema

open Code (Expr Stmt)

/-! ## References of a blueprint call -/

/-- The columns to which a blueprint method refers, by its name in lower case, with what it attempts on each. -/
def columnReferences (method : String) (args : List Expr) : List (String × Attempt) :=
  let name := args.head?.bind Expr.asStr
  match method with
  | "dropcolumn" | "dropifexists" => (droppedNames args).map (·, .drop)
  | "dropmorphs" => name.toList.flatMap fun n => [(n ++ "_type", .drop), (n ++ "_id", .drop)]
  | "droptimestamps" | "droptimestampstz" => [("created_at", .drop), ("updated_at", .drop)]
  | "dropsoftdeletes" | "dropsoftdeletestz" => [(name.getD "deleted_at", .drop)]
  | "dropremembertoken" => [("remember_token", .drop)]
  | "renamecolumn" =>
    match args with
    | .str old :: .str _ :: _ => [(old, .rename)]
    | _ => []
  | _ => []

/-- The blueprint methods that refer to columns, in lower case. -/
def referringMethods : List String :=
  ["dropcolumn", "dropifexists", "dropmorphs", "droptimestamps", "droptimestampstz", "dropsoftdeletes",
   "dropsoftdeletestz", "dropremembertoken", "renamecolumn"]

def referringOps : List ColumnOp :=
  [.dropColumn, .renameColumn, .dropMorphs, .dropTimestamps, .dropSoftDeletes, .dropRememberToken]

theorem columnReferences_of_not_mem {method : String} (args : List Expr) (h : method ∉ referringMethods) :
    columnReferences method args = [] := by
  unfold columnReferences
  split
  all_goals first | rfl | simp [referringMethods] at h

theorem ite_not_mem {c : Prop} [Decidable c] {a b : ColumnOp} {l : List ColumnOp} (ha : c → a ∉ l) (hb : b ∉ l) :
    (if c then a else b) ∉ l := by
  split
  · exact ha ‹c›
  · exact hb

theorem classify_not_mem {method : String} (h : Text.lower method ∉ referringMethods) :
    classify method ∉ referringOps := by
  unfold classify
  generalize Text.lower method = m at h
  simp only [referringMethods, List.mem_cons, not_or] at h
  -- each test either leads to an operation that refers to nothing, or asks for a name that `m` is not
  repeat' first
    | refine ite_not_mem (fun _ => by decide) ?_
    | refine ite_not_mem (fun hm => by simp [h] at hm) ?_
  decide

theorem references_of_not_mem {op : ColumnOp} (args : List Expr) (nullable : Bool) (h : op ∉ referringOps) :
    (op.edits args nullable).filterMap Edit.reference? = [] := by
  cases op with
  | define storage | enum | morphs storage =>
    cases hn : args.head?.bind Expr.asStr <;> simp [ColumnOp.edits, hn, Edit.reference?]
  | id | timestamps | softDeletes | rememberToken | ignore => rfl
  | dropColumn | renameColumn | dropMorphs | dropTimestamps | dropSoftDeletes | dropRememberToken =>
    exact absurd (by decide) h

theorem references_dropColumn (args : List Expr) (nullable : Bool) :
    (ColumnOp.dropColumn.edits args nullable).filterMap Edit.reference? = (droppedNames args).map (·, .drop) := by
  simp [ColumnOp.edits, Function.comp_def, Edit.reference?]

theorem references_dropMorphs (args : List Expr) (nullable : Bool) :
    (ColumnOp.dropMorphs.edits args nullable).filterMap Edit.reference? = columnReferences "dropmorphs" args := by
  cases hn : args.head?.bind Expr.asStr <;> simp [ColumnOp.edits, columnReferences, hn, Edit.reference?]

theorem references_renameColumn (args : List Expr) (nullable : Bool) :
    (ColumnOp.renameColumn.edits args nullable).filterMap Edit.reference? =
      match args with
      | .str old :: .str _ :: _ => [(old, .rename)]
      | _ => [] := by
  rcases args with _ | ⟨a, rest⟩
  · rfl
  · cases a with
    | str old =>
      rcases rest with _ | ⟨b, rest⟩
      · rfl
      · cases b <;> rfl
    | _ => rfl

theorem classify_congr {m n : String} (h : Text.lower m = Text.lower n) : classify m = classify n := by
  unfold classify
  rw [h]

/-- **The steps of a blueprint call refer to the columns that its method drops or renames**, and to no others. -/
theorem references_of_classify (method : String) (args : List Expr) (nullable : Bool) :
    ((classify method).edits args nullable).filterMap Edit.reference? = columnReferences (Text.lower method) args := by
  by_cases h : Text.lower method ∈ referringMethods
  · have hlower : ∀ m ∈ referringMethods, Text.lower m = m := by decide
    rw [classify_congr (hlower _ h).symm]
    simp only [referringMethods, List.mem_cons, List.not_mem_nil, or_false] at h
    rcases h with h | h | h | h | h | h | h | h | h <;> rw [h]
    · exact references_dropColumn args nullable
    · exact references_dropColumn args nullable
    · exact references_dropMorphs args nullable
    · rfl
    · rfl
    · rfl
    · rfl
    · rfl
    · exact references_renameColumn args nullable
  · rw [references_of_not_mem args nullable (classify_not_mem h), columnReferences_of_not_mem args h]

theorem references_of_chain {blueprint : String} {e : Expr} {method : String} {args : List Expr}
    {later : List (String × List Expr)} (hroot : e.chainRoot.asVariable = some blueprint)
    (hcalls : e.chainCalls = (method, args) :: later) :
    (exprEdits blueprint e).filterMap Edit.reference? = columnReferences (Text.lower method) args := by
  rw [exprEdits, if_pos hroot, hcalls, chainEdits]
  exact references_of_classify method args _

/-! ## Calls of another shape -/

/-- The arguments that a schema method takes, by its name in lower case. -/
inductive Shaped : String → List Expr → Prop
  | create (table blueprint : String) (params : List String) (body : List Stmt) (rest : List Expr) :
    Shaped "create" (.str table :: .closure (blueprint :: params) body :: rest)
  | table (table blueprint : String) (params : List String) (body : List Stmt) (rest : List Expr) :
    Shaped "table" (.str table :: .closure (blueprint :: params) body :: rest)
  | drop (table : String) (rest : List Expr) : Shaped "drop" (.str table :: rest)
  | dropIfExists (table : String) (rest : List Expr) : Shaped "dropifexists" (.str table :: rest)
  | rename (old new : String) (rest : List Expr) : Shaped "rename" (.str old :: .str new :: rest)

theorem Step.ofCall_of_not_shaped {method : String} {args : List Expr} (h : ¬ Shaped method args) :
    ofCall method args = [] := by
  fun_cases ofCall method args with
  | case1 => exact absurd (Shaped.create ..) h
  | case2 => exact absurd (Shaped.table ..) h
  | case3 => exact absurd (Shaped.drop ..) h
  | case4 => exact absurd (Shaped.dropIfExists ..) h
  | case5 => exact absurd (Shaped.rename ..) h
  | case6 => rfl

theorem Step.ofExpr_of_not_shaped {e : Expr} {method : String} {args : List Expr}
    (hcall : Call.onSchema? e = some (method, args)) (h : ¬ Shaped (Text.lower method) args) : ofExpr e = [] := by
  rw [ofExpr, hcall]
  exact ofCall_of_not_shaped h

/-! ## Dangling steps -/

theorem Edit.apply_of_anomaly? {t : Table} {e : Edit} {a : Anomaly} (h : e.anomaly? t = some a) : e.apply t = t := by
  cases e with
  | set c => cases h
  | drop name =>
    cases hc : t.hasColumn name with
    | true => simp [anomaly?, hc] at h
    | false => exact Table.dropColumn_of_absent hc
  | rename old new =>
    cases hc : t.hasColumn old with
    | true => simp [anomaly?, hc] at h
    | false => exact Table.renameColumn_of_absent new hc

/-- **A step that dangles changes nothing.** -/
theorem Step.effect_of_dangling? {r : Registry} {x : Step} {a : Anomaly} (h : x.dangling? r = some a) :
    x.effect r = r := by
  cases x with
  | create table => cases h
  | alter table => rfl
  | drop table =>
    cases ht : r.table? table with
    | none => exact Registry.erase_of_absent ht
    | some t => simp [dangling?, ht] at h
  | rename old new =>
    cases ht : r.table? old with
    | none => exact Registry.rename_of_absent new ht
    | some t => simp [dangling?, ht] at h
  | edit table e =>
    cases ht : r.table? table with
    | none => rw [effect, ht]
    | some t =>
      rw [Edit.dangling?_eq ht] at h
      rw [effect_edit ht, Edit.apply_of_anomaly? h, Registry.update_of_table? ht]

/-- Altering an absent table is one anomaly, whatever its closure asks for. -/
theorem Step.danglings_alter_of_absent {r : Registry} {table : String} (h : r.table? table = none) (blueprint : String)
    (body : List Stmt) :
    run r (alter table :: ofBody table blueprint body) = r ∧
      danglings r (alter table :: ofBody table blueprint body) = [.unknownTable table .alter] := by
  obtain ⟨hr, ha⟩ := run_edits_of_absent h (State.bodyEdits blueprint body)
  refine ⟨hr, ?_⟩
  have hd : (alter table).dangling? r = some (.unknownTable table .alter) := by simp [dangling?, h]
  rw [danglings, hd, effect, ofBody, ha]
  rfl

/-- The anomaly of a step stands after those of the steps before it, and is judged by the registry they leave. -/
theorem Step.danglings_split (r : Registry) (before : List Step) (x : Step) (after : List Step) :
    danglings r (before ++ x :: after) =
      danglings r before ++ ((x.dangling? (run r before)).toList ++ danglings (run r (before ++ [x])) after) := by
  rw [danglings_append, danglings, run_append]
  rfl

/-- **The anomalies of a migration are its dangling references.**  The fold runs the steps of the migration and appends
an anomaly for each step whose subject is absent at its moment, in order.  Such a step changes nothing, and under an
absent table the whole closure is passed over; the columns that a blueprint chain refers to are those of its innermost
call; and a schema call with arguments of another shape makes no step. -/
theorem addStatements_records_dangling :
    (∀ (s : State) (stmts : List Stmt),
      (s.addStatements stmts).registry = Step.run s.registry (stepsIn stmts) ∧
      (s.addStatements stmts).anomalies = s.anomalies ++ Step.danglings s.registry (stepsIn stmts)) ∧
    (∀ (r : Registry) (before : List Step) (x : Step) (after : List Step),
      Step.danglings r (before ++ x :: after) = Step.danglings r before ++
        ((x.dangling? (Step.run r before)).toList ++ Step.danglings (Step.run r (before ++ [x])) after)) ∧
    (∀ (r : Registry) (x : Step) (a : Anomaly), x.dangling? r = some a → x.effect r = r) ∧
    (∀ (r : Registry) (table blueprint : String) (body : List Stmt), r.table? table = none →
      Step.run r (.alter table :: Step.ofBody table blueprint body) = r ∧
      Step.danglings r (.alter table :: Step.ofBody table blueprint body) = [.unknownTable table .alter]) ∧
    (∀ (blueprint : String) (e : Expr) (method : String) (args : List Expr) (later : List (String × List Expr)),
      e.chainRoot.asVariable = some blueprint → e.chainCalls = (method, args) :: later →
      (exprEdits blueprint e).filterMap Edit.reference? = columnReferences (Text.lower method) args) ∧
    ∀ (e : Expr) (method : String) (args : List Expr), Call.onSchema? e = some (method, args) →
      ¬ Shaped (Text.lower method) args → Step.ofExpr e = [] := by
  refine ⟨fun s stmts => ?_, Step.danglings_split, fun r x a h => Step.effect_of_dangling? h,
    fun r table blueprint body h => Step.danglings_alter_of_absent h blueprint body,
    fun blueprint e method args later hroot hcalls => references_of_chain hroot hcalls,
    fun e method args hcall h => Step.ofExpr_of_not_shaped hcall h⟩
  rw [State.addStatements_eq_run]
  exact ⟨rfl, rfl⟩

/-- A migration that refers to a column twice after it is gone, to a table that never was, and once in vain. -/
def strayMigration : List Stmt :=
  [.classDecl none [.method "up"
    [.expression (.staticCall "Schema" "create" [.str "users", .closure ["table"]
      [.expression (.methodCall (.var "table") "string" [.str "name"]),
       .expression (.methodCall (.var "table") "dropColumn" [.array [.str "name", .str "name"]]),
       .expression (.methodCall (.var "table") "renameColumn" [.str "name", .str "title"])]]),
     .expression (.staticCall "Schema" "table" [.str "ghosts", .closure ["table"]
      [.expression (.methodCall (.var "table") "dropTimestamps" [])]]),
     .expression (.staticCall "Schema" "dropIfExists" [.str "ghosts"]),
     .expression (.staticCall "Schema" "rename" [.str "ghosts", .str "users"]),
     .expression (.staticCall "Schema" "table" [.str "users", .closure [] []])]]]

theorem addStatements_records_dangling_stray :
    (({} : State).addStatements strayMigration).anomalies =
      [.unknownColumn "users" "name" .drop, .unknownColumn "users" "name" .rename, .unknownTable "ghosts" .alter,
       .unknownTable "ghosts" .drop, .unknownTable "ghosts" .rename] ∧
    (Step.drop "ghosts").effect ∅ = ∅ ∧
    Step.danglings ∅ (.alter "ghosts" :: Step.ofBody "ghosts" "table"
      [.expression (.methodCall (.var "table") "dropTimestamps" [])]) = [.unknownTable "ghosts" .alter] ∧
    (exprEdits "table" (.methodCall (.var "table") "dropMorphs" [.str "owner"])).filterMap Edit.reference? =
      [("owner_type", .drop), ("owner_id", .drop)] ∧
    Step.ofExpr (.staticCall "Schema" "table" [.str "users", .closure [] []]) = [] := by
  obtain ⟨hfold, -, heffect, halter, hchain, hshape⟩ := addStatements_records_dangling
  refine ⟨?_, heffect ∅ (.drop "ghosts") _ rfl, (halter ∅ "ghosts" "table" _ rfl).2,
    hchain "table" _ "dropMorphs" [.str "owner"] [] rfl rfl, hshape _ "table" _ rfl (fun h => ?_)⟩
  · rw [(hfold {} strayMigration).2]
    rfl
  · generalize hm : Text.lower "table" = m at h
    generalize hargs : [Expr.str "users", Expr.closure [] []] = args at h
    cases h with
    | create | table | rename => cases hargs
    | drop | dropIfExists => exact absurd hm (by decide)

end Schema
end DynamicMembers
