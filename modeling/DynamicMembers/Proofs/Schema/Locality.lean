import DynamicMembers.Proofs.Schema.Steps
/-!
# Locality — a schema call touches the tables that it names

Every step names one or two tables.  It leaves the others as they stand and in their order, and what it does to the
named ones depends on nothing else, so steps on different tables do not see each other.  Calls and whole migrations are
runs of steps; where they name different tables, either may come first (`calls_touch_named_tables`).
-/
namespace DynamicMembers

namespace OrderedMap

variable {κ α : Type} [DecidableEq κ] {p : κ → Bool} {k : κ}

/-- Setting a key that is filtered out is not seen. -/
theorem filter_put (hk : p k = false) (v : α) :
    ∀ l : List (κ × α), (put k v l).filter (fun e => p e.1) = l.filter (fun e => p e.1)
  | [] => by simp [put, hk]
  | (j, w) :: l => by
    by_cases hj : j = k
    · have hpj : ¬p j = true := by simp [hj, hk]
      rw [put, if_pos hj, List.filter_cons, List.filter_cons, if_neg (by simp [hk]), if_neg hpj]
    · rw [put, if_neg hj, List.filter_cons, List.filter_cons, filter_put hk v l]

theorem filter_drop (hk : p k = false) :
    ∀ l : List (κ × α), (drop k l).filter (fun e => p e.1) = l.filter (fun e => p e.1)
  | [] => rfl
  | (j, w) :: l => by
    by_cases hj : j = k
    · have hpj : ¬p j = true := by simp [hj, hk]
      rw [drop, if_pos hj, filter_drop hk l, List.filter_cons, if_neg hpj]
    · rw [drop, if_neg hj, List.filter_cons, List.filter_cons, filter_drop hk l]

theorem lookup_filter (hk : p k = true) : ∀ l : List (κ × α), lookup k (l.filter (fun e => p e.1)) = lookup k l
  | [] => rfl
  | (j, w) :: l => by
    rw [List.filter_cons]
    by_cases hj : p j = true
    · rw [if_pos hj, lookup, lookup, lookup_filter hk l]
    · have hne : j ≠ k := fun h => hj (h ▸ hk)
      rw [if_neg hj, lookup, if_neg hne, lookup_filter hk l]

end OrderedMap

namespace Schema

open Code (Expr Stmt)

namespace Registry

variable {r r' : Registry} {names : List String}

/-- The tables outside the given names, in order, each under its name. -/
def others (r : Registry) (names : List String) : List (String × Table) := r.tables.entries.filter (·.1 ∉ names)

theorem others_insertAt {name : String} (h : name ∈ names) (r : Registry) (t : Table) :
    others { tables := r.tables.insert name t } names = r.others names :=
  OrderedMap.filter_put (p := fun n => n ∉ names) (by simpa using h) t r.tables.entries

theorem others_erase {name : String} (h : name ∈ names) (r : Registry) : (r.erase name).others names = r.others names :=
  OrderedMap.filter_drop (p := fun n => n ∉ names) (by simpa using h) r.tables.entries

theorem others_rename {old new : String} (hold : old ∈ names) (hnew : new ∈ names) (r : Registry) :
    (r.rename old new).others names = r.others names := by
  unfold rename
  cases r.table? old with
  | none => rfl
  | some t => exact (others_insertAt hnew _ _).trans (others_erase hold r)

/-- What stands outside the names decides every look-up outside the names. -/
theorem table?_eq_of_others (h : r.others names = r'.others names) {name : String} (hname : name ∉ names) :
    r.table? name = r'.table? name := by
  have hlookup := fun s : Registry =>
    OrderedMap.lookup_filter (p := fun n => n ∉ names) (by simpa using hname) s.tables.entries
  have hr : OrderedMap.lookup name (r.others names) = r.table? name := hlookup r
  have hr' : OrderedMap.lookup name (r'.others names) = r'.table? name := hlookup r'
  rw [← hr, ← hr', h]

/-- Two registries have the same tables under the given names. -/
def AgreeOn (names : List String) (r r' : Registry) : Prop := ∀ name ∈ names, r.table? name = r'.table? name

theorem agreeOn_of_others (h : r.others names = r'.others names) {others : List String}
    (hdisjoint : ∀ name ∈ others, name ∉ names) : AgreeOn others r r' :=
  fun name hname => table?_eq_of_others h (hdisjoint name hname)

theorem AgreeOn.insertAt (h : AgreeOn names r r') (name : String) (t : Table) :
    AgreeOn names { tables := r.tables.insert name t } { tables := r'.tables.insert name t } := by
  intro n hn
  have hsame : r.tables.get? n = r'.tables.get? n := h n hn
  simp only [table?, OrderedMap.get?_insert, hsame]

theorem AgreeOn.erase (h : AgreeOn names r r') (name : String) : AgreeOn names (r.erase name) (r'.erase name) := by
  intro n hn
  have hsame : r.tables.get? n = r'.tables.get? n := h n hn
  simp only [table?, Registry.erase, OrderedMap.get?_erase, hsame]

theorem AgreeOn.rename (h : AgreeOn names r r') {old : String} (hold : old ∈ names) (new : String) :
    AgreeOn names (r.rename old new) (r'.rename old new) := by
  unfold Registry.rename
  rw [h old hold]
  cases r'.table? old with
  | none => exact h
  | some t => exact (h.erase old).insertAt new _

end Registry

/-! ## Steps -/

namespace Step

variable {names : List String} {r r' : Registry}

/-- The tables that a step names. -/
def tables : Step → List String
  | create table | alter table | drop table | edit table _ => [table]
  | rename old new => [old, new]

/-- **A step leaves the tables that it does not name as they stand**, and in their order. -/
theorem others_effect {x : Step} (hx : ∀ name ∈ x.tables, name ∈ names) (r : Registry) :
    (x.effect r).others names = r.others names := by
  cases x with
  | create table => exact Registry.others_insertAt (hx table List.mem_cons_self) r _
  | alter table => rfl
  | drop table => exact Registry.others_erase (hx table List.mem_cons_self) r
  | rename old new =>
    exact Registry.others_rename (hx old List.mem_cons_self) (hx new (List.mem_cons_of_mem old List.mem_cons_self)) r
  | edit table e =>
    simp only [effect]
    cases r.table? table with
    | none => rfl
    | some t => exact Registry.others_insertAt (hx table List.mem_cons_self) r _

/-- **What a step does to tables depends on these tables only**, and so does whether it dangles. -/
theorem effect_congr {x : Step} (hx : ∀ name ∈ x.tables, name ∈ names) (h : Registry.AgreeOn names r r') :
    Registry.AgreeOn names (x.effect r) (x.effect r') ∧ x.dangling? r = x.dangling? r' := by
  have hfirst : ∀ {name : String}, name ∈ x.tables → r.table? name = r'.table? name := fun hname => h _ (hx _ hname)
  cases x with
  | create table => exact ⟨h.insertAt table _, rfl⟩
  | alter table => exact ⟨h, by rw [dangling?, dangling?, hfirst List.mem_cons_self]⟩
  | drop table => exact ⟨h.erase table, by rw [dangling?, dangling?, hfirst List.mem_cons_self]⟩
  | rename old new =>
    exact ⟨h.rename (hx old List.mem_cons_self) new, by rw [dangling?, dangling?, hfirst List.mem_cons_self]⟩
  | edit table e =>
    have hsame : r.table? table = r'.table? table := hfirst List.mem_cons_self
    refine ⟨?_, by rw [dangling?, dangling?, hsame]⟩
    simp only [effect, hsame]
    cases r'.table? table with
    | none => exact h
    | some t => exact h.insertAt table _

/-- The tables that steps name. -/
def tablesOf (steps : List Step) : List String := steps.flatMap tables

theorem others_run : ∀ {steps : List Step} (r : Registry), (∀ name ∈ tablesOf steps, name ∈ names) →
    (run r steps).others names = r.others names
  | [], _, _ => rfl
  | x :: steps, r, h => by
    have hx : ∀ name ∈ x.tables, name ∈ names := fun name hn => h name (List.mem_append_left _ hn)
    have hrest : ∀ name ∈ tablesOf steps, name ∈ names := fun name hn => h name (List.mem_append_right _ hn)
    calc (run r (x :: steps)).others names = (run (x.effect r) steps).others names := rfl
      _ = (x.effect r).others names := others_run (x.effect r) hrest
      _ = r.others names := others_effect hx r

theorem run_congr : ∀ {steps : List Step} {r r' : Registry}, (∀ name ∈ tablesOf steps, name ∈ names) →
    Registry.AgreeOn names r r' →
    Registry.AgreeOn names (run r steps) (run r' steps) ∧ danglings r steps = danglings r' steps
  | [], _, _, _, h => ⟨h, rfl⟩
  | x :: steps, r, r', hnames, h => by
    obtain ⟨heffect, hdangling⟩ := effect_congr (fun name hn => hnames name (List.mem_append_left _ hn)) h
    obtain ⟨hrun, hrest⟩ := run_congr (fun name hn => hnames name (List.mem_append_right _ hn)) heffect
    exact ⟨hrun, by rw [danglings, danglings, hdangling, hrest]⟩

end Step

/-! ## Runs on different tables -/

namespace State

/-- Two states with the same table under every name and the same anomalies, whatever their order. -/
structure SameButOrder (s s' : State) : Prop where
  tables : ∀ name, s.registry.table? name = s'.registry.table? name
  anomalies : s.anomalies.Perm s'.anomalies

variable {a b : List Step}

/-- After a run on other tables, steps do to their tables what they would have done before it. -/
theorem run_after (hdisjoint : ∀ name ∈ Step.tablesOf b, name ∉ Step.tablesOf a) (s : State) :
    Registry.AgreeOn (Step.tablesOf b) ((s.run a).run b).registry (s.run b).registry ∧
    Step.danglings (s.run a).registry b = Step.danglings s.registry b := by
  have hframe : (s.run a).registry.others (Step.tablesOf a) = s.registry.others (Step.tablesOf a) :=
    Step.others_run s.registry (fun _ h => h)
  exact Step.run_congr (fun _ h => h) (Registry.agreeOn_of_others hframe hdisjoint)

theorem table?_run_after (hdisjoint : ∀ name ∈ Step.tablesOf a, name ∉ Step.tablesOf b) (s : State) {name : String}
    (hname : name ∉ Step.tablesOf b) :
    ((s.run a).run b).registry.table? name = ((s.run b).run a).registry.table? name := by
  have hb : ((s.run a).run b).registry.table? name = (s.run a).registry.table? name :=
    Registry.table?_eq_of_others (Step.others_run _ fun _ h => h) hname
  rw [hb]
  by_cases ha : name ∈ Step.tablesOf a
  · exact ((run_after hdisjoint s).1 name ha).symm
  · have hfirst : (s.run a).registry.table? name = s.registry.table? name :=
      Registry.table?_eq_of_others (Step.others_run _ fun _ h => h) ha
    have hsecond : ((s.run b).run a).registry.table? name = (s.run b).registry.table? name :=
      Registry.table?_eq_of_others (Step.others_run _ fun _ h => h) ha
    have hthird : (s.run b).registry.table? name = s.registry.table? name :=
      Registry.table?_eq_of_others (Step.others_run _ fun _ h => h) hname
    rw [hfirst, hsecond, hthird]

/-- **Runs on different tables may change places.** -/
theorem run_comm (hdisjoint : ∀ name ∈ Step.tablesOf a, name ∉ Step.tablesOf b) (s : State) :
    ((s.run a).run b).SameButOrder ((s.run b).run a) := by
  have hdisjoint' : ∀ name ∈ Step.tablesOf b, name ∉ Step.tablesOf a := fun name hb ha => hdisjoint name ha hb
  refine ⟨fun name => ?_, ?_⟩
  · by_cases hb : name ∈ Step.tablesOf b
    · exact (table?_run_after hdisjoint' s (hdisjoint' name hb)).symm
    · exact table?_run_after hdisjoint s hb
  · have ha : Step.danglings (s.run b).registry a = Step.danglings s.registry a := (run_after hdisjoint s).2
    have hb : Step.danglings (s.run a).registry b = Step.danglings s.registry b := (run_after hdisjoint' s).2
    calc ((s.run a).run b).anomalies
        = s.anomalies ++ Step.danglings s.registry a ++ Step.danglings (s.run a).registry b := rfl
      _ = s.anomalies ++ (Step.danglings s.registry a ++ Step.danglings s.registry b) := by rw [hb, List.append_assoc]
      _ |>.Perm (s.anomalies ++ (Step.danglings s.registry b ++ Step.danglings s.registry a)) :=
        List.perm_append_comm.append_left s.anomalies
      _ = ((s.run b).run a).anomalies := by
        rw [← ha, ← List.append_assoc]
        rfl

end State

/-! ## Calls and migrations -/

namespace Call

/-- The tables that a call names. -/
def tables : Call → List String
  | create table _ _ | alter table _ _ | drop table => [table]
  | rename old new => [old, new]

/-- The steps of a call. -/
def steps : Call → List Step
  | create table blueprint body => .create table :: Step.ofBody table blueprint body
  | alter table blueprint body => .alter table :: Step.ofBody table blueprint body
  | drop table => [.drop table]
  | rename old new => [.rename old new]

/-- The steps of a call name the tables that the call names. -/
theorem mem_tables_of_steps {call : Call} {name : String} (h : name ∈ Step.tablesOf call.steps) :
    name ∈ call.tables := by
  have hbody : ∀ {table blueprint : String} {body : List Stmt},
      name ∈ Step.tablesOf (Step.ofBody table blueprint body) → name ∈ [table] := by
    intro table blueprint body hname
    obtain ⟨x, hx, hname⟩ := List.mem_flatMap.1 hname
    obtain ⟨e, -, rfl⟩ := List.mem_map.1 hx
    exact hname
  cases call with
  | create table blueprint body | alter table blueprint body => exact (List.mem_append.1 h).elim id hbody
  | drop table => simpa [Step.tablesOf, Step.tables, steps, tables] using h
  | rename old new => simpa [Step.tablesOf, Step.tables, steps, tables] using h

end Call

/-- The tables that calls name. -/
def tablesOf (calls : List Call) : List String := calls.flatMap Call.tables

namespace State

theorem apply_eq_run (s : State) (call : Call) : s.apply call = s.run call.steps := by
  cases call with
  | create table blueprint body => exact create_eq_run s table blueprint body
  | alter table blueprint body => exact alter_eq_run s table blueprint body
  | drop table => exact drop_eq_run s table
  | rename old new => exact rename_eq_run s old new

theorem foldl_apply_eq_run : ∀ (calls : List Call) (s : State), calls.foldl apply s = s.run (calls.flatMap Call.steps)
  | [], s => (run_nil s).symm
  | call :: calls, s => by
    rw [List.foldl_cons, foldl_apply_eq_run calls, apply_eq_run, List.flatMap_cons, run_append]

theorem mem_tablesOf_of_steps {calls : List Call} {name : String}
    (h : name ∈ Step.tablesOf (calls.flatMap Call.steps)) : name ∈ tablesOf calls := by
  obtain ⟨x, hx, hname⟩ := List.mem_flatMap.1 h
  obtain ⟨call, hcall, hx⟩ := List.mem_flatMap.1 hx
  exact List.mem_flatMap.2 ⟨call, hcall, Call.mem_tables_of_steps (List.mem_flatMap.2 ⟨x, hx, hname⟩)⟩

theorem others_calls (calls : List Call) (s : State) :
    (calls.foldl apply s).registry.others (tablesOf calls) = s.registry.others (tablesOf calls) := by
  rw [foldl_apply_eq_run]
  exact Step.others_run s.registry (fun _ h => mem_tablesOf_of_steps h)

theorem calls_comm {a b : List Call} (hdisjoint : ∀ name ∈ tablesOf a, name ∉ tablesOf b) (s : State) :
    (b.foldl apply (a.foldl apply s)).SameButOrder (a.foldl apply (b.foldl apply s)) := by
  simp only [foldl_apply_eq_run]
  exact run_comm (fun name ha hb => hdisjoint name (mem_tablesOf_of_steps ha) (mem_tablesOf_of_steps hb)) s

/-- **Schema calls touch only the tables that they name.**  A call, and likewise a whole migration, leaves every other
table with its name, its columns and their order, and the others in their order.  Two calls, or two migrations, that
name different tables lead to the same table under every name and to the same anomalies whichever comes first. -/
theorem calls_touch_named_tables :
    (∀ (s : State) (call : Call),
      (s.apply call).registry.tables.entries.filter (·.1 ∉ call.tables) =
        s.registry.tables.entries.filter (·.1 ∉ call.tables)) ∧
    (∀ (s : State) (a b : Call), (∀ name ∈ a.tables, name ∉ b.tables) →
      (∀ name, ((s.apply a).apply b).registry.table? name = ((s.apply b).apply a).registry.table? name) ∧
      ((s.apply a).apply b).anomalies.Perm ((s.apply b).apply a).anomalies) ∧
    (∀ (s : State) (stmts : List Stmt),
      (s.addStatements stmts).registry.tables.entries.filter (·.1 ∉ tablesOf (callsIn stmts)) =
        s.registry.tables.entries.filter (·.1 ∉ tablesOf (callsIn stmts))) ∧
    ∀ (s : State) (a b : List Stmt), (∀ name ∈ tablesOf (callsIn a), name ∉ tablesOf (callsIn b)) →
      (∀ name, ((s.addStatements a).addStatements b).registry.table? name =
        ((s.addStatements b).addStatements a).registry.table? name) ∧
      ((s.addStatements a).addStatements b).anomalies.Perm ((s.addStatements b).addStatements a).anomalies := by
  have hone : ∀ call : Call, tablesOf [call] = call.tables := fun call => List.append_nil call.tables
  refine ⟨fun s call => ?_, fun s a b h => ?_, fun s stmts => others_calls (callsIn stmts) s, fun s a b h => ?_⟩
  · have hothers := others_calls [call] s
    rw [hone] at hothers
    exact hothers
  · have hcomm := calls_comm (a := [a]) (b := [b]) (by rwa [hone, hone]) s
    exact ⟨hcomm.tables, hcomm.anomalies⟩
  · have hcomm := calls_comm h s
    exact ⟨hcomm.tables, hcomm.anomalies⟩

/-- A table is created and loses a column that it never had, while another is renamed onto a third and a stray reference
is made: the anomalies change places, the tables do not change. -/
theorem calls_touch_named_tables_swapped :
    let migration (up : List Expr) : List Stmt := [.classDecl none [.method "up" (up.map .expression)]]
    let on (method : String) (args : List Expr) : Stmt := .expression (.methodCall (.var "table") method args)
    let s : State := ⟨((∅ : Registry).insert { name := "users" }).insert { name := "people" }, []⟩
    let a := migration [.staticCall "Schema" "create" [.str "posts", .closure ["table"]
      [on "id" [], on "string" [.str "title"], on "dropColumn" [.str "body"]]]]
    let b := migration [.staticCall "Schema" "rename" [.str "users", .str "people"],
      .staticCall "Schema" "dropIfExists" [.str "ghosts"]]
    (∀ name ∈ tablesOf (callsIn a), name ∉ tablesOf (callsIn b)) ∧
    ((s.addStatements a).addStatements b).anomalies =
      [.unknownColumn "posts" "body" .drop, .unknownTable "ghosts" .drop] ∧
    ((s.addStatements b).addStatements a).anomalies.Perm
      [.unknownColumn "posts" "body" .drop, .unknownTable "ghosts" .drop] ∧
    ((s.addStatements b).addStatements a).registry.table? "people" = some { name := "people" } ∧
    (s.addStatements b).registry.tables.entries.filter (·.1 ∉ ["users", "people", "ghosts"]) = [] := by
  intro migration on s a b
  have hdisjoint : ∀ name ∈ tablesOf (callsIn a), name ∉ tablesOf (callsIn b) := by decide
  obtain ⟨-, -, hothers, hcomm⟩ := calls_touch_named_tables
  obtain ⟨htables, hanomalies⟩ := hcomm s a b hdisjoint
  have hfirst : ((s.addStatements a).addStatements b).anomalies =
      [.unknownColumn "posts" "body" .drop, .unknownTable "ghosts" .drop] := rfl
  have hpeople : ((s.addStatements a).addStatements b).registry.table? "people" = some { name := "people" } := rfl
  refine ⟨hdisjoint, hfirst, ?_, ?_, hothers s b⟩
  · rw [← hfirst]
    exact hanomalies.symm
  · rw [← htables, hpeople]

end State
end Schema
end DynamicMembers
