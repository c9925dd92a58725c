import DynamicMembers.Proofs.Schema.Steps
import DynamicMembers.Proofs.Schema.WellFormed
/-!
# Creation — a table that is created owes nothing to the schema before

A call that creates a table starts from the empty table of that name, so the table that it leaves and the anomalies that
it notes can be read off the call.  Created again, a table keeps its place, and a sequence of creations that is run any
number of times leaves what it left the first time (`create_forgets`).
-/
namespace DynamicMembers

/-! ## Settings made twice -/

namespace OrderedMap

variable {κ α : Type} [DecidableEq κ]

/-- The map after settings made in it one by one. -/
def insertAll (m : OrderedMap κ α) (settings : List (κ × α)) : OrderedMap κ α :=
  settings.foldl (fun m e => m.insert e.1 e.2) m

theorem lookup_append (k : κ) : ∀ l l' : List (κ × α), lookup k (l ++ l') = (lookup k l).or (lookup k l')
  | [], _ => rfl
  | (k', v) :: l, l' => by
    by_cases h : k' = k
    · simp [lookup, h]
    · simp [lookup, h, lookup_append k l l']

theorem eq_of_lookup : ∀ {l l' : List (κ × α)}, (l.map Prod.fst).Nodup → l.map Prod.fst = l'.map Prod.fst →
    (∀ k, lookup k l = lookup k l') → l = l'
  | [], l', _, hkeys, _ => (List.map_eq_nil_iff.1 hkeys.symm).symm
  | (k, v) :: l, [], _, hkeys, _ => nomatch hkeys
  | (k, v) :: l, (k', v') :: l', hnodup, hkeys, h => by
    obtain ⟨rfl, hrestKeys⟩ : k = k' ∧ l.map Prod.fst = l'.map Prod.fst := List.cons.inj hkeys
    obtain ⟨hk, hrestNodup⟩ := List.nodup_cons.1 hnodup
    have hv : some v = some v' := by simpa [lookup] using h k
    have hrest : l = l' := by
      refine eq_of_lookup hrestNodup hrestKeys fun j => ?_
      by_cases hj : k = j
      · -- the first key occurs no more
        subst hj
        rw [(lookup_eq_none_iff k l).2 hk, (lookup_eq_none_iff k l').2 (hrestKeys ▸ hk)]
      · simpa [lookup, hj] using h j
    rw [Option.some.inj hv, hrest]

/-- Maps with the same keys, in the same order and with the same values, are the same map. -/
theorem eq_of_get? {m n : OrderedMap κ α} (hkeys : m.keys = n.keys) (h : ∀ k, m.get? k = n.get? k) : m = n :=
  ext (eq_of_lookup m.nodup hkeys h)

theorem keys_put_of_mem (k : κ) (v : α) : ∀ {l : List (κ × α)}, k ∈ l.map Prod.fst →
    (put k v l).map Prod.fst = l.map Prod.fst
  | (k', v') :: l, h => by
    by_cases hk : k' = k
    · simp [put, hk]
    · rw [List.map_cons, List.mem_cons] at h
      rw [put, if_neg hk, List.map_cons, List.map_cons, keys_put_of_mem k v (h.resolve_left (Ne.symm hk))]

/-- A key that is present keeps its place. -/
theorem keys_insert_of_mem {m : OrderedMap κ α} {k : κ} (h : k ∈ m.keys) (v : α) : (m.insert k v).keys = m.keys :=
  keys_put_of_mem k v h

/-- The last setting of a key counts, and before all settings what the map held. -/
theorem get?_insertAll (k : κ) : ∀ (l : List (κ × α)) (m : OrderedMap κ α),
    (m.insertAll l).get? k = (lookup k l.reverse).or (m.get? k)
  | [], _ => rfl
  | (k', v) :: l, m => by
    have ih := get?_insertAll k l (m.insert k' v)
    rw [get?_insert] at ih
    rw [List.reverse_cons, lookup_append, Option.or_assoc]
    -- what the first setting put there counts for the rest as what the map held
    refine ih.trans (congrArg (Option.or _) ?_)
    by_cases h : k' = k <;> simp [lookup, h]

theorem mem_keys_insertAll (m : OrderedMap κ α) {l : List (κ × α)} {e : κ × α} (he : e ∈ l) :
    e.1 ∈ (m.insertAll l).keys := by
  refine Decidable.byContradiction fun habsent => ?_
  rw [← get?_eq_none_iff, get?_insertAll, Option.or_eq_none_iff, lookup_eq_none_iff] at habsent
  exact habsent.1 (List.mem_map_of_mem (List.mem_reverse.2 he))

theorem keys_insertAll_of_mem : ∀ {l : List (κ × α)} {m : OrderedMap κ α}, (∀ e ∈ l, e.1 ∈ m.keys) →
    (m.insertAll l).keys = m.keys
  | [], _, _ => rfl
  | (k, v) :: l, m, h => by
    obtain ⟨hk, hl⟩ := List.forall_mem_cons.1 h
    have hkeys : (m.insert k v).keys = m.keys := keys_insert_of_mem hk v
    have ih : ((m.insert k v).insertAll l).keys = (m.insert k v).keys :=
      keys_insertAll_of_mem fun e he => hkeys ▸ hl e he
    exact ih.trans hkeys

/-- **Settings made a second time change nothing**: each key has its place and its last value already. -/
theorem insertAll_insertAll (m : OrderedMap κ α) (l : List (κ × α)) :
    (m.insertAll l).insertAll l = m.insertAll l := by
  refine eq_of_get? (keys_insertAll_of_mem fun e he => mem_keys_insertAll m he) fun k => ?_
  rw [get?_insertAll, get?_insertAll, ← Option.or_assoc, Option.or_self]

end OrderedMap

namespace Schema

open Code (Expr Stmt)

/-! ## What a creation leaves -/

/-- A call on the schema that creates a table: its name in writing and a closure that takes the blueprint. -/
inductive Creates (table blueprint : String) (body : List Stmt) : Expr → Prop
  | call {e : Expr} {method : String} {params : List String} {rest : List Expr}
    (hcall : Call.onSchema? e = some (method, .str table :: .closure (blueprint :: params) body :: rest))
    (hmethod : Text.sameIgnoringCase method "create" = true) : Creates table blueprint body e

theorem Creates.ofExpr? {e : Expr} {table blueprint : String} {body : List Stmt} (h : Creates table blueprint body e) :
    Call.ofExpr? e = some (.create table blueprint body) := by
  obtain ⟨hcall, hmethod⟩ := h
  have hlower : Text.lower _ = Text.lower "create" := of_decide_eq_true hmethod
  have hcreate : Text.lower "create" = "create" := by decide
  simp [Call.ofExpr?, hcall, hlower.trans hcreate, Call.blueprintArgs]

/-- The table that a creation leaves. -/
def createdTable (table blueprint : String) (body : List Stmt) : Table :=
  Edit.applyAll { name := table } (State.bodyEdits blueprint body)

/-- The anomalies that a creation notes. -/
def createdAnomalies (table blueprint : String) (body : List Stmt) : List Anomaly :=
  Edit.anomalies { name := table } (State.bodyEdits blueprint body)

theorem name_applyAll : ∀ (edits : List Edit) (t : Table), (Edit.applyAll t edits).name = t.name
  | [], _ => rfl
  | e :: es, t => (name_applyAll es (e.apply t)).trans (Table.name_edit t e)

@[simp] theorem name_createdTable (table blueprint : String) (body : List Stmt) :
    (createdTable table blueprint body).name = table := name_applyAll _ _

namespace Call

def isCreate : Call → Bool
  | create .. => true
  | _ => false

/-- The entry of the registry that a creation makes. -/
def setting? : Call → Option (String × Table)
  | create table blueprint body => some (table, createdTable table blueprint body)
  | _ => none

end Call

namespace State

/-- A creation enters its table under its name, whatever stood there. -/
theorem apply_create (s : State) (table blueprint : String) (body : List Stmt) :
    s.apply (.create table blueprint body) =
      { registry := { tables := s.registry.tables.insert table (createdTable table blueprint body) }
        anomalies := s.anomalies ++ createdAnomalies table blueprint body } := by
  have hnew : (s.registry.insert { name := table }).table? table = some { name := table } :=
    Registry.table?_insert s.registry { name := table }
  simp only [apply, alter, hnew]
  simp only [Registry.update, Registry.insert, OrderedMap.insert_insert, createdTable, createdAnomalies]

theorem tables_of_creates : ∀ {calls : List Call} (s : State), (∀ call ∈ calls, call.isCreate = true) →
    (calls.foldl apply s).registry.tables = s.registry.tables.insertAll (calls.filterMap Call.setting?)
  | [], _, _ => rfl
  | call :: calls, s, h => by
    obtain ⟨hcall, hcalls⟩ := List.forall_mem_cons.1 h
    cases call with
    | create table blueprint body =>
      -- the setting can be read off the call, so the state that the call meets does not enter
      rw [List.foldl_cons, tables_of_creates _ hcalls, apply_create]
      rfl
    | alter | drop | rename => cases hcall

variable {calls : List Call}

theorem registry_of_creates_twice (s : State) (h : ∀ call ∈ calls, call.isCreate = true) :
    (calls.foldl apply (calls.foldl apply s)).registry = (calls.foldl apply s).registry := by
  have htables : (calls.foldl apply (calls.foldl apply s)).registry.tables = (calls.foldl apply s).registry.tables := by
    rw [tables_of_creates _ h, tables_of_creates s h, OrderedMap.insertAll_insertAll]
  exact congrArg Registry.mk htables

theorem registry_of_creates_repeated (h : ∀ call ∈ calls, call.isCreate = true) : ∀ (n : Nat) (s : State),
    ((List.replicate (n + 1) calls).flatten.foldl apply s).registry = (calls.foldl apply s).registry
  | 0, s => by rw [List.replicate_one, List.flatten_singleton]
  | n + 1, s => by
    rw [List.replicate_succ, List.flatten_cons, List.foldl_append, registry_of_creates_repeated h n,
      registry_of_creates_twice s h]

theorem foldl_addStatements_replicate (s : State) (stmts : List Stmt) (n : Nat) :
    (List.replicate n stmts).foldl addStatements s = (List.replicate n (callsIn stmts)).flatten.foldl apply s := by
  rw [List.foldl_flatten, ← List.map_replicate, List.foldl_map]
  rfl

end State

/-- **A creation forgets what was there.**  Whatever the state before it, a call that creates a table leaves the table
that the closure makes of an empty one, notes the anomalies met on the way, and touches no other table; and calls that
all create tables, be they the calls of a migration or not, leave the registry as after the first time however often
they are repeated. -/
theorem create_forgets :
    (∀ (e : Expr) (table blueprint : String) (body : List Stmt), Creates table blueprint body e →
      ∃ call : Call, Call.ofExpr? e = some call ∧ (createdTable table blueprint body).name = table ∧
        ∀ s : State, (s.apply call).registry.table? table = some (createdTable table blueprint body) ∧
          (s.apply call).anomalies = s.anomalies ++ createdAnomalies table blueprint body ∧
          ∀ other, other ≠ table → (s.apply call).registry.table? other = s.registry.table? other) ∧
    (∀ (s : State) (calls : List Call) (n : Nat), (∀ call ∈ calls, call.isCreate = true) →
      ((List.replicate (n + 1) calls).flatten.foldl State.apply s).registry = (calls.foldl State.apply s).registry) ∧
    ∀ (s : State) (stmts : List Stmt) (n : Nat), (∀ call ∈ callsIn stmts, call.isCreate = true) →
      ((List.replicate (n + 1) stmts).foldl State.addStatements s).registry = (s.addStatements stmts).registry := by
  refine ⟨fun e table blueprint body h => ?_, fun s calls n h => State.registry_of_creates_repeated h n s,
    fun s stmts n h => ?_⟩
  · refine ⟨_, h.ofExpr?, name_createdTable table blueprint body, fun s => ?_⟩
    rw [State.apply_create]
    refine ⟨by simp [Registry.table?], rfl, fun other hother => ?_⟩
    rw [Registry.table?, OrderedMap.get?_insert, if_neg (Ne.symm hother), Registry.table?]
  · rw [State.foldl_addStatements_replicate, State.registry_of_creates_repeated h n s]
    rfl

/-- Users made anew on a connection, with a column that is renamed and one dropped in vain; then twice among other
creations, the second time without columns, and three times by a migration. -/
theorem create_forgets_users :
    let on (method : String) (args : List Expr) : Stmt := .expression (.methodCall (.var "table") method args)
    let body : List Stmt :=
      [on "string" [.str "name"], on "dropColumn" [.str "city"], on "renameColumn" [.str "name", .str "title"]]
    let creating : Expr := .methodCall (.staticCall "Schema" "connection" [.str "main"]) "CREATE"
      [.str "users", .closure ["table", "extra"] body, .null]
    let calls : List Call := [.create "users" "table" body, .create "posts" "table" [], .create "users" "table" []]
    let migration : List Stmt := [.classDecl none [.method "up" [.expression creating]]]
    let before : State := ({} : State).apply
      (.create "users" "table" [on "integer" [.str "age"], on "string" [.str "city"]])
    (∃ call : Call, Call.ofExpr? creating = some call ∧ (createdTable "users" "table" body).name = "users" ∧
      ∀ s : State, (s.apply call).registry.table? "users" = some (createdTable "users" "table" body) ∧
        (s.apply call).anomalies = s.anomalies ++ createdAnomalies "users" "table" body ∧
        ∀ other, other ≠ "users" → (s.apply call).registry.table? other = s.registry.table? other) ∧
    (createdTable "users" "table" body).columns.keys = ["title"] ∧
    createdAnomalies "users" "table" body = [.unknownColumn "users" "city" .drop] ∧
    ((List.replicate 2 calls).flatten.foldl State.apply before).registry = (calls.foldl State.apply before).registry ∧
    ((List.replicate 3 migration).foldl State.addStatements before).registry =
      (before.addStatements migration).registry := by
  intro on body creating calls migration before
  have hcreates : Creates "users" "table" body creating := .call rfl (by decide)
  have hcalls : ∀ call ∈ calls, call.isCreate = true := by simp [calls, Call.isCreate]
  have hmigration : ∀ call ∈ callsIn migration, call.isCreate = true := by
    have hcall : callsIn migration = [.create "users" "table" body] := rfl
    simp [hcall, Call.isCreate]
  obtain ⟨hforgets, hrepeated, hfolded⟩ := create_forgets
  exact ⟨hforgets creating "users" "table" body hcreates, rfl, rfl, hrepeated before calls 1 hcalls,
    hfolded before migration 2 hmigration⟩

end Schema
end DynamicMembers
