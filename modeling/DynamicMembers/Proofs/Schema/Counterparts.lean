import DynamicMembers.Proofs.Schema.Chains
import DynamicMembers.Proofs.Schema.Creation
import Mathlib.Data.List.Nodup
/-!
# Counterparts — a drop takes back what its counterpart defines

A blueprint has an operation that drops for each kind that defines.  Both work out their column names for themselves;
where none of these is taken, the one defines columns behind all others and the other drops just these, so the table is
what it was and nothing dangles (`drop_undoes_define`).
-/
namespace DynamicMembers

namespace OrderedMap

variable {κ α : Type} [DecidableEq κ]

theorem entries_insertAll {l : List (κ × α)} {m : OrderedMap κ α} (h : ((m.entries ++ l).map Prod.fst).Nodup) :
    (m.insertAll l).entries = m.entries ++ l := entries_foldl_insert l m h

theorem drop_append (k : κ) : ∀ l l' : List (κ × α), drop k (l ++ l') = drop k l ++ drop k l'
  | [], _ => rfl
  | (j, v) :: l, l' => by
    by_cases h : j = k
    · simp [drop, h, drop_append k l l']
    · simp [drop, h, drop_append k l l']

/-- Dropping a key takes out the one entry that has it. -/
theorem drop_append_cons {k : κ} {v : α} {front rest : List (κ × α)}
    (h : ((front ++ (k, v) :: rest).map Prod.fst).Nodup) : drop k (front ++ (k, v) :: rest) = front ++ rest := by
  rw [List.map_append, List.map_cons] at h
  obtain ⟨hk, -⟩ := List.nodup_cons.1 (List.nodup_middle.1 h)
  rw [List.mem_append, not_or] at hk
  rw [drop_append, drop, if_pos rfl, drop_of_lookup_eq_none k front ((lookup_eq_none_iff k front).2 hk.1),
    drop_of_lookup_eq_none k rest ((lookup_eq_none_iff k rest).2 hk.2)]

end OrderedMap

namespace Schema

open Code (Expr Stmt)

/-! ## Columns defined and dropped again -/

/-- Tables of one name with the same columns in the same order are the same table. -/
theorem Table.eq_of_entries {t u : Table} (hname : t.name = u.name) (h : t.columns.entries = u.columns.entries) :
    t = u := by
  cases t
  cases u
  obtain rfl : _ = _ := hname
  obtain rfl : _ = _ := OrderedMap.ext h
  rfl

namespace Edit

def defining (columns : List Column) : List Edit := columns.map .set

def dropping (columns : List Column) : List Edit := columns.map (.drop ·.name)

theorem anomalies_append : ∀ (t : Table) (es es' : List Edit),
    anomalies t (es ++ es') = anomalies t es ++ anomalies (applyAll t es) es'
  | _, [], _ => rfl
  | t, e :: es, es' => by
    rw [List.cons_append, anomalies, anomalies, anomalies_append (e.apply t) es es', List.append_assoc]
    rfl

theorem anomalies_defining : ∀ (columns : List Column) (t : Table), anomalies t (defining columns) = []
  | [], _ => rfl
  | c :: columns, t => anomalies_defining columns (t.setColumn c)

theorem columns_defining : ∀ (columns : List Column) (t : Table),
    (applyAll t (defining columns)).columns = t.columns.insertAll (columns.map fun c => (c.name, c))
  | [], _ => rfl
  | c :: columns, t => columns_defining columns (t.setColumn c)

/-- **Columns at the end of a table are dropped without a trace**, and each is found. -/
theorem applyAll_dropping {entries : List (String × Column)} : ∀ {columns : List Column} {t : Table},
    t.columns.entries = entries ++ columns.map (fun c => (c.name, c)) →
    (applyAll t (dropping columns)).columns.entries = entries ∧ anomalies t (dropping columns) = []
  | [], t, h => ⟨h.trans (List.append_nil entries), rfl⟩
  | c :: columns, t, h => by
    have hnodup := t.columns.nodup
    rw [h] at hnodup
    have hdropped : (t.dropColumn c.name).columns.entries = entries ++ columns.map fun c => (c.name, c) :=
      (congrArg (OrderedMap.drop c.name) h).trans (OrderedMap.drop_append_cons hnodup)
    have hfound : t.hasColumn c.name = true := by
      rw [Table.hasColumn_iff, OrderedMap.keys, h, List.map_append]
      exact List.mem_append_right _ List.mem_cons_self
    obtain ⟨hentries, hrest⟩ := applyAll_dropping hdropped
    have hnone : (drop c.name).anomaly? t = none := if_pos hfound
    exact ⟨hentries, by rw [dropping, List.map_cons, anomalies, hnone]; exact hrest⟩

/-- **Columns that are new to a table are defined behind the others, and dropped again they leave it as it was.** -/
theorem applyAll_defining_dropping {columns : List Column} {t : Table} (hnodup : (columns.map Column.name).Nodup)
    (habsent : ∀ name ∈ columns.map Column.name, t.hasColumn name = false) :
    (applyAll t (defining columns)).columns.keys = t.columns.keys ++ columns.map Column.name ∧
    applyAll (applyAll t (defining columns)) (dropping columns) = t ∧
    anomalies t (defining columns ++ dropping columns) = [] := by
  let new : List (String × Column) := columns.map fun c => (c.name, c)
  have hnames : new.map Prod.fst = columns.map Column.name := List.map_map ..
  have hdisjoint : (t.columns.keys ++ new.map Prod.fst).Nodup := by
    rw [hnames]
    exact List.Nodup.append t.columns.nodup hnodup fun name hold hnew =>
      Table.hasColumn_eq_false_iff.1 (habsent name hnew) hold
  have hentries : (applyAll t (defining columns)).columns.entries = t.columns.entries ++ new := by
    rw [columns_defining]
    exact OrderedMap.entries_insertAll (by rw [List.map_append]; exact hdisjoint)
  obtain ⟨hdropped, hfound⟩ := applyAll_dropping hentries
  refine ⟨?_, ?_, by rw [anomalies_append, anomalies_defining, hfound, List.append_nil]⟩
  · rw [OrderedMap.keys, hentries, List.map_append, hnames, OrderedMap.keys]
  · exact Table.eq_of_entries (by rw [name_applyAll, name_applyAll]) hdropped

end Edit

/-! ## Operations and their counterparts -/

/-- The name that the first argument gives in writing. -/
def firstName (args : List Expr) : Option String := args.head?.bind Expr.asStr

/-- A method is one of the given ones, its ASCII case set aside. -/
def Spelled (names : List String) (method : String) : Prop := ∃ name ∈ names, Text.sameIgnoringCase method name = true

/-- The arguments of a drop that list one name, alone or in an array. -/
def Lists (name : String) (args : List Expr) : Prop := args = [.str name] ∨ args = [.array [.str name]]

/-- A blueprint call that defines columns of the given names, and a call that drops them. -/
inductive Undoes : List String → String × List Expr → String × List Expr → Prop
  /-- A column of a storage type. -/
  | column {name method drop : String} {storage : Storage} {args dropArgs : List Expr}
    (hmethod : classify method = .define storage) (hdrop : Spelled ["dropColumn"] drop) (hargs : Lists name dropArgs) :
    Undoes [name] (method, .str name :: args) (drop, dropArgs)
  | enum {name method drop : String} {args dropArgs : List Expr}
    (hmethod : Spelled ["enum"] method) (hdrop : Spelled ["dropColumn"] drop) (hargs : Lists name dropArgs) :
    Undoes [name] (method, .str name :: args) (drop, dropArgs)
  /-- The identifier, which has a name of its own when it is given none. -/
  | id {name method drop : String} {args dropArgs : List Expr}
    (hmethod : Spelled ["id"] method) (hname : (firstName args).getD "id" = name)
    (hdrop : Spelled ["dropColumn"] drop) (hargs : Lists name dropArgs) :
    Undoes [name] (method, args) (drop, dropArgs)
  /-- A polymorphic reference. -/
  | morphs {name method drop : String} {args dropArgs : List Expr}
    (hmethod : Spelled ["morphs", "nullableMorphs", "uuidMorphs", "nullableUuidMorphs", "ulidMorphs",
      "nullableUlidMorphs"] method)
    (hdrop : Spelled ["dropMorphs"] drop) :
    Undoes [name ++ "_type", name ++ "_id"] (method, .str name :: args) (drop, .str name :: dropArgs)
  | timestamps {method drop : String} {args dropArgs : List Expr}
    (hmethod : Spelled ["timestamps", "timestampsTz", "nullableTimestamps"] method)
    (hdrop : Spelled ["dropTimestamps", "dropTimestampsTz"] drop) :
    Undoes ["created_at", "updated_at"] (method, args) (drop, dropArgs)
  /-- The moment of deletion, under the same name or under none in both. -/
  | softDeletes {name method drop : String} {args dropArgs : List Expr}
    (hmethod : Spelled ["softDeletes", "softDeletesTz"] method) (hname : (firstName args).getD "deleted_at" = name)
    (hdrop : Spelled ["dropSoftDeletes", "dropSoftDeletesTz"] drop) (hsame : firstName dropArgs = firstName args) :
    Undoes [name] (method, args) (drop, dropArgs)
  | rememberToken {method drop : String} {args dropArgs : List Expr}
    (hmethod : Spelled ["rememberToken"] method) (hdrop : Spelled ["dropRememberToken"] drop) :
    Undoes ["remember_token"] (method, args) (drop, dropArgs)

/-- What holds of the operations of some methods holds of that of each spelling. -/
theorem Spelled.classify {names : List String} {method : String} {P : ColumnOp → Prop} (h : Spelled names method)
    (hP : ∀ name ∈ names, P (Schema.classify name)) : P (Schema.classify method) := by
  obtain ⟨name, hname, hsame⟩ := h
  rw [classify_congr (of_decide_eq_true hsame)]
  exact hP name hname

theorem Spelled.classify_eq {names : List String} {method : String} {op : ColumnOp} (h : Spelled names method)
    (hop : ∀ name ∈ names, Schema.classify name = op) : Schema.classify method = op := h.classify (P := (· = op)) hop

theorem edits_dropColumn {name drop : String} {args : List Expr} (hdrop : Spelled ["dropColumn"] drop)
    (hargs : Lists name args) (nullable : Bool) : (classify drop).edits args nullable = [.drop name] := by
  have hop : classify drop = .dropColumn := hdrop.classify_eq (by decide)
  rw [hop]
  rcases hargs with rfl | rfl <;> rfl

theorem Spelled.classify_morphs {method : String}
    (h : Spelled ["morphs", "nullableMorphs", "uuidMorphs", "nullableUuidMorphs", "ulidMorphs", "nullableUlidMorphs"]
      method) : ∃ storage, Schema.classify method = .morphs storage := by
  have hop : Schema.classify method = .morphs .int ∨ Schema.classify method = .morphs .string :=
    h.classify (P := fun op => op = .morphs .int ∨ op = .morphs .string) (by decide)
  exact hop.elim (⟨.int, ·⟩) (⟨.string, ·⟩)

/-- **Both calls of a pair name the same columns**, each for itself. -/
theorem Undoes.exists_columns {names : List String} {define drop : String × List Expr} (h : Undoes names define drop)
    (nullable nullable' : Bool) : ∃ columns : List Column, columns.map Column.name = names ∧ names.Nodup ∧
      (classify define.1).edits define.2 nullable = Edit.defining columns ∧
      (classify drop.1).edits drop.2 nullable' = Edit.dropping columns := by
  cases h with
  | @column name _ _ storage _ _ hmethod hdrop hargs =>
    refine ⟨[.ofStored name storage.word nullable], rfl, List.nodup_singleton name, ?_,
      edits_dropColumn hdrop hargs nullable'⟩
    rw [hmethod]
    rfl
  | @enum name _ _ args _ hmethod hdrop hargs =>
    have hop : classify _ = .enum := hmethod.classify_eq (by decide)
    refine ⟨[{ Column.ofStored name Storage.enum.word nullable with options := listedOptions args[0]? }], rfl,
      List.nodup_singleton name, ?_, edits_dropColumn hdrop hargs nullable'⟩
    rw [hop]
    rfl
  | @id name _ _ args _ hmethod hname hdrop hargs =>
    have hop : classify _ = .id := hmethod.classify_eq (by decide)
    refine ⟨[.ofStored name Storage.int.word nullable], rfl, List.nodup_singleton name, ?_,
      edits_dropColumn hdrop hargs nullable'⟩
    rw [hop, ← hname]
    rfl
  | @morphs name _ _ _ _ hmethod hdrop =>
    obtain ⟨storage, hop⟩ := hmethod.classify_morphs
    have hdropOp : classify _ = .dropMorphs := hdrop.classify_eq (by decide)
    refine ⟨[.ofStored (name ++ "_type") Storage.string.word nullable, .ofStored (name ++ "_id") storage.word nullable],
      rfl, by simp, ?_, ?_⟩
    · rw [hop]
      rfl
    · rw [hdropOp]
      rfl
  | timestamps hmethod hdrop =>
    have hop : classify _ = .timestamps := hmethod.classify_eq (by decide)
    have hdropOp : classify _ = .dropTimestamps := hdrop.classify_eq (by decide)
    refine ⟨[.ofStored "created_at" Storage.string.word true, .ofStored "updated_at" Storage.string.word true], rfl,
      by decide, ?_, ?_⟩
    · rw [hop]
      rfl
    · rw [hdropOp]
      rfl
  | @softDeletes name _ _ _ _ hmethod hname hdrop hsame =>
    have hop : classify _ = .softDeletes := hmethod.classify_eq (by decide)
    have hdropOp : classify _ = .dropSoftDeletes := hdrop.classify_eq (by decide)
    refine ⟨[.ofStored name Storage.string.word true], rfl, List.nodup_singleton name, ?_, ?_⟩
    · rw [hop, ← hname]
      rfl
    · rw [hdropOp, ← hname, ← hsame]
      rfl
  | rememberToken hmethod hdrop =>
    have hop : classify _ = .rememberToken := hmethod.classify_eq (by decide)
    have hdropOp : classify _ = .dropRememberToken := hdrop.classify_eq (by decide)
    refine ⟨[.ofStored "remember_token" Storage.string.word true], rfl, List.nodup_singleton _, ?_, ?_⟩
    · rw [hop]
      rfl
    · rw [hdropOp]
      rfl

/-! ## On the schema -/

/-- Steps on a table that are taken back without an anomaly leave no trace in the schema. -/
theorem State.alter_alter_of_undone {s : State} {table : String} {t : Table} {edits edits' : List Edit}
    (ht : s.registry.table? table = some t) (hback : Edit.applyAll (Edit.applyAll t edits) edits' = t)
    (hnone : Edit.anomalies t (edits ++ edits') = []) : (s.alter table edits).alter table edits' = s := by
  have haltered : (s.alter table edits).registry.table? table = some (Edit.applyAll t edits) := by
    rw [alter, ht]
    exact Registry.table?_update s.registry table _
  rw [Edit.anomalies_append, List.append_eq_nil_iff] at hnone
  rw [alter, haltered]
  simp only [alter, ht, hback, Registry.update_update, Registry.update_of_table? ht, hnone.1, hnone.2, List.append_nil]

theorem bodyEdits_of_chain {blueprint method : String} {args : List Expr} {e : Expr}
    {later : List (String × List Expr)} (hroot : e.chainRoot = .var blueprint)
    (hcalls : e.chainCalls = (method, args) :: later) : State.bodyEdits blueprint [.expression e] =
      (classify method).edits args (chainNullable method ((method, args) :: later)) := by
  rw [State.bodyEdits, expressionsIn, expressionsIn, expressionsOf, List.append_nil, List.flatMap_singleton,
    exprEdits_of_root hroot, hcalls, chainEdits]

/-- **A drop takes back what its counterpart defines.**  Where a table has none of the columns, the one call defines
them behind the others and the other call drops them, be they nullable or not: the table is what it was, columns and
order, and no anomaly is met.  So a migration that defines by a chain of calls and one that drops by another leave the
schema as it was. -/
theorem drop_undoes_define {names : List String} {define drop : String × List Expr} (h : Undoes names define drop) :
    (∀ (t : Table) (nullable nullable' : Bool), (∀ name ∈ names, t.hasColumn name = false) →
      let defines := (classify define.1).edits define.2 nullable
      let drops := (classify drop.1).edits drop.2 nullable'
      (Edit.applyAll t defines).columns.keys = t.columns.keys ++ names ∧
      Edit.applyAll (Edit.applyAll t defines) drops = t ∧ Edit.anomalies t (defines ++ drops) = []) ∧
    ∀ (s : State) (table blueprint blueprint' : String) (t : Table) (e e' : Expr)
      (later later' : List (String × List Expr)),
      e.chainRoot = .var blueprint → e.chainCalls = define :: later →
      e'.chainRoot = .var blueprint' → e'.chainCalls = drop :: later' →
      s.registry.table? table = some t → (∀ name ∈ names, t.hasColumn name = false) →
      (s.apply (.alter table blueprint [.expression e])).apply (.alter table blueprint' [.expression e']) = s := by
  obtain ⟨method, args⟩ := define
  obtain ⟨drop, dropArgs⟩ := drop
  have hedits : ∀ (t : Table) (nullable nullable' : Bool), (∀ name ∈ names, t.hasColumn name = false) →
      let defines := (classify method).edits args nullable
      let drops := (classify drop).edits dropArgs nullable'
      (Edit.applyAll t defines).columns.keys = t.columns.keys ++ names ∧
      Edit.applyAll (Edit.applyAll t defines) drops = t ∧ Edit.anomalies t (defines ++ drops) = [] := by
    intro t nullable nullable' habsent
    obtain ⟨columns, rfl, hnodup, hdefines, hdrops⟩ := h.exists_columns nullable nullable'
    simp only [hdefines, hdrops]
    exact Edit.applyAll_defining_dropping hnodup habsent
  refine ⟨hedits, fun s table blueprint blueprint' t e e' later later' hroot hcalls hroot' hcalls' ht habsent => ?_⟩
  obtain ⟨-, hback, hnone⟩ := hedits t (chainNullable method ((method, args) :: later))
    (chainNullable drop ((drop, dropArgs) :: later')) habsent
  simp only [State.apply, bodyEdits_of_chain hroot hcalls, bodyEdits_of_chain hroot' hcalls']
  exact State.alter_alter_of_undone ht hback hnone

/-- A polymorphic reference behind a column, nullable by a later call, in other spellings; and a moment of deletion that
is given no name. -/
theorem drop_undoes_define_tags :
    let tags : Table := ({ name := "tags" } : Table).setColumn (.ofStored "id" "int" false)
    let s : State := ⟨(∅ : Registry).insert tags, []⟩
    let reference : String × List Expr := ("ULIDMorphs", [.str "taggable", .null])
    let defining : Expr := .chain (.var "table") [reference, ("index", []), ("nullable", [])]
    let dropping : Expr := .chain (.var "t") [("dropmorphs", [.str "taggable"])]
    (∀ name ∈ ["taggable_type", "taggable_id"], tags.hasColumn name = false) ∧
    (Edit.applyAll tags ((classify "ULIDMorphs").edits reference.2 true)).columns.keys =
      ["id", "taggable_type", "taggable_id"] ∧
    (s.apply (.alter "tags" "table" [.expression defining])).apply (.alter "tags" "t" [.expression dropping]) = s ∧
    ∀ nullable, (Edit.applyAll tags ((classify "softDeletesTz").edits [] nullable)).columns.keys =
        ["id", "deleted_at"] ∧
      Edit.applyAll (Edit.applyAll tags ((classify "softDeletesTz").edits [] nullable))
        ((classify "dropSoftDeletes").edits [] nullable) = tags := by
  intro tags s reference defining dropping
  have hnames : ["taggable" ++ "_type", "taggable" ++ "_id"] = ["taggable_type", "taggable_id"] := by decide
  have hmorphs : Undoes ["taggable_type", "taggable_id"] reference ("dropmorphs", [.str "taggable"]) :=
    hnames ▸ @Undoes.morphs "taggable" "ULIDMorphs" "dropmorphs" [.null] [] ⟨"ulidMorphs", by simp, by decide⟩
      ⟨"dropMorphs", by simp, by decide⟩
  have hdeletes : Undoes ["deleted_at"] ("softDeletesTz", []) ("dropSoftDeletes", []) :=
    .softDeletes ⟨"softDeletesTz", by simp, by decide⟩ rfl ⟨"dropSoftDeletes", by simp, by decide⟩ rfl
  have habsent : ∀ name ∈ ["taggable_type", "taggable_id"], tags.hasColumn name = false := by decide
  obtain ⟨hedits, hcalls⟩ := drop_undoes_define hmorphs
  refine ⟨habsent, (hedits tags true false habsent).1,
    hcalls s "tags" "table" "t" tags defining dropping _ _ rfl rfl rfl rfl rfl habsent, fun nullable => ?_⟩
  obtain ⟨hkeys, hback, -⟩ := (drop_undoes_define hdeletes).1 tags nullable nullable (by decide)
  exact ⟨hkeys, hback⟩

end Schema
end DynamicMembers
