import DynamicMembers.Schema.Fold
/-!
# Well-formed schemas — names in step, and storage in a known word

A table stands under its own name in a registry and a column under its own name in a table, though every creation,
replacement and renaming writes the name in two places.  A column stores one of six words, the same for reading and
writing, and lists values only as an enumeration.  Edits bring only such columns and every operation keeps what is
there, so any migrations leave a well-formed schema (`ofMigrations_wellFormed`).
-/
namespace DynamicMembers

namespace OrderedMap

variable {κ α : Type}

/-- Every entry of a map has a property. -/
def Each (P : κ → α → Prop) (m : OrderedMap κ α) : Prop := ∀ e ∈ m.entries, P e.1 e.2

variable {P : κ → α → Prop} {m : OrderedMap κ α}

theorem each_empty : Each P (∅ : OrderedMap κ α) := fun _ he => nomatch he

/-- Values that stand under their own names are no two of the same name. -/
theorem Each.nodup_names {nameOf : α → κ} (h : m.Each fun k v => nameOf v = k) : (m.values.map nameOf).Nodup := by
  have hkeys : m.values.map nameOf = m.keys := by
    rw [values, keys, List.map_map]
    exact List.map_congr_left h
  rw [hkeys]
  exact m.nodup

variable [DecidableEq κ]

theorem Each.of_get? (h : m.Each P) {k : κ} {v : α} (hv : m.get? k = some v) : P k v := h _ (mem_entries_of_get? hv)

theorem Each.insert (h : m.Each P) {k : κ} {v : α} (hv : P k v) : (m.insert k v).Each P := by
  intro e he
  rcases mem_entries_insert he with rfl | he
  · exact hv
  · exact h e he

theorem Each.erase (h : m.Each P) (k : κ) : (m.erase k).Each P := fun e he => h e (mem_entries_erase he)

end OrderedMap

namespace Schema

open Code (Expr Stmt)

/-- The words in which storage is written. -/
def storageWords : List String := ["int", "string", "bool", "float", "mixed", "enum"]

theorem Storage.word_mem (storage : Storage) : storage.word ∈ storageWords := by cases storage <;> decide

/-- A column that stores one word, the same for reading and writing, and lists values only as an enumeration. -/
def Column.StoresWord (c : Column) : Prop :=
  ∃ word ∈ storageWords, c.readable = .textual word ∧ c.writable = .textual word ∧ (c.options ≠ [] → word = "enum")

structure Table.WellFormed (t : Table) : Prop where
  names : t.columns.Each fun name c => c.name = name
  stored : t.columns.Each fun _ c => c.StoresWord

structure Registry.WellFormed (r : Registry) : Prop where
  names : r.tables.Each fun name t => t.name = name
  tables : r.tables.Each fun _ t => t.WellFormed

/-! ## Columns that a blueprint brings -/

theorem Column.ofStored_storesWord (name : String) (storage : Storage) (nullable : Bool) :
    (ofStored name storage.word nullable).StoresWord :=
  ⟨storage.word, storage.word_mem, rfl, rfl, fun h => absurd rfl h⟩

/-- An edit that defines a column, if it defines one, which stores a word. -/
def Edit.WellFormed : Edit → Prop
  | set c => c.StoresWord
  | drop _ | rename _ _ => True

theorem Edit.wellFormed_set (name : String) (storage : Storage) (nullable : Bool) :
    (Edit.set (.ofStored name storage.word nullable)).WellFormed := Column.ofStored_storesWord name storage nullable

theorem Edit.wellFormed_momentColumn (name : String) : (momentColumn name).WellFormed :=
  wellFormed_set name .string true

/-- **Every blueprint operation brings columns that store a word.** -/
theorem ColumnOp.wellFormed_edits (op : ColumnOp) (args : List Expr) (nullable : Bool) :
    ∀ e ∈ op.edits args nullable, e.WellFormed := by
  intro e he
  cases op with
  | define storage =>
    obtain ⟨name, -, rfl⟩ := List.mem_map.1 he
    exact Edit.wellFormed_set name storage nullable
  | enum =>
    obtain ⟨name, -, rfl⟩ := List.mem_map.1 he
    exact ⟨"enum", by decide, rfl, rfl, fun _ => rfl⟩
  | id =>
    obtain rfl := List.mem_singleton.1 he
    exact Edit.wellFormed_set _ .int nullable
  | dropColumn =>
    obtain ⟨name, -, rfl⟩ := List.mem_map.1 he
    trivial
  | renameColumn =>
    simp only [ColumnOp.edits] at he
    split at he
    · obtain rfl := List.mem_singleton.1 he
      trivial
    · cases he
  | morphs storage =>
    obtain ⟨name, -, he⟩ := List.mem_flatMap.1 he
    simp only [List.mem_cons, List.not_mem_nil, or_false] at he
    rcases he with rfl | rfl
    · exact Edit.wellFormed_set _ .string nullable
    · exact Edit.wellFormed_set _ storage nullable
  | dropMorphs =>
    obtain ⟨name, -, he⟩ := List.mem_flatMap.1 he
    simp only [List.mem_cons, List.not_mem_nil, or_false] at he
    rcases he with rfl | rfl <;> trivial
  | timestamps =>
    simp only [ColumnOp.edits, List.mem_cons, List.not_mem_nil, or_false] at he
    rcases he with rfl | rfl <;> exact Edit.wellFormed_momentColumn _
  | dropTimestamps =>
    simp only [ColumnOp.edits, List.mem_cons, List.not_mem_nil, or_false] at he
    rcases he with rfl | rfl <;> trivial
  | softDeletes | rememberToken =>
    obtain rfl := List.mem_singleton.1 he
    exact Edit.wellFormed_momentColumn _
  | dropSoftDeletes | dropRememberToken =>
    obtain rfl := List.mem_singleton.1 he
    trivial
  | ignore => cases he

theorem wellFormed_bodyEdits (blueprint : String) (body : List Stmt) :
    ∀ e ∈ State.bodyEdits blueprint body, e.WellFormed := by
  intro e he
  obtain ⟨expr, -, he⟩ := List.mem_flatMap.1 he
  unfold exprEdits at he
  split at he
  · unfold chainEdits at he
    split at he
    · cases he
    · exact ColumnOp.wellFormed_edits _ _ _ e he
  · cases he

/-! ## What every operation keeps -/

namespace Table

variable {t : Table}

theorem wellFormed_new (name : String) : ({ name := name } : Table).WellFormed :=
  ⟨OrderedMap.each_empty, OrderedMap.each_empty⟩

theorem WellFormed.setColumn (h : t.WellFormed) {c : Column} (hc : c.StoresWord) : (t.setColumn c).WellFormed :=
  ⟨h.names.insert rfl, h.stored.insert hc⟩

theorem WellFormed.dropColumn (h : t.WellFormed) (name : String) : (t.dropColumn name).WellFormed :=
  ⟨h.names.erase name, h.stored.erase name⟩

/-- A renamed column takes its new name along, whatever stood there before. -/
theorem WellFormed.renameColumn (h : t.WellFormed) (old new : String) : (t.renameColumn old new).WellFormed := by
  unfold Table.renameColumn
  cases hc : t.column? old with
  | none => exact h
  | some c =>
    have hstored : c.StoresWord := h.stored.of_get? hc
    exact ⟨(h.names.erase old).insert rfl, (h.stored.erase old).insert hstored⟩

theorem WellFormed.edit (h : t.WellFormed) {e : Edit} (he : e.WellFormed) : (e.apply t).WellFormed := by
  cases e with
  | set c => exact h.setColumn he
  | drop name => exact h.dropColumn name
  | rename old new => exact h.renameColumn old new

@[simp] theorem name_renameColumn (t : Table) (old new : String) : (t.renameColumn old new).name = t.name := by
  unfold Table.renameColumn
  cases t.column? old <;> rfl

@[simp] theorem name_edit (t : Table) (e : Edit) : (e.apply t).name = t.name := by
  cases e with
  | set c => rfl
  | drop name => rfl
  | rename old new => exact name_renameColumn t old new

/-- Edits keep a table well-formed, and its name. -/
theorem WellFormed.edits : ∀ {edits : List Edit} {t : Table}, t.WellFormed → (∀ e ∈ edits, e.WellFormed) →
    (Edit.applyAll t edits).WellFormed ∧ (Edit.applyAll t edits).name = t.name
  | [], _, h, _ => ⟨h, rfl⟩
  | e :: es, t, h, hes => by
    obtain ⟨hrest, hname⟩ :=
      WellFormed.edits (h.edit (hes e List.mem_cons_self)) (fun d hd => hes d (List.mem_cons_of_mem e hd))
    exact ⟨hrest, hname.trans (name_edit t e)⟩

end Table

namespace Registry

variable {r : Registry}

theorem wellFormed_empty : (∅ : Registry).WellFormed := ⟨OrderedMap.each_empty, OrderedMap.each_empty⟩

theorem WellFormed.insert (h : r.WellFormed) {t : Table} (ht : t.WellFormed) : (r.insert t).WellFormed :=
  ⟨h.names.insert rfl, h.tables.insert ht⟩

theorem WellFormed.erase (h : r.WellFormed) (name : String) : (r.erase name).WellFormed :=
  ⟨h.names.erase name, h.tables.erase name⟩

theorem WellFormed.update (h : r.WellFormed) {name : String} {t : Table} (hname : t.name = name) (ht : t.WellFormed) :
    (r.update name t).WellFormed := ⟨h.names.insert hname, h.tables.insert ht⟩

/-- A renamed table takes its new name along, onto another table or onto itself. -/
theorem WellFormed.rename (h : r.WellFormed) (old new : String) : (r.rename old new).WellFormed := by
  unfold Registry.rename
  cases ht : r.table? old with
  | none => exact h
  | some t =>
    have htable : t.WellFormed := h.tables.of_get? ht
    have hrenamed : ({ t with name := new } : Table).WellFormed := ⟨htable.names, htable.stored⟩
    exact (h.erase old).insert hrenamed

end Registry

namespace State

variable {s : State}

theorem wellFormed_alter (h : s.registry.WellFormed) (table : String) {edits : List Edit}
    (hedits : ∀ e ∈ edits, e.WellFormed) : (s.alter table edits).registry.WellFormed := by
  unfold alter
  cases ht : s.registry.table? table with
  | none => exact h
  | some t =>
    obtain ⟨hedited, hname⟩ := (h.tables.of_get? ht).edits hedits
    exact h.update (hname.trans (h.names.of_get? ht)) hedited

/-- **Every schema call keeps a registry well-formed.** -/
theorem wellFormed_apply (h : s.registry.WellFormed) (call : Call) : (s.apply call).registry.WellFormed := by
  cases call with
  | create table blueprint body =>
    have hcreated : ({ s with registry := s.registry.insert { name := table } } : State).registry.WellFormed :=
      h.insert (Table.wellFormed_new table)
    exact wellFormed_alter hcreated table (wellFormed_bodyEdits blueprint body)
  | alter table blueprint body => exact wellFormed_alter h table (wellFormed_bodyEdits blueprint body)
  | drop table =>
    simp only [apply]
    split
    · exact h
    · exact h.erase table
  | rename old new =>
    simp only [apply]
    split
    · exact h
    · exact h.rename old new

theorem wellFormed_calls : ∀ (calls : List Call) {s : State}, s.registry.WellFormed →
    (calls.foldl apply s).registry.WellFormed
  | [], _, h => h
  | call :: calls, _, h => wellFormed_calls calls (wellFormed_apply h call)

theorem wellFormed_migrations : ∀ (migrations : List (List Stmt)) {s : State}, s.registry.WellFormed →
    (migrations.foldl addStatements s).registry.WellFormed
  | [], _, h => h
  | stmts :: migrations, _, h => wellFormed_migrations migrations (wellFormed_calls (callsIn stmts) h)

/-- **Any migrations leave a well-formed schema.**  Every table stands under its own name and every column under its
own, no name occurs twice, and every column stores one of the six words, with values listed only for `enum`. -/
theorem ofMigrations_wellFormed (migrations : List (List Stmt)) :
    let r := (ofMigrations migrations).registry
    (∀ e ∈ r.tables.entries, e.2.name = e.1) ∧ (r.tables.values.map Table.name).Nodup ∧
    ∀ t ∈ r.tables.values, (∀ e ∈ t.columns.entries, e.2.name = e.1) ∧ (t.columns.values.map Column.name).Nodup ∧
      ∀ c ∈ t.columns.values, ∃ word ∈ ["int", "string", "bool", "float", "mixed", "enum"],
        c.readable = .textual word ∧ c.writable = .textual word ∧ (c.options ≠ [] → word = "enum") := by
  intro r
  have h : r.WellFormed := wellFormed_migrations migrations Registry.wellFormed_empty
  refine ⟨h.names, h.names.nodup_names, fun t ht => ?_⟩
  obtain ⟨entry, hentry, rfl⟩ := List.mem_map.1 ht
  have htable : entry.2.WellFormed := h.tables entry hentry
  refine ⟨htable.names, htable.names.nodup_names, fun c hc => ?_⟩
  obtain ⟨column, hcolumn, rfl⟩ := List.mem_map.1 hc
  exact htable.stored column hcolumn

end State
end Schema
end DynamicMembers
