import DynamicMembers.Proofs.Schema.Creation
import DynamicMembers.Proofs.Schema.Locality
/-!
# Renaming — what stands under a name is moved to another, and nothing else

Columns in a table and tables in a registry are renamed alike: the value of a key is erased and set again under the new
key, with its name changed on the way.  What such a move does is said once for maps; both renamings are read off it
(`rename_carries`).
-/
namespace DynamicMembers

/-! ## Moving a value to another key -/

namespace OrderedMap

variable {κ α : Type}

theorem size_eq_length_keys (m : OrderedMap κ α) : m.size = m.keys.length := (List.length_map ..).symm

variable [DecidableEq κ]

/-- Moves the value of a key to another key, changed on the way; nothing happens when there is no such key. -/
def move (m : OrderedMap κ α) (f : α → α) (old new : κ) : OrderedMap κ α :=
  match m.get? old with
  | none => m
  | some v => (m.erase old).insert new (f v)

/-- What a map becomes when the value of a key is moved to another. -/
structure Moved (m : OrderedMap κ α) (old new : κ) (v : α) (m' : OrderedMap κ α) : Prop where
  value : m'.get? new = some v
  gone : old ≠ new → m'.get? old = none
  /-- Under any other key there is what there was. -/
  kept : ∀ k, k ≠ old → k ≠ new → m'.get? k = m.get? k
  /-- The entries of the other keys stand in their order. -/
  others : m'.entries.filter (·.1 ∉ [old, new]) = m.entries.filter (·.1 ∉ [old, new])
  /-- The new key takes the place of one that is overwritten, or else the last place. -/
  keys : m'.keys = if new ≠ old ∧ new ∈ m.keys then m.keys.erase old else m.keys.erase old ++ [new]
  /-- A value is lost, and then one only, where the new key was another one in use. -/
  size : m'.size = if new ≠ old ∧ new ∈ m.keys then m.size - 1 else m.size

theorem map_fst_drop (k : κ) : ∀ l : List (κ × α), (drop k l).map Prod.fst = (l.map Prod.fst).filter (· != k)
  | [] => rfl
  | (j, v) :: l => by
    by_cases h : j = k
    · simp [drop, h, map_fst_drop k l]
    · simp [drop, h, map_fst_drop k l]

theorem keys_erase (m : OrderedMap κ α) (k : κ) : (m.erase k).keys = m.keys.erase k :=
  (map_fst_drop k m.entries).trans (m.nodup.erase_eq_filter k).symm

theorem keys_insert_of_not_mem {m : OrderedMap κ α} {k : κ} (h : k ∉ m.keys) (v : α) :
    (m.insert k v).keys = m.keys ++ [k] := by
  have hentries : (m.insert k v).entries = m.entries ++ [(k, v)] :=
    put_of_lookup_eq_none k v m.entries ((get?_eq_none_iff m k).2 h)
  rw [keys, hentries, List.map_append]
  rfl

variable {m : OrderedMap κ α} {old new : κ} {v : α}

theorem mem_keys_of_get? (h : m.get? old = some v) : old ∈ m.keys := by
  refine Decidable.byContradiction fun hn => ?_
  rw [(get?_eq_none_iff m old).2 hn] at h
  cases h

/-- A key is in use after another was erased when it was in use and is not the one erased. -/
theorem mem_keys_erase_iff : new ∈ (m.erase old).keys ↔ new ≠ old ∧ new ∈ m.keys := by
  rw [keys_erase]
  exact m.nodup.mem_erase_iff

theorem keys_insert_erase (m : OrderedMap κ α) (old new : κ) (v : α) : ((m.erase old).insert new v).keys =
    if new ≠ old ∧ new ∈ m.keys then m.keys.erase old else m.keys.erase old ++ [new] := by
  by_cases h : new ∈ (m.erase old).keys
  · rw [keys_insert_of_mem h, keys_erase, if_pos (mem_keys_erase_iff.1 h)]
  · rw [keys_insert_of_not_mem h, keys_erase, if_neg (fun hc => h (mem_keys_erase_iff.2 hc))]

/-- **Moving a value carries it and loses nothing else**, except what stood under the new key. -/
theorem moved_of_get? (f : α → α) (new : κ) (h : m.get? old = some v) : m.Moved old new (f v) (m.move f old new) := by
  rw [move, h]
  have hold : old ∈ m.keys := mem_keys_of_get? h
  have hkeys := keys_insert_erase m old new (f v)
  refine ⟨?_, fun hne => ?_, fun k hkold hknew => ?_, ?_, hkeys, ?_⟩
  · rw [get?_insert, if_pos rfl]
  · rw [get?_insert, if_neg (Ne.symm hne), get?_erase, if_pos rfl]
  · rw [get?_insert, if_neg (Ne.symm hknew), get?_erase, if_neg (Ne.symm hkold)]
  · exact (filter_put (p := fun k => k ∉ [old, new]) (by simp) (f v) _).trans
      (filter_drop (p := fun k => k ∉ [old, new]) (by simp) m.entries)
  · have hpos : 0 < m.keys.length := List.length_pos_of_mem hold
    rw [size_eq_length_keys, hkeys, size_eq_length_keys]
    split
    · exact List.length_erase_of_mem hold
    · rw [List.length_append, List.length_erase_of_mem hold, List.length_singleton, Nat.sub_add_cancel hpos]

theorem move_of_get?_eq_none (f : α → α) (new : κ) (h : m.get? old = none) : m.move f old new = m := by
  rw [move, h]

/-- A value that is moved to a free key and back is there as it was, in all that the changes on the way leave alone. -/
theorem map_get?_move_back {β : Type} (f g : α → α) (d : α → β) (hfree : m.get? new = none)
    (hd : ∀ v, m.get? old = some v → d (g (f v)) = d v) (k : κ) :
    (((m.move f old new).move g new old).get? k).map d = (m.get? k).map d := by
  cases h : m.get? old with
  | none => rw [move_of_get?_eq_none f new h, move_of_get?_eq_none g old hfree]
  | some v =>
    have hmoved := moved_of_get? f new h
    have hback := moved_of_get? g old hmoved.value
    by_cases hold : k = old
    · rw [hold, hback.value, h]
      exact congrArg some (hd v h)
    by_cases hnew : k = new
    · rw [hnew, hback.gone (fun he => hold (hnew.trans he)), hfree]
    · rw [hback.kept k hnew hold, hmoved.kept k hold hnew]

end OrderedMap

namespace Schema

open Code (Expr Stmt)

/-! ## Columns and tables under another name -/

/-- What a column is apart from its name. -/
def Column.definition (c : Column) : TypeExpr × TypeExpr × Bool × List String :=
  (c.readable, c.writable, c.nullable, c.options)

def Column.named (c : Column) (name : String) : Column := { c with name }

def Table.named (t : Table) (name : String) : Table := { t with name }

namespace Table

variable {t : Table} {old : String}

theorem renameColumn_eq (t : Table) (old new : String) :
    t.renameColumn old new = { t with columns := t.columns.move (·.named new) old new } := by
  unfold renameColumn OrderedMap.move column?
  cases t.columns.get? old <;> rfl

theorem moved_renameColumn {c : Column} (new : String) (h : t.column? old = some c) :
    t.columns.Moved old new (c.named new) (t.renameColumn old new).columns := by
  rw [renameColumn_eq]
  exact OrderedMap.moved_of_get? (·.named new) new h

theorem anomaly?_rename (t : Table) (old new : String) :
    (Edit.rename old new).anomaly? t = if t.hasColumn old then none else some (.unknownColumn t.name old .rename) := rfl

theorem map_column?_rename_back {β : Type} {new : String} (d : Column → β) (hfree : t.hasColumn new = false)
    (hd : ∀ c, t.column? old = some c → d { c with name := old } = d c) (name : String) :
    (((t.renameColumn old new).renameColumn new old).column? name).map d = (t.column? name).map d := by
  have hnone : t.columns.get? new = none := (OrderedMap.get?_eq_none_iff _ _).2 (hasColumn_eq_false_iff.1 hfree)
  rw [renameColumn_eq, renameColumn_eq]
  exact OrderedMap.map_get?_move_back (Column.named · new) (Column.named · old) d hnone hd name

theorem column?_rename_back {new : String} (hfree : t.hasColumn new = false)
    (hname : ∀ c, t.column? old = some c → c.name = old) (name : String) :
    ((t.renameColumn old new).renameColumn new old).column? name = t.column? name := by
  have hback := map_column?_rename_back id hfree (fun c hc => by rw [← hname c hc]) name
  rwa [Option.map_id_fun, id, id] at hback

end Table

namespace Registry

variable {r : Registry} {old : String}

theorem rename_eq (r : Registry) (old new : String) :
    r.rename old new = { tables := r.tables.move (·.named new) old new } := by
  unfold rename OrderedMap.move table?
  cases r.tables.get? old <;> rfl

theorem moved_rename {t : Table} (new : String) (h : r.table? old = some t) :
    r.tables.Moved old new (t.named new) (r.rename old new).tables := by
  rw [rename_eq]
  exact OrderedMap.moved_of_get? (·.named new) new h

theorem map_table?_rename_back {β : Type} {new : String} (d : Table → β) (hfree : r.table? new = none)
    (hd : ∀ t, r.table? old = some t → d { t with name := old } = d t) (name : String) :
    (((r.rename old new).rename new old).table? name).map d = (r.table? name).map d := by
  rw [rename_eq, rename_eq]
  exact OrderedMap.map_get?_move_back (Table.named · new) (Table.named · old) d hfree hd name

theorem table?_rename_back {new : String} (hfree : r.table? new = none)
    (hname : ∀ t, r.table? old = some t → t.name = old) (name : String) :
    ((r.rename old new).rename new old).table? name = r.table? name := by
  have hback := map_table?_rename_back id hfree (fun t ht => by rw [← hname t ht]) name
  rwa [Option.map_id_fun, id, id] at hback

end Registry

/-! ## The call that renames a table -/

namespace State

variable {s : State} {old : String}

theorem apply_rename_of_absent (new : String) (h : s.registry.table? old = none) :
    s.apply (.rename old new) = s.note (.unknownTable old .rename) := by
  simp only [apply, h]

theorem apply_rename_of_table? {t : Table} (new : String) (h : s.registry.table? old = some t) :
    s.apply (.rename old new) = { s with registry := s.registry.rename old new } := by
  simp only [apply, h]

theorem registry_apply_rename (s : State) (old new : String) :
    (s.apply (.rename old new)).registry = s.registry.rename old new := by
  cases h : s.registry.table? old with
  | none => rw [apply_rename_of_absent new h, Registry.rename_of_absent new h, note]
  | some t => rw [apply_rename_of_table? new h]

end State

/-- A call on the schema that renames a table: both names in writing. -/
inductive Renames (old new : String) : Expr → Prop
  | call {e : Expr} {method : String} {rest : List Expr}
    (hcall : Call.onSchema? e = some (method, .str old :: .str new :: rest))
    (hmethod : Text.sameIgnoringCase method "rename" = true) : Renames old new e

theorem Renames.ofExpr? {e : Expr} {old new : String} (h : Renames old new e) :
    Call.ofExpr? e = some (.rename old new) := by
  obtain ⟨hcall, hmethod⟩ := h
  have hlower : Text.lower _ = Text.lower "rename" := of_decide_eq_true hmethod
  have hrename : Text.lower "rename" = "rename" := by decide
  simp [Call.ofExpr?, hcall, hlower.trans hrename]

/-- **Renaming carries everything and loses nothing else.**  A column that is renamed stands under its new name with the
definition it had, a table with its columns in their order; the old name is free unless it is the new one, the others
stay as they are and in their order, and one is lost only where the new name was another's.  What is absent is not
renamed: nothing changes, and an anomaly says so.  Renaming to a free name and back gives every name what it had. -/
theorem rename_carries :
    (∀ (t : Table) (old new : String), (t.renameColumn old new).name = t.name ∧
      (∀ c, t.column? old = some c → t.columns.Moved old new { c with name := new } (t.renameColumn old new).columns ∧
        (Edit.rename old new).anomaly? t = none) ∧
      (t.hasColumn old = false → t.renameColumn old new = t ∧
        (Edit.rename old new).anomaly? t = some (.unknownColumn t.name old .rename)) ∧
      (t.hasColumn new = false →
        (∀ name, (((t.renameColumn old new).renameColumn new old).column? name).map Column.definition =
          (t.column? name).map Column.definition) ∧
        ((∀ c, t.column? old = some c → c.name = old) →
          ∀ name, ((t.renameColumn old new).renameColumn new old).column? name = t.column? name))) ∧
    ∀ (e : Expr) (old new : String), Renames old new e → ∃ call : Call, Call.ofExpr? e = some call ∧ ∀ s : State,
      (∀ t, s.registry.table? old = some t →
        s.registry.tables.Moved old new { t with name := new } (s.apply call).registry.tables ∧
        (s.apply call).anomalies = s.anomalies) ∧
      (s.registry.table? old = none → s.apply call = s.note (.unknownTable old .rename)) ∧
      (s.registry.table? new = none →
        (∀ name, (((s.apply call).apply (.rename new old)).registry.table? name).map Table.columns =
          (s.registry.table? name).map Table.columns) ∧
        ((∀ t, s.registry.table? old = some t → t.name = old) →
          ∀ name, ((s.apply call).apply (.rename new old)).registry.table? name = s.registry.table? name)) := by
  refine ⟨fun t old new => ⟨Table.name_renameColumn t old new, fun c hc => ?_, fun habsent => ?_, fun hfree => ?_⟩,
    fun e old new h => ⟨_, h.ofExpr?, fun s => ⟨fun t ht => ?_, State.apply_rename_of_absent new, fun hfree => ?_⟩⟩⟩
  · have hhas : t.hasColumn old = true := by rw [Table.hasColumn, hc, Option.isSome_some]
    exact ⟨Table.moved_renameColumn new hc, by rw [Table.anomaly?_rename, if_pos hhas]⟩
  · refine ⟨Table.renameColumn_of_absent new habsent, ?_⟩
    rw [Table.anomaly?_rename, habsent]
    rfl
  · exact ⟨Table.map_column?_rename_back _ hfree fun _ _ => rfl, Table.column?_rename_back hfree⟩
  · rw [State.apply_rename_of_table? new ht]
    exact ⟨Registry.moved_rename new ht, rfl⟩
  · rw [State.registry_apply_rename, State.registry_apply_rename]
    exact ⟨Registry.map_table?_rename_back _ hfree fun _ _ => rfl, Registry.table?_rename_back hfree⟩

/-- Two columns: one takes the other's name, its own, a free one and that back; one that is not there takes none.  Then
their table takes the name of another on a connection, and a free one and back. -/
theorem rename_carries_users :
    let mail : Column := .ofStored "mail" "string" true
    let users : Table := (({ name := "users" } : Table).setColumn mail).setColumn (.ofStored "age" "int" false)
    let s : State := ⟨((∅ : Registry).insert users).insert { name := "people" }, []⟩
    let onUsers (new : String) : Expr :=
      .methodCall (.staticCall "Schema" "connection" [.str "main"]) "Rename" [.str "users", .str new, .null]
    (users.columns.Moved "mail" "age" { mail with name := "age" } (users.renameColumn "mail" "age").columns ∧
      (users.renameColumn "mail" "age").columns.keys = ["age"]) ∧
    (users.columns.Moved "mail" "mail" mail (users.renameColumn "mail" "mail").columns ∧
      (users.renameColumn "mail" "mail").columns.keys = ["age", "mail"]) ∧
    (∀ name, ((users.renameColumn "mail" "post").renameColumn "post" "mail").column? name = users.column? name) ∧
    users.renameColumn "post" "age" = users ∧
    (∃ call : Call, Call.ofExpr? (onUsers "people") = some call ∧
      s.registry.tables.Moved "users" "people" { users with name := "people" } (s.apply call).registry.tables) ∧
    ∃ call : Call, Call.ofExpr? (onUsers "members") = some call ∧
      ∀ name, ((s.apply call).apply (.rename "members" "users")).registry.table? name = s.registry.table? name := by
  intro mail users s onUsers
  have hrenames : ∀ new, Renames "users" new (onUsers new) := fun new => .call rfl (by decide)
  obtain ⟨hcolumns, htables⟩ := rename_carries
  obtain ⟨people, hpeople, hmoved⟩ := htables (onUsers "people") "users" "people" (hrenames "people")
  obtain ⟨members, hmembers, hback⟩ := htables (onUsers "members") "users" "members" (hrenames "members")
  refine ⟨⟨((hcolumns users "mail" "age").2.1 mail rfl).1, rfl⟩, ⟨((hcolumns users "mail" "mail").2.1 mail rfl).1, rfl⟩,
    ((hcolumns users "mail" "post").2.2.2 rfl).2 ?_, ((hcolumns users "post" "age").2.2.1 rfl).1,
    ⟨people, hpeople, ((hmoved s).1 users rfl).1⟩, members, hmembers, ((hback s).2.2 rfl).2 ?_⟩
  · rintro c hc
    obtain rfl : mail = c := Option.some.inj hc
    rfl
  · rintro t ht
    obtain rfl : users = t := Option.some.inj ht
    rfl

end Schema
end DynamicMembers
