import DynamicMembers.Proofs.Class.Index
import DynamicMembers.Proofs.Property.History
import DynamicMembers.Proofs.Text.Case
import DynamicMembers.Proofs.Value.RoundTrip
import DynamicMembers.Schema.Fold
/-!
# Readable properties — a property that exists can be read

What is decided about a column is written as types with bars between them (`Spells`): keywords, and class names that are
proper because the date class is and because a cast counts as a class only where the index knows it.  Such a text is
read, and as a normal type, so a property that is found is read as normal types (`getProperty_ok_of_hasProperty`).
-/
namespace DynamicMembers

open Schema (Registry State)
open Code (Stmt)

/-! ## Written types -/

namespace PhpDoc

/-- A text that writes types, none of them a union, with bars between them. -/
structure Spells (text : String) (types : List PhpType) : Prop where
  nonempty : types ≠ []
  plain : ∀ t ∈ types, t.isUnion = false ∧ t.WellNamed
  toList_eq : text.toList = Text.join '|' (types.map PhpType.chars)

namespace Spells

variable {a b : String} {l m : List PhpType}

theorem resolve_eq (h : Spells a l) : resolve a = .ok (.unionOf l) := by
  rw [resolve_ok_iff, h.toList_eq, read_join h.nonempty h.plain]

theorem normalized (h : Spells a l) : (PhpType.unionOf l).Normalized :=
  PhpType.unionOf_normalized (fun t ht => PhpType.normalized_of_not_union (h.plain t ht).1)

theorem single {t : PhpType} (hu : t.isUnion = false) (hw : t.WellNamed) (htext : a.toList = t.chars) :
    Spells a [t] := by
  refine ⟨List.cons_ne_nil t [], fun u hu' => ?_, htext⟩
  obtain rfl := List.mem_singleton.1 hu'
  exact ⟨hu, hw⟩

theorem bar (ha : Spells a l) (hb : Spells b m) : Spells (a ++ "|" ++ b) (l ++ m) where
  nonempty := List.append_ne_nil_of_left_ne_nil ha.nonempty m
  plain t ht := (List.mem_append.1 ht).elim (ha.plain t) (hb.plain t)
  toList_eq := by
    have hl : l.map PhpType.chars ≠ [] := by simpa using ha.nonempty
    have hm : m.map PhpType.chars ≠ [] := by simpa using hb.nonempty
    rw [String.toList_append, String.toList_append, ha.toList_eq, hb.toList_eq, List.map_append,
      Text.join_append '|' hm hl, List.append_assoc]
    rfl

/-- A keyword stands for its type. -/
theorem keyword {t : PhpType} (hu : t.isUnion = false) (hn : ∀ name, t ≠ .named name) (htext : a.toList = t.chars) :
    Spells a [t] := single hu (proper_of_plain hu hn).2 htext

theorem qualified {name : String} (h : isClassPath (Name.bare name).toList = true) :
    Spells (Name.qualified name) [.named (Name.bare name)] := by
  refine single rfl (fun other ho => ?_) ?_
  · have hname : PhpType.named other = .named (Name.bare name) := List.mem_singleton.1 ho
    cases hname
    exact h
  · rw [Name.qualified, String.toList_append]
    rfl

theorem null : Spells "null" [.null] := keyword rfl (by simp) rfl

theorem string : Spells "string" [.string] := keyword rfl (by simp) rfl

theorem nullSuffix (h : Spells a l) (f : ColumnFacts) :
    Spells (a ++ f.nullSuffix) (l ++ if f.nullable then [.null] else []) := by
  unfold ColumnFacts.nullSuffix
  cases f.nullable with
  | true =>
    have hbar := h.bar null
    rw [String.append_assoc] at hbar
    exact hbar
  | false =>
    rw [if_neg (by decide), if_neg (by decide), String.append_empty, List.append_nil]
    exact h

end Spells
end PhpDoc
/-! ## Decided pairs -/

open PhpDoc (Spells isClassPath)

/-- An expression that is read as a type in normal form. -/
def TypeExpr.ReadsNormal (e : TypeExpr) : Prop := ∃ t, e.resolve PhpDoc.resolve = .ok t ∧ t.Normalized

theorem TypeExpr.ReadsNormal.resolved {t : PhpType} (h : t.Normalized) : (TypeExpr.resolved t).ReadsNormal :=
  ⟨t, rfl, h⟩

theorem TypeExpr.ReadsNormal.textual {text : String} {types : List PhpType} (h : Spells text types) :
    (TypeExpr.textual text).ReadsNormal := ⟨_, h.resolve_eq, h.normalized⟩

/-- A pair of which both expressions are read as types in normal form. -/
structure TypePair.ReadsNormal (p : TypePair) : Prop where
  readable : p.readable.ReadsNormal
  writable : p.writable.ReadsNormal

theorem TypePair.ReadsNormal.both {e : TypeExpr} (h : e.ReadsNormal) : (TypePair.both e).ReadsNormal := ⟨h, h⟩

namespace Decision

/-- Dates are written as one class or two. -/
theorem dateType_spells {dateClass : String} (h : isClassPath (Name.bare dateClass).toList = true) :
    ∃ names : List String, Spells (dateType dateClass) (names.map .named) := by
  have hdate := Spells.qualified h
  unfold dateType
  by_cases hsame : Name.sameClass dateClass carbon = true
  · rw [if_pos hsame]
    exact ⟨[_], hdate⟩
  · rw [if_neg hsame]
    have hcarbon : Spells (Name.qualified carbon) _ := Spells.qualified (by decide +kernel)
    exact ⟨[_, _], hdate.bar hcarbon⟩

theorem truthPair_readsNormal : truthPair.ReadsNormal where
  readable := .resolved trivial
  writable := .resolved (PhpType.unionOf_normalized (by simp [PhpType.Normalized]))

theorem enumPair_readsNormal (options : List String) : (enumPair options).ReadsNormal := by
  unfold enumPair
  split
  · exact .both (.textual .string)
  · refine .both (.resolved (PhpType.unionOf_normalized (fun t ht => ?_)))
    obtain ⟨value, -, rfl⟩ := List.mem_map.1 ht
    trivial

/-- Whatever a storage type or a cast of its name decides is read. -/
theorem dispatch_readsNormal {type : String} {f : ColumnFacts} {pair : TypePair} (h : dispatch type f = some pair) :
    pair.ReadsNormal := by
  have hword : ∀ {word : String} {t : PhpType}, Spells word [t] →
      (TypePair.both (.textual (word ++ f.nullSuffix))).ReadsNormal := fun hw =>
    .both (.textual (hw.nullSuffix f))
  unfold dispatch at h
  split at h
  all_goals cases h
  · exact hword .string
  · exact hword (.keyword rfl (t := .int) (by simp) rfl)
  · exact hword (.keyword rfl (t := .float) (by simp) rfl)
  · exact truthPair_readsNormal
  · exact truthPair_readsNormal
  · exact enumPair_readsNormal f.options

/-- A cast that no storage type shares is written as a keyword, as dates are or as a proper class name. -/
theorem castType_spells {date name : String} {known : String → Bool} (hdate : ∃ types, Spells date types)
    (hknown : known name = true → isClassPath (Name.bare name).toList = true) :
    ∃ types, Spells (castType date name known) types := by
  unfold castType
  split
  · exact ⟨_, .keyword rfl (t := .array) (by simp) rfl⟩
  · exact ⟨_, .keyword rfl (t := .array) (by simp) rfl⟩
  · exact ⟨_, .keyword rfl (t := .object) (by simp) rfl⟩
  · exact hdate
  · exact hdate
  · exact hdate
  · exact hdate
  · have hcollection : Spells (Name.qualified collection) _ := .qualified (by decide +kernel)
    exact ⟨_, hcollection⟩
  · -- an unknown name may be any text, but then it is not written
    by_cases hk : known name = true
    · rw [if_pos hk]
      exact ⟨_, .qualified (hknown hk)⟩
    · rw [if_neg hk]
      exact ⟨_, .keyword rfl (t := .mixed) (by simp) rfl⟩

/-- **Every decision is read as normal types**, when dates are and the known classes have proper names. -/
theorem typePair_readsNormal {date : String} {known : String → Bool} (hdate : ∃ types, Spells date types)
    (hknown : ∀ name, known name = true → isClassPath (Name.bare name).toList = true) (f : ColumnFacts) :
    (typePair date f known).ReadsNormal := by
  have hmixed : TypePair.mixed.ReadsNormal :=
    .both (.textual (.keyword rfl (t := .mixed) (by simp) rfl))
  unfold typePair
  split
  · obtain ⟨types, hdate⟩ := hdate
    have hwritable : Spells (date ++ "|" ++ "string") (types ++ [.string]) := hdate.bar .string
    rw [String.append_assoc] at hwritable
    exact ⟨.textual (hdate.nullSuffix f), .textual (hwritable.nullSuffix f)⟩
  · split
    · rename_i cast _
      unfold ofCast
      simp only
      cases hd : dispatch (canonicalCast (Text.lower (castName cast))) f with
      | some pair => exact dispatch_readsNormal hd
      | none =>
        obtain ⟨types, hcast⟩ := castType_spells hdate (hknown (castName cast))
        exact .both (.textual hcast)
    · cases hd : dispatch f.storedType f with
      | some pair => exact dispatch_readsNormal hd
      | none => exact hmixed

end Decision

/-! ## Properties -/

theorem ClassIndex.isClassPath_of_knows {x : ClassIndex}
    (hnames : ∀ c ∈ x.classes.values, isClassPath (Name.bare c.name).toList = true) {name : String}
    (h : x.knows name = true) : isClassPath (Name.bare name).toList = true := by
  obtain ⟨c, hc⟩ := Option.isSome_iff_exists.1 h
  rw [← PhpDoc.isClassPath_of_classKey_eq (ClassIndex.key_of_find? hc)]
  exact hnames c (mem_values_of_find? hc)

namespace PropertyRules

variable {rules : PropertyRules}

theorem decision?_readsNormal
    (hnames : ∀ d ∈ rules.index.classes.values, isClassPath (Name.bare d.name).toList = true)
    (hdate : isClassPath (Name.bare rules.dateClass).toList = true) {r : Registry} {c : ClassInfo} {property : String}
    {pair : TypePair} (h : rules.decision? r c property = some pair) : pair.ReadsNormal := by
  unfold decision? at h
  cases hclaimed : rules.claimed c property with
  | some reason =>
    rw [hclaimed] at h
    cases h
  | none =>
    rw [hclaimed] at h
    obtain ⟨column, -, rfl⟩ := Option.map_eq_some_iff.1 h
    obtain ⟨names, hspells⟩ := Decision.dateType_spells hdate
    exact Decision.typePair_readsNormal ⟨_, hspells⟩ (fun _ => ClassIndex.isClassPath_of_knows hnames) _

/-- A decision of which both halves are read gives a property. -/
theorem readAs_decided (htypes : rules.types = PhpDoc.resolve) {pair : TypePair} (h : pair.ReadsNormal) (r : Registry)
    (c : ClassInfo) (property : String) : ∃ p, readAs r c property (some (readings rules.types pair)) = .ok p ∧
      p.readable.Normalized ∧ p.writable.Normalized := by
  obtain ⟨t, ht, htn⟩ := h.readable
  obtain ⟨u, hu, hun⟩ := h.writable
  refine ⟨⟨c.name, t, u⟩, ?_, htn, hun⟩
  rw [readings, htypes, ht, hu]
  rfl

/-- **A property that exists can be read.**  When a new resolver over the schema of any migrations answers that a
property exists, reading it next gives normal types, whatever the class says of its table, casts and dates. -/
theorem getProperty_ok_of_hasProperty (rules : PropertyRules) (htypes : rules.types = PhpDoc.resolve)
    (hnames : ∀ d ∈ rules.index.classes.values, isClassPath (Name.bare d.name).toList = true)
    (hdate : isClassPath (Name.bare rules.dateClass).toList = true) (migrations : List (List Stmt)) (c : ClassInfo)
    (property : String) {s : PropertyState}
    (h : rules.hasProperty (.fixed (State.ofMigrations migrations).registry) {} c property = (.ok true, s)) :
    ∃ p s', rules.getProperty (.fixed (State.ofMigrations migrations).registry) s c property = (.ok p, s') ∧
      p.readable.Normalized ∧ p.writable.Normalized := by
  -- columns of any stored type are read, so nothing need be known of the schema
  generalize (State.ofMigrations migrations).registry = r at h ⊢
  obtain ⟨hanswer, hloaded, hdecisions⟩ := rules.hasProperty_fixed (s := {}) (loaded_of_none rfl) c property
  rw [h] at hanswer hloaded hdecisions
  have hfound : (rules.outcome r c property).found = true := (Except.ok.inj hanswer).symm
  have hget := (rules.getProperty_fixed hloaded c property).1
  suffices ∃ p, (rules.getProperty (.fixed r) s c property).1 = .ok p ∧
      p.readable.Normalized ∧ p.writable.Normalized by
    obtain ⟨p, hp, hnormal⟩ := this
    exact ⟨p, _, Prod.ext hp rfl, hnormal⟩
  rw [hget]
  simp only at hdecisions
  rcases rules.decided_or_implicit hfound with ⟨pair, hpair⟩ | ⟨hnone, hid⟩
  · rw [hdecisions, hpair, OrderedMap.get?_insert, if_pos rfl]
    exact readAs_decided htypes (decision?_readsNormal hnames hdate hpair) r c property
  · rw [hdecisions, hnone]
    exact ⟨⟨c.name, .int, .int⟩, if_pos hid, trivial, trivial⟩

/-- Members whose state is cast to a class under another spelling of its name, in an analysis with dates of its own. -/
def memberRules : PropertyRules where
  index := .ofList [{ name := "Model" }, { name := "App\\State" }, { name := "App\\Member", parent := some "\\MODEL" }]
  modelClass := "Model"
  dateClass := "\\\\App\\Moment"

def member : ClassInfo where
  name := "App\\Member"
  parent := some "\\MODEL"
  record := some
    { table := some "members", casts := .ofList [("state", " \\app\\STATE : default")], dates := ["seen"] }

def memberMigration : List Stmt :=
  [.classDecl none [.method "up"
    [.expression (.staticCall "Schema" "create" [.str "members", .closure ["table"]
      [.expression (.methodCall (.var "table") "json" [.str "state"]),
       .expression (.methodCall (.methodCall (.var "table") "timestamp" [.str "seen"]) "nullable" [])]])]]]

theorem getProperty_ok_of_hasProperty_cast :
    let source := SchemaSource.fixed (State.ofMigrations [memberMigration]).registry
    memberRules.types = PhpDoc.resolve ∧
    (∀ d ∈ memberRules.index.classes.values, isClassPath (Name.bare d.name).toList = true) ∧
    isClassPath (Name.bare memberRules.dateClass).toList = true ∧
    (memberRules.hasProperty source {} member "state").1 = .ok true ∧
    ∃ p s', memberRules.getProperty source (memberRules.hasProperty source {} member "state").2 member "state" =
      (.ok p, s') ∧ p.readable.Normalized ∧ p.writable.Normalized := by
  have hnames : ∀ d ∈ memberRules.index.classes.values, isClassPath (Name.bare d.name).toList = true := by
    decide +kernel
  have hdate : isClassPath (Name.bare memberRules.dateClass).toList = true := by decide +kernel
  have hfound : (memberRules.hasProperty (.fixed (State.ofMigrations [memberMigration]).registry) {} member
      "state").1 = .ok true := by rfl
  exact ⟨rfl, hnames, hdate, hfound,
    getProperty_ok_of_hasProperty memberRules rfl hnames hdate [memberMigration] member "state" (Prod.ext hfound rfl)⟩

end PropertyRules
end DynamicMembers
