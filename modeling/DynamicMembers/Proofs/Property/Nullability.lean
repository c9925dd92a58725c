import DynamicMembers.Proofs.Property.Casts
import DynamicMembers.Proofs.Property.Readable
import DynamicMembers.Proofs.Value.Algebra
/-!
# Nullability — what a nullable column adds to the types of a property

Whatever may be read from a property may be written to it.  A column that is nullable adds `null` to both types of a
date and of a text or number, behind all other members, and changes nothing else (`typePair_nullable`).
-/
namespace DynamicMembers

namespace PhpType

/-- The members of the second type are those of the first, and behind them `null`, which was missing. -/
structure AddsNull (t u : PhpType) : Prop where
  missing : null ∉ t.members
  members_eq : u.members = t.members ++ [null]

theorem distinct_concat {t : PhpType} {l : List PhpType} (h : t ∉ l) : distinct (l ++ [t]) = distinct l ++ [t] := by
  have hnew : (distinct [t]).filter (· ∉ distinct l) = [t] := by simp [distinct, mem_distinct, h]
  rw [distinct_append, hnew]

end PhpType

open PhpDoc (Spells isClassPath)
open PhpType (distinct AddsNull)

namespace PhpDoc.Spells

variable {text : String} {types : List PhpType}

/-- The members of a written type are the types that stand in it, each once. -/
theorem members_unionOf (h : Spells text types) (hmixed : .mixed ∉ types) :
    (PhpType.unionOf types).members = distinct types := by
  have hnormal : ∀ t ∈ types, t.Normalized := fun t ht => PhpType.normalized_of_not_union (h.plain t ht).1
  have hsingle : ∀ t ∈ types, t.members = [t] := fun t ht => PhpType.members_of_not_union (h.plain t ht).1
  rw [PhpType.members_unionOf hnormal h.nonempty hmixed, List.flatMap_congr hsingle, List.flatMap_singleton']

/-- **A written type gains `null` with the suffix of a nullable column**, if it lacked it. -/
theorem addsNull (h : Spells text types) (hmixed : .mixed ∉ types) (hnull : .null ∉ types) :
    AddsNull (.unionOf types) (.unionOf (types ++ [.null])) where
  missing := by
    rw [h.members_unionOf hmixed, PhpType.mem_distinct]
    exact hnull
  members_eq := by
    have hmixed' : .mixed ∉ types ++ [.null] := by simp [hmixed]
    rw [(h.bar .null).members_unionOf hmixed', h.members_unionOf hmixed, PhpType.distinct_concat hnull]

end PhpDoc.Spells

/-! ## Pairs of written types -/

namespace TypePair

/-- A pair that is read as two given types. -/
structure Reads (p : TypePair) (readable writable : PhpType) : Prop where
  readable : p.readable.resolve PhpDoc.resolve = .ok readable
  writable : p.writable.resolve PhpDoc.resolve = .ok writable

/-- A pair of which everything readable is writable, as far as it is read. -/
def Covers (p : TypePair) : Prop :=
  ∀ readable writable, p.Reads readable writable → ∀ t ∈ readable.members, t ∈ writable.members

theorem covers_both (e : TypeExpr) : (both e).Covers := by
  intro readable writable h t ht
  have hsame : readable = writable := Except.ok.inj (h.readable.symm.trans h.writable)
  exact hsame ▸ ht

end TypePair

namespace ColumnFacts

/-- The type that decides about a column that is no date: its cast's, by its name, before the stored one. -/
def effectiveType (f : ColumnFacts) : String :=
  match f.cast with
  | some cast => Decision.canonicalCast (Text.lower (Decision.castName cast))
  | none => f.storedType

/-- The column is a date, a text or a number: what it gives may be `null` when the column is nullable. -/
def TakesNull (f : ColumnFacts) : Prop :=
  f.isDate = true ∨ Text.lower f.effectiveType ∈ ["string", "int", "float"]

instance : DecidablePred TakesNull := fun f =>
  inferInstanceAs (Decidable (f.isDate = true ∨ Text.lower f.effectiveType ∈ ["string", "int", "float"]))

end ColumnFacts

namespace Decision

open TypePair (Reads)

/-- Two texts that write types, none of them `mixed` or `null`, the types of the first among those of the second. -/
structure Widens (readable writable : String) (l m : List PhpType) : Prop where
  readable : Spells readable l
  writable : Spells writable m
  subset : ∀ t ∈ l, t ∈ m
  mixed : .mixed ∉ m
  null : .null ∉ m

/-- A pair in writing, with the suffix of the column. -/
def suffixed (readable writable : String) (f : ColumnFacts) : TypePair :=
  ⟨.textual (readable ++ f.nullSuffix), .textual (writable ++ f.nullSuffix)⟩

/-- What a nullable column adds to the types of a pair in writing. -/
def added (f : ColumnFacts) : List PhpType := if f.nullable then [.null] else []

namespace Widens

variable {readable writable : String} {l m : List PhpType}

theorem reads (h : Widens readable writable l m) (f : ColumnFacts) :
    (suffixed readable writable f).Reads (.unionOf (l ++ added f)) (.unionOf (m ++ added f)) :=
  ⟨(h.readable.nullSuffix f).resolve_eq, (h.writable.nullSuffix f).resolve_eq⟩

theorem mem_members (h : Widens readable writable l m) (f : ColumnFacts) :
    ∀ t ∈ (PhpType.unionOf (l ++ added f)).members, t ∈ (PhpType.unionOf (m ++ added f)).members := by
  have hadded : .mixed ∉ added f := by
    unfold added
    split <;> simp
  have hm : .mixed ∉ m ++ added f := fun ht => (List.mem_append.1 ht).elim h.mixed hadded
  have hl : .mixed ∉ l ++ added f := fun ht => (List.mem_append.1 ht).elim (fun ht => h.mixed (h.subset _ ht)) hadded
  have hreadable : Spells _ (l ++ added f) := h.readable.nullSuffix f
  have hwritable : Spells _ (m ++ added f) := h.writable.nullSuffix f
  intro t ht
  rw [hreadable.members_unionOf hl, PhpType.mem_distinct] at ht
  rw [hwritable.members_unionOf hm, PhpType.mem_distinct]
  exact List.mem_append.2 ((List.mem_append.1 ht).imp_left (h.subset t))

theorem addsNull (h : Widens readable writable l m) :
    AddsNull (.unionOf l) (.unionOf (l ++ [.null])) ∧ AddsNull (.unionOf m) (.unionOf (m ++ [.null])) :=
  ⟨h.readable.addsNull (fun ht => h.mixed (h.subset _ ht)) (fun ht => h.null (h.subset _ ht)),
    h.writable.addsNull h.mixed h.null⟩

/-- A keyword that is read may be written. -/
theorem keyword {word : String} {t : PhpType} (h : Spells word [t]) (hmixed : t ≠ .mixed) (hnull : t ≠ .null) :
    Widens word word [t] [t] :=
  ⟨h, h, fun _ ht => ht, by simpa using hmixed.symm, by simpa using hnull.symm⟩

/-- A date that is read may be written, and so may a string. -/
theorem date {date : String} {names : List String} (h : Spells date (names.map .named)) :
    Widens date (date ++ "|string") (names.map .named) (names.map .named ++ [.string]) where
  readable := h
  writable := by
    have hbar := h.bar .string
    rwa [String.append_assoc] at hbar
  subset _ ht := List.mem_append_left _ ht
  mixed := by simp
  null := by simp

end Widens

/-! ## Columns that take null, and columns that do not -/

variable {date : String} {f : ColumnFacts} {known : String → Bool}

/-- A text or a number is written by one keyword, with the suffix of the column. -/
theorem dispatch_of_scalar {type : String} (h : Text.lower type ∈ ["string", "int", "float"]) :
    ∃ word t, Widens word word [t] [t] ∧ ∀ f, dispatch type f = some (suffixed word word f) := by
  simp only [List.mem_cons, List.not_mem_nil, or_false] at h
  rcases h with h | h | h
  · exact ⟨"string", .string, .keyword .string (by simp) (by simp), fun f => by simp only [dispatch, h]; rfl⟩
  · exact ⟨"int", .int, .keyword (.keyword rfl (by simp) rfl) (by simp) (by simp),
      fun f => by simp only [dispatch, h]; rfl⟩
  · exact ⟨"float", .float, .keyword (.keyword rfl (by simp) rfl) (by simp) (by simp),
      fun f => by simp only [dispatch, h]; rfl⟩

/-- Truth values and enumerations do not depend on whether the column is nullable. -/
theorem dispatch_steady {type : String} (h : Text.lower type ∉ ["string", "int", "float"]) (nullable : Bool) :
    dispatch type { f with nullable } = dispatch type f := by
  unfold dispatch
  split
  all_goals first | rfl | simp_all

theorem dispatch_covers {type : String} {pair : TypePair} (h : dispatch type f = some pair) : pair.Covers := by
  have htruth : truthPair.Covers := by
    intro readable writable hreads t ht
    obtain rfl : PhpType.bool = readable := Except.ok.inj hreads.readable
    obtain rfl : PhpType.unionOf _ = writable := Except.ok.inj hreads.writable
    obtain rfl : t = .bool := List.mem_singleton.1 ht
    decide
  unfold dispatch at h
  split at h
  all_goals cases h
  · exact TypePair.covers_both _
  · exact TypePair.covers_both _
  · exact TypePair.covers_both _
  · exact htruth
  · exact htruth
  · unfold enumPair
    split <;> exact TypePair.covers_both _

/-- A column that is no date has what its effective type decides, or else the same type for reading and writing. -/
theorem exists_typePair_eq (date : String) (known : String → Bool) (h : f.isDate = false) : ∃ e, ∀ nullable,
    typePair date { f with nullable } known = (dispatch f.effectiveType { f with nullable }).getD (.both e) := by
  unfold ColumnFacts.effectiveType
  cases hcast : f.cast with
  | some cast =>
    refine ⟨.textual (castType date (castName cast) known), fun nullable => ?_⟩
    rw [typePair_of_cast rfl, h, if_neg Bool.false_ne_true, ofCast_eq]
  | none =>
    refine ⟨.textual "mixed", fun nullable => ?_⟩
    simp only [typePair, h, Bool.false_eq_true, if_false, TypePair.mixed]

theorem typePair_of_takesNull {names : List String} (hdate : Spells date (names.map .named)) (h : f.TakesNull) :
    ∃ readable writable l m, Widens readable writable l m ∧
      ∀ nullable, typePair date { f with nullable } known = suffixed readable writable { f with nullable } := by
  by_cases hisDate : f.isDate = true
  · exact ⟨_, _, _, _, .date hdate, fun nullable => if_pos hisDate⟩
  · obtain ⟨word, t, hwidens, hdispatch⟩ := dispatch_of_scalar (h.resolve_left hisDate)
    obtain ⟨e, htypePair⟩ := exists_typePair_eq date known (by simpa using hisDate)
    refine ⟨word, word, [t], [t], hwidens, fun nullable => ?_⟩
    rw [htypePair, hdispatch, Option.getD_some]

theorem typePair_of_not_takesNull (date : String) (known : String → Bool) (h : ¬f.TakesNull) :
    (typePair date f known).Covers ∧
    ∀ nullable, typePair date { f with nullable } known = typePair date f known := by
  obtain ⟨hisDate, hscalar⟩ := not_or.1 h
  obtain ⟨e, htypePair⟩ := exists_typePair_eq date known (by simpa using hisDate)
  have hself : typePair date f known = (dispatch f.effectiveType f).getD (.both e) := htypePair f.nullable
  refine ⟨?_, fun nullable => ?_⟩
  · rw [hself]
    cases hd : dispatch f.effectiveType f with
    | some pair => exact dispatch_covers hd
    | none => exact TypePair.covers_both e
  · rw [htypePair, dispatch_steady hscalar, hself]

/-- **What may be read may be written, and a nullable column adds `null` at most.**  For a proper date class and any
facts about a column, with known classes of proper names only, both types are read and every member of the readable
type is a member of the writable one.  When the column becomes nullable, both types of a date, a text or a number keep
their members and gain `null` behind them; all other types stay as they are. -/
theorem typePair_nullable {dateClass : String} (hdate : isClassPath (Name.bare dateClass).toList = true)
    {known : String → Bool} (hknown : ∀ name, known name = true → isClassPath (Name.bare name).toList = true)
    (f : ColumnFacts) :
    ∃ readable writable : Bool → PhpType,
      (∀ nullable,
        (typePair (dateType dateClass) { f with nullable } known).Reads (readable nullable) (writable nullable) ∧
        ∀ t ∈ (readable nullable).members, t ∈ (writable nullable).members) ∧
      (f.TakesNull → AddsNull (readable false) (readable true) ∧ AddsNull (writable false) (writable true)) ∧
      (¬f.TakesNull → readable true = readable false ∧ writable true = writable false) := by
  obtain ⟨names, hspells⟩ := dateType_spells hdate
  by_cases h : f.TakesNull
  · obtain ⟨_, _, l, m, hwidens, hsuffixed⟩ := typePair_of_takesNull hspells h
    -- both types are in writing, and only the suffix tells whether the column is nullable
    refine ⟨fun nullable => .unionOf (l ++ added { f with nullable }),
      fun nullable => .unionOf (m ++ added { f with nullable }), fun nullable => ?_, fun _ => ?_,
      fun hnot => absurd h hnot⟩
    · rw [hsuffixed]
      exact ⟨hwidens.reads _, hwidens.mem_members _⟩
    · simpa [added] using hwidens.addsNull
  · obtain ⟨hcovers, hsteady⟩ := typePair_of_not_takesNull (dateType dateClass) known h
    obtain ⟨hreadable, hwritable⟩ := typePair_readsNormal ⟨names.map .named, hspells⟩ hknown f
    obtain ⟨t, ht, -⟩ := hreadable
    obtain ⟨u, hu, -⟩ := hwritable
    refine ⟨fun _ => t, fun _ => u, fun nullable => ?_, fun htakes => absurd htakes h, fun _ => ⟨rfl, rfl⟩⟩
    rw [hsteady]
    exact ⟨⟨ht, hu⟩, hcovers t u ⟨ht, hu⟩⟩

/-- A column cast to a known class gains `null` as a date, and as what its cast says it does not. -/
theorem typePair_nullable_price :
    let known (name : String) : Bool := name == "App\\Price"
    let price : ColumnFacts :=
      { storedType := "json", nullable := false, options := ["low"], cast := some " app\\x:y", isDate := false }
    let pair (f : ColumnFacts) : TypePair := typePair (dateType "\\App\\Moment") f known
    isClassPath (Name.bare "\\App\\Moment").toList = true ∧
    (known "App\\Price" = true ∧ isClassPath (Name.bare "App\\Price").toList = true) ∧
    (∃ t u t' u', (pair { price with isDate := true }).Reads t u ∧
      (pair { price with isDate := true, nullable := true }).Reads t' u' ∧ AddsNull t t' ∧ AddsNull u u') ∧
    ∃ t u, (pair price).Reads t u ∧ (pair { price with nullable := true }).Reads t u ∧
      ∀ m ∈ t.members, m ∈ u.members := by
  intro known price pair
  have hdate : isClassPath (Name.bare "\\App\\Moment").toList = true := by decide +kernel
  have hprice : isClassPath (Name.bare "App\\Price").toList = true := by decide +kernel
  have hknown : ∀ name, known name = true → isClassPath (Name.bare name).toList = true := by
    intro name h
    obtain rfl : name = "App\\Price" := by simpa [known] using h
    exact hprice
  obtain ⟨t, u, hreads, hadds, -⟩ := typePair_nullable hdate hknown { price with isDate := true }
  obtain ⟨t', u', hreads', -, hsame⟩ := typePair_nullable hdate hknown price
  obtain ⟨ht, hu⟩ := hsame (by decide)
  refine ⟨hdate, ⟨by decide, hprice⟩, ⟨_, _, _, _, (hreads false).1, (hreads true).1, hadds (by decide)⟩,
    t' false, u' false, (hreads' false).1, ?_, (hreads' false).2⟩
  rw [← ht, ← hu]
  exact (hreads' true).1

end Decision
end DynamicMembers
