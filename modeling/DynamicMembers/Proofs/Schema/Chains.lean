import DynamicMembers.Proofs.Schema.Surroundings
/-!
# Chains — what a chain on a blueprint does to its table

The innermost call of a chain says what is done, and all that the later calls can add is that the columns are nullable.
Chains that agree on both leave every table alike and note the same anomalies; in particular the later calls may change
places, be repeated, come and go, and every name may be spelled in another case (`chain_effect`).
-/
namespace DynamicMembers
namespace Schema

open Code (Expr Stmt)

/-! ## What counts of a chain -/

/-- A call with its method in lower case. -/
def lowered (call : String × List Expr) : String × List Expr := (Text.lower call.1, call.2)

/-- A call named `nullable` that lacks a literal false as its first argument. -/
def Nullifies (call : String × List Expr) : Prop :=
  Text.lower call.1 = "nullable" ∧ call.2.head? ≠ some (.bool false)

/-- A chain that makes its columns nullable, the calls being given innermost first. -/
def NullableChain (calls : List (String × List Expr)) : Prop :=
  (∃ first ∈ calls.head?, ∃ rest, Text.lower first.1 = "nullable" ++ rest) ∨ ∃ call ∈ calls, Nullifies call

/-- Chains with the same innermost call, up to the case of its method, that are both nullable or both not. -/
structure ChainsAgree (calls calls' : List (String × List Expr)) : Prop where
  innermost : calls.head?.map lowered = calls'.head?.map lowered
  nullable : NullableChain calls ↔ NullableChain calls'

theorem makesNullable_iff (call : String × List Expr) : makesNullable call = true ↔ Nullifies call := by
  rw [makesNullable, Bool.and_eq_true_iff, decide_eq_true_iff, Nullifies]
  refine and_congr_right fun _ => ?_
  split
  · next h => simp [h]
  · next h => exact iff_of_true rfl h

theorem startsNullable_iff (method : String) : "nullable".toList.isPrefixOf (Text.lower method).toList = true ↔
    ∃ rest, Text.lower method = "nullable" ++ rest := by
  rw [List.isPrefixOf_iff_prefix]
  constructor
  · rintro ⟨rest, h⟩
    have hrest : (String.ofList rest).toList = rest := String.toList_ofList
    exact ⟨String.ofList rest, String.toList_injective (by rw [String.toList_append, hrest, h])⟩
  · rintro ⟨rest, h⟩
    exact ⟨rest.toList, by rw [h, String.toList_append]⟩

theorem chainNullable_iff (method : String) (args : List Expr) (later : List (String × List Expr)) :
    chainNullable method ((method, args) :: later) = true ↔ NullableChain ((method, args) :: later) := by
  rw [chainNullable, Bool.or_eq_true_iff, startsNullable_iff, List.any_eq_true, NullableChain]
  simp only [makesNullable_iff, List.head?_cons, Option.mem_some_iff, exists_eq_left']

/-- The steps of a chain are those of its innermost call, with nullable columns just when the chain is nullable. -/
theorem chainEdits_of_nullable {method : String} {args : List Expr} {later : List (String × List Expr)}
    {nullable : Bool} (h : nullable = true ↔ NullableChain ((method, args) :: later)) :
    chainEdits ((method, args) :: later) = (classify method).edits args nullable := by
  have hnullable : chainNullable method ((method, args) :: later) = nullable :=
    Bool.eq_iff_iff.2 ((chainNullable_iff method args later).trans h.symm)
  rw [chainEdits, hnullable]

/-- **Chains that agree make the same steps.** -/
theorem ChainsAgree.chainEdits_eq : ∀ {calls calls' : List (String × List Expr)}, ChainsAgree calls calls' →
    chainEdits calls = chainEdits calls'
  | [], [], _ => rfl
  | [], _ :: _, h => nomatch h.innermost
  | _ :: _, [], h => nomatch h.innermost
  | (method, args) :: later, (method', args') :: later', h => by
    obtain ⟨hmethod, rfl⟩ : Text.lower method = Text.lower method' ∧ args = args' :=
      Prod.mk.inj (Option.some.inj h.innermost)
    have hnullable :
        chainNullable method' ((method', args) :: later') = true ↔ NullableChain ((method, args) :: later) :=
      (chainNullable_iff method' args later').trans h.nullable.symm
    rw [chainEdits_of_nullable hnullable, classify_congr hmethod, chainEdits]

/-! ## What may change in a chain -/

/-- One change to the calls of a chain, innermost first. -/
inductive Varies : List (String × List Expr) → List (String × List Expr) → Prop
  /-- Later calls change places. -/
  | permute (first : String × List Expr) {later later' : List (String × List Expr)} (h : later.Perm later') :
    Varies (first :: later) (first :: later')
  /-- A later call is made once more. -/
  | again (first : String × List Expr) {call : String × List Expr} (before after : List (String × List Expr))
    (h : call ∈ before ++ after) : Varies (first :: (before ++ after)) (first :: (before ++ call :: after))
  /-- Names are spelled in another case. -/
  | respell {calls calls' : List (String × List Expr)} (h : calls.map lowered = calls'.map lowered) :
    Varies calls calls'
  /-- A later call of another name than `nullable` is added. -/
  | add (first : String × List Expr) {call : String × List Expr} (before after : List (String × List Expr))
    (h : Text.lower call.1 ≠ "nullable") : Varies (first :: (before ++ after)) (first :: (before ++ call :: after))

namespace ChainsAgree

variable {calls calls' calls'' : List (String × List Expr)}

theorem refl (calls : List (String × List Expr)) : ChainsAgree calls calls := ⟨rfl, Iff.rfl⟩

theorem symm (h : ChainsAgree calls calls') : ChainsAgree calls' calls := ⟨h.innermost.symm, h.nullable.symm⟩

theorem trans (h : ChainsAgree calls calls') (h' : ChainsAgree calls' calls'') : ChainsAgree calls calls'' :=
  ⟨h.innermost.trans h'.innermost, h.nullable.trans h'.nullable⟩

/-- Of the later calls it only counts whether one of them makes the columns nullable. -/
theorem of_later (first : String × List Expr) {later later' : List (String × List Expr)}
    (h : (∃ call ∈ later, Nullifies call) ↔ ∃ call ∈ later', Nullifies call) :
    ChainsAgree (first :: later) (first :: later') where
  innermost := rfl
  nullable := by
    simp only [NullableChain, List.head?_cons, List.mem_cons, exists_eq_or_imp, h]

/-- A later call makes no difference if it makes nothing nullable or is made already. -/
theorem of_added (first : String × List Expr) {call : String × List Expr} {before after : List (String × List Expr)}
    (h : Nullifies call → call ∈ before ++ after) :
    ChainsAgree (first :: (before ++ after)) (first :: (before ++ call :: after)) := by
  refine of_later first ⟨fun ⟨c, hc, hnull⟩ => ⟨c, ?_, hnull⟩, fun ⟨c, hc, hnull⟩ => ?_⟩
  · rw [List.mem_append] at hc ⊢
    exact hc.imp_right (List.mem_cons_of_mem call)
  · rw [List.mem_append, List.mem_cons] at hc
    rcases hc with hc | rfl | hc
    · exact ⟨c, List.mem_append_left after hc, hnull⟩
    · exact ⟨c, h hnull, hnull⟩
    · exact ⟨c, List.mem_append_right before hc, hnull⟩

/-- Whether a chain is nullable can be told from its calls in lower case. -/
theorem nullable_of_lowered (h : calls.map lowered = calls'.map lowered) (hnull : NullableChain calls) :
    NullableChain calls' := by
  rcases hnull with ⟨first, hfirst, rest, hrest⟩ | ⟨call, hcall, hname, hfalse⟩
  · -- the innermost call, or any other, has its counterpart of the same name in lower case
    have hhead : calls'.head?.map lowered = some (lowered first) := by
      rw [← List.head?_map, ← h, List.head?_map, hfirst, Option.map_some]
    obtain ⟨first', hfirst', hlowered⟩ := Option.map_eq_some_iff.1 hhead
    exact .inl ⟨first', hfirst', rest, (Prod.mk.inj hlowered).1.trans hrest⟩
  · have hmem : lowered call ∈ calls'.map lowered := h ▸ List.mem_map_of_mem hcall
    obtain ⟨call', hcall', hlowered⟩ := List.mem_map.1 hmem
    obtain ⟨hname', hargs⟩ := Prod.mk.inj hlowered
    exact .inr ⟨call', hcall', hname'.trans hname, hargs ▸ hfalse⟩

theorem of_lowered (h : calls.map lowered = calls'.map lowered) : ChainsAgree calls calls' where
  innermost := by rw [← List.head?_map, h, List.head?_map]
  nullable := ⟨nullable_of_lowered h, nullable_of_lowered h.symm⟩

end ChainsAgree

variable {calls calls' : List (String × List Expr)}

theorem Varies.agree (h : Varies calls calls') : ChainsAgree calls calls' := by
  cases h with
  | permute first h => exact .of_later first (by simp only [h.mem_iff])
  | again first before after h => exact .of_added first fun _ => h
  | respell h => exact .of_lowered h
  | add first before after h => exact .of_added first fun hnull => absurd hnull.1 h

/-- Changes made, undone and made again, in any number, leave chains that agree. -/
theorem agree_of_variations (h : Relation.EqvGen Varies calls calls') : ChainsAgree calls calls' := by
  induction h with
  | rel _ _ h => exact h.agree
  | refl calls => exact .refl calls
  | symm _ _ _ ih => exact ih.symm
  | trans _ _ _ _ _ ih ih' => exact ih.trans ih'

/-! ## What a chain does -/

theorem exprEdits_of_root {blueprint : String} {e : Expr} (hroot : e.chainRoot = .var blueprint) :
    exprEdits blueprint e = chainEdits e.chainCalls := by
  rw [exprEdits, hroot, Expr.asVariable, if_pos rfl]

/-- **What a chain does depends on its innermost call and on whether it is nullable.**  A chain on the blueprint makes
the steps of its innermost call, with nullable columns just when the chain is nullable.  So two chains that agree on
both, and two that differ by any number of variations, change every table in the same way with the same anomalies, and
wherever one of them stands in a migration the other may stand instead. -/
theorem chain_effect {blueprint : String} {e e' : Expr} (hroot : e.chainRoot = .var blueprint)
    (hroot' : e'.chainRoot = .var blueprint)
    (h : ChainsAgree e.chainCalls e'.chainCalls ∨ Relation.EqvGen Varies e.chainCalls e'.chainCalls) :
    (∀ (method : String) (args : List Expr) (later : List (String × List Expr)) (nullable : Bool),
      e.chainCalls = (method, args) :: later → (nullable = true ↔ NullableChain e.chainCalls) →
      exprEdits blueprint e = (classify method).edits args nullable) ∧
    (∀ t : Table, Edit.applyAll t (exprEdits blueprint e) = Edit.applyAll t (exprEdits blueprint e') ∧
      Edit.anomalies t (exprEdits blueprint e) = Edit.anomalies t (exprEdits blueprint e')) ∧
    ∀ (s : State) (ctx : BodyContext (.closure blueprint)) (before after : List Stmt),
      s.addStatements (ctx.plug (before ++ .expression e :: after)) =
        s.addStatements (ctx.plug (before ++ .expression e' :: after)) := by
  have hagree : ChainsAgree e.chainCalls e'.chainCalls := h.elim id agree_of_variations
  have hedits : exprEdits blueprint e = exprEdits blueprint e' := by
    rw [exprEdits_of_root hroot, exprEdits_of_root hroot', hagree.chainEdits_eq]
  refine ⟨fun method args later nullable hcalls hnullable => ?_, fun t => by rw [hedits]; exact ⟨rfl, rfl⟩,
    fun s ctx before after => ?_⟩
  · rw [hcalls] at hnullable
    rw [exprEdits_of_root hroot, hcalls, chainEdits_of_nullable hnullable]
  · have hsame : Place.Same (.closure blueprint) [.expression e] [.expression e'] := congrArg (· ++ []) hedits
    have hplug := ctx.same_replace hsame before after
    rw [List.append_assoc before [_]] at hplug
    exact addStatements_congr hplug s

/-- A column that is nullable by a later call: its chain in another case, with the later calls in another order, one of
them made twice and one more added; and a chain that agrees with it though it is nullable by another call. -/
theorem chain_effect_name :
    let on (calls : List (String × List Expr)) : Expr := .chain (.var "table") calls
    let first : String × List Expr := ("string", [.str "name"])
    let unique : String × List Expr := ("unique", [])
    let nullable : String × List Expr := ("nullable", [])
    let plain : Expr := on [first, unique, nullable]
    let varied : Expr := on [("String", first.2), ("INDEX", []), ("Nullable", []), nullable, unique]
    let agreeing : Expr := on [("STRING", first.2), ("nullable", [.bool false]), ("nullable", [.bool true])]
    let creating (column : Expr) : List Stmt := [.classDecl none [.method "up" [.expression
      (.staticCall "Schema" "create" [.str "users", .closure ["table"] [.expression column]])]]]
    (∀ t : Table, Edit.applyAll t (exprEdits "table" plain) = Edit.applyAll t (exprEdits "table" varied)) ∧
    (∀ s : State, s.addStatements (creating plain) = s.addStatements (creating agreeing)) ∧
    exprEdits "table" plain = [.set (.ofStored "name" "string" true)] := by
  intro on first unique nullable plain varied agreeing creating
  have hpermuted : Varies [first, unique, nullable] [first, nullable, unique] :=
    .permute first (.swap nullable unique [])
  have hagain : Varies [first, nullable, unique] [first, nullable, nullable, unique] :=
    .again first [] [nullable, unique] List.mem_cons_self
  have hadded : Varies [first, nullable, nullable, unique] [first, ("index", []), nullable, nullable, unique] :=
    .add first [] [nullable, nullable, unique] (by decide)
  have hnullable : Text.lower "nullable" = "nullable" := by decide
  have hnames : Text.lower "String" = Text.lower "string" ∧ Text.lower "STRING" = Text.lower "string" ∧
      Text.lower "INDEX" = Text.lower "index" ∧ Text.lower "Nullable" = Text.lower "nullable" := by decide
  have hrespelled : Varies [first, ("index", []), nullable, nullable, unique] varied.chainCalls :=
    .respell (by simp [first, nullable, unique, varied, on, Expr.chain, Expr.chainCalls, lowered, hnames])
  have hvaried : Relation.EqvGen Varies plain.chainCalls varied.chainCalls :=
    .trans _ _ _ (.rel _ _ hpermuted) (.trans _ _ _ (.rel _ _ hagain)
      (.trans _ _ _ (.rel _ _ hadded) (.rel _ _ hrespelled)))
  have hplain : NullableChain plain.chainCalls :=
    .inr ⟨nullable, .tail first (.tail unique (.head [])), hnullable, by simp [nullable]⟩
  have hagreeing : NullableChain agreeing.chainCalls :=
    .inr ⟨("nullable", [.bool true]), .tail _ (.tail _ (.head [])), hnullable, by simp⟩
  have hagree : ChainsAgree plain.chainCalls agreeing.chainCalls :=
    ⟨by simp [first, plain, agreeing, on, Expr.chain, Expr.chainCalls, lowered, hnames],
      iff_of_true hplain hagreeing⟩
  let inUp : BodyContext .up := .method (.among (.classDecl (.among .root [] []) none) [] []) "up"
  let inClosure : BodyContext (.closure "table") :=
    .closure (.staticArg (.expression (.among inUp [] [])) "Schema" "create" [.str "users"] []) ["table"]
  obtain ⟨hsteps, htables, -⟩ := @chain_effect "table" plain varied rfl rfl (.inr hvaried)
  exact ⟨fun t => (htables t).1, fun s => (chain_effect rfl rfl (.inl hagree)).2.2 s inClosure [] [],
    hsteps "string" first.2 [unique, nullable] true rfl (iff_of_true rfl hplain)⟩

end Schema
end DynamicMembers
