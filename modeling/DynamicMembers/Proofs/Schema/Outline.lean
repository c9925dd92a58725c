import DynamicMembers.Proofs.Schema.Dangling
/-!
# Outlines — what the fold reads of an expression

Of an argument the fold reads a text, the texts of an array, a literal false, or a closure's blueprint and the edits on
it; of an expression besides, the steps it makes as a statement and the chain it continues.  Expressions of which all
this is the same are `Alike`, and whatever an expression is put together from may be replaced by something alike.
-/
namespace DynamicMembers
namespace Schema

open Code (Expr Stmt)

/-! ## Arguments -/

/-- What the fold reads of an argument. -/
structure Argument where
  text : Option String := none
  /-- The texts of an array. -/
  listed : List String := []
  isFalse : Bool := false
  /-- The blueprint of a closure, and the edits that the closure makes on it. -/
  body : Option (String × List Edit) := none

def Argument.of : Expr → Argument
  | .str text => { text }
  | .array values => { listed := values.filterMap Expr.asStr }
  | .bool false => { isFalse := true }
  | .closure (blueprint :: _) body => { body := some (blueprint, State.bodyEdits blueprint body) }
  | _ => {}

namespace Argument

theorem text_of (e : Expr) : (of e).text = e.asStr := by
  fun_cases of e with
  | case5 e hstr => cases e with
    | str text => exact (hstr text rfl).elim
    | _ => rfl
  | _ => rfl

theorem of_eq_text {e : Expr} {text : String} (h : (of e).text = some text) : e = .str text := by
  rw [text_of] at h
  cases e with
  | str s => exact congrArg Expr.str (Option.some.inj h)
  | _ => cases h

theorem of_eq_body {e : Expr} {blueprint : String} {edits : List Edit} (h : (of e).body = some (blueprint, edits)) :
    ∃ params body, e = .closure (blueprint :: params) body ∧ edits = State.bodyEdits blueprint body := by
  unfold of at h
  split at h
  · cases h
  · cases h
  · cases h
  · obtain ⟨rfl, rfl⟩ := Prod.mk.inj (Option.some.inj h)
    exact ⟨_, _, rfl, rfl⟩
  · cases h

theorem droppedNames_eq (args : List Expr) :
    droppedNames args = (args.map of).flatMap fun a => a.text.toList ++ a.listed := by
  unfold droppedNames
  rw [List.flatMap_map]
  congr 1
  funext e
  cases e with
  | str text => rfl
  | array values => rfl
  | bool value => cases value <;> rfl
  | closure params body => cases params <;> rfl
  | _ => rfl

theorem listedOptions_eq (arg : Option Expr) : listedOptions arg = ((arg.map of).map listed).getD [] := by
  cases arg with
  | none => rfl
  | some e =>
    cases e with
    | bool value => cases value <;> rfl
    | closure params body => cases params <;> rfl
    | _ => rfl

theorem isFalse_of (e : Expr) : (of e).isFalse = true ↔ e = .bool false := by
  cases e with
  | bool value => cases value <;> simp [of]
  | closure params body => cases params <;> simp [of]
  | _ => simp [of]

end Argument

variable {args args' : List Expr}

theorem asStr_eq_text : Expr.asStr = Argument.text ∘ Argument.of := funext fun e => (Argument.text_of e).symm

/-- **The steps of a blueprint operation depend on the outline of its arguments only.** -/
theorem ColumnOp.edits_congr (h : args.map Argument.of = args'.map Argument.of) (op : ColumnOp) (nullable : Bool) :
    op.edits args nullable = op.edits args' nullable := by
  have hfirst : args.head?.bind Expr.asStr = args'.head?.bind Expr.asStr := by
    rw [asStr_eq_text, ← Option.bind_map, ← Option.bind_map, ← List.head?_map, ← List.head?_map, h]
  have hat : args[1]?.map Argument.of = args'[1]?.map Argument.of := by
    rw [← List.getElem?_map, ← List.getElem?_map, h]
  have hsecond : args[1]?.bind Expr.asStr = args'[1]?.bind Expr.asStr := by
    rw [asStr_eq_text, ← Option.bind_map, ← Option.bind_map, hat]
  have hoptions : listedOptions args[1]? = listedOptions args'[1]? := by
    rw [Argument.listedOptions_eq, Argument.listedOptions_eq, hat]
  have hnames : droppedNames args = droppedNames args' := by
    rw [Argument.droppedNames_eq, Argument.droppedNames_eq, h]
  unfold ColumnOp.edits
  rw [hfirst, hsecond, hoptions, hnames]

/-! ## Calls -/

/-- What the fold reads of a call: its method and the outline of its arguments. -/
def outlineCall (call : String × List Expr) : String × List Argument := (call.1, call.2.map Argument.of)

theorem makesNullable_congr {call call' : String × List Expr} (h : outlineCall call = outlineCall call') :
    makesNullable call = makesNullable call' := by
  obtain ⟨method, args⟩ := call
  obtain ⟨method', args'⟩ := call'
  obtain ⟨rfl, hargs⟩ := Prod.mk.inj h
  unfold makesNullable
  congr 1
  -- only a literal false as the first argument counts, and the outline shows it
  rcases args with _ | ⟨e, rest⟩ <;> rcases args' with _ | ⟨e', rest'⟩
  · rfl
  · cases hargs
  · cases hargs
  · have hfalse : e = .bool false ↔ e' = .bool false := by
      rw [← Argument.isFalse_of, ← Argument.isFalse_of, (List.cons.inj hargs).1]
    simp only [List.head?_cons]
    split <;> split <;> simp_all

theorem any_makesNullable_congr : ∀ {calls calls' : List (String × List Expr)},
    calls.map outlineCall = calls'.map outlineCall → calls.any makesNullable = calls'.any makesNullable
  | [], calls', h => by rw [List.map_eq_nil_iff.1 h.symm]
  | call :: rest, calls', h => by
    obtain ⟨call', rest', rfl, hcall, hrest⟩ := List.map_eq_cons_iff.1 h.symm
    rw [List.any_cons, List.any_cons, makesNullable_congr hcall.symm, any_makesNullable_congr hrest.symm]

/-- **The steps of a chain depend on the outline of its calls only.** -/
theorem chainEdits_congr : ∀ {calls calls' : List (String × List Expr)},
    calls.map outlineCall = calls'.map outlineCall → chainEdits calls = chainEdits calls'
  | [], calls', h => by rw [List.map_eq_nil_iff.1 h.symm]
  | (method, args) :: later, calls', h => by
    have hnullable := any_makesNullable_congr h
    obtain ⟨⟨method', args'⟩, later', rfl, hcall, -⟩ := List.map_eq_cons_iff.1 h.symm
    obtain ⟨rfl, hargs⟩ := Prod.mk.inj hcall
    rw [chainEdits, chainEdits, chainNullable, chainNullable, hnullable]
    exact ColumnOp.edits_congr hargs.symm _ _

theorem Step.ofCall_of_shaped {method : String} (hshaped : Shaped method args)
    (h : args.map Argument.of = args'.map Argument.of) : ofCall method args = ofCall method args' := by
  -- the outline of arguments of the right shape gives away their shape
  cases hshaped with
  | create table blueprint params body rest | table table blueprint params body rest =>
    obtain ⟨first, tail, rfl, hfirst, htail⟩ := List.map_eq_cons_iff.1 h.symm
    obtain ⟨second, rest', rfl, hsecond, -⟩ := List.map_eq_cons_iff.1 htail
    obtain rfl : first = .str table := Argument.of_eq_text (by rw [hfirst]; rfl)
    obtain ⟨params', body', rfl, hedits⟩ := Argument.of_eq_body (by rw [hsecond]; rfl)
    simp only [ofCall, ofBody, hedits]
  | drop table rest | dropIfExists table rest =>
    obtain ⟨first, rest', rfl, hfirst, -⟩ := List.map_eq_cons_iff.1 h.symm
    obtain rfl : first = .str table := Argument.of_eq_text (by rw [hfirst]; rfl)
    rfl
  | rename old new rest =>
    obtain ⟨first, tail, rfl, hfirst, htail⟩ := List.map_eq_cons_iff.1 h.symm
    obtain ⟨second, rest', rfl, hsecond, -⟩ := List.map_eq_cons_iff.1 htail
    obtain rfl : first = .str old := Argument.of_eq_text (by rw [hfirst]; rfl)
    obtain rfl : second = .str new := Argument.of_eq_text (by rw [hsecond]; rfl)
    rfl

/-- **The steps of a schema call depend on the outline of its arguments only.** -/
theorem Step.ofCall_congr (h : args.map Argument.of = args'.map Argument.of) (method : String) :
    ofCall method args = ofCall method args' := by
  by_cases hshaped : Shaped method args
  · exact ofCall_of_shaped hshaped h
  · by_cases hshaped' : Shaped method args'
    · exact (ofCall_of_shaped hshaped' h.symm).symm
    · rw [ofCall_of_not_shaped hshaped, ofCall_of_not_shaped hshaped']

/-! ## Expressions -/

/-- The steps of the `up` methods among the members of a class. -/
def memberSteps (members : List Stmt) : List Step := (memberExpressions members).flatMap Step.ofExpr

/-- The steps of the class that an expression creates. -/
def createdSteps : Expr → List Step
  | .new _ members => memberSteps members
  | _ => []

/-- Expressions of which the fold reads the same, wherever they stand. -/
structure Alike (e e' : Expr) : Prop where
  argument : Argument.of e = Argument.of e'
  connection : Call.isConnection e = Call.isConnection e'
  root : e.chainRoot.asVariable = e'.chainRoot.asVariable
  calls : e.chainCalls.map outlineCall = e'.chainCalls.map outlineCall
  steps : Step.ofExpr e = Step.ofExpr e'
  created : createdSteps e = createdSteps e'

namespace Alike

variable {e e' : Expr}

theorem exprEdits_eq (h : Alike e e') (blueprint : String) : exprEdits blueprint e = exprEdits blueprint e' := by
  unfold exprEdits
  rw [h.root, chainEdits_congr h.calls]

theorem outline_around (h : Alike e e') (earlier later : List Expr) :
    (earlier ++ e :: later).map Argument.of = (earlier ++ e' :: later).map Argument.of := by
  rw [List.map_append, List.map_append, List.map_cons, List.map_cons, h.argument]

theorem staticCall (h : args.map Argument.of = args'.map Argument.of) (cls method : String) :
    Alike (.staticCall cls method args) (.staticCall cls method args') where
  argument := rfl
  connection := rfl
  root := rfl
  calls := rfl
  steps := by
    simp only [Step.ofExpr, Call.onSchema?]
    by_cases hfacade : Call.isFacade cls = true
    · rw [if_pos hfacade, if_pos hfacade]
      exact Step.ofCall_congr h (Text.lower method)
    · rw [if_neg hfacade, if_neg hfacade]
  created := rfl

theorem methodCall (h : Alike e e') (hargs : args.map Argument.of = args'.map Argument.of) (method : String) :
    Alike (.methodCall e method args) (.methodCall e' method args') where
  argument := rfl
  connection := rfl
  root := h.root
  calls := by
    simp only [Expr.chainCalls, List.map_append, h.calls, List.map_cons, outlineCall, hargs]
  steps := by
    simp only [Step.ofExpr, Call.onSchema?, h.connection]
    by_cases hconnection : Call.isConnection e' = true
    · rw [if_pos hconnection, if_pos hconnection]
      exact Step.ofCall_congr hargs (Text.lower method)
    · rw [if_neg hconnection, if_neg hconnection]
  created := rfl

theorem refl (e : Expr) : Alike e e := ⟨rfl, rfl, rfl, rfl, rfl, rfl⟩

theorem array (h : Alike e e') (earlier later : List Expr) :
    Alike (.array (earlier ++ e :: later)) (.array (earlier ++ e' :: later)) where
  argument := by
    have htext : e.asStr = e'.asStr := by rw [← Argument.text_of, h.argument, Argument.text_of]
    simp only [Argument.of, List.filterMap_append, List.filterMap_cons, htext]
  connection := rfl
  root := rfl
  calls := rfl
  steps := rfl
  created := rfl

/-- A closure is read through its first parameter only. -/
theorem closure {params : List String} {body body' : List Stmt}
    (h : ∀ blueprint ∈ params.head?, State.bodyEdits blueprint body = State.bodyEdits blueprint body') :
    Alike (.closure params body) (.closure params body') where
  argument := by
    cases params with
    | nil => rfl
    | cons blueprint rest => simp only [Argument.of, h blueprint rfl]
  connection := rfl
  root := rfl
  calls := rfl
  steps := rfl
  created := rfl

theorem new {members members' : List Stmt} (h : memberSteps members = memberSteps members') (cls : Option String) :
    Alike (.new cls members) (.new cls members') where
  argument := rfl
  connection := rfl
  root := rfl
  calls := rfl
  steps := rfl
  created := h

end Alike
end Schema
end DynamicMembers
