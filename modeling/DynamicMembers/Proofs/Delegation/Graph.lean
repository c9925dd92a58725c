import DynamicMembers.Method.Answers
import DynamicMembers.Proofs.Class.Index
/-!
# Delegation graphs — who hands a query to whom, and in which order the classes are met

The edges out of a class are its targets in order: the classes bound to it, the class behind a facade, the driver of a
manager, its mixins; only registered ones count.  `preorder` is the depth-first order of this graph, each class once.
`entered` is the same search under a limit of depth: what is met at the limit leads nowhere.
-/
namespace DynamicMembers
namespace QueryContext

variable (x : QueryContext)

def concreteNames (c : ClassInfo) : List String :=
  if c.isInterface then (x.settings.bindings.forClass c.name).getD [] else []

def rootNames (c : ClassInfo) : List String :=
  if x.index.isSubclass c.name x.settings.facadeClass then (x.settings.facades.forClass c.name).toList else []

def driverNames (c : ClassInfo) : List String :=
  if x.index.isSubclass c.name x.settings.managerClass then (x.settings.managers.forClass c.name).toList else []

/-- The classes to which a class hands a query, by name and in order. -/
def targetNames (c : ClassInfo) : List String := x.concreteNames c ++ x.rootNames c ++ x.driverNames c ++ c.mixins

/-- An edge of the delegation graph, to a registered class. -/
def Delegates (c d : ClassInfo) : Prop := ∃ name ∈ x.targetNames c, x.index.find? name = some d

/-- A chain of delegations from one class to another, with the classes on it before the last: as many as the chain has
edges. -/
inductive Chain : ClassInfo → List ClassInfo → ClassInfo → Prop
  | here (c : ClassInfo) : Chain c [] c
  | step {c d e : ClassInfo} {before : List ClassInfo} : x.Delegates c d → Chain d before e → Chain c (c :: before) e

/-- The depth-first pre-order from named classes on, without the classes seen before; every class is met once and
names that are not registered are passed over. -/
def preorder (seen : List ClassKey) : List String → List ClassInfo
  | [] => []
  | name :: rest =>
    match _h : x.index.find? name with
    | none => preorder seen rest
    | some c =>
      if _hs : c.key ∈ seen then preorder seen rest else c :: preorder (c.key :: seen) (x.targetNames c ++ rest)
  termination_by names => (x.index.unseen seen, names.length)
  decreasing_by
  · exact Prod.Lex.right _ (by simp)
  · exact Prod.Lex.right _ (by simp)
  · exact Prod.Lex.left _ _ (ClassIndex.unseen_cons_lt _h _hs)

/-- What a class at a depth hands the query on to: below the limit its targets, one deeper. -/
def offers (depth : Nat) (c : ClassInfo) : List (Nat × String) :=
  if depth < x.settings.maxDepth then (x.targetNames c).map (depth + 1, ·) else []

/-- The classes that a search enters, with their depths and in order, from names with their depths on. -/
def entered (seen : List ClassKey) : List (Nat × String) → List (Nat × ClassInfo)
  | [] => []
  | (depth, name) :: rest =>
    match _h : x.index.find? name with
    | none => entered seen rest
    | some c =>
      if _hs : c.key ∈ seen then entered seen rest
      else (depth, c) :: entered (c.key :: seen) (x.offers depth c ++ rest)
  termination_by names => (x.index.unseen seen, names.length)
  decreasing_by
  · exact Prod.Lex.right _ (by simp)
  · exact Prod.Lex.right _ (by simp)
  · exact Prod.Lex.left _ _ (ClassIndex.unseen_cons_lt _h _hs)

theorem preorder_cons_of_unknown {name : String} (seen : List ClassKey) (rest : List String)
    (h : x.index.find? name = none) : x.preorder seen (name :: rest) = x.preorder seen rest := by
  rw [preorder]; split
  · rfl
  · rename_i c hc; rw [h] at hc; cases hc

theorem preorder_cons_of_seen {name : String} {c : ClassInfo} {seen : List ClassKey} (rest : List String)
    (h : x.index.find? name = some c) (hs : c.key ∈ seen) :
    x.preorder seen (name :: rest) = x.preorder seen rest := by
  rw [preorder]; split
  · rfl
  · rename_i d hd; rw [h] at hd; cases hd; rw [dif_pos hs]

theorem preorder_cons_of_new {name : String} {c : ClassInfo} {seen : List ClassKey} (rest : List String)
    (h : x.index.find? name = some c) (hs : c.key ∉ seen) :
    x.preorder seen (name :: rest) = c :: x.preorder (c.key :: seen) (x.targetNames c ++ rest) := by
  rw [preorder]; split
  · rename_i hn; rw [h] at hn; cases hn
  · rename_i d hd; rw [h] at hd; cases hd; rw [dif_neg hs]

theorem entered_nil (seen : List ClassKey) : x.entered seen [] = [] := by rw [entered]

theorem entered_cons_of_unknown {name : String} (depth : Nat) (seen : List ClassKey) (rest : List (Nat × String))
    (h : x.index.find? name = none) : x.entered seen ((depth, name) :: rest) = x.entered seen rest := by
  rw [entered]; split
  · rfl
  · rename_i c hc; rw [h] at hc; cases hc

theorem entered_cons_of_seen {name : String} {c : ClassInfo} {seen : List ClassKey} (depth : Nat)
    (rest : List (Nat × String)) (h : x.index.find? name = some c) (hs : c.key ∈ seen) :
    x.entered seen ((depth, name) :: rest) = x.entered seen rest := by
  rw [entered]; split
  · rfl
  · rename_i d hd; rw [h] at hd; cases hd; rw [dif_pos hs]

theorem entered_cons_of_new {name : String} {c : ClassInfo} {seen : List ClassKey} (depth : Nat)
    (rest : List (Nat × String)) (h : x.index.find? name = some c) (hs : c.key ∉ seen) :
    x.entered seen ((depth, name) :: rest) = (depth, c) :: x.entered (c.key :: seen) (x.offers depth c ++ rest) := by
  rw [entered]; split
  · rename_i hn; rw [h] at hn; cases hn
  · rename_i d hd; rw [h] at hd; cases hd; rw [dif_neg hs]

/-- The classes that a search from one class enters, the class itself at depth zero. -/
def enteredFrom (c : ClassInfo) : List (Nat × ClassInfo) := x.entered [] [(0, c.name)]

/-! ## What a class has by itself -/

/-- The macro of a class for a method: the first of that name among its own, failing that among those of its ancestors
in order; with the class that has it. -/
def macroOf (method : String) (c : ClassInfo) : Option (String × MacroDefinition) :=
  (c.name :: x.index.ancestors c.name).findSome? fun owner =>
    (((x.settings.macros.forClass owner).getD []).find? fun d =>
      Name.methodKey d.name = Name.methodKey method).map (owner, ·)

/-- A class has a method natively, itself or from an ancestor, or as a macro. -/
def Has (method : String) (c : ClassInfo) : Prop :=
  (x.index.nativeMethod c method).isSome ∨ (x.macroOf method c).isSome

/-- What a class answers with by itself: its native method, failing that its macro, whose result type may be refused;
none when it has neither. -/
def ownAnswer (types : TypeResolver) (method : String) (c : ClassInfo) : Option (Answer MethodReflection) :=
  match x.index.nativeMethod c method with
  | some m => some (.ok (.native m))
  | none => (x.macroOf method c).map fun (owner, d) => (types d.returnType).map fun t => .added (d.toMethod owner t)

/-- The answer of a search: that of the first class in order that has the method, made static unless it is the class
asked; no method when no class has it. -/
def firstAnswer (types : TypeResolver) (method : String) (asked : ClassInfo) (order : List ClassInfo) :
    Answer (Option MethodReflection) :=
  match order.findSome? fun d => (x.ownAnswer types method d).map (d, ·) with
  | none => .ok none
  | some (d, answer) => answer.map fun m => some (if d.key = asked.key then m else m.forwarded)

end QueryContext
end DynamicMembers
