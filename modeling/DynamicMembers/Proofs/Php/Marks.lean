import DynamicMembers.Php.Lowering
/-!
# Marks — where comments show in lowered code

Most comments among the parts of a tree are left out with it.  What may be left of the others are the marks of a tree,
read in order: an expression behind `return` or inside parentheses that is hidden or taken, and the places that are kept
as they are written.  Trees of the same code with other comments lower to the same exactly when their marks are the same
(`marksIn_eq_iff`).
-/
namespace DynamicMembers
namespace Php

/-- What a comment may change in a tree. -/
inductive Mark where
  /-- An expression that becomes `other`, whatever it holds. -/
  | hidden
  /-- An expression that is taken for what it is. -/
  | taken
  /-- A place that is kept as it is written. -/
  | written (text : String)
  deriving DecidableEq, Repr

/-- Nothing is kept of an expression. -/
def Expr.isHidden (e : Expr) : Bool :=
  match e.lower with
  | .other => true
  | _ => false

mutual

/-- The marks of what is kept of a statement, in order. -/
def Stmt.marks : Stmt → List Mark
  | .namespaced none body => marksIn body
  | .namespaced (some name) body => .written name :: marksIn body
  | .classDecl _ members => memberMarks members
  | .expression value => value.marks
  | .ret commented none => if commented then [.hidden] else [.taken]
  | .ret commented (some value) => if commented || value.isHidden then [.hidden] else .taken :: value.marks
  | .block body => marksIn body
  | .conditional body clauses => marksIn body ++ clauseMarks clauses
  | _ => []

def marksIn : List Stmt → List Mark
  | [] => []
  | s :: ss => s.marks ++ marksIn ss

def clauseMarks : List Clause → List Mark
  | [] => []
  | .comment :: cs => clauseMarks cs
  | .elseIf body :: cs => marksIn body ++ clauseMarks cs
  | .otherwise body :: cs => marksIn body ++ clauseMarks cs

def memberMarks : List Member → List Mark
  | [] => []
  | .method _ body :: ms => marksIn body ++ memberMarks ms
  | _ :: ms => memberMarks ms

def Expr.marks : Expr → List Mark
  | .scopedCall scope (some _) args => .written scope :: itemMarks args
  | .memberCall target (some _) args => target.marks ++ itemMarks args
  | .array items => itemMarks items
  | .closure _ body => marksIn body
  | .arrow _ body => body.marks
  | .new (some cls) => [.written cls]
  | .newAnonymous members => memberMarks members
  | .classConstant text => [.written text]
  | .paren commented inner => if commented || inner.isHidden then [.hidden] else .taken :: inner.marks
  | _ => []

def itemMarks : List Item → List Mark
  | [] => []
  | .comment :: is => itemMarks is
  | .value e :: is => e.marks ++ itemMarks is

end

/-! ## The same code with other comments -/

/-- A part of a tree. -/
inductive Node where
  | stmt (s : Stmt)
  | stmts (ss : List Stmt)
  | clauses (cs : List Clause)
  | members (ms : List Member)
  | expr (e : Expr)
  | items (is : List Item)

/-- What a part of a tree stands for. -/
inductive Lowered where
  | stmt (s : Option Code.Stmt)
  | stmts (ss : List Code.Stmt)
  | branches (bodies : List (List Code.Stmt))
  | expr (e : Code.Expr)
  | exprs (es : List Code.Expr)

namespace Node

def marks : Node → List Mark
  | stmt s => s.marks
  | stmts ss => marksIn ss
  | clauses cs => clauseMarks cs
  | members ms => memberMarks ms
  | expr e => e.marks
  | items is => itemMarks is

def lower : Node → Lowered
  | stmt s => .stmt s.lower
  | stmts ss => .stmts (lowerStmts ss)
  | clauses cs => .branches (lowerClauses cs)
  | members ms => .stmts (lowerMembers ms)
  | expr e => .expr e.lower
  | items is => .exprs (lowerItems is)

end Node

/-- Expressions in which no comment shows: a variable, a literal, or nothing that is kept. -/
def Expr.isPlain : Expr → Bool
  | .var _ | .single _ | .double _ | .integer _ | .bool _ | .null | .other => true
  | _ => false

/-- Two parts of trees are read from the same code with other comments: comments among statements, clauses, members and
items come and go, one may stand behind a `return` or an opening parenthesis, and what is kept as it is written may hold
others. -/
inductive Alike : Node → Node → Prop
  | namespaced {name name' : Option String} {body body' : List Stmt} (hname : name.isSome = name'.isSome)
      (hbody : Alike (.stmts body) (.stmts body')) :
      Alike (.stmt (.namespaced name body)) (.stmt (.namespaced name' body'))
  | classDecl {members members' : List Member} (name : String)
      (hmembers : Alike (.members members) (.members members')) :
      Alike (.stmt (.classDecl name members)) (.stmt (.classDecl name members'))
  | expression {e e' : Expr} (he : Alike (.expr e) (.expr e')) :
      Alike (.stmt (.expression e)) (.stmt (.expression e'))
  | retNothing (commented commented' : Bool) : Alike (.stmt (.ret commented none)) (.stmt (.ret commented' none))
  | ret {e e' : Expr} (commented commented' : Bool) (he : Alike (.expr e) (.expr e')) :
      Alike (.stmt (.ret commented (some e))) (.stmt (.ret commented' (some e')))
  | block {body body' : List Stmt} (hbody : Alike (.stmts body) (.stmts body')) :
      Alike (.stmt (.block body)) (.stmt (.block body'))
  | conditional {body body' : List Stmt} {cs cs' : List Clause} (hbody : Alike (.stmts body) (.stmts body'))
      (hclauses : Alike (.clauses cs) (.clauses cs')) :
      Alike (.stmt (.conditional body cs)) (.stmt (.conditional body' cs'))
  | other : Alike (.stmt .other) (.stmt .other)
  | noStmts : Alike (.stmts []) (.stmts [])
  | stmts {s s' : Stmt} {ss ss' : List Stmt} (hs : Alike (.stmt s) (.stmt s')) (hss : Alike (.stmts ss) (.stmts ss')) :
      Alike (.stmts (s :: ss)) (.stmts (s' :: ss'))
  | stmtsLeft {ss ss' : List Stmt} (h : Alike (.stmts ss) (.stmts ss')) : Alike (.stmts (.comment :: ss)) (.stmts ss')
  | stmtsRight {ss ss' : List Stmt} (h : Alike (.stmts ss) (.stmts ss')) : Alike (.stmts ss) (.stmts (.comment :: ss'))
  | noClauses : Alike (.clauses []) (.clauses [])
  | elseIf {body body' : List Stmt} {cs cs' : List Clause} (hbody : Alike (.stmts body) (.stmts body'))
      (hcs : Alike (.clauses cs) (.clauses cs')) :
      Alike (.clauses (.elseIf body :: cs)) (.clauses (.elseIf body' :: cs'))
  | otherwise {body body' : List Stmt} {cs cs' : List Clause} (hbody : Alike (.stmts body) (.stmts body'))
      (hcs : Alike (.clauses cs) (.clauses cs')) :
      Alike (.clauses (.otherwise body :: cs)) (.clauses (.otherwise body' :: cs'))
  | clausesLeft {cs cs' : List Clause} (h : Alike (.clauses cs) (.clauses cs')) :
      Alike (.clauses (.comment :: cs)) (.clauses cs')
  | clausesRight {cs cs' : List Clause} (h : Alike (.clauses cs) (.clauses cs')) :
      Alike (.clauses cs) (.clauses (.comment :: cs'))
  | noMembers : Alike (.members []) (.members [])
  | method {body body' : List Stmt} {ms ms' : List Member} (name : String) (hbody : Alike (.stmts body) (.stmts body'))
      (hms : Alike (.members ms) (.members ms')) :
      Alike (.members (.method name body :: ms)) (.members (.method name body' :: ms'))
  | otherMember {ms ms' : List Member} (hms : Alike (.members ms) (.members ms')) :
      Alike (.members (.other :: ms)) (.members (.other :: ms'))
  | membersLeft {ms ms' : List Member} (h : Alike (.members ms) (.members ms')) :
      Alike (.members (.comment :: ms)) (.members ms')
  | membersRight {ms ms' : List Member} (h : Alike (.members ms) (.members ms')) :
      Alike (.members ms) (.members (.comment :: ms'))
  | plain {e : Expr} (h : e.isPlain = true) : Alike (.expr e) (.expr e)
  | scopedCall {args args' : List Item} (scope scope' : String) (method : Option String)
      (hargs : Alike (.items args) (.items args')) :
      Alike (.expr (.scopedCall scope method args)) (.expr (.scopedCall scope' method args'))
  | memberCall {target target' : Expr} {args args' : List Item} (method : Option String)
      (htarget : Alike (.expr target) (.expr target')) (hargs : Alike (.items args) (.items args')) :
      Alike (.expr (.memberCall target method args)) (.expr (.memberCall target' method args'))
  | array {is is' : List Item} (h : Alike (.items is) (.items is')) : Alike (.expr (.array is)) (.expr (.array is'))
  | closure {ps ps' : List Param} {body body' : List Stmt} (hparams : paramNames ps = paramNames ps')
      (hbody : Alike (.stmts body) (.stmts body')) : Alike (.expr (.closure ps body)) (.expr (.closure ps' body'))
  | arrow {ps ps' : List Param} {e e' : Expr} (hparams : paramNames ps = paramNames ps')
      (he : Alike (.expr e) (.expr e')) : Alike (.expr (.arrow ps e)) (.expr (.arrow ps' e'))
  | new {cls cls' : Option String} (h : cls.isSome = cls'.isSome) : Alike (.expr (.new cls)) (.expr (.new cls'))
  | newAnonymous {ms ms' : List Member} (h : Alike (.members ms) (.members ms')) :
      Alike (.expr (.newAnonymous ms)) (.expr (.newAnonymous ms'))
  | classConstant (text text' : String) : Alike (.expr (.classConstant text)) (.expr (.classConstant text'))
  | paren {e e' : Expr} (commented commented' : Bool) (h : Alike (.expr e) (.expr e')) :
      Alike (.expr (.paren commented e)) (.expr (.paren commented' e'))
  | noItems : Alike (.items []) (.items [])
  | item {e e' : Expr} {is is' : List Item} (he : Alike (.expr e) (.expr e')) (his : Alike (.items is) (.items is')) :
      Alike (.items (.value e :: is)) (.items (.value e' :: is'))
  | itemsLeft {is is' : List Item} (h : Alike (.items is) (.items is')) : Alike (.items (.comment :: is)) (.items is')
  | itemsRight {is is' : List Item} (h : Alike (.items is) (.items is')) : Alike (.items is) (.items (.comment :: is'))

/-! ## What the marks tell -/

theorem lowerStmts_cons (s : Stmt) (ss : List Stmt) : lowerStmts (s :: ss) = s.lower.toList ++ lowerStmts ss := by
  rw [lowerStmts]
  cases s.lower <;> rfl

theorem lowerStmts_cons_inj {s s' : Stmt} (h : s.lower.isSome = s'.lower.isSome) {ss ss' : List Stmt} :
    lowerStmts (s :: ss) = lowerStmts (s' :: ss') ↔ s.lower = s'.lower ∧ lowerStmts ss = lowerStmts ss' := by
  rw [lowerStmts_cons, lowerStmts_cons]
  cases hs : s.lower <;> cases hs' : s'.lower <;> simp_all

/-- Of the same code the same statements are kept. -/
theorem Alike.isSome_lower {s s' : Stmt} (h : Alike (.stmt s) (.stmt s')) : s.lower.isSome = s'.lower.isSome := by
  cases h with
  | retNothing c c' => cases c <;> cases c' <;> rfl
  | ret c c' => cases c <;> cases c' <;> rfl
  | _ => rfl

theorem Expr.isHidden_iff (e : Expr) : e.isHidden = true ↔ e.lower = .other := by
  unfold Expr.isHidden
  split <;> simp_all

/-- The marks of two parts, whatever follows them, are the same exactly when what they stand for is. -/
def Node.Told (a b : Node) : Prop :=
  ∀ r r' : List Mark, a.marks ++ r = b.marks ++ r' ↔ a.lower = b.lower ∧ r = r'

theorem Node.Told.append {a b c d : Node} (h : a.Told b) (h' : c.Told d) (r r' : List Mark) :
    (a.marks ++ c.marks) ++ r = (b.marks ++ d.marks) ++ r' ↔ (a.lower = b.lower ∧ c.lower = d.lower) ∧ r = r' := by
  rw [List.append_assoc, List.append_assoc, h, h', and_assoc]

/-- What is seen of an expression behind a comment, if there is one. -/
def Expr.shown (commented : Bool) (e : Expr) : Code.Expr := if commented then .other else e.lower

theorem Expr.shown_eq_other_iff (commented : Bool) (e : Expr) :
    e.shown commented = .other ↔ (commented || e.isHidden) = true := by
  cases commented
  · simp [shown, isHidden_iff]
  · simp [shown]

/-- An expression that a comment may hide: hidden in one tree and not in the other, it stands for different things. -/
theorem told_of_hidden (c c' : Bool) {e e' : Expr} (h : (Node.expr e).Told (.expr e')) (r r' : List Mark) :
    (if c || e.isHidden then [Mark.hidden] else .taken :: e.marks) ++ r =
        (if c' || e'.isHidden then [Mark.hidden] else .taken :: e'.marks) ++ r' ↔
      e.shown c = e'.shown c' ∧ r = r' := by
  have hleft := e.shown_eq_other_iff c
  have hright := e'.shown_eq_other_iff c'
  by_cases hc : (c || e.isHidden) = true
  · by_cases hc' : (c' || e'.isHidden) = true
    · simp [hc, hc', hleft.2 hc, hright.2 hc']
    · have hne : ¬ (.other = e'.shown c') := fun h => hc' (hright.1 h.symm)
      simp [hc, hc', hleft.2 hc, hne]
  · by_cases hc' : (c' || e'.isHidden) = true
    · have hne : ¬ (e.shown c = .other) := fun h => hc (hleft.1 h)
      simp [hc, hc', hright.2 hc', hne]
    · obtain ⟨rfl, -⟩ : c = false ∧ e.isHidden = false := by simpa using hc
      obtain ⟨rfl, -⟩ : c' = false ∧ e'.isHidden = false := by simpa using hc'
      rw [if_neg hc, if_neg hc']
      simpa [Node.marks, Node.lower, Expr.shown] using h r r'

/-- **The marks tell the trees of the same code apart** as far as they stand for different statements. -/
theorem Alike.told {a b : Node} (h : Alike a b) : a.Told b := by
  induction h with
  | @namespaced name name' body body' hname hbody ih =>
    intro r r'
    have hbodies := ih r r'
    simp only [Node.marks, Node.lower, Lowered.stmts.injEq] at hbodies
    cases name <;> cases name' <;>
      simp_all [Node.marks, Node.lower, Stmt.marks, Stmt.lower, and_assoc]
  | classDecl name h ih =>
    intro r r'
    simpa [Node.marks, Node.lower, Stmt.marks, Stmt.lower] using ih r r'
  | expression he ih =>
    intro r r'
    simpa [Node.marks, Node.lower, Stmt.marks, Stmt.lower] using ih r r'
  | retNothing commented commented' =>
    intro r r'
    cases commented <;> cases commented' <;> simp [Node.marks, Node.lower, Stmt.marks, Stmt.lower]
  | @ret e e' commented commented' he ih =>
    intro r r'
    have hlower (c : Bool) (e : Expr) : (Stmt.ret c (some e)).lower = some (.ret (some (e.shown c))) := by
      cases c <;> rfl
    simpa [Node.marks, Node.lower, Stmt.marks, hlower] using told_of_hidden commented commented' ih r r'
  | block hbody ih =>
    intro r r'
    simpa [Node.marks, Node.lower, Stmt.marks, Stmt.lower] using ih r r'
  | conditional hbody hclauses ihbody ihclauses =>
    intro r r'
    simpa [Node.marks, Node.lower, Stmt.marks, Stmt.lower] using ihbody.append ihclauses r r'
  | other | noStmts | noClauses | noMembers | noItems =>
    intro r r'
    simp [Node.marks, Node.lower, Stmt.marks, marksIn, clauseMarks, memberMarks, itemMarks]
  | @stmts s s' ss ss' hs hss ihs ihss =>
    intro r r'
    have hcons : lowerStmts (s :: ss) = lowerStmts (s' :: ss') ↔ s.lower = s'.lower ∧ lowerStmts ss = lowerStmts ss' :=
      lowerStmts_cons_inj hs.isSome_lower
    simpa [Node.marks, Node.lower, marksIn, hcons] using ihs.append ihss r r'
  | stmtsLeft h ih | stmtsRight h ih | clausesLeft h ih | clausesRight h ih | membersLeft h ih | membersRight h ih
  | itemsLeft h ih | itemsRight h ih => exact ih
  | elseIf hbody hcs ihbody ihcs =>
    intro r r'
    simpa [Node.marks, Node.lower, clauseMarks, lowerClauses] using ihbody.append ihcs r r'
  | otherwise hbody hcs ihbody ihcs =>
    intro r r'
    simpa [Node.marks, Node.lower, clauseMarks, lowerClauses] using ihbody.append ihcs r r'
  | method name hbody hms ihbody ihms =>
    intro r r'
    simpa [Node.marks, Node.lower, memberMarks, lowerMembers] using ihbody.append ihms r r'
  | otherMember hms ih => exact ih
  | @plain e he =>
    intro r r'
    have hmarks : e.marks = [] := by cases e <;> first | rfl | cases he
    simp [Node.marks, hmarks]
  | scopedCall scope scope' method hargs ih =>
    intro r r'
    have hargs := ih r r'
    simp only [Node.marks, Node.lower, Lowered.exprs.injEq] at hargs
    cases method <;> simp [Node.marks, Node.lower, Expr.marks, Expr.lower, hargs, and_assoc]
  | memberCall method htarget hargs ihtarget ihargs =>
    intro r r'
    cases method with
    | none => simp [Node.marks, Node.lower, Expr.marks, Expr.lower]
    | some method => simpa [Node.marks, Node.lower, Expr.marks, Expr.lower] using ihtarget.append ihargs r r'
  | array h ih =>
    intro r r'
    simpa [Node.marks, Node.lower, Expr.marks, Expr.lower] using ih r r'
  | closure hparams hbody ih =>
    intro r r'
    simpa [Node.marks, Node.lower, Expr.marks, Expr.lower, hparams] using ih r r'
  | arrow hparams he ih =>
    intro r r'
    simpa [Node.marks, Node.lower, Expr.marks, Expr.lower, hparams] using ih r r'
  | @new cls cls' h =>
    intro r r'
    cases cls <;> cases cls' <;> simp_all [Node.marks, Node.lower, Expr.marks, Expr.lower]
  | newAnonymous h ih =>
    intro r r'
    simpa [Node.marks, Node.lower, Expr.marks, Expr.lower] using ih r r'
  | classConstant text text' =>
    intro r r'
    simp [Node.marks, Node.lower, Expr.marks, Expr.lower]
  | paren commented commented' h ih =>
    intro r r'
    have hlower (c : Bool) (e : Expr) : (Expr.paren c e).lower = e.shown c := by cases c <;> rfl
    simpa [Node.marks, Node.lower, Expr.marks, hlower] using told_of_hidden commented commented' ih r r'
  | item he his ihe ihis =>
    intro r r'
    simpa [Node.marks, Node.lower, itemMarks, lowerItems] using ihe.append ihis r r'

/-- **Trees of the same code lower to the same statements exactly when their marks are the same.** -/
theorem marksIn_eq_iff {ss ss' : List Stmt} (h : Alike (.stmts ss) (.stmts ss')) :
    marksIn ss = marksIn ss' ↔ lowerStmts ss = lowerStmts ss' := by
  have htold := h.told [] []
  simpa [Node.marks, Node.lower] using htold

end Php
end DynamicMembers
