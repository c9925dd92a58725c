import DynamicMembers.Proofs.Php.Readers
/-!
# The grammar — sources of the same code have alike trees

One lemma for each reader of the grammar, given all of them with one step less to spend, and the budget by induction.
Sources with the same tokens have as many of them, so their trees are read with the same budget (`alike_program`).
-/
namespace DynamicMembers
namespace Php

/-- Parts of trees of one kind that are read from the same code. -/
abbrev AlikeIn {α : Type} (node : α → Node) (a b : α) : Prop := Alike (node a) (node b)

/-- Members that keep lists of members alike. -/
def AlikeMember (m m' : Member) : Prop :=
  ∀ ms ms', AlikeIn .members ms ms' → AlikeIn .members (m :: ms) (m' :: ms')

theorem alike_other : AlikeIn .expr .other .other := .plain rfl

namespace Parser

/-- Comments in front of lists come and go. -/
theorem OnlyComments.append {α : Type} {node : List α → Node} {comment : α} {cs cs' l l' : List α}
    (h : OnlyComments comment cs cs') (left : ∀ {l l'}, AlikeIn node l l' → AlikeIn node (comment :: l) l')
    (right : ∀ {l l'}, AlikeIn node l l' → AlikeIn node l (comment :: l')) (hl : AlikeIn node l l') :
    AlikeIn node (cs ++ l) (cs' ++ l') := by
  obtain ⟨m, n, rfl, rfl⟩ := h
  have hright : AlikeIn node l (List.replicate n comment ++ l') := by
    induction n with
    | zero => exact hl
    | succ n ih => exact right ih
  induction m with
  | zero => exact hright
  | succ m ih => exact left ih

theorem OnlyComments.stmts {cs cs' ss ss' : List Stmt} (h : OnlyComments .comment cs cs')
    (hss : AlikeIn .stmts ss ss') : AlikeIn .stmts (cs ++ ss) (cs' ++ ss') := h.append .stmtsLeft .stmtsRight hss

theorem OnlyComments.clauses {cs cs' ds ds' : List Clause} (h : OnlyComments .comment cs cs')
    (hds : AlikeIn .clauses ds ds') : AlikeIn .clauses (cs ++ ds) (cs' ++ ds') :=
  h.append .clausesLeft .clausesRight hds

theorem OnlyComments.members {cs cs' ms ms' : List Member} (h : OnlyComments .comment cs cs')
    (hms : AlikeIn .members ms ms') : AlikeIn .members (cs ++ ms) (cs' ++ ms') :=
  h.append .membersLeft .membersRight hms

theorem OnlyComments.items {cs cs' is is' : List Item} (h : OnlyComments .comment cs cs')
    (his : AlikeIn .items is is') : AlikeIn .items (cs ++ is) (cs' ++ is') := h.append .itemsLeft .itemsRight his

/-- With the given budget every reader of the grammar reads the same code alike. -/
structure GrammarAlike (n : Nat) : Prop where
  expression : Reads (AlikeIn .expr) (expression n) (expression n)
  operators : ∀ e e', AlikeIn .expr e e' → Reads (AlikeIn .expr) (operators n e) (operators n e')
  operand : Reads (AlikeIn .expr) (operand n) (operand n)
  calls : ∀ start start' e e', AlikeIn .expr e e' → Reads (AlikeIn .expr) (calls n start e) (calls n start' e')
  items : ∀ close, Reads (AlikeIn .items) (items n close) (items n close)
  item : Reads (AlikeIn .expr) (item n) (item n)
  closure : Reads (AlikeIn .expr) (closure n) (closure n)
  arrow : Reads (AlikeIn .expr) (arrow n) (arrow n)
  creation : Reads (AlikeIn .expr) (creation n) (creation n)
  body : Reads (AlikeIn .stmts) (body n) (body n)
  classBody : Reads (AlikeIn .members) (classBody n) (classBody n)
  members : Reads (AlikeIn .members) (members n) (members n)
  member : Reads AlikeMember (member n) (member n)
  statements : Reads (AlikeIn .stmts) (statements n) (statements n)
  statement : ∀ awaited, Reads (AlikeIn .stmt) (statement n awaited) (statement n awaited)
  effect : Reads (AlikeIn .stmt) (effect n) (effect n)
  handlers : Reads Eq (handlers n) (handlers n)
  conditional : ∀ awaited, Reads (AlikeIn .stmt) (conditional n awaited) (conditional n awaited)
  branch : ∀ awaited, Reads (AlikeIn .stmts) (branch n awaited) (branch n awaited)
  innerClauses : Reads (AlikeIn .clauses) (innerClauses n) (innerClauses n)
  clauses : ∀ awaited, Reads (AlikeIn .clauses) (clauses n awaited) (clauses n awaited)
  colonClauses : Reads (AlikeIn .clauses) (colonClauses n) (colonClauses n)

namespace GrammarAlike

variable {n : Nat}

theorem zero : GrammarAlike 0 := by
  constructor <;> intros <;> exact reads_failure

/-! ## Expressions -/

theorem expression_succ (ih : GrammarAlike n) :
    Reads (AlikeIn .expr) (Parser.expression (n + 1)) (Parser.expression (n + 1)) := by
  have hother : Reads (AlikeIn .expr) (do let _ ← Parser.expression n; return .other)
      (do let _ ← Parser.expression n; return .other) := ih.expression.seq (reads_pure alike_other)
  unfold Parser.expression
  refine reads_peek.bindToken fun t _ _ => (reads_peekAt 1).bindToken fun u _ _ => reads_ite ?_ ?_
  · exact reads_advance.seq hother
  refine (reads_peekAt 2).bindToken fun v _ _ => reads_ite ?_ (reads_ite ?_ ?_)
  · exact reads_advance.seq (reads_advance.seq (reads_advance.seq hother))
  · -- what is yielded may be left out, or a pair
    refine reads_advance.seq (reads_peek.bindToken fun w _ _ => reads_ite (reads_advance.seq ?rest) ?rest)
    refine reads_peek.bindToken fun w gap hgap => ?_
    rw [endsStatement_gap hgap]
    refine reads_ite (reads_pure alike_other) (ih.expression.seq ?_)
    exact (reads_accept "=>").bindEq fun _ => reads_ite hother (reads_pure alike_other)
  · exact ih.operand.bind fun e e' he => ih.operators e e' he

theorem operators_succ (ih : GrammarAlike n) (e e' : Expr) (he : AlikeIn .expr e e') :
    Reads (AlikeIn .expr) (Parser.operators (n + 1) e) (Parser.operators (n + 1) e') := by
  have hother : Reads (AlikeIn .expr) (do let _ ← Parser.expression n; return .other)
      (do let _ ← Parser.expression n; return .other) := ih.expression.seq (reads_pure alike_other)
  unfold Parser.operators
  refine reads_peekInside.bindToken fun t _ _ => reads_ite ?_ (reads_ite ?_ (reads_pure he))
  · exact reads_advance.seq hother
  · refine reads_advance.seq ((reads_accept ":").bindEq fun _ => reads_ite ?_ hother)
    exact ih.expression.seq ((reads_expect ":").seq hother)

theorem operand_succ (ih : GrammarAlike n) :
    Reads (AlikeIn .expr) (Parser.operand (n + 1)) (Parser.operand (n + 1)) := by
  unfold Parser.operand
  refine reads_get.bind fun start start' hstart => ?_
  refine reads_peek.bindToken fun t gap _ => (reads_peekAt 1).bindToken fun u _ _ => ?_
  have hcalls {e : Expr} (he : e.isPlain = true) :
      Reads (AlikeIn .expr) (Parser.calls n start e) (Parser.calls n start' e) := ih.calls start start' e e (.plain he)
  obtain ⟨_, kind, text⟩ := t
  cases kind with
  | var | integer | single | double | literal => exact reads_advance.seq (hcalls rfl)
  | word =>
    refine reads_ite (reads_advance.seq (hcalls ?_)) ?_
    · split <;> rfl
    refine reads_ite (reads_advance.seq (reads_advance.seq ?_)) ?_
    · exact (ih.items ")").bind fun is is' his => ih.calls start start' _ _ (.array his)
    refine reads_ite (reads_advance.seq ih.operand) ?_
    refine reads_ite (ih.closure.bind fun e e' he => ih.calls start start' e e' he) ?_
    refine reads_ite ih.arrow ?_
    refine reads_ite (ih.creation.bind fun e e' he => ih.calls start start' e e' he) ?_
    refine reads_ite (reads_advance.seq (reads_passGroup.seq ?_)) (reads_name.seq (hcalls rfl))
    exact reads_peekInside.bindToken fun _ _ _ => reads_ite (reads_passGroup.seq (hcalls rfl)) (hcalls rfl)
  | sign =>
    refine reads_ite (reads_name.seq (hcalls rfl)) ?_
    refine reads_ite ?_ ?_
    · rw [hstart.length_eq]
      exact (reads_computedVariable _).seq (hcalls rfl)
    refine reads_ite (reads_advance.seq (reads_peek.bind fun v v' _ => ih.expression.bind fun e e' he => ?_)) ?_
    · exact (reads_expect ")").seq (ih.calls start start' _ _ (.paren _ _ he))
    refine reads_ite (reads_advance.seq ?_) (reads_ite (reads_passGroup.seq ih.operand) reads_failure)
    exact (ih.items "]").bind fun is is' his => ih.calls start start' _ _ (.array his)
  | finish => exact reads_failure

theorem calls_succ (ih : GrammarAlike n) (start start' : List Token) (e e' : Expr) (he : AlikeIn .expr e e') :
    Reads (AlikeIn .expr) (Parser.calls (n + 1) start e) (Parser.calls (n + 1) start' e') := by
  have hother : Reads (AlikeIn .expr) (Parser.calls n start .other) (Parser.calls n start' .other) :=
    ih.calls start start' _ _ alike_other
  unfold Parser.calls
  refine reads_peekInside.bindToken fun t _ _ =>
    reads_ite ?_ (reads_ite ?_ (reads_ite ?_ (reads_ite ?_ (reads_ite ?_ ?_))))
  · refine reads_advance.seq (reads_memberName.bindEq fun method => ?_)
    refine reads_peekInside.bindToken fun u _ _ => reads_ite (reads_advance.seq ?_) hother
    exact (ih.items ")").bind fun args args' hargs => ih.calls start start' _ _ (.memberCall method he hargs)
  · refine (reads_spanFrom start start').bind fun scope scope' _ => reads_advance.seq ?_
    refine reads_peek.bindToken fun u _ _ => reads_peek.bindToken fun v _ _ => reads_memberName.bindEq fun method => ?_
    refine reads_peekInside.bindToken fun w _ _ => reads_ite (reads_advance.seq ?_) (reads_ite hother ?_)
    · exact (ih.items ")").bind fun args args' hargs => ih.calls start start' _ _ (.scopedCall _ _ method hargs)
    · exact (reads_spanFrom start start').bind fun text text' _ => ih.calls start start' _ _ (.classConstant _ _)
  · exact reads_advance.seq ((ih.items ")").seq hother)
  · exact reads_passGroup.seq hother
  · exact reads_advance.seq hother
  · exact reads_pure he

theorem items_succ (ih : GrammarAlike n) (close : String) :
    Reads (AlikeIn .items) (Parser.items (n + 1) close) (Parser.items (n + 1) close) := by
  unfold Parser.items
  refine (reads_commentsBefore Item.comment).bind fun cs cs' hcs => ?_
  have hrest : Reads (AlikeIn .items) (do return cs ++ (← Parser.items n close))
      (do return cs' ++ (← Parser.items n close)) :=
    (ih.items close).bind fun is is' his => reads_pure (hcs.items his)
  have hvalue {e e' : Expr} (he : AlikeIn .expr e e') :
      Reads (AlikeIn .items) (do return cs ++ .value e :: (← Parser.items n close))
        (do return cs' ++ .value e' :: (← Parser.items n close)) :=
    (ih.items close).bind fun is is' his => reads_pure (hcs.items (.item he his))
  refine (reads_accept close).bindEq fun _ => reads_ite (reads_pure ?_) ?_
  · simpa using hcs.items .noItems
  refine (reads_accept ",").bindEq fun _ => reads_ite hrest ?_
  refine (reads_accept "...").bindEq fun _ => reads_ite ?_ ?_
  · exact reads_peek.bindToken fun _ _ _ => reads_ite hrest (ih.expression.seq (hvalue alike_other))
  · exact ih.item.bind fun e e' he => hvalue he

theorem item_succ (ih : GrammarAlike n) : Reads (AlikeIn .expr) (Parser.item (n + 1)) (Parser.item (n + 1)) := by
  unfold Parser.item
  refine reads_peek.bindToken fun t _ _ => (reads_peekAt 1).bindToken fun u _ _ => ?_
  refine reads_ite (reads_advance.seq (reads_advance.seq ?rest)) ?rest
  exact ih.expression.bind fun e e' he => (reads_accept "=>").bindEq fun _ => reads_ite ih.expression (reads_pure he)

theorem closure_succ (ih : GrammarAlike n) :
    Reads (AlikeIn .expr) (Parser.closure (n + 1)) (Parser.closure (n + 1)) := by
  unfold Parser.closure
  refine reads_advance.seq ((reads_accept "&").seq ((reads_expect "(").seq ?_))
  refine (reads_params n).bind fun ps ps' hps => reads_peek.bindToken fun t _ _ => ?_
  refine reads_ite (reads_advance.seq (reads_passGroup.seq ?result)) ?result
  refine (reads_accept ":").bindEq fun _ => reads_ite ((reads_passToSign ["\x7b"]).seq ?body) ?body
  exact ih.body.bind fun ss ss' hss => reads_pure (.closure hps hss)

theorem arrow_succ (ih : GrammarAlike n) : Reads (AlikeIn .expr) (Parser.arrow (n + 1)) (Parser.arrow (n + 1)) := by
  unfold Parser.arrow
  refine reads_advance.seq ((reads_accept "&").seq ((reads_expect "(").seq ?_))
  refine (reads_params n).bind fun ps ps' hps => (reads_accept ":").bindEq fun _ => ?_
  refine reads_ite ((reads_passToSign ["=>"]).seq ?body) ?body
  exact (reads_expect "=>").seq (ih.expression.bind fun e e' he => reads_pure (.arrow hps he))

theorem creation_succ (ih : GrammarAlike n) :
    Reads (AlikeIn .expr) (Parser.creation (n + 1)) (Parser.creation (n + 1)) := by
  have hrest {cls cls' : Option String} (h : cls.isSome = cls'.isSome) : Reads (AlikeIn .expr)
      (do
        passReference n
        if (← peekInside).isSign "(" then passGroup
        return .new cls)
      (do
        passReference n
        if (← peekInside).isSign "(" then passGroup
        return .new cls') := by
    refine (reads_passReference n).seq (reads_peekInside.bindToken fun _ _ _ => ?_)
    exact reads_ite (reads_passGroup.seq (reads_pure (.new h))) (reads_pure (.new h))
  unfold Parser.creation
  refine reads_advance.seq ((reads_passAttributes n).seq ((reads_passModifiers n).seq ?_))
  refine reads_peek.bindToken fun t _ _ => reads_ite ?_ (reads_ite ?_ (reads_ite ?_ ?_))
  · refine reads_advance.seq (reads_peek.bindToken fun _ _ _ => reads_ite (reads_passGroup.seq ?members) ?members)
    exact ih.classBody.bind fun ms ms' hms => reads_pure (.newAnonymous hms)
  · refine (reads_peekAt 1).bindToken fun u _ _ => reads_name.bind fun text text' _ => ?_
    exact reads_peekInside.bindToken fun _ _ _ => reads_ite (hrest rfl) (hrest rfl)
  · exact reads_passGroup.seq (hrest rfl)
  · exact (reads_computedVariable n).seq (hrest rfl)

/-! ## Bodies and members -/

theorem body_succ (ih : GrammarAlike n) : Reads (AlikeIn .stmts) (Parser.body (n + 1)) (Parser.body (n + 1)) := by
  unfold Parser.body
  refine (reads_expect "\x7b").seq (ih.statements.bind fun ss ss' hss => ?_)
  exact (reads_expect "\x7d").seq (reads_pure hss)

theorem classBody_succ (ih : GrammarAlike n) :
    Reads (AlikeIn .members) (Parser.classBody (n + 1)) (Parser.classBody (n + 1)) := by
  unfold Parser.classBody
  refine (reads_passToSign ["\x7b"]).seq ((reads_expect "\x7b").seq (ih.members.bind fun ms ms' hms => ?_))
  exact (reads_expect "\x7d").seq (reads_pure hms)

theorem members_succ (ih : GrammarAlike n) :
    Reads (AlikeIn .members) (Parser.members (n + 1)) (Parser.members (n + 1)) := by
  unfold Parser.members
  refine (reads_commentsBefore Member.comment).bind fun cs cs' hcs => ?_
  refine reads_peek.bindToken fun t _ _ => reads_ite (reads_pure ?_) ?_
  · simpa using hcs.members .noMembers
  · exact ih.member.bind fun m m' hm => ih.members.bind fun ms ms' hms => reads_pure (hcs.members (hm ms ms' hms))

theorem member_succ (ih : GrammarAlike n) :
    Reads AlikeMember (Parser.member (n + 1)) (Parser.member (n + 1)) := by
  have hother : AlikeMember .other .other := fun _ _ hms => .otherMember hms
  have hmethod (name : String) {ss ss' : List Stmt} (hss : AlikeIn .stmts ss ss') :
      AlikeMember (.method name ss) (.method name ss') := fun _ _ hms => .method name hss hms
  have hstop : Ungapped fun t => t.isKeyword "function" || [";", "\x7b", "="].any t.isSign := fun t u h => by
    have hsigns : t.isSign = u.isSign := funext h.isSign
    simp only [h.isKeyword, hsigns]
  unfold Parser.member
  refine (reads_passAttributes n).seq (reads_peek.bindToken fun t _ _ => ?_)
  refine reads_ite ((reads_passTo hstop).seq ?rest) ?rest
  refine reads_peek.bindToken fun t _ _ => reads_ite ?_ ?_
  · refine reads_advance.seq ((reads_accept "&").seq (reads_anyWord.bindEq fun method => reads_passGroup.seq ?_))
    refine (reads_passToSign ["\x7b", ";"]).seq ((reads_accept ";").bindEq fun _ => reads_ite ?_ ?_)
    · exact reads_pure (hmethod method .noStmts)
    · exact ih.body.bind fun ss ss' hss => reads_pure (hmethod method hss)
  · refine (reads_passToSign ["\x7b", ";"]).seq ((reads_accept ";").bindEq fun _ => ?_)
    exact reads_ite (reads_passGroup.seq (reads_pure hother)) (reads_pure hother)

/-! ## Statements -/

theorem statements_succ (ih : GrammarAlike n) :
    Reads (AlikeIn .stmts) (Parser.statements (n + 1)) (Parser.statements (n + 1)) := by
  have hskipped : Reads (AlikeIn .stmt) statements.skipped statements.skipped :=
    reads_advance.seq (reads_passStatement.seq (reads_pure .other))
  unfold Parser.statements
  refine (reads_commentsBefore Stmt.comment).bind fun cs cs' hcs => ?_
  refine reads_peek.bindToken fun t _ _ => reads_ite (reads_pure ?_) ?_
  · simpa using hcs.stmts .noStmts
  refine (reads_orElse (ih.statement false) hskipped).bind fun s s' hs => ih.statements.bind fun ss ss' hss => ?_
  exact reads_pure (hcs.stmts (.stmts hs hss))

theorem effect_succ (ih : GrammarAlike n) : Reads (AlikeIn .stmt) (Parser.effect (n + 1)) (Parser.effect (n + 1)) := by
  unfold Parser.effect
  exact ih.expression.bind fun e e' he => reads_semicolon.seq (reads_pure (.expression he))

theorem statement_succ (ih : GrammarAlike n) (awaited : Bool) :
    Reads (AlikeIn .stmt) (Parser.statement (n + 1) awaited) (Parser.statement (n + 1) awaited) := by
  have hother : Reads (AlikeIn .stmt) (pure .other) (pure .other) := reads_pure .other
  have hdeclaration : Reads (AlikeIn .stmt) statement.declaration statement.declaration :=
    (reads_passToSign ["\x7b"]).seq (reads_passGroup.seq hother)
  unfold Parser.statement
  refine reads_peek.bindToken fun t _ _ => (reads_peekAt 1).bindToken fun u _ _ => ?_
  refine reads_ite ?block (reads_ite (reads_advance.seq hother) ?_)
  case block =>
    exact ih.body.map fun ss ss' hss => .block hss
  refine reads_ite (reads_passGroup.seq (ih.statement awaited)) ?_
  refine reads_ite (reads_advance.seq (reads_advance.seq hother)) ?_
  refine reads_ite ih.effect (reads_ite (ih.conditional awaited) ?_)
  refine reads_ite ?ret ?_
  case ret =>
    refine reads_advance.seq (reads_peek.bindToken fun v gap hgap => ?_)
    rw [endsStatement_gap hgap]
    refine reads_ite (reads_semicolon.seq (reads_pure (.retNothing _ _))) ?_
    exact ih.expression.bind fun e e' he => reads_semicolon.seq (reads_pure (.ret _ _ he))
  refine reads_ite ?namespaced ?_
  case namespaced =>
    have hrest {name name' : Option String} (h : name.isSome = name'.isSome) : Reads (AlikeIn .stmt)
        (do
          if (← peek).isSign "\x7b" then return .namespaced name (← Parser.body n)
          semicolon
          return .namespaced name [])
        (do
          if (← peek).isSign "\x7b" then return .namespaced name' (← Parser.body n)
          semicolon
          return .namespaced name' []) := by
      refine reads_peek.bindToken fun _ _ _ => reads_ite ?_ ?_
      · exact ih.body.bind fun ss ss' hss => reads_pure (.namespaced h hss)
      · exact reads_semicolon.seq (reads_pure (.namespaced h .noStmts))
    refine reads_advance.seq (reads_ite (hrest rfl) ?_)
    have hname : Reads (fun a b => a.isSome = b.isSome) (some <$> name) (some <$> name) :=
      reads_name.map fun _ _ _ => rfl
    exact hname.bind fun text text' h => hrest h
  refine reads_ite ?classDecl ?_
  case classDecl =>
    refine (reads_passModifiers n).seq (reads_peek.bindToken fun v _ _ => (reads_guard _).seq (reads_advance.seq ?_))
    exact reads_anyWord.bindEq fun text => ih.classBody.bind fun ms ms' hms => reads_pure (.classDecl text hms)
  refine reads_ite hdeclaration ((reads_peekAt 2).bindToken fun v _ _ => reads_ite hdeclaration ?_)
  refine reads_ite ?loop ?_
  case loop =>
    refine reads_advance.seq (reads_passGroup.seq ((reads_accept ":").bindEq fun _ => reads_ite ?_ ?_))
    · exact ih.statements.seq (reads_advance.seq (reads_semicolon.seq hother))
    · exact (ih.statement awaited).seq hother
  refine reads_ite ?doWhile ?_
  case doWhile =>
    refine reads_advance.seq ((ih.statement false).seq (reads_advance.seq ?_))
    exact reads_passGroup.seq (reads_semicolon.seq hother)
  refine reads_ite (reads_advance.seq (ih.body.seq (ih.handlers.seq hother))) ?_
  refine reads_ite ?label ?_
  case label =>
    refine reads_advance.seq (ih.expression.seq ((reads_accept ":").bindEq fun _ => ?_))
    exact reads_ite (reads_semicolon.seq hother) hother
  exact reads_ite (reads_advance.seq (reads_passStatement.seq hother)) ih.effect

theorem handlers_succ (ih : GrammarAlike n) : Reads Eq (Parser.handlers (n + 1)) (Parser.handlers (n + 1)) := by
  unfold Parser.handlers
  refine reads_peek.bindToken fun t _ _ => reads_ite ?_ (reads_ite ?_ (reads_pure rfl))
  · exact reads_advance.seq (reads_passGroup.seq (ih.body.seq ih.handlers))
  · exact reads_advance.seq (ih.body.seq (reads_pure rfl))

/-! ## Conditionals -/

theorem conditional_succ (ih : GrammarAlike n) (awaited : Bool) :
    Reads (AlikeIn .stmt) (Parser.conditional (n + 1) awaited) (Parser.conditional (n + 1) awaited) := by
  unfold Parser.conditional
  refine reads_advance.seq (reads_passGroup.seq ((reads_accept ":").bindEq fun _ => reads_ite ?_ ?_))
  · refine ih.statements.bind fun ss ss' hss => ih.colonClauses.bind fun cs cs' hcs => ?_
    refine reads_peek.bindToken fun _ _ _ => (reads_guard _).seq (reads_advance.seq ?_)
    exact reads_semicolon.seq (reads_pure (.conditional hss hcs))
  · refine (ih.branch true).bind fun ss ss' hss => reads_ite ?_ ?_
    · exact ih.innerClauses.bind fun cs cs' hcs => reads_pure (.conditional hss hcs)
    · exact (ih.clauses false).bind fun cs cs' hcs => reads_pure (.conditional hss hcs)

theorem branch_succ (ih : GrammarAlike n) (awaited : Bool) :
    Reads (AlikeIn .stmts) (Parser.branch (n + 1) awaited) (Parser.branch (n + 1) awaited) := by
  unfold Parser.branch
  refine reads_peek.bindToken fun t _ _ => reads_ite ih.body ?_
  exact (ih.statement awaited).bind fun s s' hs => reads_pure (.stmts hs .noStmts)

/-- Comments do not make a clause the last one. -/
theorem any_isLast_of_alike {a b : Node} (h : Alike a b) :
    ∀ {cs cs' : List Clause}, a = .clauses cs → b = .clauses cs' →
      cs.any innerClauses.isLast = cs'.any innerClauses.isLast := by
  induction h with
  | noClauses =>
    rintro _ _ ⟨⟩ ⟨⟩
    rfl
  | elseIf hbody hcs _ ih =>
    rintro _ _ ⟨⟩ ⟨⟩
    simp [innerClauses.isLast, ih rfl rfl]
  | otherwise hbody hcs _ ih =>
    rintro _ _ ⟨⟩ ⟨⟩
    simp [innerClauses.isLast]
  | clausesLeft h ih | clausesRight h ih =>
    rintro _ _ ⟨⟩ ⟨⟩
    simp [innerClauses.isLast, ih rfl rfl]
  | _ =>
    rintro _ _ ⟨⟩ ⟨⟩

theorem innerClauses_succ (ih : GrammarAlike n) :
    Reads (AlikeIn .clauses) (Parser.innerClauses (n + 1)) (Parser.innerClauses (n + 1)) := by
  unfold Parser.innerClauses
  refine reads_get.bind fun start start' hstart => (ih.clauses true).bind fun cs cs' hcs => ?_
  have hnone : Reads (AlikeIn .clauses) (do set start; return []) (do set start'; return []) :=
    (reads_set hstart).seq (reads_pure .noClauses)
  rw [any_isLast_of_alike hcs rfl rfl]
  exact reads_atClause.bindEq fun found => reads_ite (reads_pure hcs) hnone

theorem clauses_succ (ih : GrammarAlike n) (awaited : Bool) :
    Reads (AlikeIn .clauses) (Parser.clauses (n + 1) awaited) (Parser.clauses (n + 1) awaited) := by
  unfold Parser.clauses
  refine reads_atClause.bindEq fun _ => reads_ite (reads_pure .noClauses) ?_
  refine (reads_commentsBefore Clause.comment).bind fun cs cs' hcs => reads_advance.bindToken fun t _ _ => ?_
  refine reads_ite ?_ ?_
  · refine reads_passGroup.seq ((ih.branch true).bind fun ss ss' hss => ?_)
    exact (ih.clauses awaited).bind fun ds ds' hds => reads_pure (hcs.clauses (.elseIf hss hds))
  · exact (ih.branch awaited).bind fun ss ss' hss => reads_pure (hcs.clauses (.otherwise hss .noClauses))

theorem colonClauses_succ (ih : GrammarAlike n) :
    Reads (AlikeIn .clauses) (Parser.colonClauses (n + 1)) (Parser.colonClauses (n + 1)) := by
  unfold Parser.colonClauses
  refine (reads_commentsBefore Clause.comment).bind fun cs cs' hcs => reads_peek.bindToken fun t _ _ => ?_
  refine reads_ite ?_ (reads_ite ?_ (reads_pure .noClauses))
  · refine reads_advance.seq (reads_passGroup.seq ((reads_expect ":").seq (ih.statements.bind fun ss ss' hss => ?_)))
    exact ih.colonClauses.bind fun ds ds' hds => reads_pure (hcs.clauses (.elseIf hss hds))
  · refine reads_advance.seq ((reads_expect ":").seq (ih.statements.bind fun ss ss' hss => ?_))
    exact reads_pure (hcs.clauses (.otherwise hss .noClauses))

end GrammarAlike

/-- **Every reader of the grammar reads the same code alike**, whatever its budget. -/
theorem grammarAlike : ∀ n, GrammarAlike n
  | 0 => .zero
  | n + 1 =>
    have ih := grammarAlike n
    { expression := ih.expression_succ
      operators := ih.operators_succ
      operand := ih.operand_succ
      calls := ih.calls_succ
      items := ih.items_succ
      item := ih.item_succ
      closure := ih.closure_succ
      arrow := ih.arrow_succ
      creation := ih.creation_succ
      body := ih.body_succ
      classBody := ih.classBody_succ
      members := ih.members_succ
      member := ih.member_succ
      statements := ih.statements_succ
      statement := ih.statement_succ
      effect := ih.effect_succ
      handlers := ih.handlers_succ
      conditional := ih.conditional_succ
      branch := ih.branch_succ
      innerClauses := ih.innerClauses_succ
      clauses := ih.clauses_succ
      colonClauses := ih.colonClauses_succ }

/-! ## Sources -/

theorem alike_append {a b : Node} (h : Alike a b) {ts ts' : List Stmt} (hts : AlikeIn .stmts ts ts') :
    ∀ {ss ss' : List Stmt}, a = .stmts ss → b = .stmts ss' → AlikeIn .stmts (ss ++ ts) (ss' ++ ts') := by
  induction h with
  | noStmts =>
    rintro _ _ ⟨⟩ ⟨⟩
    exact hts
  | stmts hs hss _ ih =>
    rintro _ _ ⟨⟩ ⟨⟩
    exact .stmts hs (ih rfl rfl)
  | stmtsLeft h ih =>
    rintro _ _ ⟨⟩ ⟨⟩
    exact .stmtsLeft (ih rfl rfl)
  | stmtsRight h ih =>
    rintro _ _ ⟨⟩ ⟨⟩
    exact .stmtsRight (ih rfl rfl)
  | _ =>
    rintro _ _ ⟨⟩ ⟨⟩

theorem reads_whole (budget : Nat) : ∀ n, Reads (AlikeIn .stmts) (whole budget n) (whole budget n)
  | 0 => reads_pure .noStmts
  | n + 1 => by
    unfold whole
    refine (grammarAlike budget).statements.bind fun ss ss' hss => reads_peek.bindToken fun t _ _ => ?_
    refine reads_ite (reads_pure hss) (reads_advance.seq ((reads_whole budget n).bind fun ts ts' hts => ?_))
    exact reads_pure (alike_append hss hts rfl rfl)

end Parser

/-- Two sources are of the same code: they have the same tokens, in gaps that leave the code or do not. -/
def SameCode (source source' : String) : Prop :=
  SameTokens (Token.ofSource source.toList) (Token.ofSource source'.toList)

/-- **Sources of the same code have trees that differ in comments at most.** -/
theorem alike_program {source source' : String} (h : SameCode source source') :
    AlikeIn .stmts (program source) (program source') := by
  have hwhole := Parser.reads_whole (10 * ((Token.ofSource source'.toList).length + 1))
    ((Token.ofSource source'.toList).length + 1) _ _ h
  simp only [program, h.length_eq]
  generalize StateT.run _ (Token.ofSource source.toList) = x at hwhole ⊢
  generalize StateT.run _ (Token.ofSource source'.toList) = y at hwhole ⊢
  cases hwhole with
  | none => exact .noStmts
  | some hresult => exact hresult.1

end Php
end DynamicMembers
