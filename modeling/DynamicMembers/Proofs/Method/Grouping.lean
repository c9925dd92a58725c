import DynamicMembers.Method.Answers
import DynamicMembers.Proofs.Delegation.Run
/-!
# Grouping — strategies in turn, however they are put together

A strategy is any action on a query, and `orElse` makes one of two.  A grouping of strategies does what they do in turn:
each meets the query that those before it left, until one settles it or fails.  So a pipeline of groupings is the flat
pipeline of their members, also where it hands a query to itself (`strategies_in_turn`).
-/
namespace DynamicMembers

/-! ## Actions in turn -/

namespace QueryM

theorem ext_runOn {α : Type} {act act' : QueryM α} (h : ∀ q, act.runOn q = act'.runOn q) : act = act' := funext h

/-- The outcome of actions in turn: the first that does not pass decides, on the query that those before it left. -/
inductive InTurn : List (QueryM Flow) → Query → Answer Flow × Query → Prop
  /-- No action is left: the query is passed on as it is. -/
  | done (q : Query) : InTurn [] q (.ok .pass, q)
  | pass {act : QueryM Flow} {acts : List (QueryM Flow)} {q q' : Query} {outcome : Answer Flow × Query}
    (hact : act.runOn q = (.ok .pass, q')) (hrest : InTurn acts q' outcome) : InTurn (act :: acts) q outcome
  | handled {act : QueryM Flow} (acts : List (QueryM Flow)) {q q' : Query}
    (hact : act.runOn q = (.ok .handled, q')) : InTurn (act :: acts) q (.ok .handled, q')
  | failed {act : QueryM Flow} (acts : List (QueryM Flow)) {q q' : Query} {e : InferenceError}
    (hact : act.runOn q = (.error e, q')) : InTurn (act :: acts) q (.error e, q')

end QueryM

namespace Strategy

theorem inTurn_firstOfAll : ∀ (acts : List (QueryM Flow)) (q : Query),
    QueryM.InTurn acts q ((firstOfAll acts).runOn q)
  | [], q => .done q
  | act :: acts, q => by
    rw [firstOfAll, runOn_firstOf]
    rcases hact : act.runOn q with ⟨e | flow, q'⟩
    · exact .failed acts hact
    · cases flow with
      | handled => exact .handled acts hact
      | pass => exact .pass hact (inTurn_firstOfAll acts q')

/-- **Actions in turn have one outcome**, that of trying each when those before it passed. -/
theorem inTurn_iff {acts : List (QueryM Flow)} {q : Query} {outcome : Answer Flow × Query} :
    QueryM.InTurn acts q outcome ↔ (firstOfAll acts).runOn q = outcome := by
  refine ⟨fun h => ?_, fun h => h ▸ inTurn_firstOfAll acts q⟩
  induction h with
  | done q => rfl
  | pass hact _ ih => rw [firstOfAll, runOn_firstOf, hact]; exact ih
  | handled acts hact | failed acts hact => rw [firstOfAll, runOn_firstOf, hact]

theorem firstOf_assoc (a b c : QueryM Flow) : firstOf (firstOf a b) c = firstOf a (firstOf b c) := by
  refine QueryM.ext_runOn fun q => ?_
  simp only [runOn_firstOf]
  rcases a.runOn q with ⟨_ | _ | _, q'⟩ <;> rfl

theorem firstOf_pass (a : QueryM Flow) : firstOf a (pure .pass) = a := QueryM.ext_runOn (runOn_firstOf_pass a)

theorem firstOfAll_append : ∀ as bs : List (QueryM Flow),
    firstOfAll (as ++ bs) = firstOf (firstOfAll as) (firstOfAll bs)
  | [], _ => rfl
  | a :: as, bs => by rw [List.cons_append, firstOfAll, firstOfAll_append as bs, firstOfAll, firstOf_assoc]

/-! ## Groupings -/

/-- A way to put strategies together with `orElse`. -/
inductive Grouping where
  | one (s : Strategy)
  | both (first second : Grouping)

namespace Grouping

def strategy : Grouping → Strategy
  | one s => s
  | both first second => first.strategy.orElse second.strategy

/-- The strategies of a grouping, in the order in which they are tried. -/
def members : Grouping → List Strategy
  | one s => [s]
  | both first second => first.members ++ second.members

/-- **A grouping does what its members do in turn.** -/
theorem handle_strategy (x : QueryContext) (send : Delegation) : ∀ g : Grouping,
    g.strategy.handle x send = firstOfAll (g.members.map fun s => s.handle x send)
  | one s => (firstOf_pass (s.handle x send)).symm
  | both first second => by
    rw [members, List.map_append, firstOfAll_append, ← handle_strategy x send first, ← handle_strategy x send second]
    rfl

end Grouping
end Strategy

/-! ## Pipelines -/

namespace Pipeline

open Strategy (Grouping)

/-- The pipeline that tries groupings one after the other. -/
def ofGroupings (groups : List Grouping) : Pipeline := ⟨groups.map Grouping.strategy⟩

/-- The pipeline that tries the members of groupings one after the other. -/
def flat (groups : List Grouping) : Pipeline := ⟨groups.flatMap Grouping.members⟩

theorem handle_ofGroupings (x : QueryContext) (send : Delegation) : ∀ groups : List Grouping,
    (ofGroupings groups).handle x send = (flat groups).handle x send
  | [] => rfl
  | g :: groups => by
    have ih : Strategy.firstOfAll _ = Strategy.firstOfAll _ := handle_ofGroupings x send groups
    unfold handle ofGroupings flat at *
    rw [List.map_cons, List.map_cons, Strategy.firstOfAll, ih, g.handle_strategy, List.flatMap_cons, List.map_append,
      Strategy.firstOfAll_append]

variable {p p' : Pipeline}

/-- Pipelines that handle queries alike nest their runs alike. -/
theorem runWithin_congr (h : ∀ x send, p.handle x send = p'.handle x send) (x : QueryContext) :
    ∀ n, p.runWithin x n = p'.runWithin x n
  | 0 => h x _
  | n + 1 => by rw [runWithin, runWithin, runWithin_congr h x n, h]

theorem send_congr (h : ∀ x send, p.handle x send = p'.handle x send) (x : QueryContext) : p.send x = p'.send x :=
  runWithin_congr h x _

theorem send_ofGroupings (groups : List Grouping) (x : QueryContext) :
    (ofGroupings groups).send x = (flat groups).send x :=
  send_congr (fun x send => handle_ofGroupings x send groups) x

/-- Pipelines whose runs are the same answer every question alike. -/
theorem resolve_congr {x : QueryContext} (h : p.send x = p'.send x) (memory : MethodMemory) (c : ClassInfo)
    (method : String) : (MethodResolver.mk x p).resolve memory c method =
      (MethodResolver.mk x p').resolve memory c method := by
  have hcompute : (MethodResolver.mk x p).compute c method = (MethodResolver.mk x p').compute c method := by
    simp only [MethodResolver.compute, h]
  rw [MethodResolver.resolve, MethodResolver.resolve, hcompute]

/-- The default chain as groupings: two strategies that stand alone, then the delegating ones. -/
def standardGroups (types : TypeResolver) : List Grouping :=
  [.one .selfClass, .one (.macros types),
   .both (.both (.both (.one .contracts) (.one .facades)) (.one .managers)) (.one .mixins)]

/-- **Grouping is immaterial.**  Three strategies, whatever they do to a query, have the same outcome on every query when
they are grouped to the left, to the right or not at all: flow or error, and the query that is left, are those of the
strategies in turn.  So have any groupings in a pipeline and their members in a flat one, also where the pipeline hands
queries to itself.  The default chain is the flat pipeline of its six strategies, and answers every question like it. -/
theorem strategies_in_turn :
    (∀ (a b c : Strategy) (x : QueryContext) (send : Delegation) (q : Query) (outcome : Answer Flow × Query),
      let inTurn := QueryM.InTurn [a.handle x send, b.handle x send, c.handle x send] q outcome
      ((((a.orElse b).orElse c).handle x send).runOn q = outcome ↔ inTurn) ∧
      (((a.orElse (b.orElse c)).handle x send).runOn q = outcome ↔ inTurn) ∧
      (((⟨[a, b, c]⟩ : Pipeline).handle x send).runOn q = outcome ↔ inTurn)) ∧
    (∀ (groups : List Grouping) (x : QueryContext),
      (∀ send q, ((ofGroupings groups).handle x send).runOn q = ((flat groups).handle x send).runOn q) ∧
      ∀ q, ((ofGroupings groups).send x).runOn q = ((flat groups).send x).runOn q) ∧
    ∀ (types : TypeResolver) (x : QueryContext),
      let sixInTurn : Pipeline := ⟨[.selfClass, .macros types, .contracts, .facades, .managers, .mixins]⟩
      (∀ send q, ((standard types).handle x send).runOn q = (sixInTurn.handle x send).runOn q) ∧
      (∀ q, ((standard types).send x).runOn q = (sixInTurn.send x).runOn q) ∧
      ∀ memory c method, (MethodResolver.mk x (standard types)).resolve memory c method =
        (MethodResolver.mk x sixInTurn).resolve memory c method := by
  have hgroups : ∀ (groups : List Grouping) (x : QueryContext),
      (∀ send q, ((ofGroupings groups).handle x send).runOn q = ((flat groups).handle x send).runOn q) ∧
      ∀ q, ((ofGroupings groups).send x).runOn q = ((flat groups).send x).runOn q := fun groups x =>
    ⟨fun send q => by rw [handle_ofGroupings], fun q => by rw [send_ofGroupings]⟩
  refine ⟨fun a b c x send q outcome => ?_, hgroups, fun types x => ?_⟩
  · let left : Grouping := .both (.both (.one a) (.one b)) (.one c)
    let right : Grouping := .both (.one a) (.both (.one b) (.one c))
    have hleft : ((a.orElse b).orElse c).handle x send = _ := left.handle_strategy x send
    have hright : (a.orElse (b.orElse c)).handle x send = _ := right.handle_strategy x send
    rw [hleft, hright]
    exact ⟨Strategy.inTurn_iff.symm, Strategy.inTurn_iff.symm, Strategy.inTurn_iff.symm⟩
  · obtain ⟨hhandle, hsend⟩ := hgroups (standardGroups types) x
    exact ⟨hhandle, hsend, resolve_congr (QueryM.ext_runOn hsend)⟩

end Pipeline
end DynamicMembers
