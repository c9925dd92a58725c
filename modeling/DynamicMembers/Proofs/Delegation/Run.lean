import DynamicMembers.Proofs.Delegation.Search
/-!
# Runs of a query — the pipeline goes through the classes that a search enters

A run is compared with the search of the delegation graph: sent in vain, a query comes back bound as before with the
entered classes visited; otherwise the first entered class that has the method decides (`settles_runWithin`).
-/
namespace DynamicMembers

/-! ## Actions and what they leave -/

namespace QueryM

variable {α β : Type}

@[simp] theorem runOn_pure (a : α) (q : Query) : (pure a : QueryM α).runOn q = (.ok a, q) := rfl

@[simp] theorem runOn_ofFunction (f : Query → Answer α × Query) (q : Query) : (ofFunction f).runOn q = f q := rfl

theorem runOn_bind (act : QueryM α) (f : α → QueryM β) (q : Query) :
    (act >>= f).runOn q = match act.runOn q with
      | (.ok a, q') => (f a).runOn q'
      | (.error e, q') => (.error e, q') := by
  have h : (act >>= f).runOn q = (ExceptT.bindCont f ((ExceptT.run act).run q).1).run ((ExceptT.run act).run q).2 := rfl
  rw [h]
  unfold runOn
  rcases (ExceptT.run act).run q with ⟨_ | a, q'⟩ <;> rfl

@[simp] theorem runOn_get_bind (f : Query → QueryM β) (q : Query) : (get >>= f).runOn q = (f q).runOn q := rfl

@[simp] theorem runOn_map (f : α → β) (act : QueryM α) (q : Query) :
    (f <$> act).runOn q = ((act.runOn q).1.map f, (act.runOn q).2) := by
  rw [map_eq_pure_bind, runOn_bind]
  rcases act.runOn q with ⟨_ | a, q'⟩ <;> rfl

end QueryM

namespace Strategy

theorem runOn_firstOf (a b : QueryM Flow) (q : Query) :
    (firstOf a b).runOn q = match a.runOn q with
      | (.ok .handled, q') => (.ok .handled, q')
      | (.ok .pass, q') => b.runOn q'
      | (.error e, q') => (.error e, q') := by
  rw [firstOf, QueryM.runOn_bind]
  rcases a.runOn q with ⟨_ | _ | _, q'⟩ <;> rfl

theorem runOn_firstOf_pass (act : QueryM Flow) (q : Query) : (firstOf act (pure .pass)).runOn q = act.runOn q := by
  rw [runOn_firstOf]
  rcases act.runOn q with ⟨_ | _ | _, q'⟩ <;> rfl

/-! Each way to delegate hands the query to classes that the class of the query names, in order. -/

variable (x : QueryContext) (send : Delegation) (q : Query)

theorem runOn_delegateOption (hint : Bool) (name : Option String) :
    (match name with
      | some n => delegate x send n hint
      | none => pure .pass : QueryM Flow).runOn q =
      (firstOfAll (name.toList.map (delegate x send · hint))).runOn q := by
  cases name with
  | none => rfl
  | some n => exact (runOn_firstOf_pass (delegate x send n hint) q).symm

theorem runOn_contracts : (contracts.handle x send).runOn q =
    (firstOfAll ((x.concreteNames q.target).map (delegate x send · false))).runOn q := by
  simp only [contracts, QueryM.runOn_get_bind, QueryContext.concreteNames]
  split
  · rfl
  · rfl

theorem runOn_facades : (facades.handle x send).runOn q =
    (firstOfAll ((x.rootNames q.target).map (delegate x send · true))).runOn q := by
  simp only [facades, QueryM.runOn_get_bind, QueryContext.rootNames]
  split
  · exact runOn_delegateOption x send q true _
  · rfl

theorem runOn_managers : (managers.handle x send).runOn q =
    (firstOfAll ((x.driverNames q.target).map (delegate x send · false))).runOn q := by
  simp only [managers, QueryM.runOn_get_bind, QueryContext.driverNames]
  split
  · exact runOn_delegateOption x send q false _
  · rfl

end Strategy

/-! ## Outcomes of sending a query to classes in order -/

namespace Query

def visiting (q : Query) (order : List ClassInfo) : Query :=
  { q with visited := (order.map (·.key)).reverse ++ q.visited }

/-- What is left of a query that was sent to classes in vain: bound as before and holding nothing, the classes
visited. -/
structure Passed (q q' : Query) (order : List ClassInfo) : Prop where
  target : q'.target = q.target
  methodName : q'.methodName = q.methodName
  depth : q'.depth = q.depth
  held : q'.held = none
  visited : q'.visited = (q.visiting order).visited

/-- The outcome of sending a query to classes in order: the first that answers by itself decides, and its method is
made static. -/
def Finds (own : ClassInfo → Option (Answer MethodReflection)) (q : Query) (order : List ClassInfo)
    (outcome : Answer Flow × Query) : Prop :=
  match order.findSome? own with
  | none => outcome.1 = .ok .pass ∧ q.Passed outcome.2 order
  | some (.ok m) => outcome.1 = .ok .handled ∧ outcome.2.held = some m.forwarded
  | some (.error e) => outcome.1 = .error e

/-- The outcome of a whole run: the class of the query answers by itself, or else the query is sent on. -/
def Settles (own : ClassInfo → Option (Answer MethodReflection)) (q : Query) (order : List ClassInfo)
    (outcome : Answer Flow × Query) : Prop :=
  match own q.target with
  | none => q.Finds own order outcome
  | some (.ok m) => outcome.1 = .ok .handled ∧ outcome.2.held = some m
  | some (.error e) => outcome.1 = .error e

variable {own : ClassInfo → Option (Answer MethodReflection)} {q : Query}

theorem Passed.refl (h : q.held = none) : q.Passed q [] := ⟨rfl, rfl, rfl, h, rfl⟩

theorem Passed.trans {q' q'' : Query} {v w : List ClassInfo} (h : q.Passed q' v) (h' : q'.Passed q'' w) :
    q.Passed q'' (v ++ w) where
  target := h'.target.trans h.target
  methodName := h'.methodName.trans h.methodName
  depth := h'.depth.trans h.depth
  held := h'.held
  visited := by rw [h'.visited, visiting, h.visited]; simp [visiting]

theorem Passed.unseen_le {q' : Query} {order : List ClassInfo} (h : q.Passed q' order) (x : ClassIndex) :
    x.unseen q'.visited ≤ x.unseen q.visited := by
  rw [h.visited]
  exact x.unseen_append_le _ _

theorem finds_pass (h : q.held = none) : q.Finds own [] ((pure .pass : QueryM Flow).runOn q) :=
  ⟨rfl, Passed.refl h⟩

/-- **Trying a second action when the first passes sends the query to the classes of both in a row.** -/
theorem Finds.firstOf {a b : QueryM Flow} {v w : List ClassInfo} (ha : q.Finds own v (a.runOn q))
    (hb : ∀ q', q.Passed q' v → q'.Finds own w (b.runOn q')) :
    q.Finds own (v ++ w) ((Strategy.firstOf a b).runOn q) := by
  rw [Strategy.runOn_firstOf]
  generalize a.runOn q = outcome at ha
  obtain ⟨result, q'⟩ := outcome
  unfold Finds at ha ⊢
  rw [List.findSome?_append]
  split at ha
  · rename_i hv
    obtain ⟨rfl, hpass⟩ := ha
    have h := hb q' hpass
    unfold Finds at h
    rw [hv, Option.none_or]
    cases hw : w.findSome? own with
    | none =>
      rw [hw] at h
      exact ⟨h.1, hpass.trans h.2⟩
    | some answer => rw [hw] at h; cases answer <;> exact h
  · rename_i m hv
    obtain ⟨rfl, hheld⟩ := ha
    rw [hv]
    exact ⟨rfl, hheld⟩
  · rename_i e hv
    rw [hv]
    simp only at ha
    subst ha
    rfl

end Query

/-! ## Sending a query on -/

namespace QueryContext

variable (x : QueryContext)

/-- The classes that a query enters when it is offered to named classes in order. -/
def sentTo (q : Query) (names : List String) : List ClassInfo :=
  (x.entered q.visited (if q.depth < x.settings.maxDepth then names.map (q.depth + 1, ·) else [])).map Prod.snd

@[simp] theorem sentTo_nil (q : Query) : x.sentTo q [] = [] := by
  unfold sentTo
  split <;> exact congrArg _ (x.entered_nil _)

theorem sentTo_append (q : Query) (a b : List String) :
    x.sentTo q (a ++ b) = x.sentTo q a ++ x.sentTo (q.visiting (x.sentTo q a)) b := by
  unfold sentTo Query.visiting
  split
  · rw [List.map_append, entered_append, List.map_append, List.map_map]
    rfl
  · rw [entered_nil, entered_nil]
    rfl

theorem sentTo_of_passed {q q' : Query} {order : List ClassInfo} (h : q.Passed q' order) (names : List String) :
    x.sentTo q' names = x.sentTo (q.visiting order) names := by
  unfold sentTo
  rw [h.visited, h.depth]
  rfl

/-- A way to hand a query on that does what a search says, for queries that leave few classes unseen. -/
def Searches (own : ClassInfo → Option (Answer MethodReflection)) (method : String) (unseen : Nat)
    (send : Delegation) : Prop :=
  ∀ (q : Query) (name : String) (hint : Bool), q.held = none → q.methodName = method →
    x.index.unseen q.visited ≤ unseen →
    q.Finds own (x.sentTo q [name]) ((Strategy.delegate x send name hint).runOn q)

end QueryContext

namespace Strategy

variable {x : QueryContext} {own : ClassInfo → Option (Answer MethodReflection)} {method : String} {unseen : Nat}
  {send : Delegation}

theorem finds_delegateAll (hsend : x.Searches own method unseen send) (hint : Bool) :
    ∀ (names : List String) (q : Query),
    q.held = none → q.methodName = method → x.index.unseen q.visited ≤ unseen →
      q.Finds own (x.sentTo q names) ((firstOfAll (names.map (delegate x send · hint))).runOn q)
  | [], q, hheld, _, _ => by
    rw [QueryContext.sentTo_nil]
    exact Query.finds_pass hheld
  | name :: rest, q, hheld, hmethod, hunseen => by
    rw [List.map_cons, firstOfAll, ← List.singleton_append, x.sentTo_append q [name] rest]
    refine (hsend q name hint hheld hmethod hunseen).firstOf (fun q' hpass => ?_)
    rw [← x.sentTo_of_passed hpass]
    exact finds_delegateAll hsend hint rest q' hpass.held (hpass.methodName.trans hmethod)
      (Nat.le_trans (hpass.unseen_le x.index) hunseen)

/-- A strategy only hands the query on, to classes named by the class of the query. -/
def HandsOn (x : QueryContext) (own : ClassInfo → Option (Answer MethodReflection)) (method : String) (unseen : Nat)
    (send : Delegation) (s : Strategy) (names : ClassInfo → List String) : Prop :=
  ∀ q : Query, q.held = none → q.methodName = method → x.index.unseen q.visited ≤ unseen →
    q.Finds own (x.sentTo q (names q.target)) ((s.handle x send).runOn q)

theorem HandsOn.orElse {a b : Strategy} {f g : ClassInfo → List String} (ha : HandsOn x own method unseen send a f)
    (hb : HandsOn x own method unseen send b g) :
    HandsOn x own method unseen send (a.orElse b) (fun c => f c ++ g c) := by
  intro q hheld hmethod hunseen
  rw [x.sentTo_append]
  refine (ha q hheld hmethod hunseen).firstOf (fun q' hpass => ?_)
  rw [← x.sentTo_of_passed hpass, ← hpass.target]
  exact hb q' hpass.held (hpass.methodName.trans hmethod) (Nat.le_trans (hpass.unseen_le x.index) hunseen)

theorem handsOn_of_runOn (hsend : x.Searches own method unseen send) {s : Strategy} {names : ClassInfo → List String}
    {hint : Bool}
    (hs : ∀ q, (s.handle x send).runOn q = (firstOfAll ((names q.target).map (delegate x send · hint))).runOn q) :
    HandsOn x own method unseen send s names := by
  intro q hheld hmethod hunseen
  rw [hs]
  exact finds_delegateAll hsend hint (names q.target) q hheld hmethod hunseen

/-- **Delegation hands the query to the targets of its class in the order of the graph.** -/
theorem handsOn_delegation (hsend : x.Searches own method unseen send) :
    HandsOn x own method unseen send delegation x.targetNames :=
  (((handsOn_of_runOn hsend (runOn_contracts x send)).orElse (handsOn_of_runOn hsend (runOn_facades x send))).orElse
    (handsOn_of_runOn hsend (runOn_managers x send))).orElse (handsOn_of_runOn hsend fun _ => rfl)

/-! ## What the class of a query answers by itself -/

theorem runOn_selfClass (send : Delegation) {q : Query} (hq : x.index.find? q.target.name = some q.target) :
    (selfClass.handle x send).runOn q = match x.index.nativeMethod q.target q.methodName with
      | some m => (.ok .handled, q.hold (.native m))
      | none => (.ok .pass, q) := by
  simp only [selfClass, QueryM.runOn_get_bind, QueryM.runOn_map, Query.searchOn, QueryM.runOn_ofFunction,
    ClassIndex.get, hq]
  cases x.index.nativeMethod q.target q.methodName <;> rfl

theorem findMacro_eq_macroOf (q : Query) : findMacro x q = x.macroOf q.methodName q.target := by
  unfold findMacro QueryContext.macroOf
  congr 1
  funext owner
  cases x.settings.macros.forClass owner <;> rfl

theorem runOn_macros (types : TypeResolver) (send : Delegation) (q : Query) :
    ((macros types).handle x send).runOn q = match x.macroOf q.methodName q.target with
      | none => (.ok .pass, q)
      | some (owner, d) =>
        match types d.returnType with
        | .error e => (.error e, q)
        | .ok t => (.ok .handled, (q.hold (.added (d.toMethod owner t))).allowStatic true) := by
  simp only [macros, QueryM.runOn_get_bind, findMacro_eq_macroOf]
  rcases x.macroOf q.methodName q.target with _ | ⟨owner, d⟩
  · rfl
  · simp only
    cases types d.returnType <;> rfl

end Strategy

namespace Pipeline

variable {x : QueryContext} {method : String} {unseen : Nat} {send : Delegation}

/-- **One run of the standard pipeline**, given a way to hand the query on that does what a search says. -/
theorem settles_standard (types : TypeResolver) (hsend : x.Searches (x.ownAnswer types method) method unseen send)
    {q : Query} (hheld : q.held = none) (hmethod : q.methodName = method)
    (hq : x.index.find? q.target.name = some q.target) (hunseen : x.index.unseen q.visited ≤ unseen) :
    q.Settles (x.ownAnswer types method) (x.sentTo q (x.targetNames q.target))
      (((standard types).handle x send).runOn q) := by
  have hrest : q.Finds (x.ownAnswer types method) (x.sentTo q (x.targetNames q.target))
      ((Strategy.firstOf (Strategy.delegation.handle x send) (pure .pass)).runOn q) := by
    rw [← List.append_nil (x.sentTo q (x.targetNames q.target))]
    exact (Strategy.handsOn_delegation hsend q hheld hmethod hunseen).firstOf (fun q' h => Query.finds_pass h.held)
  have hrun : ((standard types).handle x send).runOn q =
      (Strategy.firstOf (Strategy.selfClass.handle x send) (Strategy.firstOf ((Strategy.macros types).handle x send)
        (Strategy.firstOf (Strategy.delegation.handle x send) (pure .pass)))).runOn q := rfl
  rw [hrun, Strategy.runOn_firstOf, Strategy.runOn_selfClass send hq]
  unfold Query.Settles QueryContext.ownAnswer
  rw [hmethod]
  cases x.index.nativeMethod q.target method with
  | some m => exact ⟨rfl, rfl⟩
  | none =>
    simp only [Strategy.runOn_firstOf (Strategy.handle (Strategy.macros types) x send), Strategy.runOn_macros, hmethod]
    rcases x.macroOf method q.target with _ | ⟨owner, d⟩
    · exact hrest
    · simp only [Option.map_some]
      cases types d.returnType with
      | error e => rfl
      | ok t => exact ⟨rfl, rfl⟩

end Pipeline

/-! ## Nested runs -/

namespace Query

variable {x : QueryContext} {own : ClassInfo → Option (Answer MethodReflection)} {method : String} {unseen : Nat}

theorem sentTo_singleton_of_new {q : Query} {name : String} {c : ClassInfo} (hdepth : q.depth < x.settings.maxDepth)
    (hc : x.index.find? name = some c) (hs : c.key ∉ q.visited) (allowed : Bool) :
    x.sentTo q [name] = c :: x.sentTo ((q.allowStatic allowed).fork c) (x.targetNames c) := by
  unfold QueryContext.sentTo
  rw [if_pos hdepth, List.map_singleton, QueryContext.entered_cons_of_new x _ _ hc hs, List.append_nil]
  rfl

theorem sentTo_singleton_of_seen {q : Query} {name : String} {c : ClassInfo} (hc : x.index.find? name = some c)
    (hs : c.key ∈ q.visited) : x.sentTo q [name] = [] := by
  unfold QueryContext.sentTo
  split
  · rw [List.map_singleton, QueryContext.entered_cons_of_seen x _ _ hc hs, QueryContext.entered_nil]
    rfl
  · rw [QueryContext.entered_nil]
    rfl

theorem sentTo_singleton_of_limit {q : Query} {name : String} (hdepth : x.settings.maxDepth ≤ q.depth) :
    x.sentTo q [name] = [] := by
  unfold QueryContext.sentTo
  rw [if_neg (Nat.not_lt.2 hdepth), QueryContext.entered_nil]
  rfl

theorem sentTo_singleton_of_unknown {q : Query} {name : String} (hc : x.index.find? name = none) :
    x.sentTo q [name] = [] := by
  unfold QueryContext.sentTo
  split
  · rw [List.map_singleton, QueryContext.entered_cons_of_unknown x _ _ _ hc, QueryContext.entered_nil]
    rfl
  · rw [QueryContext.entered_nil]
    rfl

/-- What comes back from a fork of a query, whose findings are merged into the query. -/
def returned (asked : Query) (outcome : Answer Flow × Query) : Answer Bool × Query :=
  let back := { asked with visited := outcome.2.visited }
  match outcome.1 with
  | .error e => (.error e, back)
  | .ok _ => ((back.merge outcome.2).settle.map .ok id)

def permission (x : QueryContext) (q : Query) (hint : Bool) (c : ClassInfo) : Bool :=
  hint || (!q.staticAllowed && x.settings.alwaysStatic x.index c.name)

theorem runOn_sendTo_of_limit {run : QueryM Flow} {q : Query} {name : String} {hint : Bool}
    (hdepth : x.settings.maxDepth ≤ q.depth) : (sendTo x run name hint).runOn q = (.ok false, q) := by
  rw [sendTo, QueryM.runOn_ofFunction, if_pos hdepth]

theorem runOn_sendTo_of_unknown {run : QueryM Flow} {q : Query} {name : String} {hint : Bool}
    (hdepth : q.depth < x.settings.maxDepth) (hc : x.index.find? name = none) :
    (sendTo x run name hint).runOn q = (.error (.classNotFound name), q) := by
  rw [sendTo, QueryM.runOn_ofFunction, if_neg (Nat.not_le.2 hdepth), ClassIndex.get, hc]

theorem runOn_sendTo_of_seen {run : QueryM Flow} {q : Query} {name : String} {hint : Bool} {c : ClassInfo}
    (hc : x.index.find? name = some c) (hs : c.key ∈ q.visited) :
    (sendTo x run name hint).runOn q = (.ok false, q) := by
  rw [sendTo, QueryM.runOn_ofFunction, ClassIndex.get, hc]
  simp only [if_pos hs, ite_self]

theorem runOn_sendTo_of_new {run : QueryM Flow} {q : Query} {name : String} {hint : Bool} {c : ClassInfo}
    (hdepth : q.depth < x.settings.maxDepth) (hc : x.index.find? name = some c) (hs : c.key ∉ q.visited) :
    (sendTo x run name hint).runOn q =
      (q.allowStatic (permission x q hint c)).returned
        (run.runOn ((q.allowStatic (permission x q hint c)).fork c)) := by
  rw [sendTo, QueryM.runOn_ofFunction, if_neg (Nat.not_le.2 hdepth), ClassIndex.get, hc]
  simp only [if_neg hs]
  unfold returned permission
  generalize run.runOn _ = outcome
  obtain ⟨_ | _, forked⟩ := outcome <;> rfl

/-- **Taking a fork back**: what settled the fork is found by the query, and a fork that passed leaves the query to be
sent further. -/
theorem Settles.returned {q : Query} {c : ClassInfo} {order : List ClassInfo} {outcome : Answer Flow × Query}
    {allowed : Bool} (hheld : q.held = none) (h : ((q.allowStatic allowed).fork c).Settles own order outcome) :
    q.Finds own (c :: order) (((q.allowStatic allowed).returned outcome).map (Except.map Flow.ofFound) id) := by
  obtain ⟨result, forked⟩ := outcome
  have htarget : ((q.allowStatic allowed).fork c).target = c := rfl
  unfold Settles at h
  rw [htarget] at h
  unfold Finds
  rw [List.findSome?_cons]
  split at h
  · rename_i hown
    rw [hown]
    unfold Finds at h
    simp only
    split at h
    · rename_i horder
      obtain ⟨hresult, hpass⟩ := h
      simp only at hresult hpass
      subst hresult
      simp only [Query.returned, merge, hpass.held, settle, allowStatic, hheld]
      refine ⟨rfl, rfl, rfl, rfl, rfl, ?_⟩
      simp only [Prod.map_snd, id]
      rw [hpass.visited]
      simp [visiting, fork, allowStatic]
    · rename_i m horder
      obtain ⟨hresult, hfound⟩ := h
      simp only at hresult hfound
      subst hresult
      simp only [Query.returned, merge, hfound, settle, hold]
      exact ⟨rfl, congrArg some (MethodReflection.forwarded_forwarded m)⟩
    · rename_i e horder
      simp only at h
      subst h
      rfl
  · rename_i m hown
    obtain ⟨hresult, hfound⟩ := h
    simp only at hresult hfound
    subst hresult
    rw [hown]
    simp only [Query.returned, merge, hfound, settle, hold]
    exact ⟨rfl, rfl⟩
  · rename_i e hown
    simp only at h
    subst h
    rw [hown]
    rfl

/-- **Sending a query to a class searches from that class on**, given runs that do what a search says of any query with
fewer classes unseen. -/
theorem searches_sendTo {run : QueryM Flow}
    (hrun : ∀ q : Query, q.held = none → q.methodName = method → x.index.find? q.target.name = some q.target →
      x.index.unseen q.visited ≤ unseen → q.Settles own (x.sentTo q (x.targetNames q.target)) (run.runOn q)) :
    x.Searches own method (unseen + 1) (sendTo x run) := by
  intro q name hint hheld hmethod hunseen
  unfold Strategy.delegate ClassIndex.knows
  cases hc : x.index.find? name with
  | none =>
    rw [sentTo_singleton_of_unknown hc]
    exact finds_pass hheld
  | some c =>
    rw [Option.isSome_some, if_pos rfl, QueryM.runOn_map]
    by_cases hdepth : q.depth < x.settings.maxDepth
    · by_cases hs : c.key ∈ q.visited
      · rw [sentTo_singleton_of_seen hc hs, runOn_sendTo_of_seen hc hs]
        exact finds_pass hheld
      · have hlt := ClassIndex.unseen_cons_lt hc hs
        rw [sentTo_singleton_of_new hdepth hc hs (permission x q hint c), runOn_sendTo_of_new hdepth hc hs]
        have hforked := hrun ((q.allowStatic (permission x q hint c)).fork c) rfl hmethod (ClassIndex.find?_own hc)
          (by simp only [fork, allowStatic]; omega)
        exact hforked.returned hheld
    · rw [sentTo_singleton_of_limit (Nat.not_lt.1 hdepth), runOn_sendTo_of_limit (Nat.not_lt.1 hdepth)]
      exact finds_pass hheld

end Query

namespace Pipeline

variable {x : QueryContext} {method : String}

/-- When every class has been seen, handing a query on does nothing, as a search finds nothing new. -/
theorem searches_of_all_seen (own : ClassInfo → Option (Answer MethodReflection)) :
    x.Searches own method 0 (fun _ _ => pure false) := by
  intro q name hint hheld _ hunseen
  unfold Strategy.delegate ClassIndex.knows
  cases hc : x.index.find? name with
  | none =>
    rw [Query.sentTo_singleton_of_unknown hc]
    exact Query.finds_pass hheld
  | some c =>
    have hs : c.key ∈ q.visited := by
      by_contra hs
      have := ClassIndex.unseen_cons_lt hc hs
      omega
    rw [Query.sentTo_singleton_of_seen hc hs]
    exact Query.finds_pass hheld

/-- **A run settles a query as the search of the delegation graph does**, as soon as it allows as many nested
delegations as classes are unseen. -/
theorem settles_runWithin (types : TypeResolver) (n : Nat) : ∀ q : Query, q.held = none → q.methodName = method →
    x.index.find? q.target.name = some q.target → x.index.unseen q.visited ≤ n →
      q.Settles (x.ownAnswer types method) (x.sentTo q (x.targetNames q.target))
        (((standard types).runWithin x n).runOn q) := by
  induction n with
  | zero =>
    intro q hheld hmethod hq hunseen
    rw [runWithin]
    exact settles_standard types (searches_of_all_seen _) hheld hmethod hq hunseen
  | succ n ih =>
    intro q hheld hmethod hq hunseen
    rw [runWithin]
    exact settles_standard types (Query.searches_sendTo ih) hheld hmethod hq hunseen

end Pipeline
end DynamicMembers
