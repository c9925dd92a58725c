import DynamicMembers.Proofs.Delegation.Run
import DynamicMembers.Proofs.Delegation.Way
/-!
# Permissions — what a run reports as callable statically

A run is followed along the way to the class that answers.  Every delegation that is made may permit static calls, and
the query keeps the permission whether or not the delegation finds anything; what a fork permits further down comes back
only with the method that it found.  So a query that finds a method is permitted exactly what the delegations on its way
permit, and macros always are (`Pipeline.ends_runWithin`).
-/
namespace DynamicMembers

namespace QueryContext

variable (x : QueryContext)

/-- A delegation after which static calls are allowed: of a facade, or to a class that always allows them. -/
def permits (h : Handoff) : Bool := h.viaFacade || x.settings.alwaysStatic x.index h.target.name

/-- Some delegation on a way permits static calls. -/
def wayPermits (legs : List Leg) : Bool := legs.any fun leg => leg.made.any x.permits

variable {x} {own : ClassInfo → Option (Answer MethodReflection)} {depth : Nat} {seen between seen' : List ClassKey}
  {a b : List (String × Bool)} {made made' vain : List Handoff} {onward : Handoff} {legs : List Leg} {e : ClassInfo}

theorem InVain.append (ha : x.InVain own depth seen a made between) (hb : x.InVain own depth between b made' seen') :
    x.InVain own depth seen (a ++ b) (made ++ made') seen' := by
  induction ha with
  | nil depth seen => exact hb
  | skip hskip _ ih => exact .skip hskip (ih hb)
  | past henters hown hbelow _ _ ih => exact .past henters hown hbelow (ih hb)

theorem InVain.leads (ha : x.InVain own depth seen a made between)
    (hb : x.Leads own depth between b vain onward legs e) :
    x.Leads own depth seen (a ++ b) (made ++ vain) onward legs e := by
  induction ha with
  | nil depth seen => exact hb
  | skip hskip _ ih => exact .skip hskip (ih hb)
  | past henters hown hbelow _ _ ih => exact .past henters hown hbelow (ih hb)

theorem Leads.append (ha : x.Leads own depth seen a vain onward legs e) (b : List (String × Bool)) :
    x.Leads own depth seen (a ++ b) vain onward legs e := by
  induction ha with
  | here henters hsome => exact .here henters hsome
  | deeper henters hown hleads _ => exact .deeper henters hown hleads
  | skip hskip _ ih => exact .skip hskip ih
  | past henters hown hbelow _ ih => exact .past henters hown hbelow ih

/-- A search in vain leaves no more classes unseen. -/
theorem InVain.unseen_le (h : x.InVain own depth seen a made seen') : x.index.unseen seen' ≤ x.index.unseen seen := by
  induction h with
  | nil depth seen => exact Nat.le_refl _
  | skip _ _ ih => exact ih
  | @past _ seen between _ _ _ _ _ _ c _ _ _ _ ihbelow ihrest =>
    have hle : x.index.unseen (c.key :: seen) ≤ x.index.unseen seen := x.index.unseen_cons_le c.key seen
    omega

end QueryContext

/-- A method that was registered at run time. -/
def MethodReflection.isAdded : MethodReflection → Bool
  | added _ => true
  | _ => false

@[simp] theorem MethodReflection.isAdded_iff (m : MethodReflection) : m.isAdded = true ↔ ∃ d, m = .added d := by
  cases m <;> simp [isAdded]

namespace Query

variable (x : QueryContext) (own : ClassInfo → Option (Answer MethodReflection))

/-- What is left of a query after delegations that found nothing. -/
def after (q : Query) (made : List Handoff) (seen : List ClassKey) : Query :=
  { q with visited := seen, staticAllowed := q.staticAllowed || made.any x.permits }

/-- The outcome of handing a query to names in order: nothing is found, and the query keeps what the delegations permit;
or the way to a class that answers, what is permitted on it, and that class's method made static. -/
def Follows (q : Query) (names : List (String × Bool)) (outcome : Answer Flow × Query) : Prop :=
  match outcome.1 with
  | .error _ => True
  | .ok .pass => ∃ made seen, x.InVain own q.depth q.visited names made seen ∧ outcome.2 = q.after x made seen
  | .ok .handled => ∃ vain onward legs e m, x.Leads own q.depth q.visited names vain onward legs e ∧
      own e = some (.ok m) ∧ outcome.2.held = some m.forwarded ∧
      outcome.2.staticAllowed =
        (q.staticAllowed || (vain ++ [onward]).any x.permits || x.wayPermits legs || m.isAdded)

/-- The outcome of a whole run: the class of the query answers by itself, or else the query is handed on. -/
def Ends (q : Query) (outcome : Answer Flow × Query) : Prop :=
  match own q.target with
  | none => q.Follows x own (x.referrals q.target) outcome
  | some (.ok m) => outcome.1 = .ok .handled ∧ outcome.2.held = some m ∧
      outcome.2.staticAllowed = (q.staticAllowed || m.isAdded)
  | some (.error e) => outcome.1 = .error e

variable {x own} {q : Query}

theorem after_nil (q : Query) : q.after x [] q.visited = q := by
  simp [after]

theorem after_after (q : Query) (made made' : List Handoff) (seen seen' : List ClassKey) :
    (q.after x made seen).after x made' seen' = q.after x (made ++ made') seen' := by
  simp [after, Bool.or_assoc]

theorem follows_pass (q : Query) : q.Follows x own [] ((pure .pass : QueryM Flow).runOn q) :=
  ⟨[], q.visited, .nil q.depth q.visited, (after_nil q).symm⟩

/-- A query that is handed to nobody, since no delegation is made, is left alone. -/
theorem follows_skip {name : String} {viaFacade : Bool} (h : ∀ c, ¬x.Enters q.depth q.visited name c) :
    q.Follows x own [(name, viaFacade)] (.ok .pass, q) :=
  ⟨[], q.visited, .skip h (.nil q.depth q.visited), (after_nil q).symm⟩

/-- **Trying a second action when the first passes hands the query to the names of both in a row.** -/
theorem Follows.firstOf {act act' : QueryM Flow} {a b : List (String × Bool)} (ha : q.Follows x own a (act.runOn q))
    (hb : ∀ made seen, x.InVain own q.depth q.visited a made seen →
      (q.after x made seen).Follows x own b (act'.runOn (q.after x made seen))) :
    q.Follows x own (a ++ b) ((Strategy.firstOf act act').runOn q) := by
  rw [Strategy.runOn_firstOf]
  rcases hact : act.runOn q with ⟨_ | _ | _, q'⟩
  · trivial
  · rw [hact] at ha
    obtain ⟨made, seen, hvain, hafter⟩ := ha
    simp only at hafter ⊢
    subst hafter
    have hrest := hb made seen hvain
    rcases hact' : act'.runOn (q.after x made seen) with ⟨_ | _ | _, q''⟩
    · trivial
    · rw [hact'] at hrest
      obtain ⟨made', seen', hvain', hafter'⟩ := hrest
      exact ⟨made ++ made', seen', hvain.append hvain', hafter'.trans (after_after q made made' seen seen')⟩
    · rw [hact'] at hrest
      obtain ⟨vain, onward, legs, e, m, hleads, hown, hheld, hallowed⟩ := hrest
      refine ⟨made ++ vain, onward, legs, e, m, hvain.leads hleads, hown, hheld, ?_⟩
      rw [hallowed]
      simp [after, Bool.or_assoc]
  · rw [hact] at ha
    obtain ⟨vain, onward, legs, e, m, hleads, hown, hheld, hallowed⟩ := ha
    exact ⟨vain, onward, legs, e, m, hleads.append b, hown, hheld, hallowed⟩

end Query

/-! ## Sending a query on -/

/-- A way to hand a query on that is followed, for queries that leave few classes unseen. -/
def QueryContext.Tracks (x : QueryContext) (own : ClassInfo → Option (Answer MethodReflection)) (method : String)
    (unseen : Nat) (send : Delegation) : Prop :=
  ∀ (q : Query) (name : String) (hint : Bool), q.held = none → q.methodName = method →
    x.index.unseen q.visited ≤ unseen →
    q.Follows x own [(name, hint)] ((Strategy.delegate x send name hint).runOn q)

namespace Strategy

variable {x : QueryContext} {own : ClassInfo → Option (Answer MethodReflection)} {method : String} {unseen : Nat}
  {send : Delegation}

theorem follows_delegateAll (hsend : x.Tracks own method unseen send) (hint : Bool) :
    ∀ (names : List String) (q : Query), q.held = none → q.methodName = method →
      x.index.unseen q.visited ≤ unseen →
      q.Follows x own (names.map (·, hint)) ((firstOfAll (names.map (delegate x send · hint))).runOn q)
  | [], q, _, _, _ => Query.follows_pass q
  | name :: rest, q, hheld, hmethod, hunseen => by
    refine (hsend q name hint hheld hmethod hunseen).firstOf (fun made seen hvain => ?_)
    exact follows_delegateAll hsend hint rest (q.after x made seen) hheld hmethod
      (Nat.le_trans hvain.unseen_le hunseen)

/-- A strategy that only hands the query on, to names given by the class of the query. -/
def Refers (x : QueryContext) (own : ClassInfo → Option (Answer MethodReflection)) (method : String) (unseen : Nat)
    (send : Delegation) (s : Strategy) (names : ClassInfo → List (String × Bool)) : Prop :=
  ∀ q : Query, q.held = none → q.methodName = method → x.index.unseen q.visited ≤ unseen →
    q.Follows x own (names q.target) ((s.handle x send).runOn q)

theorem Refers.orElse {s t : Strategy} {f g : ClassInfo → List (String × Bool)}
    (hs : Refers x own method unseen send s f) (ht : Refers x own method unseen send t g) :
    Refers x own method unseen send (s.orElse t) (fun c => f c ++ g c) := by
  intro q hheld hmethod hunseen
  refine (hs q hheld hmethod hunseen).firstOf (fun made seen hvain => ?_)
  exact ht (q.after x made seen) hheld hmethod (Nat.le_trans hvain.unseen_le hunseen)

theorem refers_of_runOn (hsend : x.Tracks own method unseen send) {s : Strategy} {names : ClassInfo → List String}
    {hint : Bool}
    (hs : ∀ q, (s.handle x send).runOn q = (firstOfAll ((names q.target).map (delegate x send · hint))).runOn q) :
    Refers x own method unseen send s (fun c => (names c).map (·, hint)) := by
  intro q hheld hmethod hunseen
  rw [hs]
  exact follows_delegateAll hsend hint (names q.target) q hheld hmethod hunseen

theorem refers_delegation (hsend : x.Tracks own method unseen send) :
    Refers x own method unseen send delegation x.referrals :=
  (((refers_of_runOn hsend (runOn_contracts x send)).orElse (refers_of_runOn hsend (runOn_facades x send))).orElse
    (refers_of_runOn hsend (runOn_managers x send))).orElse (refers_of_runOn hsend fun _ => rfl)

end Strategy

namespace Pipeline

variable {x : QueryContext} {method : String} {unseen : Nat} {send : Delegation}

/-- **One run of the standard pipeline**, given a way to hand the query on that is followed. -/
theorem ends_standard (types : TypeResolver) (hsend : x.Tracks (x.ownAnswer types method) method unseen send)
    {q : Query} (hheld : q.held = none) (hmethod : q.methodName = method)
    (hq : x.index.find? q.target.name = some q.target) (hunseen : x.index.unseen q.visited ≤ unseen) :
    q.Ends x (x.ownAnswer types method) (((standard types).handle x send).runOn q) := by
  have hrun : ((standard types).handle x send).runOn q =
      (Strategy.firstOf (Strategy.selfClass.handle x send) (Strategy.firstOf ((Strategy.macros types).handle x send)
        (Strategy.firstOf (Strategy.delegation.handle x send) (pure .pass)))).runOn q := rfl
  rw [hrun, Strategy.runOn_firstOf, Strategy.runOn_selfClass send hq]
  unfold Query.Ends QueryContext.ownAnswer
  rw [hmethod]
  cases x.index.nativeMethod q.target method with
  | some m => exact ⟨rfl, rfl, (Bool.or_false _).symm⟩
  | none =>
    simp only [Strategy.runOn_firstOf (Strategy.handle (Strategy.macros types) x send), Strategy.runOn_macros, hmethod,
      Strategy.runOn_firstOf_pass]
    rcases x.macroOf method q.target with _ | ⟨owner, d⟩
    · exact Strategy.refers_delegation hsend q hheld hmethod hunseen
    · simp only [Option.map_some]
      cases types d.returnType with
      | error e => rfl
      | ok t => exact ⟨rfl, rfl, rfl⟩

end Pipeline

/-! ## Nested runs -/

namespace Query

variable {x : QueryContext} {own : ClassInfo → Option (Answer MethodReflection)} {method : String} {unseen : Nat}

/-- A query that made a delegation is allowed what it was allowed before and what the delegation permits. -/
theorem staticAllowed_asked (q : Query) (hint : Bool) (c : ClassInfo) :
    (q.allowStatic (permission x q hint c)).staticAllowed = (q.staticAllowed || x.permits ⟨c, hint⟩) := by
  unfold allowStatic permission QueryContext.permits
  cases q.staticAllowed <;> simp

theorem returned_of_none {asked forked : Query} (flow : Flow) (hasked : asked.held = none)
    (hforked : forked.held = none) :
    asked.returned (.ok flow, forked) = (.ok false, { asked with visited := forked.visited }) := by
  simp [Query.returned, merge, settle, hasked, hforked]

theorem returned_of_some {forked : Query} {m : MethodReflection} (asked : Query) (flow : Flow)
    (hforked : forked.held = some m) :
    asked.returned (.ok flow, forked) = (.ok true,
      { asked with
        visited := forked.visited, held := some m.forwarded,
        staticAllowed := asked.staticAllowed || forked.staticAllowed }) := by
  simp [Query.returned, merge, settle, hold, hforked]

/-- **Taking a fork back**: the permission of the delegation stays with the query, that of the fork comes only with a
method. -/
theorem Ends.returned {q : Query} {name : String} {hint : Bool} {c : ClassInfo} {outcome : Answer Flow × Query}
    (hheld : q.held = none) (henters : x.Enters q.depth q.visited name c)
    (h : ((q.allowStatic (permission x q hint c)).fork c).Ends x own outcome) :
    q.Follows x own [(name, hint)]
      (((q.allowStatic (permission x q hint c)).returned outcome).map (Except.map Flow.ofFound) id) := by
  have hpermits := staticAllowed_asked (x := x) q hint c
  generalize hasked : q.allowStatic (permission x q hint c) = asked at h hpermits ⊢
  have hforkAllowed : (asked.fork c).staticAllowed = (q.staticAllowed || x.permits ⟨c, hint⟩) := hpermits
  have hdepth : (asked.fork c).depth = q.depth + 1 := by rw [← hasked]; rfl
  have hvisited : (asked.fork c).visited = c.key :: q.visited := by rw [← hasked]; rfl
  have hback : asked.held = none := by rw [← hasked]; exact hheld
  obtain ⟨result, forked⟩ := outcome
  have htarget : (asked.fork c).target = c := rfl
  unfold Ends at h
  rw [htarget] at h
  split at h
  · rename_i hown
    rcases result with e | _ | _
    · trivial
    · -- the fork found nothing: only the classes that it visited come back
      obtain ⟨made, seen, hvain, hafter⟩ := h
      simp only at hafter
      subst hafter
      rw [hdepth, hvisited] at hvain
      rw [returned_of_none _ hback rfl]
      refine ⟨[⟨c, hint⟩], seen, .past henters hown hvain (.nil q.depth seen), ?_⟩
      rw [← hasked] at hpermits ⊢
      simp only [allowStatic] at hpermits
      simp [after, allowStatic, hpermits]
    · obtain ⟨vain, onward, legs, e, m, hleads, hownE, hheldF, hallowed⟩ := h
      rw [hdepth, hvisited] at hleads
      rw [returned_of_some asked _ hheldF]
      refine ⟨[], ⟨c, hint⟩, ⟨c, vain, onward⟩ :: legs, e, m, .deeper henters hown hleads, hownE, ?_, ?_⟩
      · exact congrArg some (MethodReflection.forwarded_forwarded m)
      · simp only at hallowed
        simp only [Prod.map_snd, id, hallowed, hforkAllowed, hpermits, QueryContext.wayPermits, Leg.made,
          List.any_cons, List.nil_append, List.any_nil]
        cases q.staticAllowed <;> cases x.permits ⟨c, hint⟩ <;> simp
  · rename_i m hown
    obtain ⟨hresult, hheldF, hallowed⟩ := h
    simp only at hresult hheldF hallowed
    subst hresult
    rw [returned_of_some asked _ hheldF]
    refine ⟨[], ⟨c, hint⟩, [], c, m, .here henters (by simp [hown]), hown, rfl, ?_⟩
    simp only [Prod.map_snd, id, hallowed, hforkAllowed, hpermits, QueryContext.wayPermits, List.any_nil,
      List.nil_append, List.any_cons]
    cases q.staticAllowed <;> cases x.permits ⟨c, hint⟩ <;> simp
  · rename_i e hown
    simp only at h
    subst h
    trivial

/-- **Sending a query to a class is followed**, given runs that end as they should for any query with fewer classes
unseen. -/
theorem tracks_sendTo {run : QueryM Flow}
    (hrun : ∀ q : Query, q.held = none → q.methodName = method → x.index.find? q.target.name = some q.target →
      x.index.unseen q.visited ≤ unseen → q.Ends x own (run.runOn q)) :
    x.Tracks own method (unseen + 1) (sendTo x run) := by
  intro q name hint hheld hmethod hunseen
  unfold Strategy.delegate ClassIndex.knows
  cases hc : x.index.find? name with
  | none => exact follows_skip (fun c henters => by cases hc.symm.trans henters.known)
  | some c =>
    rw [Option.isSome_some, if_pos rfl, QueryM.runOn_map]
    by_cases hdepth : q.depth < x.settings.maxDepth
    · by_cases hs : c.key ∈ q.visited
      · rw [runOn_sendTo_of_seen hc hs]
        refine follows_skip (fun d henters => ?_)
        obtain rfl := Option.some.inj (hc.symm.trans henters.known)
        exact henters.fresh hs
      · have hlt := ClassIndex.unseen_cons_lt hc hs
        rw [runOn_sendTo_of_new hdepth hc hs]
        have hforked := hrun ((q.allowStatic (permission x q hint c)).fork c) rfl hmethod (ClassIndex.find?_own hc)
          (by simp only [fork, allowStatic]; omega)
        exact hforked.returned hheld ⟨hdepth, hc, hs⟩
    · rw [runOn_sendTo_of_limit (Nat.not_lt.1 hdepth)]
      exact follows_skip (fun d henters => hdepth henters.within)

end Query

namespace Pipeline

variable {x : QueryContext} {method : String}

/-- When every class has been seen, handing a query on makes no delegation. -/
theorem tracks_of_all_seen (own : ClassInfo → Option (Answer MethodReflection)) :
    x.Tracks own method 0 (fun _ _ => pure false) := by
  intro q name hint _ _ hunseen
  have hskip : ∀ c, ¬x.Enters q.depth q.visited name c := fun c henters => by
    have := ClassIndex.unseen_cons_lt henters.known henters.fresh
    omega
  unfold Strategy.delegate
  split
  · exact Query.follows_skip hskip
  · exact Query.follows_skip hskip

/-- **A run ends with what its way permits**, as soon as it allows as many nested delegations as classes are unseen. -/
theorem ends_runWithin (types : TypeResolver) (n : Nat) : ∀ q : Query, q.held = none → q.methodName = method →
    x.index.find? q.target.name = some q.target → x.index.unseen q.visited ≤ n →
      q.Ends x (x.ownAnswer types method) (((standard types).runWithin x n).runOn q) := by
  induction n with
  | zero =>
    intro q hheld hmethod hq hunseen
    rw [runWithin]
    exact ends_standard types (tracks_of_all_seen _) hheld hmethod hq hunseen
  | succ n ih =>
    intro q hheld hmethod hq hunseen
    rw [runWithin]
    exact ends_standard types (Query.tracks_sendTo ih) hheld hmethod hq hunseen

end Pipeline
end DynamicMembers
