import DynamicMembers.Proofs.Delegation.Run
import Mathlib.Data.List.Perm.Subperm
/-!
# Trails — the classes that one query is sent through

A recorded run does what the run does and notes every class that is sent through the chain, in order; it gives nothing
where it would nest deeper than allowed.  What it notes is what the query newly visits, so no class is noted twice, and
a nesting as deep as there are registered classes is never exceeded (`chain_enters_once`).
-/
namespace DynamicMembers

/-! ## Recorded actions -/

/-- What an action answers and leaves, with the classes that it sent through the chain, in order. -/
structure Trail (α : Type) where
  answer : Answer α
  query : Query
  entered : List ClassInfo

/-- A recorded action on a query, which gives nothing where it would nest too deep. -/
def TrailM (α : Type) : Type := Query → Option (Trail α)

/-- An action whose failure is an answer, so that others can follow it. -/
def QueryM.attempt {α : Type} (act : QueryM α) : QueryM (Answer α) :=
  .ofFunction fun q => (.ok (act.runOn q).1, (act.runOn q).2)

/-- Hands a query to one class after the other, whatever comes of it. -/
def Query.sendEach (send : Delegation) : List (String × Bool) → QueryM (List (Answer Bool))
  | [] => pure []
  | (target, hint) :: rest => do
    let answer ← QueryM.attempt (send target hint)
    let answers ← sendEach send rest
    return answer :: answers

namespace TrailM

variable {α β : Type}

instance : Monad TrailM where
  pure a := fun q => some ⟨.ok a, q, []⟩
  bind t f := fun q => (t q).bind fun r =>
    match r.answer with
    | .ok a => (f a r.query).map fun r' => { r' with entered := r.entered ++ r'.entered }
    | .error e => some ⟨.error e, r.query, r.entered⟩

/-- An action that sends nothing through the chain. -/
def still (act : QueryM α) : TrailM α := fun q => some ⟨(act.runOn q).1, (act.runOn q).2, []⟩

/-- Notes the class of the query. -/
def enter : TrailM Unit := fun q => some ⟨.ok (), q, [q.target]⟩

def attempt (t : TrailM α) : TrailM (Answer α) := fun q => (t q).map fun r => ⟨.ok r.answer, r.query, r.entered⟩

def firstOf (a b : TrailM Flow) : TrailM Flow := do
  match ← a with
  | .handled => pure .handled
  | .pass => b

def firstOfAll : List (TrailM Flow) → TrailM Flow
  | [] => pure .pass
  | t :: ts => firstOf t (firstOfAll ts)

section Chain

variable (x : QueryContext) (send : String → Bool → TrailM Bool)

def delegate (target : String) (hint : Bool) : TrailM Flow :=
  if x.index.knows target then Flow.ofFound <$> send target hint else pure .pass

/-- Hands the query to the classes that its class names. -/
def delegateAll (names : ClassInfo → List String) (hint : Bool) : TrailM Flow := fun q =>
  firstOfAll ((names q.target).map (delegate x send · hint)) q

def delegation : TrailM Flow :=
  firstOf (firstOf (firstOf (delegateAll x send x.concreteNames false) (delegateAll x send x.rootNames true))
    (delegateAll x send x.driverNames false)) (delegateAll x send ClassInfo.mixins false)

def sendEach : List (String × Bool) → TrailM (List (Answer Bool))
  | [] => pure []
  | (target, hint) :: rest => do
    let answer ← attempt (send target hint)
    let answers ← sendEach rest
    return answer :: answers

/-- Hands the query to a class, given the recorded way to run the fork; nothing is noted unless the fork runs. -/
def sendTo (run : TrailM Flow) (target : String) (hint : Bool) : TrailM Bool := fun q =>
  if x.settings.maxDepth ≤ q.depth then some ⟨.ok false, q, []⟩
  else
    match x.index.get target with
    | .error e => some ⟨.error e, q, []⟩
    | .ok c =>
      if c.key ∈ q.visited then some ⟨.ok false, q, []⟩
      else
        let asked := q.allowStatic (Query.permission x q hint c)
        (run (asked.fork c)).map fun r =>
          let (answer, back) := asked.returned (r.answer, r.query)
          ⟨answer, back, r.entered⟩

/-- A recorded run of the whole chain that allows a number of nested runs, itself included. -/
def chain (types : TypeResolver) : Nat → TrailM Flow
  | 0 => fun _ => none
  | n + 1 => do
    enter
    firstOfAll [still (Strategy.selfClass.handle x fun _ _ => pure false),
      still ((Strategy.macros types).handle x fun _ _ => pure false), delegation x (sendTo x (chain types n))]

end Chain
end TrailM

/-! ## What a query newly visits -/

/-- Between two moments a query visits classes in order: registered ones, not visited before and none of them twice. -/
structure QueryContext.Visits (x : QueryContext) (q q' : Query) (entered : List ClassInfo) : Prop where
  visited : q'.visited = (q.visiting entered).visited
  nodup : (entered.map ClassInfo.key).Nodup
  fresh : ∀ d ∈ entered, d.key ∉ q.visited
  registered : ∀ d ∈ entered, x.index.find? d.name = some d

namespace QueryContext.Visits

variable {x : QueryContext} {q q' q'' : Query} {v w : List ClassInfo}

theorem of_visited_eq (h : q'.visited = q.visited) : x.Visits q q' [] :=
  ⟨h, List.nodup_nil, fun _ hd => (List.not_mem_nil hd).elim, fun _ hd => (List.not_mem_nil hd).elim⟩

theorem mem_visited (h : x.Visits q q' v) {k : ClassKey} :
    k ∈ q'.visited ↔ (∃ d ∈ v, d.key = k) ∨ k ∈ q.visited := by
  rw [h.visited, Query.visiting, List.mem_append, List.mem_reverse, List.mem_map]

theorem trans (h : x.Visits q q' v) (h' : x.Visits q' q'' w) : x.Visits q q'' (v ++ w) where
  visited := by rw [h'.visited, Query.visiting, h.visited]; simp [Query.visiting]
  nodup := by
    rw [List.map_append, List.nodup_append]
    refine ⟨h.nodup, h'.nodup, fun k hv j hw hkj => ?_⟩
    obtain ⟨d, hd, rfl⟩ := List.mem_map.1 hv
    obtain ⟨e, he, rfl⟩ := List.mem_map.1 hw
    exact h'.fresh e he (h.mem_visited.2 (Or.inl ⟨d, hd, hkj⟩))
  fresh := by
    intro d hd
    rcases List.mem_append.1 hd with hv | hw
    · exact h.fresh d hv
    · exact fun hs => h'.fresh d hw (h.mem_visited.2 (Or.inr hs))
  registered := by
    intro d hd
    rcases List.mem_append.1 hd with hv | hw
    · exact h.registered d hv
    · exact h'.registered d hw

/-- A class that had been visited is none of those that are newly visited. -/
theorem nodup_cons (h : x.Visits q q' v) {c : ClassInfo} (hc : c.key ∈ q.visited) :
    ((c :: v).map ClassInfo.key).Nodup := by
  rw [List.map_cons, List.nodup_cons]
  refine ⟨fun hm => ?_, h.nodup⟩
  obtain ⟨d, hd, hkey⟩ := List.mem_map.1 hm
  rw [← hkey] at hc
  exact h.fresh d hd hc

theorem unseen_le (h : x.Visits q q' v) : x.index.unseen q'.visited ≤ x.index.unseen q.visited := by
  rw [h.visited]
  exact x.index.unseen_append_le _ _

/-- The classes that are visited between two moments are determined by these moments. -/
theorem unique (h : x.Visits q q' v) (h' : x.Visits q q' w) : v = w := by
  have hkeys : v.map ClassInfo.key = w.map ClassInfo.key :=
    List.reverse_injective (List.append_cancel_right (h.visited.symm.trans h'.visited))
  -- a registered class is found under its key
  have hback : ∀ {l : List ClassInfo}, (∀ d ∈ l, x.index.find? d.name = some d) →
      (l.map ClassInfo.key).map x.index.classes.get? = l.map some := fun hl => by
    rw [List.map_map]
    exact List.map_congr_left hl
  have hsome : v.map some = w.map some := by rw [← hback h.registered, hkeys, hback h'.registered]
  exact List.map_injective_iff.2 (fun _ _ => Option.some.inj) hsome

theorem eq_nil (h : x.Visits q q v) : v = [] := h.unique (.of_visited_eq rfl)

end QueryContext.Visits

/-- Registered classes of different keys are no more than there are registered classes. -/
theorem ClassIndex.length_le_size {x : ClassIndex} {l : List ClassInfo} (hnodup : (l.map ClassInfo.key).Nodup)
    (hkeys : ∀ d ∈ l, d.key ∈ x.classes.keys) : l.length ≤ x.size := by
  have hsubset : l.map ClassInfo.key ⊆ x.classes.keys := fun k hk => by
    obtain ⟨d, hd, rfl⟩ := List.mem_map.1 hk
    exact hkeys d hd
  have hlength := (List.subperm_of_subset hnodup hsubset).length_le
  rwa [List.length_map, OrderedMap.keys, List.length_map] at hlength

/-! ## The record is what is newly visited -/

namespace TrailM

variable {α β : Type} {x : QueryContext} {n : Nat}

/-- On queries that leave few classes unseen, a recorded action does what the action does and notes the classes that are
newly visited. -/
def Follows (x : QueryContext) (n : Nat) (t : TrailM α) (act : QueryM α) : Prop :=
  ∀ q : Query, x.index.unseen q.visited < n →
    ∃ entered, t q = some ⟨(act.runOn q).1, (act.runOn q).2, entered⟩ ∧ x.Visits q (act.runOn q).2 entered

theorem follows_still {act : QueryM α} (h : ∀ q, (act.runOn q).2.visited = q.visited) : Follows x n (still act) act :=
  fun q _ => ⟨[], rfl, .of_visited_eq (h q)⟩

theorem follows_pure (a : α) : Follows x n (pure a) (pure a) := fun _ _ => ⟨[], rfl, .of_visited_eq rfl⟩

theorem Follows.bind {t : TrailM α} {act : QueryM α} {f : α → TrailM β} {g : α → QueryM β} (ht : Follows x n t act)
    (hf : ∀ a, Follows x n (f a) (g a)) : Follows x n (t >>= f) (act >>= g) := by
  intro q hq
  obtain ⟨v, hrun, hvisits⟩ := ht q hq
  have hbind : (t >>= f) q = (t q).bind fun r =>
      match r.answer with
      | .ok a => (f a r.query).map fun r' => { r' with entered := r.entered ++ r'.entered }
      | .error e => some ⟨.error e, r.query, r.entered⟩ := rfl
  rw [hbind, hrun, Option.bind_some, QueryM.runOn_bind]
  generalize act.runOn q = outcome at hvisits
  obtain ⟨e | a, q'⟩ := outcome
  · exact ⟨v, rfl, hvisits⟩
  · obtain ⟨w, hrest, hvisits'⟩ := hf a q' (Nat.lt_of_le_of_lt hvisits.unseen_le hq)
    exact ⟨v ++ w, by simp only [hrest, Option.map_some], hvisits.trans hvisits'⟩

theorem Follows.attempt {t : TrailM α} {act : QueryM α} (h : Follows x n t act) :
    Follows x n t.attempt act.attempt := by
  intro q hq
  obtain ⟨v, hrun, hvisits⟩ := h q hq
  exact ⟨v, by rw [TrailM.attempt, hrun]; rfl, hvisits⟩

theorem Follows.firstOf {a b : TrailM Flow} {act act' : QueryM Flow} (ha : Follows x n a act)
    (hb : Follows x n b act') : Follows x n (firstOf a b) (Strategy.firstOf act act') := by
  refine ha.bind fun flow => ?_
  cases flow with
  | handled => exact follows_pure Flow.handled
  | pass => exact hb

theorem follows_firstOfAll {ι : Type} {f : ι → TrailM Flow} {g : ι → QueryM Flow}
    (h : ∀ i, Follows x n (f i) (g i)) : ∀ l : List ι,
      Follows x n (firstOfAll (l.map f)) (Strategy.firstOfAll (l.map g))
  | [] => follows_pure Flow.pass
  | i :: l => (h i).firstOf (follows_firstOfAll h l)

section Send

variable {send : String → Bool → TrailM Bool} {send' : Delegation}

theorem follows_delegate (hsend : ∀ target hint, Follows x n (send target hint) (send' target hint))
    (hint : Bool) (target : String) :
    Follows x n (delegate x send target hint) (Strategy.delegate x send' target hint) := by
  unfold delegate Strategy.delegate
  split
  · rw [map_eq_pure_bind Flow.ofFound (send' target hint)]
    exact (hsend target hint).bind fun found => follows_pure (Flow.ofFound found)
  · exact follows_pure Flow.pass

/-- A strategy that hands the query to classes that its class names is followed by handing it to them. -/
theorem follows_delegateAll (hsend : ∀ target hint, Follows x n (send target hint) (send' target hint))
    {names : ClassInfo → List String} {hint : Bool} {act : QueryM Flow}
    (hact : ∀ q, act.runOn q =
      (Strategy.firstOfAll ((names q.target).map (Strategy.delegate x send' · hint))).runOn q) :
    Follows x n (delegateAll x send names hint) act := by
  intro q hq
  rw [hact]
  exact follows_firstOfAll (follows_delegate hsend hint) (names q.target) q hq

theorem follows_delegation (hsend : ∀ target hint, Follows x n (send target hint) (send' target hint)) :
    Follows x n (delegation x send) (Strategy.delegation.handle x send') :=
  (((follows_delegateAll hsend (Strategy.runOn_contracts x send')).firstOf
    (follows_delegateAll hsend (Strategy.runOn_facades x send'))).firstOf
    (follows_delegateAll hsend (Strategy.runOn_managers x send'))).firstOf
    (follows_delegateAll hsend (fun _ => rfl))

theorem follows_sendEach (hsend : ∀ target hint, Follows x n (send target hint) (send' target hint)) :
    ∀ sends : List (String × Bool), Follows x n (sendEach send sends) (Query.sendEach send' sends)
  | [] => follows_pure []
  | (target, hint) :: rest =>
    (hsend target hint).attempt.bind fun answer =>
      (follows_sendEach hsend rest).bind fun answers => follows_pure (answer :: answers)

end Send

/-! ## Sending on, and whole runs -/

/-- A recorded run notes the class of its query first, and then the classes that are newly visited. -/
def Records (x : QueryContext) (n : Nat) (t : TrailM Flow) (run : QueryM Flow) : Prop :=
  ∀ q : Query, x.index.unseen q.visited < n →
    ∃ later, t q = some ⟨(run.runOn q).1, (run.runOn q).2, q.target :: later⟩ ∧ x.Visits q (run.runOn q).2 later

theorem Follows.records {t : TrailM Flow} {run : QueryM Flow} (h : Follows x n t run) :
    Records x n (do enter; t) run := by
  intro q hq
  obtain ⟨later, hrun, hvisits⟩ := h q hq
  have henter : (do enter; t) q = (t q).map fun r => { r with entered := q.target :: r.entered } := rfl
  exact ⟨later, by rw [henter, hrun]; rfl, hvisits⟩

theorem visited_returned (asked : Query) (outcome : Answer Flow × Query) :
    (asked.returned outcome).2.visited = outcome.2.visited := by
  obtain ⟨_ | _, forked⟩ := outcome
  · rfl
  · unfold Query.returned Query.merge
    cases forked.held with
    | some m => rfl
    | none =>
      unfold Query.settle
      cases asked.held <;> rfl

/-- What a fork newly visits, the query visits after the class of the fork. -/
theorem visits_returned {q : Query} {c : ClassInfo} {allowed : Bool} {outcome : Answer Flow × Query}
    {later : List ClassInfo} (hc : x.index.find? c.name = some c) (hs : c.key ∉ q.visited)
    (h : x.Visits ((q.allowStatic allowed).fork c) outcome.2 later) :
    x.Visits q ((q.allowStatic allowed).returned outcome).2 (c :: later) where
  visited := by
    rw [visited_returned, h.visited]
    simp [Query.visiting, Query.fork, Query.allowStatic]
  nodup := h.nodup_cons List.mem_cons_self
  fresh := List.forall_mem_cons.2 ⟨hs, fun d hd hm => h.fresh d hd (List.mem_cons_of_mem _ hm)⟩
  registered := List.forall_mem_cons.2 ⟨hc, h.registered⟩

/-- **Sending a query on visits the class and what its run visits**, or nothing at all. -/
theorem Records.sendTo {t : TrailM Flow} {run : QueryM Flow} (h : Records x n t run) (target : String) (hint : Bool) :
    Follows x (n + 1) (TrailM.sendTo x t target hint) (Query.sendTo x run target hint) := by
  intro q hq
  unfold TrailM.sendTo
  by_cases hdepth : x.settings.maxDepth ≤ q.depth
  · rw [if_pos hdepth, Query.runOn_sendTo_of_limit hdepth]
    exact ⟨[], rfl, .of_visited_eq rfl⟩
  rw [if_neg hdepth]
  cases hc : x.index.find? target with
  | none =>
    rw [Query.runOn_sendTo_of_unknown (Nat.not_le.1 hdepth) hc]
    exact ⟨[], by simp only [ClassIndex.get, hc], .of_visited_eq rfl⟩
  | some c =>
    by_cases hs : c.key ∈ q.visited
    · rw [Query.runOn_sendTo_of_seen hc hs]
      exact ⟨[], by simp only [ClassIndex.get, hc, if_pos hs], .of_visited_eq rfl⟩
    · rw [Query.runOn_sendTo_of_new (Nat.not_le.1 hdepth) hc hs]
      have hlt : x.index.unseen (c.key :: q.visited) < n :=
        Nat.lt_of_lt_of_le (ClassIndex.unseen_cons_lt hc hs) (Nat.le_of_lt_succ hq)
      obtain ⟨later, hrun, hvisits⟩ := h ((q.allowStatic (Query.permission x q hint c)).fork c) hlt
      refine ⟨c :: later, ?_, visits_returned (ClassIndex.find?_own hc) hs hvisits⟩
      simp only [ClassIndex.get, hc, if_neg hs, hrun]
      rfl

theorem visited_selfClass (send : Delegation) (q : Query) :
    ((Strategy.selfClass.handle x send).runOn q).2.visited = q.visited := by
  simp only [Strategy.selfClass, QueryM.runOn_get_bind, QueryM.runOn_map, Query.searchOn, QueryM.runOn_ofFunction]
  cases x.index.get q.target.name with
  | error e => rfl
  | ok c =>
    simp only
    cases x.index.nativeMethod c q.methodName <;> rfl

theorem visited_macros (types : TypeResolver) (send : Delegation) (q : Query) :
    (((Strategy.macros types).handle x send).runOn q).2.visited = q.visited := by
  rw [Strategy.runOn_macros]
  rcases x.macroOf q.methodName q.target with _ | ⟨owner, d⟩
  · rfl
  · simp only
    cases types d.returnType <;> rfl

/-- **A recorded run does what the run does**, when both may nest as often as classes are unseen; it notes the class of
the query and the classes that are newly visited. -/
theorem records_chain (types : TypeResolver) (n : Nat) : ∀ m k : Nat, n ≤ m → n ≤ k →
    Records x n (chain x types m) ((Pipeline.standard types).runWithin x k) := by
  induction n with
  | zero => exact fun _ _ _ _ _ hq => (Nat.not_lt_zero _ hq).elim
  | succ n ih =>
    intro m k hm hk
    obtain ⟨m, rfl⟩ : ∃ m', m = m' + 1 := ⟨m - 1, by omega⟩
    obtain ⟨k, rfl⟩ : ∃ k', k = k' + 1 := ⟨k - 1, by omega⟩
    have hsend := (ih m k (by omega) (by omega)).sendTo
    refine Follows.records (.firstOf ?_ (.firstOf ?_ (.firstOf ?_ (follows_pure Flow.pass))))
    · exact follows_still (visited_selfClass _)
    · exact follows_still (visited_macros types _)
    · exact follows_delegation hsend

end TrailM

/-- A query on a class that is not registered fails at once. -/
theorem Pipeline.runOn_send_of_unknown {x : QueryContext} (types : TypeResolver) {q : Query}
    (h : x.index.find? q.target.name = none) :
    ((standard types).send x).runOn q = (.error (.classNotFound q.target.name), q) := by
  let send : Delegation := Query.sendTo x ((standard types).runWithin x x.index.size)
  have hself : (Strategy.selfClass.handle x send).runOn q = (.error (.classNotFound q.target.name), q) := by
    simp only [Strategy.selfClass, QueryM.runOn_get_bind, QueryM.runOn_map, Query.searchOn, QueryM.runOn_ofFunction,
      ClassIndex.get, h]
    rfl
  have hrun : ((standard types).send x).runOn q =
      (Strategy.firstOf (Strategy.selfClass.handle x send) (Strategy.firstOf ((Strategy.macros types).handle x send)
        (Strategy.firstOf (Strategy.delegation.handle x send) (pure .pass)))).runOn q := rfl
  rw [hrun, Strategy.runOn_firstOf, hself]

namespace TrailM

variable (x : QueryContext) (types : TypeResolver)

theorem unseen_lt (q : Query) : x.index.unseen q.visited < x.index.size + 1 :=
  Nat.lt_succ_of_le (x.index.unseen_le_size q.visited)

theorem records_standard {n : Nat} (hn : x.index.size < n) :
    Records x (x.index.size + 1) (chain x types n) ((Pipeline.standard types).send x) :=
  records_chain types (x.index.size + 1) n (x.index.size + 1) hn (Nat.le_refl _)

theorem follows_sendEach_standard (sends : List (String × Bool)) {n : Nat} (hn : x.index.size < n) :
    Follows x (x.index.size + 1 + 1) (sendEach (sendTo x (chain x types n)) sends)
      (Query.sendEach ((Pipeline.standard types).sendTo x) sends) :=
  follows_sendEach (records_standard x types hn).sendTo sends

end TrailM

open TrailM

/-- **Every query ends, and sends no class through the chain twice.**  Runs that may nest as deep as there are
registered classes, and one deeper, all go the same way; the classes that they are sent through, from the class asked
on, have different keys, and those after the first are registered.  The same holds of any classes to which a query is
handed one after the other, whatever comes of each. -/
theorem chain_enters_once (x : QueryContext) (types : TypeResolver) :
    (∀ (c : ClassInfo) (method : String),
      let run := ((Pipeline.standard types).send x).runOn (.start c method)
      ∃ later,
        (∀ n > x.index.size, chain x types n (.start c method) = some ⟨run.1, run.2, c :: later⟩) ∧
        run.2.visited = ((c :: later).map ClassInfo.key).reverse ∧
        ((c :: later).map ClassInfo.key).Nodup ∧ (∀ d ∈ later, x.index.find? d.name = some d) ∧
        (x.index.knows c.name = true → (c :: later).length ≤ x.index.size) ∧
        (x.index.knows c.name = false → later = [])) ∧
    ∀ (q : Query) (sends : List (String × Bool)),
      let run := (Query.sendEach ((Pipeline.standard types).sendTo x) sends).runOn q
      ∃ entered,
        (∀ n > x.index.size, sendEach (sendTo x (chain x types n)) sends q = some ⟨run.1, run.2, entered⟩) ∧
        run.2.visited = (entered.map ClassInfo.key).reverse ++ q.visited ∧
        (entered.map ClassInfo.key).Nodup ∧ (∀ d ∈ entered, d.key ∉ q.visited ∧ x.index.find? d.name = some d) ∧
        entered.length ≤ x.index.size := by
  refine ⟨fun c method => ?_, fun q sends => ?_⟩
  · have hrecords := fun {n : Nat} (hn : x.index.size < n) =>
      records_standard x types hn (.start c method) (unseen_lt x _)
    obtain ⟨later, -, hvisits⟩ := hrecords (Nat.lt_succ_self _)
    have hnodup : ((c :: later).map ClassInfo.key).Nodup := hvisits.nodup_cons List.mem_cons_self
    refine ⟨later, fun n hn => ?_, ?_, hnodup, hvisits.registered, fun hknown => ?_, fun hunknown => ?_⟩
    · obtain ⟨later', hrun, hvisits'⟩ := hrecords hn
      rw [hrun, hvisits'.unique hvisits]
      rfl
    · rw [hvisits.visited, List.map_cons, List.reverse_cons]
      rfl
    · obtain ⟨e, he⟩ := Option.isSome_iff_exists.1 hknown
      have hkey : e.key = c.key := ClassIndex.key_of_find? he
      have hc : c.key ∈ x.index.classes.keys := by
        rw [← hkey]
        exact ClassIndex.key_mem_keys he
      exact ClassIndex.length_le_size hnodup
        (List.forall_mem_cons.2 ⟨hc, fun d hd => ClassIndex.key_mem_keys (hvisits.registered d hd)⟩)
    · have hnone : x.index.find? c.name = none := by simpa [ClassIndex.knows] using hunknown
      have hrun := Pipeline.runOn_send_of_unknown types (q := .start c method) hnone
      rw [hrun] at hvisits
      exact hvisits.eq_nil
  · have hfollows := fun {n : Nat} (hn : x.index.size < n) =>
      follows_sendEach_standard x types sends hn q (Nat.lt_succ_of_lt (unseen_lt x q))
    obtain ⟨entered, -, hvisits⟩ := hfollows (Nat.lt_succ_self _)
    refine ⟨entered, fun n hn => ?_, hvisits.visited, hvisits.nodup,
      fun d hd => ⟨hvisits.fresh d hd, hvisits.registered d hd⟩,
      ClassIndex.length_le_size hvisits.nodup fun d hd => ClassIndex.key_mem_keys (hvisits.registered d hd)⟩
    obtain ⟨entered', hrun, hvisits'⟩ := hfollows hn
    rw [hrun, hvisits'.unique hvisits]

/-- Three classes, each of which mixes in the other two. -/
def tangle : ClassIndex := .ofList
  [{ name := "A", mixins := ["B", "C"] }, { name := "B", mixins := ["A", "C"] }, { name := "C", mixins := ["A", "B"] }]

/-- A query on a class of the tangle goes through all three; handed to the last of them, to a class that is not there
and to the second, it goes through the other two. -/
theorem chain_enters_once_tangle :
    let a : ClassInfo := { name := "A", mixins := ["B", "C"] }
    let b : ClassInfo := { name := "B", mixins := ["A", "C"] }
    let c : ClassInfo := { name := "C", mixins := ["A", "B"] }
    let x : QueryContext := ⟨tangle, { maxDepth := 100 }⟩
    let sends := [("C", false), ("D", true), ("b", false)]
    let answers : Answer (List (Answer Bool)) := .ok [.ok false, .error (.classNotFound "D"), .ok false]
    (chain x PhpDoc.resolve 4 (.start a "volley")).map Trail.entered = some [a, b, c] ∧
    ([a, b, c].map ClassInfo.key).Nodup ∧ [a, b, c].length ≤ x.index.size ∧
    (sendEach (sendTo x (chain x PhpDoc.resolve 4)) sends (.start a "volley")).map Trail.entered = some [c, b] ∧
    ((Query.sendEach ((Pipeline.standard PhpDoc.resolve).sendTo x) sends).runOn (.start a "volley")).1 = answers ∧
    ([c, b].map ClassInfo.key).Nodup ∧ [c, b].length ≤ x.index.size := by
  intro a b c x sends answers
  have hsize : 4 > x.index.size := by decide
  have hknown : x.index.knows a.name = true := by decide +kernel
  have hlog : (chain x PhpDoc.resolve 4 (.start a "volley")).map Trail.entered = some [a, b, c] := by decide +kernel
  have hlogEach : (sendEach (sendTo x (chain x PhpDoc.resolve 4)) sends (.start a "volley")).map Trail.entered =
      some [c, b] := by decide +kernel
  have hanswers : ((Query.sendEach ((Pipeline.standard PhpDoc.resolve).sendTo x) sends).runOn (.start a "volley")).1 =
      answers := by decide +kernel
  obtain ⟨later, hrun, -, hnodup, -, hlength, -⟩ := (chain_enters_once x PhpDoc.resolve).1 a "volley"
  obtain ⟨entered, hrunEach, -, hnodupEach, -, hlengthEach⟩ :=
    (chain_enters_once x PhpDoc.resolve).2 (.start a "volley") sends
  have hentered : a :: later = [a, b, c] := by
    rw [hrun 4 hsize, Option.map_some] at hlog
    exact Option.some.inj hlog
  have henteredEach : entered = [c, b] := by
    rw [hrunEach 4 hsize, Option.map_some] at hlogEach
    exact Option.some.inj hlogEach
  rw [hentered] at hnodup hlength
  rw [henteredEach] at hnodupEach hlengthEach
  exact ⟨hlog, hnodup, hlength hknown, hlogEach, hanswers, hnodupEach, hlengthEach⟩

end DynamicMembers
