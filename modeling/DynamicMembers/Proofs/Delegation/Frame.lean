import DynamicMembers.Proofs.Delegation.Run
import DynamicMembers.Proofs.Method.Questions
/-!
# Frames — what handing a query on leaves as it was

A fork has its own class, depth and finding, and takes the visited classes along; only what it visits, permits and finds
comes back.  Each strategy keeps the frame of its query, hence so does each run however deep it nests, and so does
handing a query on, by whichever exit it comes back (`sendTo_keeps`).
-/
namespace DynamicMembers

/-- What stays of a query: it is bound as before, what was permitted is permitted, what was visited is visited, and it
does not come to hold nothing. -/
structure Query.Keeps (q q' : Query) : Prop where
  target : q'.target = q.target
  methodName : q'.methodName = q.methodName
  depth : q'.depth = q.depth
  staticAllowed : q.staticAllowed = true → q'.staticAllowed = true
  visited : q.visited ⊆ q'.visited
  held : q.held.isSome = true → q'.held.isSome = true

/-- A registered class has a macro for the method, and its result type is refused. -/
def QueryContext.Refuses (x : QueryContext) (types : TypeResolver) (method : String) (e : InferenceError) : Prop :=
  ∃ c owner d, x.index.find? c.name = some c ∧ x.macroOf method c = some (owner, d) ∧ types d.returnType = .error e

namespace Query

variable {q q' q'' : Query}

theorem Keeps.refl (q : Query) : q.Keeps q := ⟨rfl, rfl, rfl, id, List.Subset.refl _, id⟩

theorem Keeps.trans (h : q.Keeps q') (h' : q'.Keeps q'') : q.Keeps q'' where
  target := h'.target.trans h.target
  methodName := h'.methodName.trans h.methodName
  depth := h'.depth.trans h.depth
  staticAllowed := h'.staticAllowed ∘ h.staticAllowed
  visited := List.Subset.trans h.visited h'.visited
  held := h'.held ∘ h.held

theorem keeps_hold (q : Query) (m : MethodReflection) : q.Keeps (q.hold m) :=
  ⟨rfl, rfl, rfl, id, List.Subset.refl _, fun _ => rfl⟩

theorem keeps_allowStatic (q : Query) (allowed : Bool) : q.Keeps (q.allowStatic allowed) where
  target := rfl
  methodName := rfl
  depth := rfl
  staticAllowed h := by rw [allowStatic, h, Bool.true_or]
  visited := List.Subset.refl _
  held := id

theorem keeps_merge (q forked : Query) : q.Keeps (q.merge forked) := by
  unfold merge
  cases forked.held with
  | none => exact .refl q
  | some m => exact (q.keeps_allowStatic forked.staticAllowed).trans (keeps_hold _ m)

theorem keeps_settle (q : Query) : q.Keeps q.settle.2 := by
  unfold settle
  cases q.held with
  | none => exact .refl q
  | some m => exact q.keeps_hold m.forwarded

/-- Taking back the visited classes of a fork loses none. -/
theorem keeps_visited {q : Query} {seen : List ClassKey} (h : q.visited ⊆ seen) :
    q.Keeps { q with visited := seen } := ⟨rfl, rfl, rfl, id, h, id⟩

/-- **What comes back from a fork that visited more is the query in its frame**, whatever the fork answered. -/
theorem keeps_returned {asked : Query} {outcome : Answer Flow × Query} (h : asked.visited ⊆ outcome.2.visited) :
    asked.Keeps (asked.returned outcome).2 := by
  obtain ⟨result, forked⟩ := outcome
  cases result with
  | error e => exact keeps_visited h
  | ok flow =>
    refine (keeps_visited h).trans (?_ : Keeps _ (merge _ forked).settle.2)
    exact (keeps_merge _ forked).trans (keeps_settle _)

/-! ## What is held afterwards -/

theorem held_settle_of_true (h : q.settle.1 = true) : ∃ m, q.settle.2.held = some m ∧ m.isNative = false := by
  unfold settle at h ⊢
  cases hheld : q.held with
  | none =>
    rw [hheld] at h
    cases h
  | some m => exact ⟨m.forwarded, rfl, m.isNative_forwarded⟩

theorem held_settle_of_false (h : q.settle.1 = false) : q.held = none ∧ q.settle.2.held = none := by
  unfold settle at h ⊢
  cases hheld : q.held with
  | none => exact ⟨rfl, hheld⟩
  | some m =>
    rw [hheld] at h
    cases h

theorem held_of_held_merge {forked : Query} (h : (q.merge forked).held = none) : q.held = none := by
  by_contra hheld
  have hkept := (q.keeps_merge forked).held (Option.isSome_iff_ne_none.2 hheld)
  rw [h] at hkept
  cases hkept

theorem held_returned_of_true {asked : Query} {outcome : Answer Flow × Query}
    (h : (asked.returned outcome).1 = .ok true) :
    ∃ m, (asked.returned outcome).2.held = some m ∧ m.isNative = false := by
  obtain ⟨result, forked⟩ := outcome
  cases result with
  | error e => cases h
  | ok flow => exact held_settle_of_true (Except.ok.inj h)

theorem held_returned_of_false {asked : Query} {outcome : Answer Flow × Query}
    (h : (asked.returned outcome).1 = .ok false) : (asked.returned outcome).2.held = asked.held := by
  obtain ⟨result, forked⟩ := outcome
  cases result with
  | error e => cases h
  | ok flow =>
    obtain ⟨hmerged, hsettled⟩ := held_settle_of_false (Except.ok.inj h)
    exact hsettled.trans (held_of_held_merge hmerged).symm

theorem returned_of_error {asked : Query} {outcome : Answer Flow × Query} {e : InferenceError}
    (h : (asked.returned outcome).1 = .error e) :
    outcome.1 = .error e ∧ (asked.returned outcome).2.held = asked.held := by
  obtain ⟨result, forked⟩ := outcome
  cases result with
  | error e' => exact ⟨congrArg Except.error (Except.error.inj h), rfl⟩
  | ok flow => cases h

end Query

/-! ## Actions in their frame -/

/-- An action on queries about a method that keeps their frame and fails only as told.  Where the class of a query is
looked up by its own name, it has to be registered. -/
def QueryM.Framed {α : Type} (x : QueryContext) (method : String) (fails : InferenceError → Prop) (act : QueryM α) :
    Prop :=
  ∀ q : Query, q.methodName = method → x.index.find? q.target.name = some q.target →
    q.Keeps (act.runOn q).2 ∧ ∀ e, (act.runOn q).1 = .error e → fails e

section

variable {x : QueryContext} {method : String} {fails : InferenceError → Prop} {types : TypeResolver}

theorem QueryM.framed_pure {α : Type} (a : α) : QueryM.Framed x method fails (pure a) :=
  fun q _ _ => ⟨.refl q, nofun⟩

theorem QueryM.Framed.firstOf {a b : QueryM Flow} (ha : a.Framed x method fails) (hb : b.Framed x method fails) :
    QueryM.Framed x method fails (Strategy.firstOf a b) := by
  intro q hmethod htarget
  obtain ⟨hkeeps, hfails⟩ := ha q hmethod htarget
  rw [Strategy.runOn_firstOf]
  generalize a.runOn q = outcome at hkeeps hfails
  obtain ⟨result, q'⟩ := outcome
  match result with
  | .error e => exact ⟨hkeeps, hfails⟩
  | .ok .handled => exact ⟨hkeeps, nofun⟩
  | .ok .pass =>
    have htarget' : x.index.find? q'.target.name = some q'.target := by rwa [hkeeps.target]
    obtain ⟨hkeeps', hfails'⟩ := hb q' (hkeeps.methodName.trans hmethod) htarget'
    exact ⟨hkeeps.trans hkeeps', hfails'⟩

theorem Strategy.framed_firstOfAll {ι : Type} {act : ι → QueryM Flow} (h : ∀ i, (act i).Framed x method fails) :
    ∀ l : List ι, QueryM.Framed x method fails (firstOfAll (l.map act))
  | [] => QueryM.framed_pure Flow.pass
  | i :: l => (h i).firstOf (framed_firstOfAll h l)

/-- Handing a query on keeps its frame, as a run that is allowed to hand it on does when it is registered. -/
def Delegation.Framed (x : QueryContext) (method : String) (fails : InferenceError → Prop) (send : Delegation) : Prop :=
  ∀ (q : Query) (target : String) (hint : Bool), q.methodName = method →
    q.Keeps ((send target hint).runOn q).2 ∧
    ∀ e, ((send target hint).runOn q).1 = .error e →
      x.index.find? target = none ∧ e = .classNotFound target ∨ fails e

namespace Strategy

variable {send : Delegation}

/-- Only a registered class is delegated to, so none is missed. -/
theorem framed_delegate (hsend : send.Framed x method fails) (target : String) (hint : Bool) :
    QueryM.Framed x method fails (delegate x send target hint) := by
  intro q hmethod _
  unfold delegate
  by_cases hknown : x.index.knows target = true
  · rw [if_pos hknown, QueryM.runOn_map]
    obtain ⟨hkeeps, hfails⟩ := hsend q target hint hmethod
    refine ⟨hkeeps, fun e he => (hfails e (MethodResolver.error_of_map he)).resolve_left ?_⟩
    rintro ⟨hnone, -⟩
    rw [ClassIndex.knows, hnone] at hknown
    cases hknown
  · rw [if_neg hknown]
    exact ⟨.refl q, fun e he => by cases he⟩

theorem framed_of_runOn (hsend : send.Framed x method fails) {names : ClassInfo → List String} {hint : Bool}
    {act : QueryM Flow}
    (hact : ∀ q, act.runOn q = (firstOfAll ((names q.target).map (delegate x send · hint))).runOn q) :
    act.Framed x method fails := by
  intro q hmethod htarget
  rw [hact]
  exact framed_firstOfAll (framed_delegate hsend · hint) (names q.target) q hmethod htarget

theorem framed_delegation (hsend : send.Framed x method fails) :
    QueryM.Framed x method fails (delegation.handle x send) :=
  (((framed_of_runOn hsend (runOn_contracts x send)).firstOf (framed_of_runOn hsend (runOn_facades x send))).firstOf
    (framed_of_runOn hsend (runOn_managers x send))).firstOf (framed_of_runOn hsend (fun _ => rfl))

theorem framed_selfClass (send : Delegation) : QueryM.Framed x method fails (selfClass.handle x send) := by
  intro q _ htarget
  rw [runOn_selfClass send htarget]
  cases x.index.nativeMethod q.target q.methodName with
  | none => exact ⟨.refl q, nofun⟩
  | some m => exact ⟨q.keeps_hold (.native m), nofun⟩

theorem framed_macros (send : Delegation) :
    QueryM.Framed x method (x.Refuses types method) ((macros types).handle x send) := by
  intro q hmethod htarget
  rw [runOn_macros, hmethod]
  rcases hmacro : x.macroOf method q.target with _ | ⟨owner, d⟩
  · exact ⟨.refl q, nofun⟩
  · simp only
    cases htype : types d.returnType with
    | error e =>
      refine ⟨.refl q, fun e' he => ?_⟩
      obtain rfl := Except.error.inj he
      exact ⟨q.target, owner, d, htarget, hmacro, htype⟩
    | ok t => exact ⟨(q.keeps_hold _).trans (Query.keeps_allowStatic _ true), nofun⟩

end Strategy

/-! ## Handing on, and whole runs -/

/-- **The exits of handing a query on**: it comes back at once, the target being out of reach or not registered, or from
a fork on a class that was not visited. -/
theorem Query.runOn_sendTo_cases (x : QueryContext) (run : QueryM Flow) (q : Query) (target : String) (hint : Bool) :
    (Query.sendTo x run target hint).runOn q = (.ok false, q) ∨
    x.index.find? target = none ∧ (Query.sendTo x run target hint).runOn q = (.error (.classNotFound target), q) ∨
    ∃ c, x.index.find? target = some c ∧ (Query.sendTo x run target hint).runOn q =
      (q.allowStatic (permission x q hint c)).returned
        (run.runOn ((q.allowStatic (permission x q hint c)).fork c)) := by
  by_cases hdepth : x.settings.maxDepth ≤ q.depth
  · exact .inl (runOn_sendTo_of_limit hdepth)
  cases hc : x.index.find? target with
  | none => exact .inr (.inl ⟨rfl, runOn_sendTo_of_unknown (Nat.not_le.1 hdepth) hc⟩)
  | some c =>
    by_cases hs : c.key ∈ q.visited
    · exact .inl (runOn_sendTo_of_seen hc hs)
    · exact .inr (.inr ⟨c, rfl, runOn_sendTo_of_new (Nat.not_le.1 hdepth) hc hs⟩)

/-- **Handing a query on keeps its frame when the run of the fork keeps that of the fork.** -/
theorem Query.framed_sendTo {run : QueryM Flow} (hrun : run.Framed x method fails) :
    Delegation.Framed x method fails (Query.sendTo x run) := by
  intro q target hint hmethod
  rcases runOn_sendTo_cases x run q target hint with h | ⟨hnone, h⟩ | ⟨c, hc, h⟩
  · rw [h]
    exact ⟨.refl q, nofun⟩
  · rw [h]
    exact ⟨.refl q, fun e he => .inl ⟨hnone, (Except.error.inj he).symm⟩⟩
  · rw [h]
    let asked := q.allowStatic (permission x q hint c)
    obtain ⟨hkeeps, hfails⟩ := hrun (asked.fork c) hmethod (ClassIndex.find?_own hc)
    have hvisited : asked.visited ⊆ (run.runOn (asked.fork c)).2.visited :=
      List.Subset.trans (List.subset_cons_self c.key asked.visited) hkeeps.visited
    exact ⟨(q.keeps_allowStatic _).trans (keeps_returned hvisited),
      fun e he => .inr (hfails e (returned_of_error he).1)⟩

/-- What a query holds tells how handing it on came out. -/
theorem Query.held_sendTo (x : QueryContext) (run : QueryM Flow) (q : Query) (target : String) (hint : Bool) :
    let outcome := (Query.sendTo x run target hint).runOn q
    (outcome.1 = .ok true → ∃ m, outcome.2.held = some m ∧ m.isNative = false) ∧
    (outcome.1 = .ok false → outcome.2.held = q.held) ∧ ∀ e, outcome.1 = .error e → outcome.2.held = q.held := by
  intro outcome
  rcases runOn_sendTo_cases x run q target hint with h | ⟨-, h⟩ | ⟨c, -, h⟩
  · rw [show outcome = (.ok false, q) from h]
    exact ⟨nofun, fun _ => rfl, nofun⟩
  · rw [show outcome = (.error (.classNotFound target), q) from h]
    exact ⟨nofun, nofun, fun _ _ => rfl⟩
  · rw [show outcome = _ from h]
    exact ⟨held_returned_of_true, held_returned_of_false, fun e he => (returned_of_error he).2⟩

theorem Pipeline.framed_runWithin (x : QueryContext) (types : TypeResolver) (method : String) :
    ∀ n : Nat, ((Pipeline.standard types).runWithin x n).Framed x method (x.Refuses types method) := by
  have hhandle : ∀ send : Delegation, send.Framed x method (x.Refuses types method) →
      ((Pipeline.standard types).handle x send).Framed x method (x.Refuses types method) := fun send hsend =>
    (Strategy.framed_selfClass send).firstOf ((Strategy.framed_macros send).firstOf
      ((Strategy.framed_delegation hsend).firstOf (QueryM.framed_pure Flow.pass)))
  intro n
  induction n with
  | zero => exact hhandle _ (fun q _ _ _ => ⟨.refl q, nofun⟩)
  | succ n ih => exact hhandle _ (Query.framed_sendTo ih)

/-- **Handing a query on leaves its frame**, whatever it holds, may do and has visited.  Its class, its method name and
its depth stay; a permission stays; the visited classes only become more; a held method may be replaced, not lost.  When
it answers that a method is there, one is held and it is none that would report itself as declared; when it answers that
none is there, or fails, what is held is what was held.  It fails only for a target that is not registered, or for a
macro whose result type is refused. -/
theorem Pipeline.sendTo_keeps (x : QueryContext) (types : TypeResolver) (q : Query) (target : String) (hint : Bool) :
    let outcome := ((Pipeline.standard types).sendTo x target hint).runOn q
    q.Keeps outcome.2 ∧
    (outcome.1 = .ok true → ∃ m, outcome.2.held = some m ∧ m.isNative = false) ∧
    (outcome.1 = .ok false → outcome.2.held = q.held) ∧
    ∀ e, outcome.1 = .error e → outcome.2.held = q.held ∧
      (x.index.find? target = none ∧ e = .classNotFound target ∨
        ∃ c owner d, x.index.find? c.name = some c ∧ x.macroOf q.methodName c = some (owner, d) ∧
          types d.returnType = .error e ∧
          (MethodResolver.RefusesTexts types → ∃ fault, e = .unresolvedType d.returnType fault)) := by
  intro outcome
  obtain ⟨hkeeps, hfails⟩ :=
    Query.framed_sendTo (Pipeline.framed_runWithin x types q.methodName (x.index.size + 1)) q target hint rfl
  refine ⟨hkeeps, ?_⟩
  obtain ⟨hfound, hmissing, hfailed⟩ := Query.held_sendTo x _ q target hint
  refine ⟨hfound, hmissing, fun e he => ⟨hfailed e he, ?_⟩⟩
  refine (hfails e he).imp_right ?_
  rintro ⟨c, owner, d, hc, hmacro, htype⟩
  exact ⟨c, owner, d, hc, hmacro, htype, fun htypes => htypes d.returnType e htype⟩

/-- A held method is not lost to a class that lacks it: it comes back as a static one, and counts as found. -/
example :
    let held : Method := { name := "run", declaringClass := "A" }
    let x : QueryContext := ⟨.ofList [{ name := "A" }, { name := "B" }], {}⟩
    let q : Query := { Query.start { name := "A" } "run" with held := some (.native held) }
    ((Pipeline.standard PhpDoc.resolve).sendTo x "b" false).runOn q =
      (.ok true, { q with held := some (.staticForwarding (.native held)), visited := [⟨"b"⟩, ⟨"a"⟩] }) := rfl

end

end DynamicMembers
