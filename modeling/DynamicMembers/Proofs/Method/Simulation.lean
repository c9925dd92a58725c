import DynamicMembers.Proofs.Delegation.Run
/-!
# Simulations — two runs of a query side by side

Two runs are compared whose contexts name classes differently and hold differing descriptors of them.  What may differ
is given by a relation on names and one on descriptors; two contexts match when everything a run looks up in them is
related.  Then a pipeline answers matching queries with the same answer and leaves them matching, however deep it hands
them on (`simulates_runWithin`), so that a resolver computes the same answer in both contexts (`compute_eq_of_matches`).
-/
namespace DynamicMembers

variable {N : String → String → Prop} {T : ClassInfo → ClassInfo → Prop}

/-- Two queries for related classes that otherwise differ in the spelling of their method name only. -/
structure Query.Matches (T : ClassInfo → ClassInfo → Prop) (q r : Query) : Prop where
  target : T q.target r.target
  methodKey : Name.methodKey q.methodName = Name.methodKey r.methodName
  held : q.held = r.held
  staticAllowed : q.staticAllowed = r.staticAllowed
  depth : q.depth = r.depth
  visited : q.visited = r.visited

namespace Query.Matches

variable {q r : Query}

theorem hold (h : q.Matches T r) (m : MethodReflection) : (q.hold m).Matches T (r.hold m) :=
  ⟨h.target, h.methodKey, rfl, h.staticAllowed, h.depth, h.visited⟩

theorem allowStatic (h : q.Matches T r) (allowed : Bool) :
    (q.allowStatic allowed).Matches T (r.allowStatic allowed) :=
  ⟨h.target, h.methodKey, h.held, by rw [Query.allowStatic, Query.allowStatic, h.staticAllowed], h.depth, h.visited⟩

theorem fork (h : q.Matches T r) {c d : ClassInfo} (hcd : T c d) (hkey : c.key = d.key) :
    (q.fork c).Matches T (r.fork d) :=
  ⟨hcd, h.methodKey, rfl, h.staticAllowed, by rw [Query.fork, Query.fork, h.depth],
    by rw [Query.fork, Query.fork, h.visited, hkey]⟩

theorem withVisited (h : q.Matches T r) (visited : List ClassKey) :
    ({ q with visited := visited }).Matches T { r with visited := visited } :=
  ⟨h.target, h.methodKey, h.held, h.staticAllowed, h.depth, rfl⟩

theorem merge (h : q.Matches T r) {forked forked' : Query} (hf : forked.Matches T forked') :
    (q.merge forked).Matches T (r.merge forked') := by
  unfold Query.merge
  rw [hf.held]
  cases forked'.held with
  | none => exact h
  | some m =>
    refine ⟨h.target, h.methodKey, rfl, ?_, h.depth, h.visited⟩
    simp only [h.staticAllowed, hf.staticAllowed]

theorem settle (h : q.Matches T r) : q.settle.1 = r.settle.1 ∧ q.settle.2.Matches T r.settle.2 := by
  unfold Query.settle
  rw [h.held]
  cases r.held with
  | none => exact ⟨rfl, h⟩
  | some m => exact ⟨rfl, h.hold m.forwarded⟩

end Query.Matches

/-! ## Actions -/

namespace QueryM

variable {α β : Type}

/-- Two actions that answer matching queries with the same answer and leave them matching. -/
def Simulates (T : ClassInfo → ClassInfo → Prop) (a b : QueryM α) : Prop :=
  ∀ q r : Query, q.Matches T r → (a.runOn q).1 = (b.runOn r).1 ∧ (a.runOn q).2.Matches T (b.runOn r).2

theorem simulates_pure (a : α) : Simulates T (pure a) (pure a) := fun _ _ h => ⟨rfl, h⟩

theorem Simulates.map {a b : QueryM α} (h : a.Simulates T b) (f : α → β) : (f <$> a).Simulates T (f <$> b) := by
  intro q r hqr
  obtain ⟨hanswer, hmatch⟩ := h q r hqr
  rw [runOn_map, runOn_map]
  exact ⟨congrArg (·.map f) hanswer, hmatch⟩

theorem Simulates.firstOf {a b a' b' : QueryM Flow} (ha : a.Simulates T a') (hb : b.Simulates T b') :
    (Strategy.firstOf a b).Simulates T (Strategy.firstOf a' b') := by
  intro q r hqr
  obtain ⟨hanswer, hmatch⟩ := ha q r hqr
  rw [Strategy.runOn_firstOf, Strategy.runOn_firstOf]
  generalize a.runOn q = o at hanswer hmatch
  generalize a'.runOn r = o' at hanswer hmatch
  obtain ⟨result, q'⟩ := o
  obtain ⟨result', r'⟩ := o'
  obtain rfl : result = result' := hanswer
  rcases result with e | _ | _
  · exact ⟨rfl, hmatch⟩
  · exact hb q' r' hmatch
  · exact ⟨rfl, hmatch⟩

theorem simulates_firstOfAll {acts acts' : List (QueryM Flow)} (h : List.Forall₂ (Simulates T) acts acts') :
    (Strategy.firstOfAll acts).Simulates T (Strategy.firstOfAll acts') := by
  induction h with
  | nil => exact simulates_pure Flow.pass
  | cons hact _ ih => exact hact.firstOf ih

end QueryM

/-! ## Contexts -/

/-- The registered ones of the named classes. -/
def QueryContext.known (x : QueryContext) (names : List String) : List String := names.filter x.index.knows

/-- Two contexts in which a run finds related things: each other's classes under related names, and of related classes
the same name, methods and permission, and registered targets of related names in the same order.  Whatever else is
named is passed over. -/
structure QueryContext.Matches (N : String → String → Prop) (T : ClassInfo → ClassInfo → Prop) (x y : QueryContext) :
    Prop where
  limit : x.settings.maxDepth = y.settings.maxDepth
  size : x.index.size = y.index.size
  find : ∀ {m n : String}, N m n → Option.Rel T (x.index.find? m) (y.index.find? n)
  own : ∀ {c d : ClassInfo}, T c d → N c.name d.name
  name : ∀ {c d : ClassInfo}, T c d → c.name = d.name
  native : ∀ {c d : ClassInfo} {m n : String}, T c d → Name.methodKey m = Name.methodKey n →
    x.index.nativeMethod c m = y.index.nativeMethod d n
  added : ∀ {c d : ClassInfo} {m n : String}, T c d → Name.methodKey m = Name.methodKey n →
    x.macroOf m c = y.macroOf n d
  concretes : ∀ {c d : ClassInfo}, T c d → List.Forall₂ N (x.known (x.concreteNames c)) (y.known (y.concreteNames d))
  roots : ∀ {c d : ClassInfo}, T c d → List.Forall₂ N (x.known (x.rootNames c)) (y.known (y.rootNames d))
  drivers : ∀ {c d : ClassInfo}, T c d → List.Forall₂ N (x.known (x.driverNames c)) (y.known (y.driverNames d))
  mixins : ∀ {c d : ClassInfo}, T c d → List.Forall₂ N (x.known c.mixins) (y.known d.mixins)
  permits : ∀ {c d : ClassInfo}, T c d →
    x.settings.alwaysStatic x.index c.name = y.settings.alwaysStatic y.index d.name

namespace QueryContext.Matches

variable {x y : QueryContext}

theorem key (h : x.Matches N T y) {c d : ClassInfo} (hcd : T c d) : c.key = d.key :=
  congrArg Name.classKey (h.name hcd)

theorem knows (h : x.Matches N T y) {m n : String} (hmn : N m n) : x.index.knows m = y.index.knows n := by
  have hfind := h.find hmn
  unfold ClassIndex.knows
  generalize x.index.find? m = found at hfind ⊢
  generalize y.index.find? n = found' at hfind ⊢
  cases hfind <;> rfl

end QueryContext.Matches

/-- Two ways to hand a query on that do the same to matching queries for related names; what they do for a name that is
not registered may depend on its spelling. -/
def Delegation.Simulates (N : String → String → Prop) (T : ClassInfo → ClassInfo → Prop) (x : QueryContext)
    (send send' : Delegation) : Prop :=
  ∀ (m n : String) (hint : Bool), N m n → x.index.knows m = true ∨ m = n → (send m hint).Simulates T (send' n hint)

/-- A strategy that does the same to matching queries in two contexts, given ways to hand them on that do. -/
def Strategy.Simulates (N : String → String → Prop) (T : ClassInfo → ClassInfo → Prop) (x y : QueryContext)
    (s : Strategy) : Prop :=
  ∀ send send' : Delegation, send.Simulates N T x send' → (s.handle x send).Simulates T (s.handle y send')

namespace Strategy

variable {x y : QueryContext} {send send' : Delegation}

theorem Simulates.orElse {a b : Strategy} (ha : a.Simulates N T x y) (hb : b.Simulates N T x y) :
    (a.orElse b).Simulates N T x y :=
  fun send send' hsend => (ha send send' hsend).firstOf (hb send send' hsend)

theorem simulates_delegate (h : x.Matches N T y) (hsend : send.Simulates N T x send') {m n : String} (hmn : N m n)
    (hint : Bool) : (delegate x send m hint).Simulates T (delegate y send' n hint) := by
  unfold delegate
  rw [← h.knows hmn]
  split
  · rename_i hknown
    exact (hsend m n hint hmn (.inl hknown)).map Flow.ofFound
  · exact QueryM.simulates_pure Flow.pass

/-- Naming classes that are not registered changes nothing. -/
theorem runOn_delegateAll_known (x : QueryContext) (send : Delegation) (hint : Bool) :
    ∀ (names : List String) (q : Query), (firstOfAll (names.map (delegate x send · hint))).runOn q =
      (firstOfAll ((x.known names).map (delegate x send · hint))).runOn q
  | [], _ => rfl
  | name :: names, q => by
    have ih := runOn_delegateAll_known x send hint names
    by_cases hknown : x.index.knows name = true
    · have hcons : x.known (name :: names) = name :: x.known names := List.filter_cons_of_pos hknown
      rw [hcons, List.map_cons, List.map_cons, firstOfAll, firstOfAll, runOn_firstOf, runOn_firstOf]
      simp only [ih]
    · have hcons : x.known (name :: names) = x.known names := List.filter_cons_of_neg hknown
      have hpass : (delegate x send name hint).runOn q = (.ok .pass, q) := by
        rw [delegate, if_neg hknown]
        rfl
      rw [hcons, List.map_cons, firstOfAll, runOn_firstOf, hpass]
      exact ih q

theorem simulates_delegateAll (h : x.Matches N T y) (hsend : send.Simulates N T x send') {ms ns : List String}
    (hnames : List.Forall₂ N (x.known ms) (y.known ns)) (hint : Bool) :
    (firstOfAll (ms.map (delegate x send · hint))).Simulates T (firstOfAll (ns.map (delegate y send' · hint))) := by
  intro q r hqr
  rw [runOn_delegateAll_known x, runOn_delegateAll_known y]
  refine QueryM.simulates_firstOfAll ?_ q r hqr
  rw [List.forall₂_map_left_iff, List.forall₂_map_right_iff]
  exact hnames.imp (fun _ _ hmn => simulates_delegate h hsend hmn hint)

/-- A strategy that only hands the query on, to classes of related names. -/
theorem simulates_of_runOn (h : x.Matches N T y) {s : Strategy} {hint : Bool} {f g : ClassInfo → List String}
    (hs : ∀ send q, (s.handle x send).runOn q = (firstOfAll ((f q.target).map (delegate x send · hint))).runOn q)
    (hs' : ∀ send q, (s.handle y send).runOn q = (firstOfAll ((g q.target).map (delegate y send · hint))).runOn q)
    (hnames : ∀ c d, T c d → List.Forall₂ N (x.known (f c)) (y.known (g d))) : s.Simulates N T x y := by
  intro send send' hsend q r hqr
  rw [hs, hs']
  exact simulates_delegateAll h hsend (hnames _ _ hqr.target) hint q r hqr

theorem simulates_delegation (h : x.Matches N T y) : delegation.Simulates N T x y :=
  (((simulates_of_runOn h (runOn_contracts x) (runOn_contracts y) (fun _ _ => h.concretes)).orElse
    (simulates_of_runOn h (runOn_facades x) (runOn_facades y) (fun _ _ => h.roots))).orElse
    (simulates_of_runOn h (runOn_managers x) (runOn_managers y) (fun _ _ => h.drivers))).orElse
    (simulates_of_runOn h (f := ClassInfo.mixins) (g := ClassInfo.mixins) (fun _ _ => rfl) (fun _ _ => rfl)
      (fun _ _ => h.mixins))

theorem simulates_searchOn (h : x.Matches N T y) {c d : ClassInfo} (hcd : T c d) :
    (Query.searchOn x c.name).Simulates T (Query.searchOn y d.name) := by
  intro q r hqr
  have hfind := h.find (h.own hcd)
  rw [Query.searchOn, Query.searchOn, QueryM.runOn_ofFunction, QueryM.runOn_ofFunction, ClassIndex.get, ClassIndex.get,
    h.name hcd]
  rw [h.name hcd] at hfind
  generalize x.index.find? d.name = found at hfind ⊢
  generalize y.index.find? d.name = found' at hfind ⊢
  cases hfind with
  | none => exact ⟨rfl, hqr⟩
  | some hfound =>
    simp only [h.native hfound hqr.methodKey]
    cases y.index.nativeMethod _ r.methodName with
    | some m => exact ⟨rfl, hqr.hold (.native m)⟩
    | none => exact ⟨rfl, hqr⟩

theorem simulates_selfClass (h : x.Matches N T y) : selfClass.Simulates N T x y := by
  intro send send' _ q r hqr
  simp only [selfClass, QueryM.runOn_get_bind]
  exact (simulates_searchOn h hqr.target).map Flow.ofFound q r hqr

theorem simulates_macros (h : x.Matches N T y) (types : TypeResolver) : (macros types).Simulates N T x y := by
  intro send send' _ q r hqr
  rw [runOn_macros, runOn_macros, h.added hqr.target hqr.methodKey]
  rcases y.macroOf r.methodName r.target with _ | ⟨owner, d⟩
  · exact ⟨rfl, hqr⟩
  · simp only
    cases types d.returnType with
    | error e => exact ⟨rfl, hqr⟩
    | ok t => exact ⟨rfl, (hqr.hold _).allowStatic true⟩

end Strategy

/-! ## Whole runs -/

/-- **Handing a query on does the same in matching contexts** when the runs of its fork do. -/
theorem Query.simulates_sendTo {x y : QueryContext} (h : x.Matches N T y) {run run' : QueryM Flow}
    (hrun : run.Simulates T run') : Delegation.Simulates N T x (Query.sendTo x run) (Query.sendTo y run') := by
  intro m n hint hmn hknown q r hqr
  have hfind := h.find hmn
  rw [ClassIndex.knows] at hknown
  rw [Query.sendTo, Query.sendTo, QueryM.runOn_ofFunction, QueryM.runOn_ofFunction, hqr.depth, h.limit, ClassIndex.get,
    ClassIndex.get]
  by_cases hdepth : y.settings.maxDepth ≤ r.depth
  · rw [if_pos hdepth, if_pos hdepth]
    exact ⟨rfl, hqr⟩
  · rw [if_neg hdepth, if_neg hdepth]
    generalize x.index.find? m = found at hfind hknown ⊢
    generalize y.index.find? n = found' at hfind ⊢
    cases hfind with
    | none =>
      -- the error tells the name that is not registered, so here the spelling would show
      obtain rfl : m = n := hknown.resolve_left (by decide)
      exact ⟨rfl, hqr⟩
    | @some c d hcd =>
      simp only [hqr.visited, hqr.staticAllowed, h.key hcd, h.permits hcd]
      by_cases hseen : d.key ∈ r.visited
      · rw [if_pos hseen, if_pos hseen]
        exact ⟨rfl, hqr⟩
      · rw [if_neg hseen, if_neg hseen]
        -- the forks start matching, so they answer alike and come back with the same classes visited
        have hasked := hqr.allowStatic (hint || (!r.staticAllowed && y.settings.alwaysStatic y.index d.name))
        obtain ⟨hanswer, hforked⟩ := hrun _ _ (hasked.fork hcd (h.key hcd))
        generalize run.runOn (Query.fork (q.allowStatic _) c) = o at hanswer hforked ⊢
        generalize run'.runOn (Query.fork (r.allowStatic _) d) = o' at hanswer hforked ⊢
        obtain ⟨result, forked⟩ := o
        obtain ⟨result', forked'⟩ := o'
        obtain rfl : result = result' := hanswer
        have hback := hasked.withVisited forked'.visited
        rw [hforked.visited]
        cases result with
        | error e => exact ⟨rfl, hback⟩
        | ok flow =>
          obtain ⟨hfound, hsettled⟩ := (hback.merge hforked).settle
          exact ⟨congrArg Except.ok hfound, hsettled⟩

namespace Pipeline

variable {x y : QueryContext}

theorem simulates_handle {p : Pipeline} (h : ∀ s ∈ p.strategies, s.Simulates N T x y) {send send' : Delegation}
    (hsend : send.Simulates N T x send') : (p.handle x send).Simulates T (p.handle y send') := by
  refine QueryM.simulates_firstOfAll ?_
  rw [List.forall₂_map_left_iff, List.forall₂_map_right_iff, List.forall₂_same]
  exact fun s hs => h s hs send send' hsend

/-- **A pipeline does the same to matching queries in matching contexts**, however deep it hands them on. -/
theorem simulates_runWithin (hxy : x.Matches N T y) {p : Pipeline} (h : ∀ s ∈ p.strategies, s.Simulates N T x y) :
    ∀ n : Nat, (p.runWithin x n).Simulates T (p.runWithin y n)
  -- by induction on how often a run may still hand the query on: each level hands it to the level below
  | 0 => simulates_handle h (fun _ _ _ _ _ => QueryM.simulates_pure false)
  | n + 1 => simulates_handle h (Query.simulates_sendTo hxy (simulates_runWithin hxy h n))

theorem simulates_standard (hxy : x.Matches N T y) (types : TypeResolver) :
    ∀ s ∈ (standard types).strategies, s.Simulates N T x y := by
  intro s hs
  simp only [standard, List.mem_cons, List.not_mem_nil, or_false] at hs
  rcases hs with rfl | rfl | rfl
  · exact Strategy.simulates_selfClass hxy
  · exact Strategy.simulates_macros hxy types
  · exact Strategy.simulates_delegation hxy

end Pipeline

/-- **A pipeline computes the same answer in matching contexts**, the permission of static calls and the error
included. -/
theorem MethodResolver.compute_eq_of_matches {x y : QueryContext} (hxy : x.Matches N T y) {p : Pipeline}
    (h : ∀ s ∈ p.strategies, s.Simulates N T x y) {c d : ClassInfo} (hcd : T c d) {m n : String}
    (hmn : Name.methodKey m = Name.methodKey n) : compute ⟨x, p⟩ c m = compute ⟨y, p⟩ d n := by
  have hstart : (Query.start c m).Matches T (Query.start d n) :=
    ⟨hcd, hmn, rfl, rfl, rfl, by rw [Query.start, Query.start, hxy.key hcd]⟩
  obtain ⟨hanswer, hmatch⟩ := Pipeline.simulates_runWithin hxy h (x.index.size + 1) _ _ hstart
  unfold compute Pipeline.send
  simp only [← hxy.size, hanswer, resolutionOf, hmatch.held, hmatch.staticAllowed]

end DynamicMembers
