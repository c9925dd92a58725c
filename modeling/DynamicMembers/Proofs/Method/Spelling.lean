import DynamicMembers.Proofs.Class.Inheritance
import DynamicMembers.Proofs.Method.Simulation
/-!
# Spellings of a method — a query does not see how its method name is spelt

Two queries that differ in the case of their method name only are `Alike`.  An action that treats alike queries alike is
`Insensitive`: it simulates itself, in one context and with classes related only to themselves.  Every strategy of the
standard pipeline is insensitive, and so is every run of it, so that a resolver computes one answer for all spellings of
a method (`compute_congr`).
-/
namespace DynamicMembers

theorem QueryContext.macroOf_congr (x : QueryContext) {m n : String} (h : Name.methodKey m = Name.methodKey n)
    (c : ClassInfo) : x.macroOf m c = x.macroOf n c := by
  simp only [QueryContext.macroOf, h]

/-- A context matches itself. -/
theorem QueryContext.matches_self (x : QueryContext) : x.Matches Eq Eq x where
  limit := rfl
  size := rfl
  find := by
    rintro m _ rfl
    cases x.index.find? m with
    | none => exact .none
    | some c => exact .some rfl
  own := congrArg ClassInfo.name
  name := congrArg ClassInfo.name
  native := by
    rintro c _ m n rfl h
    exact x.index.nativeMethod_congr h c
  added := by
    rintro c _ m n rfl h
    exact x.macroOf_congr h c
  concretes := by
    rintro c _ rfl
    exact List.forall₂_refl _
  roots := by
    rintro c _ rfl
    exact List.forall₂_refl _
  drivers := by
    rintro c _ rfl
    exact List.forall₂_refl _
  mixins := by
    rintro c _ rfl
    exact List.forall₂_refl _
  permits := by
    rintro c _ rfl
    rfl

/-- Two queries that differ in the spelling of their method name only. -/
structure Query.Alike (q r : Query) : Prop where
  target : q.target = r.target
  methodKey : Name.methodKey q.methodName = Name.methodKey r.methodName
  held : q.held = r.held
  staticAllowed : q.staticAllowed = r.staticAllowed
  depth : q.depth = r.depth
  visited : q.visited = r.visited

theorem Query.alike_iff {q r : Query} : q.Alike r ↔ q.Matches Eq r :=
  ⟨fun ⟨a, b, c, d, e, f⟩ => ⟨a, b, c, d, e, f⟩, fun ⟨a, b, c, d, e, f⟩ => ⟨a, b, c, d, e, f⟩⟩

/-- An action that answers alike queries with the same answer and leaves them alike. -/
def QueryM.Insensitive {α : Type} (act : QueryM α) : Prop :=
  ∀ q r : Query, q.Alike r → (act.runOn q).1 = (act.runOn r).1 ∧ (act.runOn q).2.Alike (act.runOn r).2

theorem QueryM.insensitive_iff {α : Type} {act : QueryM α} : act.Insensitive ↔ act.Simulates Eq act := by
  simp only [Insensitive, Simulates, Query.alike_iff]

/-- A way to hand a query on that treats alike queries alike. -/
def Delegation.Insensitive (send : Delegation) : Prop := ∀ target hint, (send target hint).Insensitive

/-- A strategy that treats alike queries alike when the way to hand them on does. -/
def Strategy.Insensitive (x : QueryContext) (s : Strategy) : Prop :=
  ∀ send : Delegation, send.Insensitive → (s.handle x send).Insensitive

variable {x : QueryContext}

theorem Delegation.insensitive_iff {send : Delegation} : send.Insensitive ↔ send.Simulates Eq Eq x send := by
  constructor
  · rintro h m _ hint rfl -
    exact QueryM.insensitive_iff.1 (h m hint)
  · exact fun h target hint => QueryM.insensitive_iff.2 (h target target hint rfl (.inr rfl))

theorem Strategy.Simulates.insensitive {s : Strategy} (h : s.Simulates Eq Eq x x) : s.Insensitive x :=
  fun send hsend => QueryM.insensitive_iff.2 (h send send (Delegation.insensitive_iff.1 hsend))

namespace Pipeline

variable {p : Pipeline}

/-- **A pipeline of insensitive strategies treats alike queries alike**, however deep it hands them on. -/
theorem insensitive_runWithin (h : ∀ s ∈ p.strategies, s.Insensitive x) : ∀ n : Nat, (p.runWithin x n).Insensitive := by
  have hhandle : ∀ send : Delegation, send.Insensitive → (p.handle x send).Insensitive := by
    intro send hsend
    refine QueryM.insensitive_iff.2 (QueryM.simulates_firstOfAll ?_)
    rw [List.forall₂_map_left_iff, List.forall₂_map_right_iff, List.forall₂_same]
    exact fun s hs => QueryM.insensitive_iff.1 (h s hs send hsend)
  -- by induction on how often a run may still hand the query on: each level hands it to the level below
  intro n
  induction n with
  | zero => exact hhandle _ (fun _ _ => QueryM.insensitive_iff.2 (QueryM.simulates_pure false))
  | succ n ih =>
    exact hhandle _ (Delegation.insensitive_iff.2
      (Query.simulates_sendTo x.matches_self (QueryM.insensitive_iff.1 ih)))

theorem insensitive_standard (types : TypeResolver) : ∀ s ∈ (standard types).strategies, s.Insensitive x :=
  fun s hs => (simulates_standard x.matches_self types s hs).insensitive

end Pipeline

namespace MethodResolver

/-- **All spellings of a method have one answer**, the permission of static calls and the error included. -/
theorem compute_congr {r : MethodResolver} (h : ∀ s ∈ r.pipeline.strategies, s.Insensitive r.context) {m n : String}
    (hmn : Name.methodKey m = Name.methodKey n) (c : ClassInfo) : r.compute c m = r.compute c n := by
  have hstart : (Query.start c m).Alike (Query.start c n) := ⟨rfl, hmn, rfl, rfl, rfl, rfl⟩
  obtain ⟨hanswer, halike⟩ := Pipeline.insensitive_runWithin h (r.context.index.size + 1) _ _ hstart
  unfold compute Pipeline.send
  simp only [hanswer, resolutionOf, halike.held, halike.staticAllowed]

end MethodResolver
end DynamicMembers
