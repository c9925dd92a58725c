import DynamicMembers.Proofs.Delegation.Graph
/-!
# Ways — how a search comes to the class that answers

A search that finds something leaves a way behind: the classes that it is still in, from the class asked to the one that
answers, and for each of them the delegations that it made, the last of which leads on.  What a failed delegation tried
further down is no part of the way.  A query has at most one way (`Way.unique`), and its classes are a chain of
delegations within the limit (`Way.chain`).
-/
namespace DynamicMembers

/-- A delegation that is made, not skipped. -/
structure Handoff where
  target : ClassInfo
  /-- It is the one of a facade to the class behind it. -/
  viaFacade : Bool
  deriving DecidableEq

/-- What a class on a way did: the delegations that it made in vain, in order, and the one that leads on. -/
structure Leg where
  source : ClassInfo
  vain : List Handoff
  onward : Handoff
  deriving DecidableEq

/-- The delegations of a leg, in order. -/
def Leg.made (leg : Leg) : List Handoff := leg.vain ++ [leg.onward]

namespace QueryContext

variable (x : QueryContext)

/-- The classes to which a class hands a query, by name and in order, each with whether a facade names it. -/
def referrals (c : ClassInfo) : List (String × Bool) :=
  (x.concreteNames c).map (·, false) ++ (x.rootNames c).map (·, true) ++ (x.driverNames c).map (·, false) ++
    c.mixins.map (·, false)

theorem map_fst_referrals (c : ClassInfo) : (x.referrals c).map Prod.fst = x.targetNames c := by
  simp [referrals, targetNames, Function.comp_def]

/-- A delegation to a name is made: the limit is not reached, and the class is known and not visited yet. -/
structure Enters (depth : Nat) (seen : List ClassKey) (name : String) (c : ClassInfo) : Prop where
  within : depth < x.settings.maxDepth
  known : x.index.find? name = some c
  fresh : c.key ∉ seen

variable (own : ClassInfo → Option (Answer MethodReflection))

/-- Handed to names in order, a query finds nothing: the delegations that are made, and the keys visited after them,
those further down included. -/
inductive InVain : Nat → List ClassKey → List (String × Bool) → List Handoff → List ClassKey → Prop
  | nil (depth : Nat) (seen : List ClassKey) : InVain depth seen [] [] seen
  | skip {depth : Nat} {seen seen' : List ClassKey} {name : String} {viaFacade : Bool} {rest : List (String × Bool)}
      {made : List Handoff} : (∀ c, ¬x.Enters depth seen name c) → InVain depth seen rest made seen' →
      InVain depth seen ((name, viaFacade) :: rest) made seen'
  | past {depth : Nat} {seen between seen' : List ClassKey} {name : String} {viaFacade : Bool}
      {rest : List (String × Bool)} {below made : List Handoff} {c : ClassInfo} : x.Enters depth seen name c →
      own c = none → InVain (depth + 1) (c.key :: seen) (x.referrals c) below between →
      InVain depth between rest made seen' →
      InVain depth seen ((name, viaFacade) :: rest) (⟨c, viaFacade⟩ :: made) seen'

/-- Handed to names in order, a query comes to a class that answers: the delegations made in vain, the one that leads
on, and what the classes on the way from there did. -/
inductive Leads : Nat → List ClassKey → List (String × Bool) → List Handoff → Handoff → List Leg → ClassInfo → Prop
  | here {depth : Nat} {seen : List ClassKey} {name : String} {viaFacade : Bool} {rest : List (String × Bool)}
      {c : ClassInfo} : x.Enters depth seen name c → own c ≠ none →
      Leads depth seen ((name, viaFacade) :: rest) [] ⟨c, viaFacade⟩ [] c
  | deeper {depth : Nat} {seen : List ClassKey} {name : String} {viaFacade : Bool} {rest : List (String × Bool)}
      {c e : ClassInfo} {vain : List Handoff} {onward : Handoff} {legs : List Leg} : x.Enters depth seen name c →
      own c = none → Leads (depth + 1) (c.key :: seen) (x.referrals c) vain onward legs e →
      Leads depth seen ((name, viaFacade) :: rest) [] ⟨c, viaFacade⟩ (⟨c, vain, onward⟩ :: legs) e
  | skip {depth : Nat} {seen : List ClassKey} {name : String} {viaFacade : Bool} {rest : List (String × Bool)}
      {vain : List Handoff} {onward : Handoff} {legs : List Leg} {e : ClassInfo} :
      (∀ c, ¬x.Enters depth seen name c) → Leads depth seen rest vain onward legs e →
      Leads depth seen ((name, viaFacade) :: rest) vain onward legs e
  | past {depth : Nat} {seen between : List ClassKey} {name : String} {viaFacade : Bool} {rest : List (String × Bool)}
      {below vain : List Handoff} {onward : Handoff} {legs : List Leg} {c e : ClassInfo} : x.Enters depth seen name c →
      own c = none → x.InVain own (depth + 1) (c.key :: seen) (x.referrals c) below between →
      Leads depth between rest vain onward legs e →
      Leads depth seen ((name, viaFacade) :: rest) (⟨c, viaFacade⟩ :: vain) onward legs e

/-- The way of a query from the class asked to the class that answers: none when the class answers by itself, or else
one leg for each class before the last. -/
inductive Way (c : ClassInfo) : List Leg → ClassInfo → Prop
  | here : own c ≠ none → Way c [] c
  | onward {vain : List Handoff} {onward : Handoff} {legs : List Leg} {e : ClassInfo} : own c = none →
      x.Leads own 0 [c.key] (x.referrals c) vain onward legs e → Way c (⟨c, vain, onward⟩ :: legs) e

variable {x own}

/-! ## One way at most -/

theorem Enters.unique {depth : Nat} {seen : List ClassKey} {name : String} {c d : ClassInfo}
    (hc : x.Enters depth seen name c) (hd : x.Enters depth seen name d) : c = d :=
  Option.some.inj (hc.known.symm.trans hd.known)

section Unique

variable {depth : Nat} {seen seen₁ seen₂ : List ClassKey} {names : List (String × Bool)} {made₁ made₂ : List Handoff}
  {vain vain₁ vain₂ : List Handoff} {onward onward₁ onward₂ : Handoff} {legs legs₁ legs₂ : List Leg}
  {c e e₁ e₂ : ClassInfo}

theorem InVain.unique (h₁ : x.InVain own depth seen names made₁ seen₁)
    (h₂ : x.InVain own depth seen names made₂ seen₂) :
    made₁ = made₂ ∧ seen₁ = seen₂ := by
  induction h₁ generalizing made₂ seen₂ with
  | nil depth seen => cases h₂; exact ⟨rfl, rfl⟩
  | skip hskip _ ih =>
    cases h₂ with
    | skip _ h₂ => exact ih h₂
    | past henters _ _ _ => exact (hskip _ henters).elim
  | past henters _ _ _ ihbelow ihrest =>
    cases h₂ with
    | skip hskip _ => exact (hskip _ henters).elim
    | past henters' _ hbelow hrest =>
      obtain rfl := henters.unique henters'
      obtain ⟨-, rfl⟩ := ihbelow hbelow
      obtain ⟨rfl, rfl⟩ := ihrest hrest
      exact ⟨rfl, rfl⟩

/-- What is searched in vain leads nowhere: at the name where the two part, one is without an answer and the other with
one. -/
theorem InVain.not_leads (h₁ : x.InVain own depth seen names made₁ seen₁)
    (h₂ : x.Leads own depth seen names vain onward legs e) : False := by
  induction h₁ generalizing vain onward legs e with
  | nil depth seen => cases h₂
  | skip hskip _ ih =>
    cases h₂ with
    | here henters _ => exact hskip _ henters
    | deeper henters _ _ => exact hskip _ henters
    | skip _ h₂ => exact ih h₂
    | past henters _ _ _ => exact hskip _ henters
  | past henters hown hvain _ ihbelow ihrest =>
    cases h₂ with
    | here henters' hsome =>
      obtain rfl := henters.unique henters'
      exact (hsome hown).elim
    | deeper henters' _ hleads =>
      obtain rfl := henters.unique henters'
      exact ihbelow hleads
    | skip hskip _ => exact hskip _ henters
    | past henters' _ hvain' hleads =>
      obtain rfl := henters.unique henters'
      obtain ⟨-, rfl⟩ := hvain.unique hvain'
      exact ihrest hleads

theorem Leads.unique (h₁ : x.Leads own depth seen names vain₁ onward₁ legs₁ e₁)
    (h₂ : x.Leads own depth seen names vain₂ onward₂ legs₂ e₂) :
    vain₁ = vain₂ ∧ onward₁ = onward₂ ∧ legs₁ = legs₂ ∧ e₁ = e₂ := by
  induction h₁ generalizing vain₂ onward₂ legs₂ e₂ with
  | here henters hsome =>
    cases h₂ with
    | here henters' _ =>
      obtain rfl := henters.unique henters'
      exact ⟨rfl, rfl, rfl, rfl⟩
    | deeper henters' hown _ | past henters' hown _ _ =>
      obtain rfl := henters.unique henters'
      exact (hsome hown).elim
    | skip hskip _ => exact (hskip _ henters).elim
  | deeper henters hown hleads ih =>
    cases h₂ with
    | here henters' hsome =>
      obtain rfl := henters.unique henters'
      exact (hsome hown).elim
    | deeper henters' _ h₂ =>
      obtain rfl := henters.unique henters'
      obtain ⟨rfl, rfl, rfl, rfl⟩ := ih h₂
      exact ⟨rfl, rfl, rfl, rfl⟩
    | skip hskip _ => exact (hskip _ henters).elim
    | past henters' _ hvain _ =>
      obtain rfl := henters.unique henters'
      exact (hvain.not_leads hleads).elim
  | skip hskip _ ih =>
    cases h₂ with
    | here henters _ | deeper henters _ _ | past henters _ _ _ => exact (hskip _ henters).elim
    | skip _ h₂ => exact ih h₂
  | past henters hown hvain _ ih =>
    cases h₂ with
    | here henters' hsome =>
      obtain rfl := henters.unique henters'
      exact (hsome hown).elim
    | deeper henters' _ hleads =>
      obtain rfl := henters.unique henters'
      exact (hvain.not_leads hleads).elim
    | skip hskip _ => exact (hskip _ henters).elim
    | past henters' _ hvain' h₂ =>
      obtain rfl := henters.unique henters'
      obtain ⟨-, rfl⟩ := hvain.unique hvain'
      obtain ⟨rfl, rfl, rfl, rfl⟩ := ih h₂
      exact ⟨rfl, rfl, rfl, rfl⟩

/-- **A query has one way at most.** -/
theorem Way.unique (h₁ : x.Way own c legs₁ e₁) (h₂ : x.Way own c legs₂ e₂) : legs₁ = legs₂ ∧ e₁ = e₂ := by
  cases h₁ with
  | here hsome =>
    cases h₂ with
    | here _ => exact ⟨rfl, rfl⟩
    | onward hown _ =>
      exact (hsome hown).elim
  | onward hown h₁ =>
    cases h₂ with
    | here hsome =>
      exact (hsome hown).elim
    | onward _ h₂ =>
      obtain ⟨rfl, rfl, rfl, rfl⟩ := h₁.unique h₂
      exact ⟨rfl, rfl⟩

end Unique

/-! ## The classes on the way -/

section Chains

variable {depth : Nat} {seen : List ClassKey} {names : List (String × Bool)} {vain : List Handoff} {onward : Handoff}
  {legs : List Leg} {c e : ClassInfo}

theorem Leads.chain (h : x.Leads own depth seen names vain onward legs e) :
    ∃ d, (∃ name ∈ names.map Prod.fst, x.index.find? name = some d) ∧ x.Chain d (legs.map Leg.source) e ∧
      depth + legs.length < x.settings.maxDepth := by
  induction h with
  | here henters _ =>
    exact ⟨_, ⟨_, List.mem_cons_self, henters.known⟩, .here _, henters.within⟩
  | deeper henters _ _ ih =>
    obtain ⟨d, ⟨name, hname, hd⟩, hchain, hdepth⟩ := ih
    rw [x.map_fst_referrals] at hname
    refine ⟨_, ⟨_, List.mem_cons_self, henters.known⟩, .step ⟨name, hname, hd⟩ hchain, ?_⟩
    rw [List.length_cons]
    omega
  | skip _ _ ih | past _ _ _ _ ih =>
    obtain ⟨d, ⟨name, hname, hd⟩, hchain, hdepth⟩ := ih
    exact ⟨d, ⟨name, List.mem_cons_of_mem _ hname, hd⟩, hchain, hdepth⟩

/-- **The classes on a way are a chain of delegations within the limit.** -/
theorem Way.chain (h : x.Way own c legs e) :
    x.Chain c (legs.map Leg.source) e ∧ legs.length ≤ x.settings.maxDepth := by
  cases h with
  | here _ => exact ⟨.here c, Nat.zero_le _⟩
  | onward _ hleads =>
    obtain ⟨d, ⟨name, hname, hd⟩, hchain, hdepth⟩ := hleads.chain
    rw [x.map_fst_referrals] at hname
    refine ⟨.step ⟨name, hname, hd⟩ hchain, ?_⟩
    rw [List.length_cons]
    omega

theorem Leads.targets (h : x.Leads own depth seen names vain onward legs e) :
    onward.target :: legs.map (·.onward.target) = legs.map Leg.source ++ [e] := by
  induction h with
  | here _ _ => rfl
  | deeper _ _ _ ih => rw [List.map_cons, List.map_cons, ih, List.cons_append]
  | skip _ _ ih | past _ _ _ _ ih => exact ih

/-- Each class on a way leads on to the next, and the last of them to the class that answers. -/
theorem Way.targets (h : x.Way own c legs e) :
    c :: legs.map (·.onward.target) = legs.map Leg.source ++ [e] := by
  cases h with
  | here _ => rfl
  | onward _ hleads => rw [List.map_cons, List.map_cons, hleads.targets, List.cons_append]

end Chains

end QueryContext
end DynamicMembers
