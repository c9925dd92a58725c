import DynamicMembers.Proofs.Property.History
/-!
# Loading the schema — it is built once, and failed loads are not kept

A resolver loads its schema when a question first needs it.  A load that fails answers that question with its error and
leaves nothing behind, so the next question loads again.  A load that succeeds is the last one until a rebuild, and from
then on the resolver answers as a new one over that schema does (`schema_built_once`).
-/
namespace DynamicMembers

open Schema (Registry)

/-- What a call on a resolver of properties answers. -/
inductive PropertyAnswer where
  | existence (answer : Answer Bool)
  | property (answer : Answer ModelProperty)
  | outcome (answer : Answer PropertyLookup)
  | schema (answer : Answer Registry)
  | rebuilt

/-- The error that a call answers with, if any. -/
def PropertyAnswer.error? : PropertyAnswer → Option InferenceError
  | existence (.error e) | property (.error e) | outcome (.error e) | schema (.error e) => some e
  | _ => none

namespace PropertyState

variable {source : SchemaSource} {r : Registry} {n : Nat} {d : OrderedMap (ClassKey × String) TypePair}

theorem schema_loaded : schema source ⟨some r, n, d⟩ = (.ok r, ⟨some r, n, d⟩) := rfl

theorem schema_of_ok (hload : source n = .ok r) : schema source ⟨none, n, d⟩ = (.ok r, ⟨some r, n + 1, d⟩) := by
  simp only [schema, hload]

theorem schema_of_error {e : InferenceError} (hload : source n = .error e) :
    schema source ⟨none, n, d⟩ = (.error e, ⟨none, n + 1, d⟩) := by
  simp only [schema, hload]

end PropertyState

namespace PropertyRules

variable (rules : PropertyRules)

/-- The answer of a resolver to a call. -/
def answer (source : SchemaSource) (s : PropertyState) : PropertyCall → PropertyAnswer
  | .has c property => .existence (rules.hasProperty source s c property).1
  | .get c property => .property (rules.getProperty source s c property).1
  | .lookup c property => .outcome (rules.lookup source s c property).1
  | .schema => .schema (s.schema source).1
  | .rebuild => .rebuilt

def answers (source : SchemaSource) : PropertyState → List PropertyCall → List PropertyAnswer
  | _, [] => []
  | s, call :: calls => rules.answer source s call :: answers source (rules.perform source s call) calls

/-- A call asks something of the schema: about a property that nothing else claims, or for the identifier while nothing
is decided of it. -/
def needsSchema (s : PropertyState) : PropertyCall → Bool
  | .has c property | .lookup c property => rules.claimed c property = none
  | .get c property => property = idName ∧ s.decisions.get? (decisionKey c property) = none
  | .schema => true
  | .rebuild => false

variable {rules} {source : SchemaSource} {r : Registry} {n : Nat} {d : OrderedMap (ClassKey × String) TypePair}
  {call : PropertyCall}

/-! ## One call -/

theorem lookup_of_claimed {s : PropertyState} {c : ClassInfo} {property : String} {reason : NotApplicable}
    (h : rules.claimed c property = some reason) :
    rules.lookup source s c property = (.ok (.notApplicable reason), s) := by
  simp only [lookup, h]

theorem hasProperty_of_claimed {s : PropertyState} {c : ClassInfo} {property : String} {reason : NotApplicable}
    (h : rules.claimed c property = some reason) : rules.hasProperty source s c property = (.ok false, s) := by
  simp only [hasProperty, lookup_of_claimed h, PropertyLookup.found]

theorem lookup_of_unclaimed {c : ClassInfo} {property : String} (h : rules.claimed c property = none)
    (s : PropertyState) : rules.lookup source s c property =
      ((s.schema source).1.map (rules.lookupIn · c property), (s.schema source).2) := by
  unfold lookup
  rw [h]
  rcases s.schema source with ⟨_ | r, s'⟩ <;> rfl

/-- Once the schema is loaded, a call loads nothing: neither the source nor the number of loads matters to it. -/
theorem call_of_loaded (rules : PropertyRules) (hcall : call ≠ .rebuild) (source source' : SchemaSource) (r : Registry)
    (n m : Nat) (d : OrderedMap (ClassKey × String) TypePair) :
    rules.answer source ⟨some r, n, d⟩ call = rules.answer source' ⟨some r, m, d⟩ call ∧
    ∃ d', rules.perform source ⟨some r, n, d⟩ call = ⟨some r, n, d'⟩ ∧
      rules.perform source' ⟨some r, m, d⟩ call = ⟨some r, m, d'⟩ := by
  cases call with
  | has c property =>
    simp only [answer, perform]
    cases hc : rules.claimed c property with
    | some reason => simp [hasProperty_of_claimed hc]
    | none =>
      simp only [hasProperty, lookup_of_unclaimed hc, PropertyState.schema_loaded, Except.map]
      cases rules.lookupIn r c property <;> simp
  | get c property =>
    simp only [answer, perform, getProperty, PropertyState.schema_loaded]
    cases d.get? (decisionKey c property) with
    | some pair => simp
    | none =>
      by_cases hid : property = idName
      · cases r.column? c.tableName idName <;> simp [hid]
      · simp [hid]
  | lookup c property =>
    simp only [answer, perform]
    cases hc : rules.claimed c property with
    | some reason => simp [lookup_of_claimed hc]
    | none => simp [lookup_of_unclaimed hc, PropertyState.schema_loaded]
  | schema => exact ⟨rfl, d, rfl, rfl⟩
  | rebuild => exact absurd rfl hcall

/-- A call that asks nothing of the schema leaves a resolver that has decided nothing as it is. -/
theorem perform_of_not_needsSchema (hneeds : rules.needsSchema ⟨none, n, ∅⟩ call = false) (hcall : call ≠ .rebuild) :
    rules.perform source ⟨none, n, ∅⟩ call = ⟨none, n, ∅⟩ := by
  cases call with
  | has c property =>
    obtain ⟨reason, hreason⟩ := Option.ne_none_iff_exists'.1 (of_decide_eq_false hneeds)
    rw [perform, hasProperty_of_claimed hreason]
  | lookup c property =>
    obtain ⟨reason, hreason⟩ := Option.ne_none_iff_exists'.1 (of_decide_eq_false hneeds)
    rw [perform, lookup_of_claimed hreason]
  | get c property =>
    have hid : property ≠ idName := by simpa [needsSchema] using hneeds
    simp [perform, getProperty, hid]
  | schema => cases hneeds
  | rebuild => exact absurd rfl hcall

/-- **A failed load** is the answer, and nothing is kept of it. -/
theorem call_of_error {e : InferenceError} (hneeds : rules.needsSchema ⟨none, n, d⟩ call = true)
    (hload : source n = .error e) : (rules.answer source ⟨none, n, d⟩ call).error? = some e ∧
      rules.perform source ⟨none, n, d⟩ call = ⟨none, n + 1, d⟩ := by
  have hschema := PropertyState.schema_of_error (d := d) hload
  cases call with
  | has c property =>
    rw [answer, perform, hasProperty, lookup_of_unclaimed (of_decide_eq_true hneeds), hschema]
    exact ⟨rfl, rfl⟩
  | lookup c property =>
    rw [answer, perform, lookup_of_unclaimed (of_decide_eq_true hneeds), hschema]
    exact ⟨rfl, rfl⟩
  | get c property =>
    obtain ⟨rfl, hget⟩ := of_decide_eq_true hneeds
    simp [answer, perform, getProperty, hget, hschema, PropertyAnswer.error?]
  | schema =>
    rw [answer, perform, hschema]
    exact ⟨rfl, rfl⟩
  | rebuild => cases hneeds

/-- **A load that succeeds** makes the call one on a resolver that has the schema already. -/
theorem call_of_ok (hneeds : rules.needsSchema ⟨none, n, d⟩ call = true) (hload : source n = .ok r) :
    rules.answer source ⟨none, n, d⟩ call = rules.answer source ⟨some r, n + 1, d⟩ call ∧
      rules.perform source ⟨none, n, d⟩ call = rules.perform source ⟨some r, n + 1, d⟩ call := by
  have hschema := PropertyState.schema_of_ok (d := d) hload
  cases call with
  | has c property =>
    have hc : rules.claimed c property = none := of_decide_eq_true hneeds
    simp only [answer, perform, hasProperty, lookup_of_unclaimed hc, hschema, PropertyState.schema_loaded, and_self]
  | lookup c property =>
    have hc : rules.claimed c property = none := of_decide_eq_true hneeds
    simp only [answer, perform, lookup_of_unclaimed hc, hschema, PropertyState.schema_loaded, and_self]
  | get c property =>
    obtain ⟨rfl, hget⟩ := of_decide_eq_true hneeds
    simp only [answer, perform, getProperty, hget, hschema, PropertyState.schema_loaded, if_true, and_self]
  | schema => simp only [answer, perform, hschema, PropertyState.schema_loaded, and_self]
  | rebuild => cases hneeds

/-! ## Calls between two rebuilds -/

/-- What a call does while no schema is loaded: nothing, or a load that fails or one that succeeds.  After one that
succeeds the resolver is like a new one over that schema. -/
theorem call_of_unloaded (rules : PropertyRules) (hcall : call ≠ .rebuild) (source : SchemaSource) (n : Nat) :
    (rules.needsSchema ⟨none, n, ∅⟩ call = false ∧ rules.perform source ⟨none, n, ∅⟩ call = ⟨none, n, ∅⟩) ∨
    (rules.needsSchema ⟨none, n, ∅⟩ call = true ∧ ∃ e, source n = .error e ∧
      rules.perform source ⟨none, n, ∅⟩ call = ⟨none, n + 1, ∅⟩) ∨
    (rules.needsSchema ⟨none, n, ∅⟩ call = true ∧ ∃ r d, source n = .ok r ∧
      rules.perform source ⟨none, n, ∅⟩ call = ⟨some r, n + 1, d⟩ ∧
      rules.perform (.fixed r) {} call = ⟨some r, 1, d⟩ ∧
      rules.answer source ⟨none, n, ∅⟩ call = rules.answer (.fixed r) {} call) := by
  cases hneeds : rules.needsSchema ⟨none, n, ∅⟩ call with
  | false => exact .inl ⟨rfl, perform_of_not_needsSchema hneeds hcall⟩
  | true =>
    right
    cases hload : source n with
    | error e => exact .inl ⟨rfl, e, rfl, (call_of_error hneeds hload).2⟩
    | ok r =>
      -- the same call on a new resolver over that schema: the two differ in the number of loads only
      have hneeds' : rules.needsSchema ⟨none, 0, ∅⟩ call = true := hneeds
      have hload' : SchemaSource.fixed r 0 = .ok r := rfl
      obtain ⟨hanswer, hperform⟩ := call_of_ok hneeds hload
      obtain ⟨hanswer', hperform'⟩ := call_of_ok hneeds' hload'
      obtain ⟨hsame, d, hd, hd'⟩ := rules.call_of_loaded hcall source (.fixed r) r (n + 1) 1 ∅
      exact .inr ⟨rfl, r, d, rfl, hperform.trans hd, hperform'.trans hd', by rw [hanswer, hsame]; exact hanswer'.symm⟩

theorem after_concat (rules : PropertyRules) (source : SchemaSource) (calls : List PropertyCall) (call : PropertyCall) :
    rules.after source (calls ++ [call]) = rules.perform source (rules.after source calls) call := by
  rw [after, List.foldl_append, List.foldl_cons, List.foldl_nil, ← after]

/-- A resolver after any calls: while it has no schema, it has decided nothing. -/
theorem after_cases (rules : PropertyRules) (source : SchemaSource) (calls : List PropertyCall) :
    (∃ n, rules.after source calls = ⟨none, n, ∅⟩) ∨ ∃ r n d, rules.after source calls = ⟨some r, n, d⟩ := by
  induction calls using List.reverseRecOn with
  | nil => exact .inl ⟨0, rfl⟩
  | append_singleton calls call ih =>
    rw [after_concat]
    by_cases hcall : call = .rebuild
    · subst hcall
      exact .inl ⟨_, rfl⟩
    rcases ih with ⟨n, hn⟩ | ⟨r, n, d, hr⟩
    · rw [hn]
      rcases rules.call_of_unloaded hcall source n with ⟨-, h⟩ | ⟨-, e, -, h⟩ | ⟨-, r, d, -, h, -⟩
      · exact .inl ⟨_, h⟩
      · exact .inl ⟨_, h⟩
      · exact .inr ⟨r, _, d, h⟩
    · obtain ⟨-, d', hd', -⟩ := rules.call_of_loaded hcall source source r n n d
      rw [hr, hd']
      exact .inr ⟨r, n, d', rfl⟩

theorem after_rebuilt (rules : PropertyRules) (source : SchemaSource) {past : List PropertyCall}
    (hpast : past = [] ∨ ∃ earlier, past = earlier ++ [.rebuild]) :
    ∃ n, rules.after source past = ⟨none, n, ∅⟩ := by
  rcases hpast with rfl | ⟨earlier, rfl⟩
  · exact ⟨0, rfl⟩
  · exact ⟨_, rules.after_concat source earlier .rebuild⟩

/-- Calls without a rebuild keep a loaded schema and are answered from it alone. -/
theorem run_of_loaded (rules : PropertyRules) (source source' : SchemaSource) (r : Registry) (n m : Nat) :
    ∀ (calls : List PropertyCall) (d : OrderedMap (ClassKey × String) TypePair), .rebuild ∉ calls →
      rules.answers source ⟨some r, n, d⟩ calls = rules.answers source' ⟨some r, m, d⟩ calls ∧
      ∃ d', calls.foldl (rules.perform source) ⟨some r, n, d⟩ = ⟨some r, n, d'⟩
  | [], d, _ => ⟨rfl, d, rfl⟩
  | call :: calls, d, hcalls => by
    obtain ⟨hcall, hrest⟩ := List.ne_and_not_mem_of_not_mem_cons hcalls
    obtain ⟨hanswer, d', hd', hd''⟩ := rules.call_of_loaded hcall.symm source source' r n m d
    obtain ⟨hanswers, hrun⟩ := run_of_loaded rules source source' r n m calls d' hrest
    rw [answers, answers, List.foldl_cons, hanswer, hd', hd'', hanswers]
    exact ⟨rfl, hrun⟩

/-- **Between two rebuilds nothing is loaded after a load that succeeds**, and from the call that made it on, every
answer is that of a new resolver over the loaded schema. -/
theorem run_of_ok (rules : PropertyRules) (source : SchemaSource) {i : Nat} (hload : source i = .ok r) :
    ∀ (epoch : List PropertyCall) (n : Nat), .rebuild ∉ epoch → n ≤ i →
      i < (epoch.foldl (rules.perform source) ⟨none, n, ∅⟩).loads →
      (∃ d, epoch.foldl (rules.perform source) ⟨none, n, ∅⟩ = ⟨some r, i + 1, d⟩) ∧
      ∃ before call later, epoch = before ++ call :: later ∧
        before.foldl (rules.perform source) ⟨none, n, ∅⟩ = ⟨none, i, ∅⟩ ∧
        (rules.perform source ⟨none, i, ∅⟩ call).loads = i + 1 ∧
        rules.answers source ⟨none, i, ∅⟩ (call :: later) = rules.answers (.fixed r) {} (call :: later)
  | [], n, _, hn, hi => absurd hi (Nat.not_lt.2 hn)
  | call :: epoch, n, hepoch, hn, hi => by
    obtain ⟨hcall, hrest⟩ := List.ne_and_not_mem_of_not_mem_cons hepoch
    rw [List.foldl_cons] at hi ⊢
    rcases rules.call_of_unloaded hcall.symm source n with
      ⟨-, hsame⟩ | ⟨-, e, herror, hfailed⟩ | ⟨-, q, d, hok, hloaded, hloaded', hanswer⟩
    · rw [hsame] at hi ⊢
      obtain ⟨hend, before, next, later, rfl, hbefore, hnext⟩ := run_of_ok rules source hload epoch n hrest hn hi
      exact ⟨hend, call :: before, next, later, rfl, by rwa [List.foldl_cons, hsame], hnext⟩
    · -- the call made load `n`, which failed, so the load that succeeded came later
      have hne : n ≠ i := by
        rintro rfl
        rw [hload] at herror
        cases herror
      rw [hfailed] at hi ⊢
      obtain ⟨hend, before, next, later, rfl, hbefore, hnext⟩ :=
        run_of_ok rules source hload epoch (n + 1) hrest (Nat.lt_of_le_of_ne hn hne) hi
      exact ⟨hend, call :: before, next, later, rfl, by rwa [List.foldl_cons, hfailed], hnext⟩
    · -- nothing is loaded after the call, so the load that it made is the one that succeeded
      obtain ⟨hanswers, d', hrun⟩ := rules.run_of_loaded source (.fixed q) q (n + 1) 1 epoch d hrest
      rw [hloaded, hrun] at hi ⊢
      obtain rfl : n = i := Nat.le_antisymm hn (Nat.lt_succ_iff.1 hi)
      obtain rfl : q = r := Except.ok.inj (hok.symm.trans hload)
      refine ⟨⟨d', rfl⟩, [], call, epoch, rfl, rfl, by rw [hloaded], ?_⟩
      rw [answers, answers, hanswer, hloaded, hloaded', hanswers]

/-- A call loads exactly when it asks something of a schema that is not loaded. -/
theorem loads_perform (rules : PropertyRules) (source : SchemaSource) (calls : List PropertyCall)
    (call : PropertyCall) : let s := rules.after source calls
    (rules.perform source s call).loads =
      if s.registry = none ∧ rules.needsSchema s call = true then s.loads + 1 else s.loads := by
  intro s
  by_cases hcall : call = .rebuild
  · subst hcall
    exact (if_neg fun h => nomatch h.2).symm
  rcases rules.after_cases source calls with ⟨n, hn⟩ | ⟨r, n, d, hr⟩
  · rw [show s = ⟨none, n, ∅⟩ from hn]
    rcases rules.call_of_unloaded hcall source n with ⟨hneeds, h⟩ | ⟨hneeds, e, -, h⟩ | ⟨hneeds, r, d, -, h, -⟩
    · rw [h, if_neg (by simp [hneeds])]
    · rw [h, if_pos ⟨rfl, hneeds⟩]
    · rw [h, if_pos ⟨rfl, hneeds⟩]
  · obtain ⟨-, d', hd', -⟩ := rules.call_of_loaded hcall source source r n n d
    rw [show s = ⟨some r, n, d⟩ from hr, hd', if_neg (fun h => nomatch h.1)]

/-- **A load that fails leaves no trace.**  Its error is the answer, and all that changes is the number of loads, so the
next call that asks something of the schema loads again. -/
theorem perform_of_failed_load (rules : PropertyRules) (source : SchemaSource) (calls : List PropertyCall)
    (call : PropertyCall) {e : InferenceError} :
    let s := rules.after source calls
    let s' := rules.perform source s call
    s'.loads = s.loads + 1 → source s.loads = .error e →
      (rules.answer source s call).error? = some e ∧ s' = { s with loads := s.loads + 1 } ∧
      ∀ next, rules.needsSchema s' next = true → (rules.perform source s' next).loads = s'.loads + 1 := by
  intro s s' hloaded herror
  have hloads : s'.loads = _ := rules.loads_perform source calls call
  obtain ⟨hregistry, hneeds⟩ : s.registry = none ∧ rules.needsSchema s call = true := by
    by_contra hidle
    rw [if_neg hidle] at hloads
    exact Nat.succ_ne_self _ (hloaded.symm.trans hloads)
  obtain ⟨n, hn⟩ : ∃ n, s = ⟨none, n, ∅⟩ := by
    rcases rules.after_cases source calls with hnone | ⟨r, n, d, hr⟩
    · exact hnone
    · rw [show s = ⟨some r, n, d⟩ from hr] at hregistry
      cases hregistry
  have hfailed : (rules.answer source s call).error? = some e ∧ s' = { s with loads := s.loads + 1 } := by
    simp only [s', hn] at hneeds herror ⊢
    exact call_of_error hneeds herror
  refine ⟨hfailed.1, hfailed.2, fun next hnext => ?_⟩
  have hs' : rules.after source (calls ++ [call]) = s' := rules.after_concat source calls call
  have hnextLoads := rules.loads_perform source (calls ++ [call]) next
  simp only [hs'] at hnextLoads
  rw [hnextLoads, if_pos ⟨by rw [hfailed.2]; exact hregistry, hnext⟩]

/-- **The schema is built once, and failures are not kept.**  Between two rebuilds the first load that succeeds is the
last load, and from the call that made it on every answer is that of a new resolver over its schema.  A call loads
exactly when it asks something of a schema that is not loaded.  When that load fails, its error is the answer, schema
and decisions are as they were, and the next call that asks something of the schema loads again.  Whether a property
exists that something else claims, and what it looks up as, is answered without a load. -/
theorem schema_built_once (rules : PropertyRules) (source : SchemaSource) (past epoch : List PropertyCall)
    (hpast : past = [] ∨ ∃ earlier, past = earlier ++ [.rebuild]) (hepoch : .rebuild ∉ epoch) :
    let s := rules.after source (past ++ epoch)
    (∀ i r, (rules.after source past).loads ≤ i → i < s.loads → source i = .ok r →
      s.loads = i + 1 ∧ s.registry = some r ∧ ∃ before call later, epoch = before ++ call :: later ∧
        (rules.after source (past ++ before)).loads = i ∧
        (rules.after source (past ++ before ++ [call])).loads = i + 1 ∧
        rules.answers source (rules.after source (past ++ before)) (call :: later) =
          rules.answers (.fixed r) {} (call :: later)) ∧
    (∀ call, let s' := rules.perform source s call
      (s'.loads = if s.registry = none ∧ rules.needsSchema s call = true then s.loads + 1 else s.loads) ∧
      ∀ e, s'.loads = s.loads + 1 → source s.loads = .error e →
        (rules.answer source s call).error? = some e ∧ s' = { s with loads := s.loads + 1 } ∧
        ∀ next, rules.needsSchema s' next = true → (rules.perform source s' next).loads = s'.loads + 1) ∧
    ∀ c property reason, rules.claimed c property = some reason →
      rules.hasProperty source s c property = (.ok false, s) ∧
      rules.lookup source s c property = (.ok (.notApplicable reason), s) := by
  intro s
  refine ⟨fun i r hfirst hlast hload => ?_, fun call => ⟨rules.loads_perform source _ call, fun e =>
    rules.perform_of_failed_load source _ call⟩, fun c property reason hreason =>
    ⟨hasProperty_of_claimed hreason, lookup_of_claimed hreason⟩⟩
  obtain ⟨n, hn⟩ := rules.after_rebuilt source hpast
  have hafter : ∀ calls, rules.after source (past ++ calls) = calls.foldl (rules.perform source) ⟨none, n, ∅⟩ := by
    intro calls
    rw [after, List.foldl_append, ← after, hn]
  rw [hn] at hfirst
  rw [show s = _ from hafter epoch] at hlast ⊢
  obtain ⟨⟨d, hend⟩, before, call, later, hsplit, hbefore, hnext, hanswers⟩ :=
    rules.run_of_ok source hload epoch n hepoch hfirst hlast
  refine ⟨by rw [hend], by rw [hend], before, call, later, hsplit, ?_, ?_, ?_⟩
  · rw [hafter, hbefore]
  · rw [rules.after_concat, hafter, hbefore]
    exact hnext
  · rw [hafter, hbefore]
    exact hanswers

/-- Users without a record of their own, whose properties are the columns of the table that goes with their name. -/
def userRules : PropertyRules where
  index := .ofList [{ name := "Model" }, { name := "User", parent := some "Model" }, { name := "Guest" }]
  modelClass := "Model"
  dateClass := "Carbon"

def user : ClassInfo := { name := "User", parent := some "Model" }

def users : Registry := (∅ : Registry).insert
  { name := "users", columns := .ofList [("email", .ofStored "email" "string" false)] }

/-- Two loads that fail, and one that succeeds. -/
def thirdTime : SchemaSource := fun n => if n = 2 then .ok users else .error .json

/-- A load fails before a rebuild and one after it; the next question loads, the ones after that do not. -/
theorem schema_built_once_users :
    let past : List PropertyCall := [.schema, .rebuild]
    let epoch : List PropertyCall := [.has user "email", .get user "email", .lookup user "email", .get user "id",
      .has user "email", .get user "email", .schema]
    let s := userRules.after thirdTime past
    let s' := userRules.after thirdTime (past ++ epoch)
    (past = [] ∨ ∃ earlier, past = earlier ++ [.rebuild]) ∧ .rebuild ∉ epoch ∧
    s.loads ≤ 2 ∧ 2 < s'.loads ∧ thirdTime 2 = .ok users ∧ s'.loads = 3 ∧ s'.registry = some users ∧
    (userRules.perform thirdTime s (.has user "email")).loads = s.loads + 1 ∧ thirdTime s.loads = .error .json ∧
    userRules.perform thirdTime s (.has user "email") = { s with loads := s.loads + 1 } ∧
    userRules.claimed { name := "Guest" } "id" = some .notARecord ∧
    userRules.lookup thirdTime s { name := "Guest" } "id" = (.ok (.notApplicable .notARecord), s) := by
  intro past epoch s s'
  have hpast : past = [] ∨ ∃ earlier, past = earlier ++ [.rebuild] := .inr ⟨[.schema], rfl⟩
  have hepoch : .rebuild ∉ epoch := by simp [epoch]
  have hfirst : s.loads ≤ 2 := by decide +kernel
  have hlast : 2 < s'.loads := by decide +kernel
  have hload : thirdTime 2 = .ok users := rfl
  have hfails : (userRules.perform thirdTime s (.has user "email")).loads = s.loads + 1 := by decide +kernel
  have hguest : userRules.claimed { name := "Guest" } "id" = some .notARecord := by decide +kernel
  obtain ⟨hbuilt, -, -⟩ := schema_built_once userRules thirdTime past epoch hpast hepoch
  obtain ⟨-, hfailed, hclaimed⟩ := schema_built_once userRules thirdTime past [] hpast List.not_mem_nil
  obtain ⟨hloads, hregistry, -⟩ := hbuilt 2 users hfirst hlast hload
  exact ⟨hpast, hepoch, hfirst, hlast, hload, hloads, hregistry, hfails, rfl,
    ((hfailed (.has user "email")).2 .json hfails rfl).2.1, hguest, (hclaimed _ _ _ hguest).2⟩

end PropertyRules
end DynamicMembers
