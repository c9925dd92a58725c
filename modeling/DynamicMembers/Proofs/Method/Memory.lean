import DynamicMembers.Proofs.Method.Spelling
/-!
# Remembered method answers — remembering changes no answer

A resolver remembers an answer under the keys of class and method, though it found it under one spelling.  What it
remembers is `Faithful`: it is what would be found afresh for every class and spelling that the keys stand for.  So any
sequence of calls is answered as if each were the first (`answers_of_faithful`).
-/
namespace DynamicMembers

/-- A call on a resolver of methods. -/
inductive MethodCall where
  | resolve (c : ClassInfo) (method : String)
  | has (c : ClassInfo) (method : String)
  | get (c : ClassInfo) (method : String)
  | clear

/-- What a call answers. -/
inductive MethodAnswer where
  | resolution (answer : Answer (Option MethodResolution))
  | existence (answer : Answer Bool)
  | reflection (answer : Answer MethodReflection)
  | cleared

/-- The class that a call asks about is one of an index. -/
def MethodCall.AsksIn (index : ClassIndex) : MethodCall → Prop
  | resolve c _ | has c _ | get c _ => ∃ name, index.find? name = some c
  | clear => True

namespace MethodResolver

/-- The answer to a call, and what is remembered afterwards. -/
def perform (r : MethodResolver) (memory : MethodMemory) : MethodCall → MethodAnswer × MethodMemory
  | .resolve c method => let (answer, memory) := r.resolve memory c method; (.resolution answer, memory)
  | .has c method => let (answer, memory) := r.hasMethod memory c method; (.existence answer, memory)
  | .get c method => let (answer, memory) := r.getMethod memory c method; (.reflection answer, memory)
  | .clear => (.cleared, ∅)

/-- The answers to calls made one after the other. -/
def answers (r : MethodResolver) : MethodMemory → List MethodCall → List MethodAnswer
  | _, [] => []
  | memory, call :: calls => (r.perform memory call).1 :: answers r (r.perform memory call).2 calls

/-- What is remembered after calls. -/
def memoryAfter (r : MethodResolver) (memory : MethodMemory) (calls : List MethodCall) : MethodMemory :=
  calls.foldl (fun memory call => (r.perform memory call).2) memory

variable {r : MethodResolver}

/-! ## What is remembered -/

/-- Everything remembered is what would be found afresh, for each registered class and each spelling of a method. -/
def Faithful (r : MethodResolver) (memory : MethodMemory) : Prop :=
  ∀ (name : String) (c : ClassInfo) (method : String) (answer : Option MethodResolution),
    r.context.index.find? name = some c → memory.get? (c.key, Name.methodKey method) = some answer →
      r.compute c method = .ok answer

theorem faithful_empty : r.Faithful ∅ := fun _ _ _ _ _ hget => nomatch hget

/-- **A faithful memory is asked in vain for anything but what would be found afresh.** -/
theorem fst_resolve {memory : MethodMemory} (hmemory : r.Faithful memory) {name : String} {c : ClassInfo}
    (hc : r.context.index.find? name = some c) (method : String) :
    (r.resolve memory c method).1 = r.compute c method := by
  unfold resolve
  simp only
  cases hget : memory.get? (c.key, Name.methodKey method) with
  | some answer => exact (hmemory name c method answer hc hget).symm
  | none => cases r.compute c method <;> rfl

/-- **Remembering one more answer keeps a memory faithful**: its keys stand for one class only, and for spellings that
have one answer. -/
theorem Faithful.resolve (hspelling : ∀ s ∈ r.pipeline.strategies, s.Insensitive r.context) {memory : MethodMemory}
    (hmemory : r.Faithful memory) {name : String} {c : ClassInfo} (hc : r.context.index.find? name = some c)
    (method : String) : r.Faithful (r.resolve memory c method).2 := by
  unfold MethodResolver.resolve
  simp only
  cases memory.get? (c.key, Name.methodKey method) with
  | some answer => exact hmemory
  | none =>
    cases hcompute : r.compute c method with
    | error e => exact hmemory
    | ok found =>
      intro name' d method' answer hd hget
      rw [OrderedMap.get?_insert] at hget
      -- the new entry speaks for every spelling of its class and method, not only for the one that was asked
      by_cases hkey : (c.key, Name.methodKey method) = (d.key, Name.methodKey method')
      · rw [if_pos hkey] at hget
        obtain ⟨hclass, hmethod⟩ := Prod.mk.inj hkey
        obtain rfl : c = d := ClassIndex.eq_of_key_eq hc hd hclass
        obtain rfl : found = answer := Option.some.inj hget
        rw [← compute_congr hspelling hmethod, hcompute]
      · rw [if_neg hkey] at hget
        exact hmemory name' d method' answer hd hget

/-- **Each call on a faithful memory is answered as on an empty one, and leaves a faithful memory.** -/
theorem perform_of_faithful (hspelling : ∀ s ∈ r.pipeline.strategies, s.Insensitive r.context) {memory : MethodMemory}
    (hmemory : r.Faithful memory) {call : MethodCall} (hcall : call.AsksIn r.context.index) :
    (r.perform memory call).1 = (r.perform ∅ call).1 ∧ r.Faithful (r.perform memory call).2 := by
  cases call with
  | clear => exact ⟨rfl, faithful_empty⟩
  | resolve c method | has c method | get c method =>
    obtain ⟨name, hc⟩ := hcall
    have hanswer : (r.resolve memory c method).1 = (r.resolve ∅ c method).1 := by
      rw [fst_resolve hmemory hc, fst_resolve faithful_empty hc]
    refine ⟨?_, hmemory.resolve hspelling hc method⟩
    simp only [perform, hasMethod, getMethod, hanswer]

theorem faithful_memoryAfter (hspelling : ∀ s ∈ r.pipeline.strategies, s.Insensitive r.context) :
    ∀ (calls : List MethodCall) {memory : MethodMemory}, r.Faithful memory →
      (∀ call ∈ calls, call.AsksIn r.context.index) → r.Faithful (r.memoryAfter memory calls)
  | [], _, hmemory, _ => hmemory
  | call :: calls, memory, hmemory, hcalls => by
    have hnext := (perform_of_faithful hspelling hmemory (hcalls call List.mem_cons_self)).2
    rw [memoryAfter, List.foldl_cons]
    exact faithful_memoryAfter hspelling calls hnext (fun d hd => hcalls d (List.mem_cons_of_mem call hd))

/-- **After any calls a query is answered as it would be afresh.** -/
theorem fst_resolve_after (hspelling : ∀ s ∈ r.pipeline.strategies, s.Insensitive r.context) {calls : List MethodCall}
    (hcalls : ∀ call ∈ calls, call.AsksIn r.context.index) {name : String} {c : ClassInfo}
    (hc : r.context.index.find? name = some c) (method : String) :
    (r.resolve (r.memoryAfter ∅ calls) c method).1 = r.compute c method :=
  fst_resolve (faithful_memoryAfter hspelling calls faithful_empty hcalls) hc method

theorem answers_of_faithful (hspelling : ∀ s ∈ r.pipeline.strategies, s.Insensitive r.context) :
    ∀ (calls : List MethodCall) {memory : MethodMemory}, r.Faithful memory →
      (∀ call ∈ calls, call.AsksIn r.context.index) →
      r.answers memory calls = calls.map fun call => (r.perform ∅ call).1
  | [], _, _, _ => rfl
  | call :: calls, memory, hmemory, hcalls => by
    obtain ⟨hanswer, hnext⟩ := perform_of_faithful hspelling hmemory (hcalls call List.mem_cons_self)
    rw [answers, List.map_cons, hanswer,
      answers_of_faithful hspelling calls hnext (fun d hd => hcalls d (List.mem_cons_of_mem call hd))]

end MethodResolver
end DynamicMembers
