import DynamicMembers.Proofs.Delegation.Run
import DynamicMembers.Proofs.Method.Memory
/-!
# Answers to method queries — the first class of the delegation graph that has the method

What a resolver answers, remembered or not, is what the search of the delegation graph finds.  With a limit of depth no
smaller than the number of classes that is the first of the depth-first pre-order; with a lower limit a method may be
missed although a short chain leads to it, exactly when the chain passes a class that was first met at the limit.
-/
namespace DynamicMembers
namespace QueryContext

variable (x : QueryContext) (types : TypeResolver)

/-! ## The first answer, by cases -/

theorem findSome?_pair (own : ClassInfo → Option (Answer MethodReflection)) (P : ClassInfo → Prop) :
    ∀ order : List ClassInfo, (∀ d ∈ order, P d) →
      (order.findSome? own = none ∧ (order.findSome? fun d => (own d).map (d, ·)) = none) ∨
      ∃ d answer, P d ∧ order.findSome? own = some answer ∧
        (order.findSome? fun d => (own d).map (d, ·)) = some (d, answer)
  | [], _ => Or.inl ⟨rfl, rfl⟩
  | d :: rest, h => by
    simp only [List.findSome?_cons]
    cases own d with
    | some answer => exact Or.inr ⟨d, answer, h d List.mem_cons_self, rfl, rfl⟩
    | none => exact findSome?_pair own P rest (fun b hb => h b (List.mem_cons_of_mem _ hb))

theorem firstAnswer_cons {method : String} {c : ClassInfo} {rest : List ClassInfo} (h : ∀ d ∈ rest, d.key ≠ c.key) :
    x.firstAnswer types method c (c :: rest) = match x.ownAnswer types method c with
      | some answer => answer.map some
      | none => match rest.findSome? (x.ownAnswer types method) with
        | none => .ok none
        | some answer => answer.map fun m => some m.forwarded := by
  unfold firstAnswer
  rw [List.findSome?_cons]
  cases x.ownAnswer types method c with
  | some answer => simp only [Option.map_some, if_pos]
  | none =>
    simp only [Option.map_none]
    rcases findSome?_pair (x.ownAnswer types method) (fun d => d.key ≠ c.key) rest h with
      ⟨h1, h2⟩ | ⟨d, answer, hd, h1, h2⟩
    · rw [h1, h2]
    · rw [h1, h2]
      simp only [if_neg hd]

/-- A class answers by itself exactly when it has the method. -/
theorem ownAnswer_isSome_iff (method : String) (c : ClassInfo) :
    (x.ownAnswer types method c).isSome ↔ x.Has method c := by
  unfold ownAnswer Has
  cases x.index.nativeMethod c method <;> simp

/-- A macro that is found stands in the settings, under a name of the class or of an ancestor. -/
theorem macro_of_macroOf {method owner : String} {c : ClassInfo} {d : MacroDefinition}
    (h : x.macroOf method c = some (owner, d)) :
    owner ∈ c.name :: x.index.ancestors c.name ∧ ∃ entry ∈ x.settings.macros.entries,
      d ∈ entry.2 ∧ Name.sameClass entry.1 owner = true ∧ Name.methodKey d.name = Name.methodKey method := by
  obtain ⟨o, howner, ho⟩ := List.exists_of_findSome?_eq_some h
  obtain ⟨d', hfind, hpair⟩ := Option.map_eq_some_iff.1 ho
  cases hpair
  have hmem := List.mem_of_find?_eq_some hfind
  have hname := List.find?_some hfind
  refine ⟨howner, ?_⟩
  unfold OrderedMap.forClass at hmem
  cases hentry : x.settings.macros.entries.find? (fun e => Name.sameClass e.1 owner) with
  | none => rw [hentry] at hmem; simp at hmem
  | some entry =>
    rw [hentry] at hmem
    have hclass := List.find?_some hentry
    exact ⟨entry, List.mem_of_find?_eq_some hentry, by simpa using hmem, hclass, by simpa using hname⟩

/-- What a class answers with by itself is its native method, or without one a macro. -/
theorem native_or_macro {method : String} {c : ClassInfo} {m : MethodReflection}
    (h : x.ownAnswer types method c = some (.ok m)) :
    (∃ info, x.index.nativeMethod c method = some info ∧ m = .native info) ∨
    x.index.nativeMethod c method = none ∧ ∃ owner d t, x.macroOf method c = some (owner, d) ∧
      types d.returnType = .ok t ∧ m = .added (d.toMethod owner t) := by
  unfold ownAnswer at h
  cases hnative : x.index.nativeMethod c method with
  | some info =>
    rw [hnative] at h
    cases h
    exact Or.inl ⟨info, rfl, rfl⟩
  | none =>
    rw [hnative] at h
    obtain ⟨⟨owner, d⟩, hmacro, hanswer⟩ := Option.map_eq_some_iff.1 h
    cases htype : types d.returnType with
    | error e =>
      simp only [htype] at hanswer
      cases hanswer
    | ok t =>
      simp only [htype] at hanswer
      cases hanswer
      exact Or.inr ⟨rfl, owner, d, t, hmacro, htype, rfl⟩

/-- A class fails by itself when it has no native method and the result type of its macro is refused. -/
theorem macro_of_refused {method : String} {c : ClassInfo} {e : InferenceError}
    (h : x.ownAnswer types method c = some (.error e)) :
    x.index.nativeMethod c method = none ∧
    ∃ owner d, x.macroOf method c = some (owner, d) ∧ types d.returnType = .error e := by
  unfold ownAnswer at h
  cases hnative : x.index.nativeMethod c method with
  | some info =>
    rw [hnative] at h
    cases h
  | none =>
    rw [hnative] at h
    obtain ⟨⟨owner, d⟩, hmacro, hanswer⟩ := Option.map_eq_some_iff.1 h
    cases htype : types d.returnType with
    | ok t =>
      simp only [htype] at hanswer
      cases hanswer
    | error e' =>
      simp only [htype] at hanswer
      cases hanswer
      exact ⟨rfl, owner, d, hmacro, htype⟩

/-- With macros whose result types can all be read, what a class answers by itself is a method. -/
theorem ownAnswer_ok (hmacros : ∀ e ∈ x.settings.macros.entries, ∀ d ∈ e.2, ∃ t, types d.returnType = .ok t)
    {method : String} {c : ClassInfo} {answer : Answer MethodReflection}
    (h : x.ownAnswer types method c = some answer) : ∃ m, answer = .ok m := by
  unfold ownAnswer at h
  split at h
  · cases h; exact ⟨_, rfl⟩
  · obtain ⟨⟨owner, d⟩, hd, rfl⟩ := Option.map_eq_some_iff.1 h
    obtain ⟨-, e, he, hde, -⟩ := x.macro_of_macroOf hd
    obtain ⟨t, ht⟩ := hmacros e he d hde
    simp only [ht]
    exact ⟨_, rfl⟩

/-- With such macros, an answer is found exactly when a class of the search has the method. -/
theorem firstAnswer_ok_iff (hmacros : ∀ e ∈ x.settings.macros.entries, ∀ d ∈ e.2, ∃ t, types d.returnType = .ok t)
    (method : String) (asked : ClassInfo) (order : List ClassInfo) :
    (∃ m, x.firstAnswer types method asked order = .ok (some m)) ↔ ∃ e ∈ order, x.Has method e := by
  simp only [← ownAnswer_isSome_iff x types]
  unfold firstAnswer
  cases hfind : order.findSome? fun d => (x.ownAnswer types method d).map (d, ·) with
  | none =>
    rw [List.findSome?_eq_none_iff] at hfind
    constructor
    · rintro ⟨m, hm⟩; cases hm
    · rintro ⟨e, he, hsome⟩
      rw [Option.map_eq_none_iff.1 (hfind e he)] at hsome
      cases hsome
  | some found =>
    obtain ⟨d, answer⟩ := found
    obtain ⟨e, he, hpair⟩ := List.exists_of_findSome?_eq_some hfind
    obtain ⟨a, ha, hda⟩ := Option.map_eq_some_iff.1 hpair
    cases hda
    obtain ⟨m, rfl⟩ := x.ownAnswer_ok types hmacros ha
    exact ⟨fun _ => ⟨d, he, by rw [ha]; rfl⟩, fun _ => ⟨_, rfl⟩⟩

end QueryContext

namespace Query

/-- What a settled query holds in the end, by cases. -/
theorem Settles.held_eq {own : ClassInfo → Option (Answer MethodReflection)} {q : Query} {order : List ClassInfo}
    {outcome : Answer Flow × Query} (h : q.Settles own order outcome) :
    outcome.1.map (fun _ => outcome.2.held) = match own q.target with
      | some answer => answer.map some
      | none => match order.findSome? own with
        | none => .ok none
        | some answer => answer.map fun m => some m.forwarded := by
  obtain ⟨result, q'⟩ := outcome
  unfold Settles at h
  split at h
  · rename_i hown
    rw [hown]
    unfold Finds at h
    split at h
    · rename_i horder
      obtain ⟨rfl, hpass⟩ := h
      rw [horder]
      exact congrArg Except.ok hpass.held
    · rename_i m horder
      obtain ⟨rfl, hheld⟩ := h
      rw [horder]
      exact congrArg Except.ok hheld
    · rename_i e horder
      simp only at h
      subst h
      rw [horder]
      rfl
  · rename_i m hown
    obtain ⟨rfl, hheld⟩ := h
    rw [hown]
    exact congrArg Except.ok hheld
  · rename_i e hown
    simp only at h
    subst h
    rw [hown]
    rfl

end Query

namespace MethodResolver

/-! ## What is computed, and what is remembered -/

theorem map_method_resolutionOf (q : Query) : (resolutionOf q).map MethodResolution.method = q.held := by
  unfold resolutionOf
  cases q.held <;> rfl

variable (index : ClassIndex) (settings : MethodSettings) (types : TypeResolver)

/-- **What the standard resolver computes is what the search from the class finds first.** -/
theorem compute_standard {c : ClassInfo} (hc : index.find? c.name = some c) (method : String) :
    ((standard index settings types).compute c method).map (Option.map MethodResolution.method) =
      QueryContext.firstAnswer ⟨index, settings⟩ types method c
        ((QueryContext.enteredFrom ⟨index, settings⟩ c).map Prod.snd) := by
  let x : QueryContext := ⟨index, settings⟩
  let q := Query.start c method
  have hkey : ∀ d ∈ x.sentTo q (x.targetNames c), d.key ≠ c.key := by
    intro d hd
    obtain ⟨e, he, rfl⟩ := List.mem_map.1 hd
    have := x.key_not_mem_of_mem_entered _ _ e he
    simpa [q, Query.start] using this
  have hentered : (x.enteredFrom c).map Prod.snd = c :: x.sentTo q (x.targetNames c) := by
    rw [x.enteredFrom_eq hc]; rfl
  have hsettles := Pipeline.settles_runWithin (x := x) types (index.size + 1) q rfl rfl hc
    (Nat.le_succ_of_le (ClassIndex.unseen_le_size index _))
  let outcome := ((Pipeline.standard types).runWithin x (index.size + 1)).runOn q
  have hcompute : (standard index settings types).compute c method =
      outcome.1.map fun _ => resolutionOf outcome.2 := rfl
  rw [hentered, x.firstAnswer_cons types hkey, hcompute]
  refine Eq.trans ?_ hsettles.held_eq
  change (outcome.1.map fun _ => resolutionOf outcome.2).map _ = outcome.1.map fun _ => outcome.2.held
  rcases outcome with ⟨_ | _, q'⟩
  · rfl
  · exact congrArg Except.ok (map_method_resolutionOf q')

/-- The memories that queries on registered classes build. -/
inductive Reached (r : MethodResolver) : MethodMemory → Prop
  | empty : Reached r ∅
  | resolve {memory : MethodMemory} {name : String} {c : ClassInfo} (method : String) : Reached r memory →
      r.context.index.find? name = some c → Reached r (r.resolve memory c method).2

theorem faithful_of_reached {memory : MethodMemory} (h : Reached (standard index settings types) memory) :
    (standard index settings types).Faithful memory := by
  induction h with
  | empty => exact faithful_empty
  | resolve method _ hc ih => exact ih.resolve (Pipeline.insensitive_standard types) hc method

/-- **Every answer is what the search from the class finds first**, whatever was asked before. -/
theorem resolve_standard {memory : MethodMemory} (hmemory : Reached (standard index settings types) memory)
    {name : String} {c : ClassInfo} (hc : index.find? name = some c) (method : String) :
    ((standard index settings types).resolve memory c method).1.map (Option.map MethodResolution.method) =
      QueryContext.firstAnswer ⟨index, settings⟩ types method c
        ((QueryContext.enteredFrom ⟨index, settings⟩ c).map Prod.snd) := by
  rw [fst_resolve (faithful_of_reached index settings types hmemory) hc,
    compute_standard index settings types (ClassIndex.find?_own hc)]

/-! ## The first class of the pre-order -/

/-- **With a limit of depth no smaller than the number of classes, the first class of the depth-first pre-order that has
the method answers**: with its native method, failing that with its macro, made static unless it is the class asked; a
macro whose result type is refused is the error of the query. -/
theorem resolve_eq_first_of_preorder (hlimit : index.size ≤ settings.maxDepth) {memory : MethodMemory}
    (hmemory : Reached (standard index settings types) memory) {name : String} {c : ClassInfo}
    (hc : index.find? name = some c) (method : String) :
    ((standard index settings types).resolve memory c method).1.map (Option.map MethodResolution.method) =
      QueryContext.firstAnswer ⟨index, settings⟩ types method c
        (QueryContext.preorder ⟨index, settings⟩ [] [c.name]) := by
  rw [resolve_standard index settings types hmemory hc, QueryContext.map_snd_enteredFrom _ hlimit]

/-- A contract bound to a facade, a facade in front of a manager, a manager with a driver that has a method, and a class
mixed into the driver, which leads back to the contract. -/
def mailIndex : ClassIndex := .ofList
  [{ name := "Gate", kind := .interface }, { name := "Facade" }, { name := "Desk", parent := some "Facade" },
   { name := "Manager" }, { name := "Mail", parent := some "Manager" },
   ClassInfo.declaring { name := "Post", mixins := ["Absent", "Box"] } { name := "close", declaringClass := "Post" },
   { name := "Box", mixins := ["Gate"] }]

/-- What leads from one class to the next, and a macro on the last. -/
def mailSettings : MethodSettings where
  facadeClass := "Facade"
  facades := .ofList [("\\desk", "Mail")]
  managerClass := "Manager"
  managers := .ofList [("Mail", "Post")]
  bindings := .ofList [("Gate", ["Desk"])]
  macros := .ofList [("Box", [{ name := "send", returnType := "int|null" }])]

def gate : ClassInfo := { name := "Gate", kind := .interface }

theorem resolve_eq_first_of_preorder_mail :
    mailIndex.size ≤ mailSettings.maxDepth ∧ mailIndex.find? "\\gate" = some gate ∧
    ((standard mailIndex mailSettings PhpDoc.resolve).resolve ∅ gate "SEND").1.map
        (Option.map MethodResolution.method) =
      QueryContext.firstAnswer ⟨mailIndex, mailSettings⟩ PhpDoc.resolve "SEND" gate
        (QueryContext.preorder ⟨mailIndex, mailSettings⟩ [] ["Gate"]) ∧
    ((standard mailIndex mailSettings PhpDoc.resolve).resolve ∅ gate "SEND").1.map
        (Option.map MethodResolution.method) =
      .ok (some (.added { name := "send", declaringClass := "Box", returnType := .union [.int, .null] })) ∧
    QueryContext.firstAnswer ⟨mailIndex, mailSettings⟩ PhpDoc.resolve "CLOSE" gate
        (QueryContext.preorder ⟨mailIndex, mailSettings⟩ [] ["Gate"]) =
      .ok (some (.staticForwarding (.native { name := "close", declaringClass := "Post" }))) := by
  have hlimit : mailIndex.size ≤ mailSettings.maxDepth := by decide
  have hc : mailIndex.find? "\\gate" = some gate := rfl
  have hfirst := resolve_eq_first_of_preorder mailIndex mailSettings PhpDoc.resolve hlimit .empty hc
  exact ⟨hlimit, hc, hfirst "SEND", by decide +kernel, (hfirst "CLOSE").symm.trans (by decide +kernel)⟩

/-! ## Under a lower limit -/

/-- **A method is found exactly when a chain within the limit leads to a class that has it and no class on the chain
before the last is first met at the limit itself**: such a class is searched, but what it delegates to is cut off, and
it is not searched again on a shorter way. -/
theorem resolve_ok_some_iff_exists_chain
    (hmacros : ∀ e ∈ settings.macros.entries, ∀ d ∈ e.2, ∃ t, types d.returnType = .ok t) {memory : MethodMemory}
    (hmemory : Reached (standard index settings types) memory) {name : String} {c : ClassInfo}
    (hc : index.find? name = some c) (method : String) :
    (∃ answer, ((standard index settings types).resolve memory c method).1 = .ok (some answer)) ↔
      ∃ before e, QueryContext.Chain ⟨index, settings⟩ c before e ∧ before.length ≤ settings.maxDepth ∧
        (∀ d ∈ before, (settings.maxDepth, d) ∉ QueryContext.enteredFrom ⟨index, settings⟩ c) ∧
        QueryContext.Has ⟨index, settings⟩ method e := by
  let x : QueryContext := ⟨index, settings⟩
  have hanswer := resolve_standard index settings types hmemory hc method
  have hsome : (∃ answer, ((standard index settings types).resolve memory c method).1 = .ok (some answer)) ↔
      ∃ m, x.firstAnswer types method c ((x.enteredFrom c).map Prod.snd) = .ok (some m) := by
    rw [← hanswer]
    rcases ((standard index settings types).resolve memory c method).1 with _ | _ | answer
    · exact ⟨fun ⟨_, h⟩ => (by cases h), fun ⟨_, h⟩ => (by cases h)⟩
    · exact ⟨fun ⟨_, h⟩ => (by cases h), fun ⟨_, h⟩ => (by cases h)⟩
    · exact ⟨fun _ => ⟨answer.method, rfl⟩, fun _ => ⟨answer, rfl⟩⟩
  rw [hsome, x.firstAnswer_ok_iff types hmacros]
  constructor
  · rintro ⟨e, he, hhas⟩
    obtain ⟨⟨depth, e'⟩, hm, rfl⟩ := List.mem_map.1 he
    obtain ⟨before, hchain, hlength, hcut⟩ := (x.exists_mem_enteredFrom_iff (ClassIndex.find?_own hc)).1 ⟨depth, hm⟩
    exact ⟨before, e', hchain, hlength, hcut, hhas⟩
  · rintro ⟨before, e, hchain, hlength, hcut, hhas⟩
    obtain ⟨depth, hm⟩ := (x.exists_mem_enteredFrom_iff (ClassIndex.find?_own hc)).2 ⟨before, hchain, hlength, hcut⟩
    exact ⟨e, List.mem_map.2 ⟨(depth, e), hm, rfl⟩, hhas⟩

/-- Four classes: `A` hands a query to `B` and `D`, `B` to `D`, and `D` to `E`, which has a method, and back to `A`. -/
def diamond : ClassIndex := .ofList
  [{ name := "A", mixins := ["B", "D"] }, { name := "B", mixins := ["D"] }, { name := "D", mixins := ["E", "A"] },
   (ClassInfo.ofName "E").declaring { name := "run", declaringClass := "E" }]

theorem resolve_ok_some_iff_exists_chain_diamond :
    diamond.find? "B" = some { name := "B", mixins := ["D"] } ∧
    ∃ before e, QueryContext.Chain ⟨diamond, { maxDepth := 2 }⟩ { name := "B", mixins := ["D"] } before e ∧
      before.length ≤ ({ maxDepth := 2 } : MethodSettings).maxDepth ∧
      (∀ d ∈ before, (({ maxDepth := 2 } : MethodSettings).maxDepth, d) ∉
        QueryContext.enteredFrom ⟨diamond, { maxDepth := 2 }⟩ { name := "B", mixins := ["D"] }) ∧
      QueryContext.Has ⟨diamond, { maxDepth := 2 }⟩ "run" e := by
  have hc : diamond.find? "B" = some { name := "B", mixins := ["D"] } := rfl
  have hfound :
      ((standard diamond { maxDepth := 2 } PhpDoc.resolve).resolve ∅ { name := "B", mixins := ["D"] } "run").1 =
      .ok (some ⟨.staticForwarding (.native { name := "run", declaringClass := "E" }), false⟩) := rfl
  have hmacros : ∀ e ∈ ({ maxDepth := 2 } : MethodSettings).macros.entries, ∀ d ∈ e.2,
      ∃ t, PhpDoc.resolve d.returnType = .ok t := fun e he => by cases he
  exact ⟨hc, (resolve_ok_some_iff_exists_chain diamond { maxDepth := 2 } PhpDoc.resolve hmacros .empty hc "run").1
    ⟨_, hfound⟩⟩

/-- A chain within the limit to a class that has the method is not enough: from `A` a search under the limit of two first
meets `D` behind `B`, at the limit, and so never gets from `D` to `E`. -/
theorem not_found_along_every_chain_within_limit :
    ¬ ∀ (index : ClassIndex) (settings : MethodSettings) (types : TypeResolver) (name : String) (c e : ClassInfo)
      (before : List ClassInfo) (method : String),
      (∀ e ∈ settings.macros.entries, ∀ d ∈ e.2, ∃ t, types d.returnType = .ok t) → index.find? name = some c →
      QueryContext.Chain ⟨index, settings⟩ c before e → before.length ≤ settings.maxDepth →
      QueryContext.Has ⟨index, settings⟩ method e →
      ∃ answer, ((standard index settings types).resolve ∅ c method).1 = .ok (some answer) := by
  intro h
  have hA : QueryContext.targetNames ⟨diamond, { maxDepth := 2 }⟩ { name := "A", mixins := ["B", "D"] } =
      ["B", "D"] := rfl
  have hD : QueryContext.targetNames ⟨diamond, { maxDepth := 2 }⟩ { name := "D", mixins := ["E", "A"] } =
      ["E", "A"] := rfl
  have hchain := QueryContext.Chain.step (x := ⟨diamond, { maxDepth := 2 }⟩)
    (c := { name := "A", mixins := ["B", "D"] }) ⟨"D", by rw [hA]; decide, rfl⟩
    (.step (c := { name := "D", mixins := ["E", "A"] }) ⟨"E", by rw [hD]; decide, rfl⟩ (.here _))
  have hnone :
      ((standard diamond { maxDepth := 2 } PhpDoc.resolve).resolve ∅ { name := "A", mixins := ["B", "D"] } "run").1 =
      .ok none := rfl
  obtain ⟨answer, hanswer⟩ :=
    h diamond { maxDepth := 2 } PhpDoc.resolve "A" _ _ _ "run" (fun e he => by cases he) rfl hchain
    (Nat.le_refl 2) (Or.inl rfl)
  rw [hnone] at hanswer
  cases hanswer

end MethodResolver
end DynamicMembers
