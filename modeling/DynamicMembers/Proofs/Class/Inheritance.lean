import DynamicMembers.Proofs.Class.Ancestors
/-!
# Inheritance — which declaration of a method a class has

A walk meets every class at the end of the earliest path to it, in order of these paths, so a class has the declaration
at the end of the earliest path that leads to one (`nativeMethod_breadth_first`).
-/
namespace DynamicMembers
namespace ClassIndex

/-- The registered class at the end of a path up. -/
def climb (x : ClassIndex) (c : ClassInfo) : List Nat → Option ClassInfo
  | [] => some c
  | i :: path => c.supertypes[i]?.bind fun s => (x.find? s).bind fun d => climb x d path

variable {x : ClassIndex}

/-! ## Paths to registered classes -/

theorem climb_eq_nameAt (path : List Nat) : ∀ {name : String} {c : ClassInfo}, x.find? name = some c →
    x.climb c path = (x.nameAt name path).bind x.find? := by
  induction path with
  | nil => exact fun hc => hc.symm
  | cons i path ih =>
    intro name c hc
    rw [climb, nameAt, hc, Option.bind_some, Option.bind_assoc]
    refine congrArg _ (funext fun s => ?_)
    cases hd : x.find? s with
    | some d => exact ih hd
    | none =>
      -- nothing leads on from a name that is not registered, and itself it is no class
      cases path with
      | nil => exact hd.symm
      | cons j path => rw [nameAt, hd]; rfl

theorem exists_nameAt_of_climb {c : ClassInfo} (hc : x.find? c.name = some c) {path : List Nat} {d : ClassInfo}
    (hd : x.climb c path = some d) : ∃ s, x.nameAt c.name path = some s ∧ x.find? s = some d := by
  rwa [climb_eq_nameAt path hc, Option.bind_eq_some_iff] at hd

/-- A walk from a registered class meets every class at the end of the earliest path to it, in order of the paths. -/
theorem exists_climbs {c : ClassInfo} (hc : x.find? c.name = some c) : ∃ paths : List (List Nat × String),
    (paths.map Prod.fst).Pairwise Earlier ∧ paths.map Prod.snd = c.name :: x.ancestors c.name ∧
    (∀ e ∈ paths, x.find? e.2 = x.climb c e.1) ∧
    ∀ path d, x.climb c path = some d → ∃ e ∈ paths, x.climb c e.1 = some d ∧ NoLater e.1 path := by
  obtain ⟨paths, -, hsorted, hnames, hleads, hmeets⟩ := x.exists_paths c.name
  have hfinds : ∀ e ∈ paths, x.find? e.2 = x.climb c e.1 := fun e he => by
    rw [climb_eq_nameAt e.1 hc, hleads e he, Option.bind_some]
  refine ⟨paths, hsorted, hnames, hfinds, fun path d hd => ?_⟩
  obtain ⟨s, hs, hfind⟩ := exists_nameAt_of_climb hc hd
  obtain ⟨e, he, hkey, hle⟩ := hmeets path s hs
  refine ⟨e, he, ?_, hle⟩
  rwa [← hfinds e he, ClassIndex.find?, hkey]

/-- A path up has as many steps as its length. -/
theorem above_of_climb {c : ClassInfo} (hc : x.find? c.name = some c) {path : List Nat} {d : ClassInfo}
    (hd : x.climb c path = some d) : x.Above c.key path.length d.key ∧ x.classes.get? d.key = some d := by
  obtain ⟨s, hs, hfind⟩ := exists_nameAt_of_climb hc hd
  have hkey : d.key = Name.classKey s := key_of_find? hfind
  rw [hkey]
  exact ⟨x.above_of_nameAt c.name path s hs, hfind⟩

/-- Any number of steps up to a registered class are a path. -/
theorem exists_climb_of_above {c : ClassInfo} (hc : x.find? c.name = some c) {n : Nat} {k : ClassKey}
    (h : x.Above c.key n k) {d : ClassInfo} (hd : x.classes.get? k = some d) :
    ∃ path, path.length = n ∧ x.climb c path = some d := by
  obtain ⟨path, s, hlength, hs, rfl⟩ := x.exists_nameAt_of_above h
  refine ⟨path, hlength, ?_⟩
  rw [climb_eq_nameAt path hc, hs, Option.bind_some]
  exact hd

/-! ## The declaration of a method -/

/-- What is declared under the names of a class and its ancestors, the first of them counting. -/
theorem nativeMethod_eq_findSome? {c : ClassInfo} (hc : x.find? c.name = some c) (method : String) :
    x.nativeMethod c method =
      (c.name :: x.ancestors c.name).findSome? fun a => (x.find? a).bind (·.declaredMethod method) := by
  unfold nativeMethod
  rw [List.findSome?_cons, hc, Option.bind_some]
  cases c.declaredMethod method <;> rfl

/-- The declaration at the end of the earliest path that leads to one. -/
theorem nativeMethod_eq_some_iff {c : ClassInfo} (hc : x.find? c.name = some c) (method : String) (m : Method) :
    x.nativeMethod c method = some m ↔ ∃ path d, x.climb c path = some d ∧ d.declaredMethod method = some m ∧
      ∀ path' d', x.climb c path' = some d' → d'.declaredMethod method ≠ none → NoLater path path' := by
  obtain ⟨paths, hsorted, hnames, hleads, hmeets⟩ := exists_climbs hc
  have hlookup : ∀ e ∈ paths, ((x.find? e.2).bind (·.declaredMethod method)) =
      (x.climb c e.1).bind (·.declaredMethod method) := fun e he => by rw [hleads e he]
  rw [nativeMethod_eq_findSome? hc, ← hnames, List.findSome?_map, List.findSome?_eq_some_iff]
  constructor
  · rintro ⟨front, e, back, rfl, hfound, hfront⟩
    rw [Function.comp_apply, hlookup e (by simp), Option.bind_eq_some_iff] at hfound
    obtain ⟨d, hd, hm⟩ := hfound
    refine ⟨e.1, d, hd, hm, fun path' d' hd' hdeclares => ?_⟩
    obtain ⟨f, hf, hclimb, hle⟩ := hmeets path' d' hd'
    -- the walk finds nothing in front of the declaration, so it meets the other one there or behind
    rcases List.mem_append.1 hf with hf | hf
    · have hnone := hfront f hf
      rw [Function.comp_apply, hlookup f (List.mem_append_left _ hf), hclimb] at hnone
      exact absurd hnone hdeclares
    · rcases List.mem_cons.1 hf with rfl | hf
      · exact hle
      · exact NoLater.trans (.inr ((Earlier.of_split hsorted).2 f hf)) hle
  · rintro ⟨path, d, hd, hm, hleast⟩
    obtain ⟨e, he, hclimb, hle⟩ := hmeets path d hd
    obtain ⟨front, back, rfl⟩ := List.append_of_mem he
    refine ⟨front, e, back, rfl, ?_, fun f hf => ?_⟩
    · rw [Function.comp_apply, hlookup e he, hclimb]
      exact hm
    · have hearlier : Earlier f.1 e.1 := (Earlier.of_split hsorted).1 f hf
      by_contra hsome
      rw [Function.comp_apply, hlookup f (List.mem_append_left _ hf)] at hsome
      obtain ⟨m', hm'⟩ := Option.ne_none_iff_exists'.1 hsome
      obtain ⟨d', hd', hdeclares⟩ := Option.bind_eq_some_iff.1 hm'
      have hafter := hleast f.1 d' hd' (by rw [hdeclares]; exact Option.some_ne_none m')
      exact Earlier.irrefl path (hafter.trans_earlier (hle.earlier_trans hearlier))

/-- A class lacks a method when no path up leads to a declaration, and only then. -/
theorem nativeMethod_eq_none_iff {c : ClassInfo} (hc : x.find? c.name = some c) (method : String) :
    x.nativeMethod c method = none ↔ ∀ path d, x.climb c path = some d → d.declaredMethod method = none := by
  obtain ⟨paths, -, hnames, hleads, hmeets⟩ := exists_climbs hc
  rw [nativeMethod_eq_findSome? hc, ← hnames, List.findSome?_map, List.findSome?_eq_none_iff]
  constructor
  · intro hnone path d hd
    obtain ⟨e, he, hclimb, -⟩ := hmeets path d hd
    have hlookup := hnone e he
    rwa [Function.comp_apply, hleads e he, hclimb] at hlookup
  · intro hnone e he
    rw [Function.comp_apply, hleads e he]
    exact Option.bind_eq_none_iff.2 (hnone e.1)

theorem nativeMethod_of_declared {c : ClassInfo} {method : String} {m : Method} (h : c.declaredMethod method = some m) :
    x.nativeMethod c method = some m := by
  rw [nativeMethod, h]

/-- A class has a method when it or a registered class strictly above it declares one, itself registered or not. -/
theorem hasNativeMethod_iff (x : ClassIndex) (c : ClassInfo) (method : String) : x.hasNativeMethod c method = true ↔
    c.declaredMethod method ≠ none ∨
    ∃ k d, x.StrictlyAbove c.key k ∧ x.classes.get? k = some d ∧ d.declaredMethod method ≠ none := by
  rw [hasNativeMethod, nativeMethod]
  cases hown : c.declaredMethod method with
  | some m => simp
  | none =>
    have habove : ∀ k, x.StrictlyAbove c.key k ↔ ∃ a ∈ x.ancestors c.name, Name.classKey a = k := fun k => by
      rw [ClassInfo.key, ← x.key_mem_ancestors_iff, List.mem_map]
    rw [List.findSome?_isSome_iff]
    simp only [habove, ne_eq, not_true_eq_false, false_or]
    constructor
    · rintro ⟨a, ha, hsome⟩
      obtain ⟨m, hm⟩ := Option.isSome_iff_exists.1 hsome
      obtain ⟨d, hd, hdeclares⟩ := Option.bind_eq_some_iff.1 hm
      exact ⟨Name.classKey a, d, ⟨a, ha, rfl⟩, hd, by rw [hdeclares]; exact Option.some_ne_none m⟩
    · rintro ⟨_, d, ⟨a, ha, rfl⟩, hd, hdeclares⟩
      refine ⟨a, ha, ?_⟩
      rw [ClassIndex.find?, hd, Option.bind_some]
      exact Option.isSome_iff_ne_none.2 hdeclares

theorem nativeMethod_congr (x : ClassIndex) {m n : String} (h : Name.methodKey m = Name.methodKey n) (c : ClassInfo) :
    x.nativeMethod c m = x.nativeMethod c n := by
  have hdeclared : ∀ d : ClassInfo, d.declaredMethod m = d.declaredMethod n := fun d => congrArg d.methods.get? h
  unfold nativeMethod
  simp only [hdeclared]

/-- **A class has the declaration that comes first, breadth first.**  That is its own one when there is one; else the one
at the end of the earliest path up that leads to any, so at the least distance, and of those further to the left, the
parent standing left of the interfaces.  It has none exactly when no registered class that any number of steps up lead
to declares the method.  The case of the method name does not matter. -/
theorem nativeMethod_breadth_first {name : String} {c : ClassInfo} (hc : x.find? name = some c) (method : String) :
    (∀ m, c.declaredMethod method = some m → x.nativeMethod c method = some m) ∧
    (∀ m, x.nativeMethod c method = some m ↔ ∃ path d, x.climb c path = some d ∧ d.declaredMethod method = some m ∧
      ∀ path' d', x.climb c path' = some d' → d'.declaredMethod method ≠ none → NoLater path path') ∧
    (∀ m, x.nativeMethod c method = some m → ∃ n d, x.AtDistance c.key n d.key ∧ x.classes.get? d.key = some d ∧
      d.declaredMethod method = some m ∧ ∀ n' k d', x.Above c.key n' k → x.classes.get? k = some d' →
        d'.declaredMethod method ≠ none → n ≤ n') ∧
    (x.nativeMethod c method = none ↔
      ∀ n k d, x.Above c.key n k → x.classes.get? k = some d → d.declaredMethod method = none) ∧
    ∀ other, Text.lower other = Text.lower method → x.nativeMethod c other = x.nativeMethod c method := by
  have hown : x.find? c.name = some c := find?_own hc
  refine ⟨fun m => nativeMethod_of_declared, nativeMethod_eq_some_iff hown method, fun m hm => ?least, ?unknown,
    fun other hother => x.nativeMethod_congr hother c⟩
  case least =>
    obtain ⟨path, d, hclimb, hdeclares, hleast⟩ := (nativeMethod_eq_some_iff hown method m).1 hm
    obtain ⟨habove, hd⟩ := above_of_climb hown hclimb
    have hnearest : ∀ n' k d', x.Above c.key n' k → x.classes.get? k = some d' → d'.declaredMethod method ≠ none →
        path.length ≤ n' := by
      intro n' k d' habove' hd' hdeclares'
      obtain ⟨path', rfl, hclimb'⟩ := exists_climb_of_above hown habove' hd'
      exact (hleast path' d' hclimb' hdeclares').length_le
    refine ⟨path.length, d, ⟨habove, fun n' habove' => hnearest n' d.key d habove' hd ?_⟩, hd, hdeclares, hnearest⟩
    rw [hdeclares]
    exact Option.some_ne_none m
  case unknown =>
    rw [nativeMethod_eq_none_iff hown]
    constructor
    · intro hnone n k d habove hd
      obtain ⟨path, -, hclimb⟩ := exists_climb_of_above hown habove hd
      exact hnone path d hclimb
    · intro hnone path d hclimb
      obtain ⟨habove, hd⟩ := above_of_climb hown hclimb
      exact hnone path.length d.key d habove hd

/-- A cart is a basket, and a basket is a store, which claims to be a cart; both the cart's interface and the store can
count, and both the interface and the basket can sum. -/
def carts : ClassIndex := .ofList
  [{ name := "Cart", parent := some "Basket", interfaces := ["Countable", "Missing"] },
   ({ name := "Basket", parent := some "Store", interfaces := ["Listed"] } : ClassInfo).declaring
     { name := "sum", declaringClass := "Basket" },
   ({ name := "Countable", kind := .interface, interfaces := ["\\listed"] } : ClassInfo).declaring
     { name := "Count", declaringClass := "Countable" } |>.declaring { name := "sum", declaringClass := "Countable" },
   ({ name := "Store", parent := some "\\CART" } : ClassInfo).declaring { name := "count", declaringClass := "Store" },
   { name := "Listed", kind := .interface }]

theorem nativeMethod_breadth_first_carts : ∃ c, carts.find? "\\cart" = some c ∧
    (∃ path d, carts.climb c path = some d ∧
      d.declaredMethod "COUNT" = some { name := "Count", declaringClass := "Countable" } ∧
      ∀ path' d', carts.climb c path' = some d' → d'.declaredMethod "COUNT" ≠ none → NoLater path path') ∧
    (∃ path d, carts.climb c path = some d ∧
      d.declaredMethod "sum" = some { name := "sum", declaringClass := "Basket" } ∧
      ∀ path' d', carts.climb c path' = some d' → d'.declaredMethod "sum" ≠ none → NoLater path path') ∧
    ∀ n k d, carts.Above c.key n k → carts.classes.get? k = some d → d.declaredMethod "tax" = none := by
  obtain ⟨c, hc, hcount, hsum, htax⟩ : ∃ c, carts.find? "\\cart" = some c ∧
      carts.nativeMethod c "COUNT" = some { name := "Count", declaringClass := "Countable" } ∧
      carts.nativeMethod c "sum" = some { name := "sum", declaringClass := "Basket" } ∧
      carts.nativeMethod c "tax" = none :=
    ⟨(carts.find? "\\cart").get (by decide +kernel), Option.some_get _ |>.symm, by decide +kernel, by decide +kernel,
      by decide +kernel⟩
  exact ⟨c, hc, ((nativeMethod_breadth_first hc "COUNT").2.1 _).1 hcount,
    ((nativeMethod_breadth_first hc "sum").2.1 _).1 hsum, (nativeMethod_breadth_first hc "tax").2.2.2.1.1 htax⟩

end ClassIndex
end DynamicMembers
