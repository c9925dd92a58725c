import DynamicMembers.Class.Hierarchy
import DynamicMembers.Proofs.Class.Index
import DynamicMembers.Proofs.Class.Paths
import Mathlib.Data.List.Forall2
import Mathlib.Data.List.Induction
import Mathlib.Data.List.Nodup
/-!
# Ancestors — a walk meets all that is above a class, nearest first

`Above` says what a number of steps up leads to, from a registered class to its parent or one of its interfaces.  A walk
ends, and it meets every name at the end of the earliest path to it, in order of these paths.  So its names are what is
above the class, each once, in order of distance (`ancestors_breadth_first`).
-/
namespace DynamicMembers
namespace ClassIndex

variable (x : ClassIndex)

/-- A step up leads from a registered class to one of its supertypes, registered or not. -/
def StepsUp (j k : ClassKey) : Prop := ∃ c, x.classes.get? j = some c ∧ ∃ s ∈ c.supertypes, Name.classKey s = k

/-- What a number of steps up leads to. -/
inductive Above (start : ClassKey) : Nat → ClassKey → Prop
  | start : Above start 0 start
  | step {n : Nat} {j k : ClassKey} : Above start n j → x.StepsUp j k → Above start (n + 1) k

/-- The least number of steps up that leads to a class. -/
def AtDistance (start : ClassKey) (n : Nat) (k : ClassKey) : Prop :=
  x.Above start n k ∧ ∀ m, x.Above start m k → n ≤ m

/-- Another class, registered or not, to which one or more steps up lead. -/
def StrictlyAbove (start k : ClassKey) : Prop := k ≠ start ∧ ∃ n, x.Above start (n + 1) k

end ClassIndex

namespace Walk

variable {x : ClassIndex}

/-! ## The walk ends -/

/-- How many classes may still be opened: those in the queue, and the registered ones that are not met. -/
def openings (x : ClassIndex) (w : Walk) : Nat := w.queue.length + x.unseen w.met

theorem openings_meet (w : Walk) (s : String) : (meet x w s).openings x ≤ w.openings x := by
  unfold meet
  by_cases hs : Name.classKey s ∈ w.met
  · exact Nat.le_of_eq (by rw [if_pos hs])
  · rw [if_neg hs]
    cases hc : x.find? s with
    | none =>
      have hle := x.unseen_cons_le (Name.classKey s) w.met
      simp only [openings, Option.toList_none, List.append_nil]
      omega
    | some c =>
      have hlt : x.unseen (c.key :: w.met) < x.unseen w.met :=
        ClassIndex.unseen_cons_lt hc (by rwa [ClassIndex.key_of_find? hc])
      rw [ClassIndex.key_of_find? hc] at hlt
      simp only [openings, Option.toList_some, List.length_append, List.length_singleton]
      omega

theorem openings_foldl_meet : ∀ (ss : List String) (w : Walk), (ss.foldl (meet x) w).openings x ≤ w.openings x
  | [], _ => Nat.le_refl _
  | s :: ss, w => Nat.le_trans (openings_foldl_meet ss (meet x w s)) (openings_meet w s)

theorem openings_advance {w : Walk} (h : w.queue ≠ []) : (advance x w).openings x < w.openings x := by
  unfold advance
  split
  · rename_i hq
    exact absurd hq h
  · rename_i c queue hq
    have hle := openings_foldl_meet (x := x) c.supertypes { w with queue := queue }
    simp only [openings, hq, List.length_cons] at hle ⊢
    omega

theorem run_of_queue_nil {w : Walk} (h : w.queue = []) : ∀ n, run x n w = w
  | 0 => rfl
  | n + 1 => by
    have hw : advance x w = w := by rw [advance, h]
    rw [run, hw, run_of_queue_nil h n]

/-- A walk that is given as many openings as it may need has none left to do. -/
theorem queue_run : ∀ (n : Nat) (w : Walk), w.openings x ≤ n → (run x n w).queue = []
  | 0, w, h => by
    have hlength : w.queue.length = 0 := by simp only [openings] at h; omega
    exact List.length_eq_zero_iff.1 hlength
  | n + 1, w, h => by
    by_cases hq : w.queue = []
    · rw [run_of_queue_nil hq, hq]
    · have hlt := openings_advance (x := x) hq
      exact queue_run n (advance x w) (by omega)

theorem openings_start (name : String) : (start x name).openings x ≤ x.size := by
  unfold start openings
  cases hc : x.find? name with
  | none =>
    have hle := x.unseen_le_size [Name.classKey name]
    simp only [Option.toList_none, List.length_nil]
    omega
  | some c =>
    have hlt : x.unseen [c.key] < x.unseen [] := ClassIndex.unseen_cons_lt hc List.not_mem_nil
    rw [ClassIndex.key_of_find? hc, ClassIndex.unseen_nil] at hlt
    simp only [Option.toList_some, List.length_singleton]
    omega

theorem run_add (m : Nat) : ∀ (n : Nat) (w : Walk), run x (n + m) w = run x m (run x n w)
  | 0, w => by rw [Nat.zero_add, run]
  | n + 1, w => by rw [Nat.succ_add, run, run_add m n, run]

/-- **The walk from a class ends**: after as many openings as there are classes nothing is left to open, and more
openings change nothing. -/
theorem run_start (name : String) {n : Nat} (h : x.size ≤ n) :
    (run x n (start x name)).queue = [] ∧ run x n (start x name) = run x x.size (start x name) := by
  have hq := queue_run x.size (start x name) (openings_start name)
  obtain ⟨m, rfl⟩ := Nat.exists_eq_add_of_le h
  rw [run_add, run_of_queue_nil hq]
  exact ⟨hq, rfl⟩

/-! ## What an opening meets -/

/-- The names of a list that are met for the first time. -/
def newNames (met : List ClassKey) : List String → List String
  | [] => []
  | s :: ss => if Name.classKey s ∈ met then newNames met ss else s :: newNames (Name.classKey s :: met) ss

theorem foldl_meet : ∀ (ss : List String) (w : Walk), ss.foldl (meet x) w =
    { met := ((newNames w.met ss).map Name.classKey).reverse ++ w.met,
      queue := w.queue ++ (newNames w.met ss).filterMap x.find?,
      found := w.found ++ newNames w.met ss }
  | [], w => by simp [newNames]
  | s :: ss, w => by
    rw [List.foldl_cons, foldl_meet ss]
    unfold meet
    by_cases hs : Name.classKey s ∈ w.met
    · simp only [newNames, hs, if_true]
    · simp only [newNames, hs, if_false]
      cases hc : x.find? s <;> simp [hc]

theorem key_not_mem_of_mem_newNames (met : List ClassKey) (ss : List String) :
    ∀ s ∈ newNames met ss, Name.classKey s ∉ met := by
  fun_induction newNames met ss with
  | case1 => intro s hs; cases hs
  | case2 met s ss h ih => exact ih
  | case3 met s ss h ih =>
    intro t ht
    rcases List.mem_cons.1 ht with rfl | ht
    · exact h
    · exact fun hm => ih t ht (List.mem_cons_of_mem _ hm)

theorem nodup_newNames (met : List ClassKey) (ss : List String) :
    ((newNames met ss).map Name.classKey).Nodup := by
  fun_induction newNames met ss with
  | case1 => exact List.nodup_nil
  | case2 met s ss h ih => exact ih
  | case3 met s ss h ih =>
    rw [List.map_cons, List.nodup_cons]
    refine ⟨fun hm => ?_, ih⟩
    obtain ⟨t, ht, hk⟩ := List.mem_map.1 hm
    exact key_not_mem_of_mem_newNames _ ss t ht (by rw [hk]; exact List.mem_cons_self)

/-- The names of a list that are met for the first time, with their positions from a number on. -/
def newPlaces (met : List ClassKey) : Nat → List String → List (Nat × String)
  | _, [] => []
  | i, s :: ss =>
    if Name.classKey s ∈ met then newPlaces met (i + 1) ss
    else (i, s) :: newPlaces (Name.classKey s :: met) (i + 1) ss

theorem map_snd_newPlaces (met : List ClassKey) (i : Nat) (ss : List String) :
    (newPlaces met i ss).map Prod.snd = newNames met ss := by
  fun_induction newPlaces met i ss with
  | case1 => rfl
  | case2 met i s ss h ih => rw [newNames, if_pos h, ih]
  | case3 met i s ss h ih => rw [newNames, if_neg h, List.map_cons, ih]

theorem getElem?_of_mem_newPlaces (met : List ClassKey) (i : Nat) (ss : List String) :
    ∀ e ∈ newPlaces met i ss, i ≤ e.1 ∧ ss[e.1 - i]? = some e.2 := by
  fun_induction newPlaces met i ss with
  | case1 => intro e he; cases he
  | case2 met i s ss h ih =>
    intro e he
    obtain ⟨hle, hget⟩ := ih e he
    exact ⟨by omega, by rw [show e.1 - i = e.1 - (i + 1) + 1 by omega, List.getElem?_cons_succ, hget]⟩
  | case3 met i s ss h ih =>
    intro e he
    rcases List.mem_cons.1 he with rfl | he
    · exact ⟨Nat.le_refl _, by rw [Nat.sub_self, List.getElem?_cons_zero]⟩
    · obtain ⟨hle, hget⟩ := ih e he
      exact ⟨by omega, by rw [show e.1 - i = e.1 - (i + 1) + 1 by omega, List.getElem?_cons_succ, hget]⟩

theorem pairwise_newPlaces (met : List ClassKey) (i : Nat) (ss : List String) :
    ((newPlaces met i ss).map Prod.fst).Pairwise (· < ·) := by
  fun_induction newPlaces met i ss with
  | case1 => exact List.Pairwise.nil
  | case2 met i s ss h ih => exact ih
  | case3 met i s ss h ih =>
    refine List.pairwise_cons.2 ⟨fun j hj => ?_, ih⟩
    obtain ⟨e, he, rfl⟩ := List.mem_map.1 hj
    exact (getElem?_of_mem_newPlaces _ _ ss e he).1

/-- Whatever stands at a position is met before, or new there or further to the left. -/
theorem mem_or_mem_newPlaces (met : List ClassKey) (i : Nat) (ss : List String) :
    ∀ j s, ss[j]? = some s → Name.classKey s ∈ met ∨
      ∃ e ∈ newPlaces met i ss, Name.classKey e.2 = Name.classKey s ∧ e.1 ≤ i + j := by
  fun_induction newPlaces met i ss with
  | case1 => intro j s hs; simp at hs
  | case2 met i t ss h ih =>
    intro j s hs
    cases j with
    | zero =>
      obtain rfl : t = s := Option.some.inj hs
      exact .inl h
    | succ j =>
      rcases ih j s hs with hm | ⟨e, he, hk, hle⟩
      · exact .inl hm
      · exact .inr ⟨e, he, hk, by omega⟩
  | case3 met i t ss h ih =>
    intro j s hs
    cases j with
    | zero =>
      obtain rfl : t = s := Option.some.inj hs
      exact .inr ⟨(i, t), List.mem_cons_self, rfl, Nat.le_refl _⟩
    | succ j =>
      rcases ih j s hs with hm | ⟨e, he, hk, hle⟩
      · rcases List.mem_cons.1 hm with hm | hm
        · exact .inr ⟨(i, t), List.mem_cons_self, hm.symm, Nat.le_add_right i (j + 1)⟩
        · exact .inl hm
      · exact .inr ⟨e, List.mem_cons_of_mem _ he, hk, by omega⟩

/-! ## The names of a walk with their paths -/

/-- A walk told by its names with the earliest paths to them, in order; those in front are done with: opened, when they
are registered. -/
structure Routed (x : ClassIndex) (name : String) (opened waiting : List (List Nat × String)) (w : Walk) : Prop where
  nodup : ((opened ++ waiting).map (Name.classKey ·.2)).Nodup
  sorted : ((opened ++ waiting).map Prod.fst).Pairwise Earlier
  leads : ∀ e ∈ opened ++ waiting, x.nameAt name e.1 = some e.2
  start : ([], name) ∈ opened ++ waiting
  met : ∀ k, k ∈ w.met ↔ k ∈ (opened ++ waiting).map (Name.classKey ·.2)
  found : name :: w.found = (opened ++ waiting).map Prod.snd
  queue : w.queue = waiting.filterMap (x.find? ·.2)
  /-- Each path but the first goes a step further than that of an opened name. -/
  extends_opened : ∀ e ∈ opened ++ waiting, e.1 = [] ∨ ∃ f ∈ opened, ∃ i, e.1 = f.1 ++ [i]
  /-- A step further than an opened name, there is nothing that an earlier path does not lead to. -/
  closed : ∀ e ∈ opened, ∀ c, x.find? e.2 = some c → ∀ i s, c.supertypes[i]? = some s →
    ∃ f ∈ opened ++ waiting, Name.classKey f.2 = Name.classKey s ∧ NoLater f.1 (e.1 ++ [i])

theorem routed_start (name : String) : Routed x name [] [([], name)] (start x name) where
  nodup := List.nodup_singleton _
  sorted := List.pairwise_singleton _ _
  leads e he := by
    obtain rfl := List.mem_singleton.1 he
    rfl
  start := List.mem_singleton.2 rfl
  met k := Iff.rfl
  found := rfl
  queue := by cases hc : x.find? name <;> simp [start, hc]
  extends_opened e he := by
    obtain rfl := List.mem_singleton.1 he
    exact .inl rfl
  closed e he := nomatch he

/-- A path is earlier than any that goes a step further than one waiting to be opened. -/
theorem Routed.earlier_concat {name : String} {opened before after : List (List Nat × String)}
    {opener : List Nat × String} {w : Walk} (h : Routed x name opened (before ++ opener :: after) w) (i : Nat) :
    ∀ e ∈ opened ++ (before ++ opener :: after), Earlier e.1 (opener.1 ++ [i]) := by
  intro e he
  rcases h.extends_opened e he with hnil | ⟨f, hf, j, hj⟩
  · rw [hnil]
    exact .nil_concat opener.1 i
  · -- the opened name that the path extends stands before the opener
    have hsorted := h.sorted
    rw [← List.append_assoc] at hsorted
    have hbefore : Earlier f.1 opener.1 := (Earlier.of_split hsorted).1 f (List.mem_append_left before hf)
    rw [hj]
    exact hbefore.concat j i

/-- **An opening keeps the paths**: the first registered name that waits is done with, and its new supertypes wait, each
at the end of the earliest path to it. -/
theorem Routed.advance {name : String} {opened waiting : List (List Nat × String)} {w : Walk}
    (h : Routed x name opened waiting w) {c : ClassInfo} {queue : List ClassInfo} (hq : w.queue = c :: queue) :
    ∃ opened' waiting', Routed x name opened' waiting' (Walk.advance x w) := by
  have hwaiting := h.queue
  rw [hq, eq_comm, List.filterMap_eq_cons_iff] at hwaiting
  obtain ⟨before, ⟨path, opener⟩, after, rfl, hbefore, hc, hafter⟩ := hwaiting
  let old := opened ++ (before ++ (path, opener) :: after)
  let new := (newPlaces w.met 0 c.supertypes).map fun e => (path ++ [e.1], e.2)
  have hsplit : opened ++ before ++ [(path, opener)] ++ (after ++ new) = old ++ new := by simp [old]
  have hopener : (path, opener) ∈ old := by simp [old]
  have hnames : new.map Prod.snd = newNames w.met c.supertypes := by
    rw [← map_snd_newPlaces w.met 0, List.map_map]
    rfl
  have hkeys : new.map (Name.classKey ·.2) = (newNames w.met c.supertypes).map Name.classKey := by
    simp only [← hnames, List.map_map, Function.comp_def]
  have hadvance : Walk.advance x w =
      { met := ((newNames w.met c.supertypes).map Name.classKey).reverse ++ w.met,
        queue := queue ++ (newNames w.met c.supertypes).filterMap x.find?,
        found := w.found ++ newNames w.met c.supertypes } := by
    rw [Walk.advance, hq]
    exact foldl_meet c.supertypes { w with queue := queue }
  refine ⟨opened ++ before ++ [(path, opener)], after ++ new, ?_⟩
  rw [hadvance]
  refine ⟨?nodup, ?sorted, ?leads, ?start, ?met, ?found, ?queue, ?extends_opened, ?closed⟩
  case nodup =>
    rw [hsplit, List.map_append, hkeys]
    refine List.Nodup.append h.nodup (nodup_newNames w.met c.supertypes) (fun k hk hnew => ?_)
    obtain ⟨s, hs, rfl⟩ := List.mem_map.1 hnew
    exact key_not_mem_of_mem_newNames w.met _ s hs ((h.met _).2 hk)
  case sorted =>
    rw [hsplit, List.map_append, List.pairwise_append]
    refine ⟨h.sorted, ?_, fun p hp q hq => ?_⟩
    · have hplaces := pairwise_newPlaces w.met 0 c.supertypes
      rw [List.pairwise_map] at hplaces
      rw [List.map_map, List.pairwise_map]
      exact hplaces.imp (fun hlt => .concat_of_lt path hlt)
    · obtain ⟨e, he, rfl⟩ := List.mem_map.1 hp
      obtain ⟨f, hf, rfl⟩ := List.mem_map.1 hq
      obtain ⟨g, -, rfl⟩ := List.mem_map.1 hf
      exact h.earlier_concat g.1 e he
  case leads =>
    rw [hsplit]
    intro e he
    rcases List.mem_append.1 he with he | he
    · exact h.leads e he
    · obtain ⟨g, hg, rfl⟩ := List.mem_map.1 he
      have hget := (getElem?_of_mem_newPlaces w.met 0 c.supertypes g hg).2
      rw [Nat.sub_zero] at hget
      rw [x.nameAt_concat, h.leads _ hopener, Option.bind_some, hc, Option.bind_some, hget]
  case start =>
    rw [hsplit]
    exact List.mem_append_left _ h.start
  case met =>
    intro k
    rw [hsplit, List.map_append, List.mem_append, List.mem_append, List.mem_reverse, h.met, ← hkeys]
    exact or_comm
  case found =>
    rw [hsplit, List.map_append, ← h.found, hnames, List.cons_append]
  case queue =>
    rw [List.filterMap_append, hafter, ← hnames, List.filterMap_map]
    rfl
  case extends_opened =>
    rw [hsplit]
    intro e he
    rcases List.mem_append.1 he with he | he
    · rcases h.extends_opened e he with hnil | ⟨f, hf, i, hi⟩
      · exact .inl hnil
      · exact .inr ⟨f, by simp [hf], i, hi⟩
    · obtain ⟨g, -, rfl⟩ := List.mem_map.1 he
      exact .inr ⟨(path, opener), by simp, g.1, rfl⟩
  case closed =>
    rw [hsplit]
    intro e he b hb i s hs
    rcases List.mem_append.1 he with he | he
    · rcases List.mem_append.1 he with he | he
      · obtain ⟨f, hf, hk, hle⟩ := h.closed e he b hb i s hs
        exact ⟨f, List.mem_append_left _ hf, hk, hle⟩
      · rw [hbefore e he] at hb
        cases hb
    · obtain rfl := List.mem_singleton.1 he
      rw [hc] at hb
      cases hb
      rcases mem_or_mem_newPlaces w.met 0 c.supertypes i s hs with hm | ⟨g, hg, hk, hle⟩
      · obtain ⟨f, hf, hk⟩ := List.mem_map.1 ((h.met _).1 hm)
        exact ⟨f, List.mem_append_left _ hf, hk, .inr (h.earlier_concat i f hf)⟩
      · exact ⟨(path ++ [g.1], g.2), List.mem_append_right _ (List.mem_map_of_mem hg), hk,
          .concat_of_le path (by omega)⟩

theorem Routed.run {name : String} : ∀ (n : Nat) {opened waiting : List (List Nat × String)} {w : Walk},
    Routed x name opened waiting w → ∃ opened' waiting', Routed x name opened' waiting' (Walk.run x n w)
  | 0, opened, waiting, _, h => ⟨opened, waiting, h⟩
  | n + 1, opened, waiting, w, h => by
    cases hq : w.queue with
    | nil => exact ⟨opened, waiting, by rwa [run_of_queue_nil hq]⟩
    | cons c queue =>
      obtain ⟨opened', waiting', h'⟩ := h.advance hq
      exact h'.run n

/-- When nothing waits to be opened, no path leads to a name that none of the paths, up to this one, leads to. -/
theorem Routed.exists_path {name : String} {opened waiting : List (List Nat × String)} {w : Walk}
    (h : Routed x name opened waiting w) (hq : w.queue = []) (path : List Nat) : ∀ s, x.nameAt name path = some s →
      ∃ e ∈ opened ++ waiting, Name.classKey e.2 = Name.classKey s ∧ NoLater e.1 path := by
  induction path using List.reverseRecOn with
  | nil =>
    intro s hs
    obtain rfl := Option.some.inj hs
    exact ⟨_, h.start, rfl, .inl rfl⟩
  | append_singleton path i ih =>
    intro s hs
    rw [x.nameAt_concat, Option.bind_eq_some_iff] at hs
    obtain ⟨t, ht, hs⟩ := hs
    obtain ⟨c, hc, hs⟩ := Option.bind_eq_some_iff.1 hs
    obtain ⟨e, he, hkey, hle⟩ := ih t ht
    have hec : x.find? e.2 = some c := by rwa [ClassIndex.find?, hkey]
    -- a registered name that still waits would stand in the queue
    have hopened : e ∈ opened := by
      refine (List.mem_append.1 he).resolve_right (fun hwaiting => ?_)
      have hnone := List.filterMap_eq_nil_iff.1 (h.queue.symm.trans hq) e hwaiting
      rw [hec] at hnone
      cases hnone
    obtain ⟨f, hf, hfar, hnear⟩ := h.closed e hopened c hec i s hs
    exact ⟨f, hf, hfar, hnear.trans (hle.concat i)⟩

end Walk

namespace ClassIndex

variable (x : ClassIndex)

/-! ## The ancestors of a class -/

/-- **A walk meets every name at the end of the earliest path to it, in order of the paths**, and no class twice. -/
theorem exists_paths (name : String) : ∃ paths : List (List Nat × String),
    (paths.map (Name.classKey ·.2)).Nodup ∧ (paths.map Prod.fst).Pairwise Earlier ∧
    paths.map Prod.snd = name :: x.ancestors name ∧ (∀ e ∈ paths, x.nameAt name e.1 = some e.2) ∧
    ∀ path s, x.nameAt name path = some s → ∃ e ∈ paths, Name.classKey e.2 = Name.classKey s ∧ NoLater e.1 path := by
  obtain ⟨opened, waiting, h⟩ := (Walk.routed_start name).run x.size
  have hq := (Walk.run_start (x := x) name (Nat.le_refl x.size)).1
  exact ⟨opened ++ waiting, h.nodup, h.sorted, h.found.symm, h.leads, h.exists_path hq⟩

/-- A path up has as many steps as its length. -/
theorem above_of_nameAt (name : String) (path : List Nat) :
    ∀ s, x.nameAt name path = some s → x.Above (Name.classKey name) path.length (Name.classKey s) := by
  induction path using List.reverseRecOn with
  | nil =>
    intro s hs
    obtain rfl := Option.some.inj hs
    exact .start
  | append_singleton path i ih =>
    intro s hs
    rw [x.nameAt_concat, Option.bind_eq_some_iff] at hs
    obtain ⟨t, ht, hs⟩ := hs
    obtain ⟨c, hc, hs⟩ := Option.bind_eq_some_iff.1 hs
    rw [List.length_append]
    exact (ih t ht).step ⟨c, hc, s, List.mem_of_getElem? hs, rfl⟩

/-- Any number of steps up are a path. -/
theorem exists_nameAt_of_above {name : String} {n : Nat} {k : ClassKey} (h : x.Above (Name.classKey name) n k) :
    ∃ path s, path.length = n ∧ x.nameAt name path = some s ∧ Name.classKey s = k := by
  induction h with
  | start => exact ⟨[], name, rfl, rfl, rfl⟩
  | @step n j k _ hstep ih =>
    obtain ⟨path, t, hlength, ht, rfl⟩ := ih
    obtain ⟨c, hc, s, hs, rfl⟩ := hstep
    obtain ⟨i, hi⟩ := List.mem_iff_getElem?.1 hs
    refine ⟨path ++ [i], s, by rw [List.length_append, hlength]; rfl, ?_, rfl⟩
    rw [x.nameAt_concat, ht, Option.bind_some, find?, hc, Option.bind_some, hi]

/-- Names with numbers of steps up that lead to them, in order of these numbers and no name twice. -/
structure Labelled (name : String) (labels : List (Nat × String)) : Prop where
  nodup : (labels.map (Name.classKey ·.2)).Nodup
  sorted : (labels.map Prod.fst).Pairwise (· ≤ ·)
  above : ∀ e ∈ labels, x.Above (Name.classKey name) e.1 (Name.classKey e.2)

/-- The names that a walk meets, the start first, have their distances from it as labels. -/
theorem exists_labels (name : String) : ∃ labels : List (Nat × String), x.Labelled name labels ∧
    labels.map Prod.snd = name :: x.ancestors name ∧
    ∀ n k, x.Above (Name.classKey name) n k → ∃ e ∈ labels, Name.classKey e.2 = k ∧ e.1 ≤ n := by
  obtain ⟨paths, hnodup, hsorted, hnames, hleads, hmeets⟩ := x.exists_paths name
  refine ⟨paths.map fun e => (e.1.length, e.2), ⟨?nodup, ?sorted, ?above⟩, ?names, ?meets⟩
  case nodup =>
    rw [List.map_map]
    exact hnodup
  case sorted =>
    rw [List.map_map, List.pairwise_map]
    exact (List.pairwise_map.1 hsorted).imp (fun hearlier => NoLater.length_le (.inr hearlier))
  case above =>
    intro e he
    obtain ⟨f, hf, rfl⟩ := List.mem_map.1 he
    exact x.above_of_nameAt name f.1 f.2 (hleads f hf)
  case names =>
    rw [List.map_map]
    exact hnames
  case meets =>
    intro n k habove
    obtain ⟨path, s, rfl, hs, rfl⟩ := x.exists_nameAt_of_above habove
    obtain ⟨e, he, hkey, hle⟩ := hmeets path s hs
    exact ⟨(e.1.length, e.2), List.mem_map_of_mem he, hkey, hle.length_le⟩

theorem atDistance_of_mem {name : String} {labels : List (Nat × String)} (h : x.Labelled name labels)
    (hleast : ∀ n k, x.Above (Name.classKey name) n k → ∃ e ∈ labels, Name.classKey e.2 = k ∧ e.1 ≤ n)
    {e : Nat × String} (he : e ∈ labels) : x.AtDistance (Name.classKey name) e.1 (Name.classKey e.2) := by
  refine ⟨h.above e he, fun m hm => ?_⟩
  obtain ⟨f, hf, hk, hle⟩ := hleast m _ hm
  obtain rfl : f = e := List.inj_on_of_nodup_map h.nodup hf he hk
  exact hle

theorem above_succ_of_ne {start k : ClassKey} {n : Nat} (h : x.Above start n k) (hk : k ≠ start) :
    ∃ m, x.Above start (m + 1) k := by
  cases n with
  | zero =>
    cases h
    exact absurd rfl hk
  | succ m => exact ⟨m, h⟩

/-- The ancestors of a class are the classes strictly above it. -/
theorem key_mem_ancestors_iff (name : String) (k : ClassKey) :
    k ∈ (x.ancestors name).map Name.classKey ↔ x.StrictlyAbove (Name.classKey name) k := by
  obtain ⟨labels, h, hnames, hleast⟩ := x.exists_labels name
  obtain ⟨⟨d, start⟩, rest, rfl, hstart, hrest⟩ := List.map_eq_cons_iff.1 hnames
  obtain rfl : start = name := hstart
  have hkeys : rest.map (Name.classKey ·.2) = (x.ancestors start).map Name.classKey := by
    rw [← hrest, List.map_map]
    rfl
  have hnew : Name.classKey start ∉ rest.map (Name.classKey ·.2) := (List.nodup_cons.1 h.nodup).1
  rw [← hkeys]
  constructor
  · intro hk
    have hne : k ≠ Name.classKey start := by
      rintro rfl
      exact hnew hk
    obtain ⟨e, he, rfl⟩ := List.mem_map.1 hk
    exact ⟨hne, x.above_succ_of_ne (h.above e (List.mem_cons_of_mem _ he)) hne⟩
  · rintro ⟨hne, n, hk⟩
    obtain ⟨e, he, rfl, -⟩ := hleast (n + 1) k hk
    rcases List.mem_cons.1 he with rfl | he
    · exact absurd rfl hne
    · exact List.mem_map_of_mem he

theorem isSubclass_iff (cls ancestor : String) :
    x.isSubclass cls ancestor = true ↔ x.StrictlyAbove (Name.classKey cls) (Name.classKey ancestor) := by
  rw [isSubclass, List.any_eq_true, ← x.key_mem_ancestors_iff, List.mem_map]
  exact exists_congr (fun a => and_congr_right (fun _ => Name.sameClass_iff))

/-- **The ancestors of a class are all that is above it, nearest first.**  The walk ends; no two of its names denote one
class; they denote exactly the classes, registered or not, to which one or more steps up lead, without the class itself;
and their distances do not fall along the walk.  So a class is a subclass of exactly the others that are above it. -/
theorem ancestors_breadth_first (name : String) :
    (∀ n, x.size ≤ n → (Walk.run x n (Walk.start x name)).queue = [] ∧
      (Walk.run x n (Walk.start x name)).found = x.ancestors name) ∧
    ((x.ancestors name).map Name.classKey).Nodup ∧
    (∀ k, k ∈ (x.ancestors name).map Name.classKey ↔
      k ≠ Name.classKey name ∧ ∃ n, x.Above (Name.classKey name) (n + 1) k) ∧
    (∃ distances : List Nat, distances.Pairwise (· ≤ ·) ∧
      List.Forall₂ (fun a d => x.AtDistance (Name.classKey name) d (Name.classKey a)) (x.ancestors name) distances) ∧
    ∀ ancestor, x.isSubclass name ancestor = true ↔ Name.classKey ancestor ≠ Name.classKey name ∧
      ∃ n, x.Above (Name.classKey name) (n + 1) (Name.classKey ancestor) := by
  obtain ⟨labels, h, hnames, hleast⟩ := x.exists_labels name
  obtain ⟨⟨d, start⟩, rest, rfl, hstart, hrest⟩ := List.map_eq_cons_iff.1 hnames
  obtain rfl : start = name := hstart
  have hnodup : ((x.ancestors start).map Name.classKey).Nodup := by
    rw [← hrest, List.map_map]
    exact (List.nodup_cons.1 h.nodup).2
  refine ⟨fun n hn => ?_, hnodup, x.key_mem_ancestors_iff start, ⟨rest.map Prod.fst, ?_, ?_⟩,
    x.isSubclass_iff start⟩
  · obtain ⟨hq, hrun⟩ := Walk.run_start (x := x) start hn
    exact ⟨hq, by rw [hrun]; rfl⟩
  · exact (List.pairwise_cons.1 h.sorted).2
  · rw [← hrest, List.forall₂_map_left_iff, List.forall₂_map_right_iff, List.forall₂_same]
    exact fun e he => x.atDistance_of_mem h hleast (List.mem_cons_of_mem _ he)

/-- A class that is its own parent, above an interface that is met twice and known nowhere. -/
example : (ofList [{ name := "A", parent := some "\\b", interfaces := ["I"] },
    { name := "B", parent := some "A", interfaces := ["i", "J", "B"] }]).ancestors "\\a" = ["\\b", "I", "J"] := rfl

end ClassIndex
end DynamicMembers
