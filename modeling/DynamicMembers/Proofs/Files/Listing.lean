import DynamicMembers.Files.Walk
import DynamicMembers.Proofs.Answer
import Mathlib.Data.List.Lex
import Mathlib.Data.List.Sort
import Mathlib.Data.Prod.Lex
import Mathlib.Data.String.Basic
/-!
# Listings — files in the order of their names

A walk comes upon every file by another path (`nodup_below_of_filesUnder`).  Names and paths together are a linear
order, by which files are sorted; so a listing has one order, whichever order the walk takes.
-/
namespace DynamicMembers

namespace Files

/-! ## The paths of a walk -/

/-- Files on pairwise different paths that all begin with some names. -/
structure LieBelow (names : List String) (found : List Found) : Prop where
  nodup : (found.map Found.below).Nodup
  through : ∀ f ∈ found, ∃ rest, f.below = names ++ rest

namespace Tree

variable {t : Tree}

theorem nodup_namesIn (t : Tree) (p : Place) : (t.namesIn p).Nodup := by
  have hplace : ∀ (q : Place) (name : String), name ∈ (if q.dropLast = p then q.getLast? else none) →
      q = p ++ [name] := by
    intro q name h
    split at h
    · rename_i hq
      rw [← List.dropLast_append_getLast? name h, hq]
    · cases h
  refine List.Nodup.filterMap (fun q r name hq hr => ?_) t.entries.nodup
  rw [hplace q name hq, hplace r name hr]

theorem through_name {below names : List String} {lists : List (List Found)}
    (h : List.Forall₂ (fun name found => LieBelow (below ++ [name]) found) names lists) :
    ∀ f ∈ lists.flatten, ∃ name ∈ names, ∃ rest, f.below = below ++ name :: rest := by
  induction h with
  | nil => exact fun f hf => nomatch hf
  | @cons name found _ _ hfound _ ih =>
    intro f hf
    rcases List.mem_append.1 hf with hf | hf
    · obtain ⟨rest, hrest⟩ := hfound.through f hf
      exact ⟨name, List.mem_cons_self, rest, by rw [hrest, List.append_assoc, List.singleton_append]⟩
    · obtain ⟨later, hlater, hrest⟩ := ih f hf
      exact ⟨later, List.mem_cons_of_mem name hlater, hrest⟩

/-- What is found below each of the names in a directory lies on different paths as a whole. -/
theorem below_flatten {below names : List String} {lists : List (List Found)} (hnames : names.Nodup)
    (h : List.Forall₂ (fun name found => LieBelow (below ++ [name]) found) names lists) :
    LieBelow below lists.flatten := by
  refine ⟨?_, fun f hf => ?_⟩
  · induction h with
    | nil => exact List.nodup_nil
    | @cons name found names lists hfound hlists ih =>
      obtain ⟨hname, hrest⟩ := List.nodup_cons.1 hnames
      rw [List.flatten_cons, List.map_append]
      refine List.Nodup.append hfound.nodup (ih hrest) (fun path hpath hlater => ?_)
      obtain ⟨f, hf, rfl⟩ := List.mem_map.1 hpath
      obtain ⟨g, hg, hsame⟩ := List.mem_map.1 hlater
      -- one path would go on by two names
      obtain ⟨rest, hthrough⟩ := hfound.through f hf
      obtain ⟨later, hmem, rest', hthrough'⟩ := through_name hlists g hg
      rw [hthrough, hthrough', List.append_assoc, List.append_cancel_left_eq, List.singleton_append, List.cons.injEq]
        at hsame
      exact hname (hsame.1 ▸ hmem)
  · obtain ⟨name, -, rest, hrest⟩ := through_name h f hf
    exact ⟨name :: rest, hrest⟩

theorem below_singleton (below : List String) (name : String) (place : Place) :
    LieBelow below [⟨below, name, place⟩] :=
  ⟨List.nodup_singleton _, fun f hf => ⟨[], by rw [List.mem_singleton.1 hf, List.append_nil]⟩⟩

/-- **A walk comes upon every file on another path.** -/
theorem below_of_filesBelow : ∀ (n : Nat) {inside : List Place} {here : Place} {below : List String}
    {found : List Found}, t.filesBelow n inside here below = .ok found → LieBelow below found
  | 0, _, _, _, _, h => nomatch h
  | n + 1, inside, here, below, found, h => by
    rw [filesBelow] at h
    obtain ⟨lists, hlists, hfound⟩ := bind_eq_ok_iff.1 h
    obtain rfl : lists.flatten = found := Except.ok.inj hfound
    refine below_flatten (t.nodup_namesIn here) ((mapM_eq_ok_iff.1 hlists).imp (fun name list hlist => ?_))
    -- a name is a file, or leads to a directory that is walked in turn, or to nothing
    simp only at hlist
    split at hlist
    · obtain rfl := Except.ok.inj hlist
      exact below_singleton _ _ _
    · exact below_of_filesBelow n hlist
    · obtain ⟨place, -, hplace⟩ := bind_eq_ok_iff.1 hlist
      split at hplace
      · split at hplace
        · cases hplace
        · exact below_of_filesBelow n hplace
      · obtain rfl := Except.ok.inj hplace
        exact below_singleton _ _ _
    · obtain rfl := Except.ok.inj hlist
      exact ⟨List.nodup_nil, fun _ hf => nomatch hf⟩

theorem nodup_below_of_filesUnder {path : String} {found : List Found} (h : t.filesUnder path = .ok found) :
    (found.map Found.below).Nodup := by
  rw [filesUnder] at h
  obtain ⟨place, -, hplace⟩ := bind_eq_ok_iff.1 h
  split at hplace
  · exact (below_of_filesBelow _ hplace).nodup
  · obtain rfl := Except.ok.inj hplace
    exact List.nodup_singleton _

end Tree

/-! ## The order of files -/

namespace Found

/-- What a file is listed by: its name, then the names that lead to it. -/
def key (f : Found) : String ×ₗ List String := toLex (f.name, f.below)

theorem namesBefore_iff : ∀ (m n : List String), namesBefore m n = true ↔ m ≤ n
  | [], n => by simpa [namesBefore] using not_lt.1 (List.not_lt_nil n)
  | _ :: _, [] => by simp [namesBefore]
  | a :: m, b :: n => by
    rw [namesBefore, ← not_lt (a := b :: n), List.cons_lt_cons_iff]
    by_cases h : a = b
    · simp [h, namesBefore_iff]
    · simp only [if_neg h, decide_eq_true_eq, Ne.symm h, false_and, or_false, not_lt]

theorem before_iff (a b : Found) : a.before b = true ↔ a.key ≤ b.key := by
  unfold before key
  rw [Prod.Lex.toLex_le_toLex]
  by_cases h : a.name = b.name
  · simp [h, namesBefore_iff]
  · simp [h, le_iff_lt_or_eq]

/-- **Files are sorted by name, and by path where the names are the same.** -/
theorem pairwise_sort (files : List Found) : (sort files).Pairwise (fun a b => a.key ≤ b.key) := by
  have h : (files.mergeSort before).Pairwise (fun a b => a.before b = true) := List.pairwise_mergeSort
    (fun a b c hab hbc => by
      rw [before_iff] at hab hbc ⊢
      exact le_trans hab hbc)
    (fun a b => by
      rw [Bool.or_eq_true, before_iff, before_iff]
      exact le_total a.key b.key) files
  unfold sort
  simpa only [before_iff] using h

theorem sort_perm (files : List Found) : (sort files).Perm files := List.mergeSort_perm files before

end Found
end Files
end DynamicMembers
