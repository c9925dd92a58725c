import DynamicMembers.Proofs.Text.Runs
import DynamicMembers.Text.Characters
import Mathlib.Data.List.TakeWhile
/-!
# Trimming — what is left of a text without the blanks at its ends

A trimmed text stands in its text between blanks and neither starts nor ends with one, so trimming it again changes
nothing (`trim_trim`), and blanks around a text change nothing either (`trim_between`).
-/
namespace DynamicMembers
namespace Text

theorem exists_trimEnd (cs : List Char) : ∃ after, cs = trimEnd cs ++ after ∧ ∀ c ∈ after, isBlank c = true := by
  refine ⟨(cs.reverse.takeWhile isBlank).reverse, ?_, fun c hc => List.mem_takeWhile_imp (List.mem_reverse.1 hc)⟩
  rw [trimEnd, ← List.reverse_append, List.takeWhile_append_dropWhile, List.reverse_reverse]

/-- A text is blanks, what is left of it when trimmed, and blanks. -/
theorem exists_trim (cs : List Char) : ∃ before after, cs = before ++ (trim cs ++ after) ∧
    (∀ c ∈ before, isBlank c = true) ∧ ∀ c ∈ after, isBlank c = true := by
  obtain ⟨after, hafter, hblank⟩ := exists_trimEnd (cs.dropWhile isBlank)
  refine ⟨cs.takeWhile isBlank, after, ?_, fun c hc => List.mem_takeWhile_imp hc, hblank⟩
  rw [trim, ← hafter, List.takeWhile_append_dropWhile]

theorem mem_of_mem_trim {cs : List Char} {c : Char} (h : c ∈ trim cs) : c ∈ cs := by
  obtain ⟨before, after, hcs, -, -⟩ := exists_trim cs
  rw [hcs]
  exact List.mem_append_right _ (List.mem_append_left _ h)

theorem isBlank_head_trim (cs : List Char) : ∀ c ∈ (trim cs).head?, isBlank c = false := by
  intro c hc
  obtain ⟨after, hafter, -⟩ := exists_trimEnd (cs.dropWhile isBlank)
  have hhead := head?_dropWhile isBlank cs
  rw [hafter, List.head?_append] at hhead
  rw [trim] at hc
  rw [Option.mem_def.1 hc] at hhead
  exact hhead c rfl

theorem isBlank_last_trim (cs : List Char) : ∀ c ∈ (trim cs).getLast?, isBlank c = false := by
  rw [trim, trimEnd, List.getLast?_reverse]
  exact head?_dropWhile isBlank _

theorem trim_trim (cs : List Char) : trim (trim cs) = trim cs :=
  trim_of_ends (isBlank_head_trim cs) (isBlank_last_trim cs)

theorem trimEnd_append {after : List Char} (h : ∀ c ∈ after, isBlank c = true) (cs : List Char) :
    trimEnd (cs ++ after) = trimEnd cs := by
  rw [trimEnd, List.reverse_append, List.dropWhile_append_of_pos (fun c hc => h c (List.mem_reverse.1 hc)), trimEnd]

/-- Blanks around a text are not seen when it is trimmed. -/
theorem trim_between {before after : List Char} (hbefore : ∀ c ∈ before, isBlank c = true)
    (hafter : ∀ c ∈ after, isBlank c = true) (cs : List Char) : trim (before ++ cs ++ after) = trim cs := by
  have hblank : after.dropWhile isBlank = [] := List.dropWhile_eq_nil_iff.2 hafter
  rw [List.append_assoc, trim, List.dropWhile_append_of_pos hbefore, List.dropWhile_append, trim]
  split
  · rename_i hempty
    rw [hblank, List.isEmpty_iff.1 hempty]
  · exact trimEnd_append hafter _

/-- A text that does not start with a blank starts the same when trimmed. -/
theorem head?_trim_cons {c : Char} (hc : isBlank c = false) (cs : List Char) : (trim (c :: cs)).head? = some c := by
  obtain ⟨after, hafter, hblank⟩ := exists_trimEnd (c :: cs)
  have hdrop : (c :: cs).dropWhile isBlank = c :: cs := List.dropWhile_cons_of_neg (by simp [hc])
  rw [trim, hdrop]
  cases ht : trimEnd (c :: cs) with
  | nil =>
    rw [ht, List.nil_append] at hafter
    rw [hblank c (hafter ▸ List.mem_cons_self)] at hc
    cases hc
  | cons d ds =>
    rw [ht, List.cons_append] at hafter
    cases hafter
    rfl

end Text
end DynamicMembers
