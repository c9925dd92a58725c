/-!
# Runs of characters — how far a condition holds from the start of a text

A run ends where a character fails its condition, so what stands behind the text matters only where the whole text is
one run.
-/
namespace DynamicMembers
namespace Text

theorem span_append {p : Char → Bool} {t r : List Char} (ht : ∀ c ∈ t, p c = true) (hr : ∀ c ∈ r.head?, p c = false) :
    (t ++ r).takeWhile p = t ∧ (t ++ r).dropWhile p = r := by
  rw [List.takeWhile_append_of_pos ht, List.dropWhile_append_of_pos ht]
  cases r with
  | nil => simp
  | cons c r =>
    have hc : p c = false := hr c rfl
    simp [hc]

theorem head?_dropWhile (p : Char → Bool) (cs : List Char) : ∀ c ∈ (cs.dropWhile p).head?, p c = false := by
  intro c hc
  have hnot := List.head?_dropWhile_not p cs
  rwa [Option.mem_def.1 hc] at hnot

/-- A text is a run of characters, or goes on behind one with another character. -/
theorem exists_run (p : Char → Bool) (cs : List Char) : (∀ c ∈ cs, p c = true) ∨
    ∃ run c r, cs = run ++ c :: r ∧ (∀ d ∈ run, p d = true) ∧ p c = false := by
  induction cs with
  | nil => exact Or.inl (by simp)
  | cons c cs ih =>
    by_cases hc : p c = true
    · rcases ih with hall | ⟨run, d, r, rfl, hrun, hd⟩
      · exact Or.inl (List.forall_mem_cons.2 ⟨hc, hall⟩)
      · exact Or.inr ⟨c :: run, d, r, rfl, List.forall_mem_cons.2 ⟨hc, hrun⟩, hd⟩
    · exact Or.inr ⟨[], c, cs, rfl, by simp, by simpa using hc⟩

theorem takeWhile_append_stop {p : Char → Bool} {t r : List Char} (hr : ∀ c ∈ r.head?, p c = false) :
    (t ++ r).takeWhile p = t.takeWhile p := by
  rcases exists_run p t with hall | ⟨run, c, rest, rfl, hrun, hc⟩
  · have hself := (span_append (r := []) hall (by simp)).1
    rw [List.append_nil] at hself
    rw [(span_append hall hr).1, hself]
  · have hspan (z : List Char) := (span_append (r := c :: z) hrun (by simpa using hc)).1
    rw [List.append_assoc, List.cons_append, hspan, hspan]

theorem run_append_of_mem {p : Char → Bool} {l : List Char} (hl : ∃ c ∈ l, p c = false) (r : List Char) :
    (l ++ r).takeWhile p = l.takeWhile p ∧ (l ++ r).dropWhile p = l.dropWhile p ++ r := by
  rcases exists_run p l with hall | ⟨run, d, rest, rfl, hrun, hd⟩
  · obtain ⟨c, hc, hp⟩ := hl
    rw [hall c hc] at hp
    cases hp
  · have hspan (z : List Char) := span_append (r := d :: z) hrun (by simpa using hd)
    rw [List.append_assoc, List.cons_append, (hspan _).1, (hspan _).2, (hspan _).1, (hspan _).2]
    exact ⟨rfl, rfl⟩

theorem any_head?_eq_false {p : Char → Bool} {cs : List Char} :
    cs.head?.any p = false ↔ ∀ c ∈ cs.head?, p c = false := by
  cases cs <;> simp

theorem any_head?_append {p : Char → Bool} {t : List Char} (h : t.head?.any p = true) (r : List Char) :
    (t ++ r).head?.any p = true := by
  cases t with
  | nil => cases h
  | cons c t => exact h

theorem any_head?_takeWhile {p q : Char → Bool} (hpq : ∀ c, q c = true → p c = true) {cs : List Char}
    (h : cs.head?.any q = true) : (cs.takeWhile p).head?.any q = true := by
  cases cs with
  | nil => cases h
  | cons c cs =>
    rw [List.takeWhile_cons_of_pos (hpq c h)]
    exact h

end Text
end DynamicMembers
