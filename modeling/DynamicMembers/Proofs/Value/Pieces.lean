import DynamicMembers.Value.PhpDoc
import DynamicMembers.Value.Printer
/-!
# Pieces of an annotation — which texts the scan keeps in one piece

A text is `Closed` when the scan passes from its start to its end without a bar at the top level and with every quote
and bracket closed again.  Closed texts with bars between them are cut at exactly these bars (`pieces_join`), and the
printed form of a type that is no union is closed (`closed_quoted`, `closed_of_unmarked`).
-/
namespace DynamicMembers
namespace PhpDoc

/-- The scan after characters among which no bar stands at the top level. -/
def Scan.through : Scan → List Char → Option Scan
  | s, [] => some s
  | s, c :: cs => if s = .plain 0 ∧ c = '|' then none else (s.step c).bind (through · cs)

theorem Scan.through_append : ∀ (s : Scan) (a b : List Char), s.through (a ++ b) = (s.through a).bind (·.through b)
  | _, [], _ => rfl
  | s, c :: a, b => by
    rw [List.cons_append, through, through]
    split
    · rfl
    · cases s.step c with
      | none => rfl
      | some s' => exact through_append s' a b

theorem Scan.through_cons {s t : Scan} {c : Char} (hbar : ¬ (s = .plain 0 ∧ c = '|')) (hstep : s.step c = some t)
    (cs : List Char) : s.through (c :: cs) = t.through cs := by
  rw [through, if_neg hbar, hstep, Option.bind_some]

theorem foldr_onHead (a p : List Char) (ps : List (List Char)) : a.foldr Text.onHead (p :: ps) = (a ++ p) :: ps := by
  induction a with
  | nil => rfl
  | cons c a ih => rw [List.foldr_cons, ih, Text.onHead, List.cons_append]

/-- Characters that the scan passes stand in front of the first piece of the rest. -/
theorem pieces_append : ∀ {s s' : Scan} {a : List Char}, s.through a = some s' → ∀ b : List Char,
    pieces s (a ++ b) = (pieces s' b).map (fun ps => a.foldr Text.onHead ps)
  | s, _, [], h, b => by
    cases h
    exact (Option.map_id' ..).symm
  | s, s', c :: a, h, b => by
    rw [Scan.through] at h
    split at h
    · cases h
    · rename_i hbar
      obtain ⟨s₁, hstep, hrest⟩ := Option.bind_eq_some_iff.1 h
      rw [List.cons_append, pieces, if_neg hbar, hstep]
      simp only [pieces_append hrest b, Option.map_map]
      rfl

/-- A text of one piece: nothing in it is left open and no bar in it stands at the top level. -/
def Closed (cs : List Char) : Prop := (Scan.plain 0).through cs = some (.plain 0)

theorem pieces_of_closed {a : List Char} (h : Closed a) : pieces (.plain 0) a = some [a] := by
  have hp := pieces_append h []
  rw [List.append_nil] at hp
  rw [hp]
  simp [pieces, Scan.depth, foldr_onHead]

theorem pieces_bar {a : List Char} (h : Closed a) (b : List Char) :
    pieces (.plain 0) (a ++ '|' :: b) = (pieces (.plain 0) b).map (a :: ·) := by
  rw [pieces_append h, pieces, if_pos ⟨rfl, rfl⟩, Option.map_map]
  simp only [Function.comp_def, foldr_onHead, List.append_nil]

/-- **Closed texts with bars between them are cut at these bars.** -/
theorem pieces_join : ∀ {ps : List (List Char)}, ps ≠ [] → (∀ p ∈ ps, Closed p) →
    pieces (.plain 0) (Text.join '|' ps) = some ps
  | [], hne, _ => absurd rfl hne
  | [p], _, h => pieces_of_closed (h p List.mem_cons_self)
  | p :: q :: ps, _, h => by
    have ih := pieces_join (List.cons_ne_nil q ps) (fun r hr => h r (List.mem_cons_of_mem p hr))
    rw [Text.join, pieces_bar (h p List.mem_cons_self), ih, Option.map_some]
    exact List.cons_ne_nil q ps

/-! ## Characters without a meaning to the scan -/

/-- The characters that move the scan, and the bar. -/
def marks : List Char := ['\'', '"', '<', '(', '>', ')', '|']

theorem not_mem_of_any_eq_false {p : Char → Bool} {l : List Char} (hl : l.any p = false) {c : Char} (hc : p c = true) :
    c ∉ l := by
  intro h
  have hany : l.any p = true := List.any_eq_true.2 ⟨c, h, hc⟩
  rw [hl] at hany
  cases hany

theorem Scan.through_of_unmarked (d : Nat) : ∀ {cs : List Char}, (∀ c ∈ cs, c ∉ marks) →
    (Scan.plain d).through cs = some (.plain d)
  | [], _ => rfl
  | c :: cs, h => by
    have hc := h c List.mem_cons_self
    simp only [marks, List.mem_cons, List.not_mem_nil, or_false, not_or] at hc
    obtain ⟨hq, hdq, hlt, hopen, hgt, hclose, hbar⟩ := hc
    have hstep : (Scan.plain d).step c = some (.plain d) := by
      simp [step, hq, hdq, hlt, hopen, hgt, hclose]
    rw [through_cons (fun hb => hbar hb.2) hstep]
    exact through_of_unmarked d (fun e he => h e (List.mem_cons_of_mem c he))

theorem closed_of_unmarked {cs : List Char} (h : ∀ c ∈ cs, c ∉ marks) : Closed cs := Scan.through_of_unmarked 0 h

theorem closed_of_letters {cs : List Char} (h : cs.all Char.isLower = true) : Closed cs :=
  closed_of_unmarked (fun c hc => not_mem_of_any_eq_false (p := Char.isLower) (by decide) (List.all_eq_true.1 h c hc))

/-! ## Quoted texts -/

theorem Scan.through_escape (d : Nat) : ∀ cs : List Char,
    (Scan.quoted d '\'' false).through (PhpType.escape cs) = some (.quoted d '\'' false)
  | [] => rfl
  | c :: cs => by
    rw [PhpType.escape]
    split
    · rw [through_cons (t := .quoted d '\'' true) (by simp) (by simp [step]),
        through_cons (t := .quoted d '\'' false) (by simp) (by simp [step])]
      exact through_escape d cs
    · rename_i hc
      rw [not_or] at hc
      rw [through_cons (t := .quoted d '\'' false) (by simp) (by simp [step, hc])]
      exact through_escape d cs

/-- A string literal is closed, whatever stands in it. -/
theorem closed_quoted (cs : List Char) : Closed ('\'' :: (PhpType.escape cs ++ ['\''])) := by
  rw [Closed, Scan.through_cons (t := .quoted 0 '\'' false) (by simp) (by simp [Scan.step]), Scan.through_append,
    Scan.through_escape, Option.bind_some,
    Scan.through_cons (t := .plain 0) (by simp) (by simp [Scan.step])]
  rfl

end PhpDoc
end DynamicMembers
