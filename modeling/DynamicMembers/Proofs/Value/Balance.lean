import DynamicMembers.Proofs.Value.Pieces
/-!
# Balance — where the scan stands behind a whole text

A text is `Balanced` when the scan reaches its end, bars included, with every quote and bracket closed again.  A text is
cut into pieces exactly when the scan reaches its end with no bracket open (`isSome_pieces_iff`), a bar behind a balanced
text cuts (`pieces_append_bar`), and inside one more bracket the scan goes on as it did and meets no top-level bar
(`Scan.through_inside`).
-/
namespace DynamicMembers
namespace PhpDoc

/-! ## The scan over a text -/

/-- The scan behind a text, bars included; `none` when a bracket closes nothing. -/
def Scan.run (s : Scan) (cs : List Char) : Option Scan := cs.foldlM Scan.step s

theorem Scan.run_cons (s : Scan) (c : Char) (cs : List Char) : s.run (c :: cs) = (s.step c).bind (·.run cs) := rfl

theorem Scan.run_append (s : Scan) (a b : List Char) : s.run (a ++ b) = (s.run a).bind (·.run b) := List.foldlM_append

/-- Every quote is closed, and every bracket, none before it is opened; brackets of both kinds count alike. -/
def Balanced (cs : List Char) : Prop := (Scan.plain 0).run cs = some (.plain 0)

instance (cs : List Char) : Decidable (Balanced cs) :=
  inferInstanceAs (Decidable ((Scan.plain 0).run cs = some (.plain 0)))

/-- No quote is left open at the end. -/
def QuotesClosed (cs : List Char) : Prop := ∃ d, (Scan.plain 0).run cs = some (.plain d)

theorem Balanced.quotesClosed {cs : List Char} (h : Balanced cs) : QuotesClosed cs := ⟨0, h⟩

theorem Scan.run_of_through : ∀ {s t : Scan} {cs : List Char}, s.through cs = some t → s.run cs = some t
  | _, _, [], h => h
  | s, t, c :: cs, h => by
    rw [through] at h
    split at h
    · cases h
    · obtain ⟨s', hstep, hrest⟩ := Option.bind_eq_some_iff.1 h
      rw [run_cons, hstep]
      exact run_of_through hrest

/-- Only a bracket that closes nothing stops the scan. -/
theorem Scan.step_eq_none_iff {s : Scan} {c : Char} : s.step c = none ↔ s = .plain 0 ∧ (c = '>' ∨ c = ')') := by
  cases s with
  | plain d =>
    simp only [step]
    split
    · rename_i hq
      rcases hq with rfl | rfl <;> simp
    · split
      · rename_i ho
        rcases ho with rfl | rfl <;> simp
      · split
        · rename_i hc
          cases d <;> simp [hc]
        · rename_i hc
          simp [hc]
  | quoted d q e =>
    cases e with
    | true => simp [step]
    | false =>
      simp only [step]
      split
      · simp
      · split <;> simp

theorem Scan.exists_closing_of_run_eq_none : ∀ {s : Scan} {cs : List Char}, s.run cs = none →
    ∃ before closing after, cs = before ++ closing :: after ∧ (closing = '>' ∨ closing = ')') ∧
      s.run before = some (.plain 0)
  | _, [], h => by cases h
  | s, c :: cs, h => by
    rw [run_cons] at h
    cases hstep : s.step c with
    | none =>
      obtain ⟨rfl, hc⟩ := step_eq_none_iff.1 hstep
      exact ⟨[], c, cs, rfl, hc, rfl⟩
    | some s' =>
      rw [hstep, Option.bind_some] at h
      obtain ⟨before, closing, after, rfl, hc, hrun⟩ := exists_closing_of_run_eq_none h
      refine ⟨c :: before, closing, after, rfl, hc, ?_⟩
      rw [run_cons, hstep, Option.bind_some, hrun]

/-- A bracket that closes nothing keeps a text from being balanced. -/
theorem not_balanced_closing {inner : List Char} {closing : Char} (hinner : Balanced inner)
    (hclosing : closing = '>' ∨ closing = ')') (rest : List Char) : ¬ Balanced (inner ++ closing :: rest) := by
  have hstop : (Scan.plain 0).step closing = none := Scan.step_eq_none_iff.2 ⟨rfl, hclosing⟩
  intro h
  rw [Balanced, Scan.run_append, hinner, Option.bind_some, Scan.run_cons, hstop] at h
  cases h

/-! ## Inside one more bracket -/

/-- The scan with one more bracket open around it. -/
def Scan.inside : Scan → Scan
  | plain d => plain (d + 1)
  | quoted d q e => quoted (d + 1) q e

theorem Scan.inside_ne_plain_zero (s : Scan) : s.inside ≠ .plain 0 := by
  cases s <;> simp [inside]

theorem Scan.step_inside {s t : Scan} {c : Char} (h : s.step c = some t) : s.inside.step c = some t.inside := by
  cases s with
  | plain d =>
    simp only [step] at h
    split at h
    · rename_i hq
      cases h
      simp [inside, step, hq]
    · rename_i hq
      split at h
      · rename_i ho
        cases h
        simp [inside, step, hq, ho]
      · rename_i ho
        split at h
        · rename_i hc
          cases d with
          | zero => cases h
          | succ d =>
            cases h
            simp [inside, step, hq, ho, hc]
        · rename_i hc
          cases h
          simp [inside, step, hq, ho, hc]
  | quoted d q e =>
    cases e with
    | true =>
      cases h
      rfl
    | false =>
      simp only [step, inside] at h ⊢
      split at h
      · rename_i hc
        cases h
        rw [if_pos hc]
      · rename_i hc
        rw [if_neg hc]
        split at h
        · rename_i hq
          cases h
          rw [if_pos hq]
        · rename_i hq
          cases h
          rw [if_neg hq]

/-- **Inside one more bracket the scan goes on as outside of it, and no bar stands at the top level.** -/
theorem Scan.through_inside : ∀ {s t : Scan} {cs : List Char}, s.run cs = some t →
    s.inside.through cs = some t.inside
  | _, _, [], h => by
    cases h
    rfl
  | s, t, c :: cs, h => by
    rw [run_cons] at h
    obtain ⟨s', hstep, hrest⟩ := Option.bind_eq_some_iff.1 h
    rw [through_cons (fun hbar => inside_ne_plain_zero s hbar.1) (step_inside hstep)]
    exact through_inside hrest

theorem Balanced.run_plain {cs : List Char} (h : Balanced cs) : ∀ d : Nat,
    (Scan.plain d).run cs = some (.plain d)
  | 0 => h
  | d + 1 => Scan.run_of_through (Scan.through_inside (h.run_plain d))

/-- A bracket that is still open at the end keeps a text from being balanced. -/
theorem not_balanced_opening {before inner : List Char} {opening : Char} (hbefore : QuotesClosed before)
    (hopening : opening = '<' ∨ opening = '(') (hinner : Balanced inner) : ¬ Balanced (before ++ opening :: inner) := by
  obtain ⟨d, hd⟩ := hbefore
  have hstep : (Scan.plain d).step opening = some (.plain (d + 1)) := by
    rcases hopening with rfl | rfl <;> simp [Scan.step]
  intro h
  rw [Balanced, Scan.run_append, hd, Option.bind_some, Scan.run_cons, hstep, Option.bind_some,
    hinner.run_plain] at h
  cases h

/-- Where the scan passes a text from its start, it leaves the same quotes open behind it as inside one more bracket. -/
theorem quotesClosed_of_inside {before after : List Char} {d : Nat} (h : Balanced (before ++ after))
    (hinside : (Scan.plain 1).run before = some (.plain d)) : QuotesClosed before := by
  rw [Balanced, Scan.run_append] at h
  obtain ⟨t, ht, -⟩ := Option.bind_eq_some_iff.1 h
  have hdeeper : (Scan.plain 1).run before = some t.inside := Scan.run_of_through (Scan.through_inside ht)
  rw [hdeeper] at hinside
  cases t with
  | plain e => exact ⟨e, ht⟩
  | quoted => cases hinside

/-- Only at the top level does a bracket that is closed leave none open. -/
theorem Scan.eq_plain_of_step_inside {s t : Scan} (h : s.inside.step '>' = some t) (hd : t.depth = 0) : s = .plain 0 := by
  cases s with
  | plain d =>
    obtain rfl : Scan.plain d = t := by simpa [inside, step] using h
    exact congrArg Scan.plain hd
  | quoted d q e =>
    cases e with
    | true =>
      cases h
      cases hd
    | false =>
      simp only [inside, step] at h
      split at h
      · cases h
        cases hd
      · split at h <;> cases h <;> cases hd

/-! ## Pieces -/

theorem exists_onHead (c : Char) (ps : List (List Char)) : ∃ p qs, Text.onHead c ps = p :: qs := by
  cases ps with
  | nil => exact ⟨_, _, rfl⟩
  | cons p ps => exact ⟨_, _, rfl⟩

theorem pieces_cons (s : Scan) (c : Char) (cs : List Char) : pieces s (c :: cs) =
    if s = .plain 0 ∧ c = '|' then (pieces s cs).map ([] :: ·)
    else (s.step c).bind (fun s' => (pieces s' cs).map (Text.onHead c)) := by
  rw [pieces]
  cases s.step c <;> rfl

theorem pieces_ne_nil : ∀ {s : Scan} {cs : List Char} {ps : List (List Char)}, pieces s cs = some ps → ps ≠ []
  | s, [], ps, h => by
    rw [pieces] at h
    split at h
    · cases h
      exact List.cons_ne_nil _ _
    · cases h
  | s, c :: cs, ps, h => by
    rw [pieces_cons] at h
    split at h
    · obtain ⟨qs, -, rfl⟩ := Option.map_eq_some_iff.1 h
      exact List.cons_ne_nil _ _
    · obtain ⟨s', -, hmap⟩ := Option.bind_eq_some_iff.1 h
      obtain ⟨qs, -, rfl⟩ := Option.map_eq_some_iff.1 hmap
      obtain ⟨p, rs, hp⟩ := exists_onHead c qs
      rw [hp]
      exact List.cons_ne_nil _ _

/-- **A text is cut into pieces exactly when the scan reaches its end with no bracket open.** -/
theorem isSome_pieces_iff : ∀ {s : Scan} {cs : List Char},
    (pieces s cs).isSome = true ↔ ∃ t, s.run cs = some t ∧ t.depth = 0
  | s, [] => by
    have hnil : s.run [] = some s := rfl
    rw [pieces, hnil]
    by_cases hd : s.depth = 0 <;> simp [hd]
  | s, c :: cs => by
    rw [pieces_cons, Scan.run_cons]
    split
    · rename_i hbar
      obtain ⟨rfl, rfl⟩ := hbar
      have hstep : (Scan.plain 0).step '|' = some (.plain 0) := rfl
      rw [Option.isSome_map, hstep, Option.bind_some]
      exact isSome_pieces_iff
    · cases hstep : s.step c with
      | none => simp
      | some s' =>
        rw [Option.bind_some, Option.bind_some, Option.isSome_map]
        exact isSome_pieces_iff

theorem Scan.exists_pieces {s t : Scan} {cs : List Char} (h : s.run cs = some t) (hd : t.depth = 0) :
    ∃ ps, pieces s cs = some ps := Option.isSome_iff_exists.1 (isSome_pieces_iff.2 ⟨t, h, hd⟩)

/-- **A bar behind a balanced text cuts**: the pieces are those in front of it and those behind it. -/
theorem pieces_append_bar : ∀ {s : Scan} {a : List Char}, s.run a = some (.plain 0) → ∀ b : List Char,
    pieces s (a ++ '|' :: b) = (pieces s a).bind (fun ps => (pieces (.plain 0) b).map (ps ++ ·))
  | s, [], h, b => by
    cases h
    rw [List.nil_append, pieces_cons, if_pos ⟨rfl, rfl⟩]
    rfl
  | s, c :: a, h, b => by
    rw [Scan.run_cons] at h
    obtain ⟨s', hstep, hrest⟩ := Option.bind_eq_some_iff.1 h
    have ih := pieces_append_bar hrest b
    obtain ⟨ps, hps⟩ := Scan.exists_pieces hrest rfl
    rw [hps, Option.bind_some] at ih
    rw [List.cons_append, pieces_cons, pieces_cons]
    split
    · rename_i hbar
      obtain ⟨rfl, rfl⟩ := hbar
      cases hstep
      rw [ih, hps, Option.map_some, Option.bind_some, Option.map_map]
      rfl
    · rw [hstep, Option.bind_some, Option.bind_some, ih, hps, Option.map_some, Option.bind_some, Option.map_map]
      obtain ⟨p, qs, rfl⟩ := List.exists_cons_of_ne_nil (pieces_ne_nil hps)
      rfl

/-- The first piece is what the scan passes from where it stands, and every other is passed from the top level. -/
theorem through_of_pieces : ∀ {s : Scan} {cs p : List Char} {ps : List (List Char)}, pieces s cs = some (p :: ps) →
    (∃ t, s.through p = some t ∧ t.depth = 0) ∧ ∀ q ∈ ps, ∃ t, (Scan.plain 0).through q = some t ∧ t.depth = 0
  | s, [], p, ps, h => by
    rw [pieces] at h
    split at h
    · rename_i hd
      cases h
      exact ⟨⟨s, rfl, hd⟩, by simp⟩
    · cases h
  | s, c :: cs, p, ps, h => by
    rw [pieces_cons] at h
    split at h
    · rename_i hbar
      obtain ⟨rfl, rfl⟩ := hbar
      obtain ⟨qs, hqs, heq⟩ := Option.map_eq_some_iff.1 h
      cases heq
      obtain ⟨q, rs, rfl⟩ := List.exists_cons_of_ne_nil (pieces_ne_nil hqs)
      obtain ⟨hfirst, hothers⟩ := through_of_pieces hqs
      refine ⟨⟨.plain 0, rfl, rfl⟩, fun r hr => ?_⟩
      rcases List.mem_cons.1 hr with rfl | hr
      · exact hfirst
      · exact hothers r hr
    · rename_i hbar
      obtain ⟨s', hstep, hmap⟩ := Option.bind_eq_some_iff.1 h
      obtain ⟨qs, hqs, heq⟩ := Option.map_eq_some_iff.1 hmap
      obtain ⟨q, rs, rfl⟩ := List.exists_cons_of_ne_nil (pieces_ne_nil hqs)
      cases heq
      obtain ⟨⟨t, hthrough, hd⟩, hothers⟩ := through_of_pieces hqs
      refine ⟨⟨t, ?_, hd⟩, hothers⟩
      rw [Scan.through_cons hbar hstep, hthrough]

theorem through_of_mem_pieces {cs p : List Char} {ps : List (List Char)} (h : pieces (.plain 0) cs = some ps)
    (hp : p ∈ ps) : ∃ t, (Scan.plain 0).through p = some t ∧ t.depth = 0 := by
  obtain ⟨q, qs, rfl⟩ := List.exists_cons_of_ne_nil (pieces_ne_nil h)
  obtain ⟨hfirst, hothers⟩ := through_of_pieces h
  rcases List.mem_cons.1 hp with rfl | hp
  · exact hfirst
  · exact hothers p hp

end PhpDoc
end DynamicMembers
