import DynamicMembers.Pattern.Basic
import Mathlib.Tactic.Common
/-!
# Matching — a text matches where a pattern spans a stretch of it

`Spans` says which stretches of a text a pattern matches, by the shape of the pattern and with any number of rounds in a
repetition.  A step through a pattern reaches the ends of all of them and nothing else (`finds_step`).  An unbounded
repetition is given one round more than the text has characters, and that is enough: a round that does not advance can
be left out (`Times.shorten`).  So a text matches exactly when some stretch of it is spanned (`isMatch_iff`).
-/
namespace DynamicMembers
namespace Pattern

/-! ## Moves -/

/-- A number of moves between positions, one after the other. -/
inductive Times (move : Nat → Nat → Prop) : Nat → Nat → Nat → Prop
  | none (i : Nat) : Times move 0 i i
  | more {n i j k : Nat} (h : move i j) (hrest : Times move n j k) : Times move (n + 1) i k

/-- Moves lead on, and not out of a text. -/
structure Advances (size : Nat) (move : Nat → Nat → Prop) : Prop where
  le : ∀ {i j}, move i j → i ≤ j
  within : ∀ {i j}, move i j → i ≤ size → j ≤ size

namespace Times

variable {move : Nat → Nat → Prop} {size m n i j k : Nat}

theorem append (h : Times move m i j) (h' : Times move n j k) : Times move (m + n) i k := by
  induction h with
  | none i => rwa [Nat.zero_add]
  | more h _ ih =>
    rw [Nat.succ_add]
    exact .more h (ih h')

theorem split : ∀ {m i : Nat}, Times move (m + n) i k → ∃ j, Times move m i j ∧ Times move n j k
  | 0, i, h => ⟨i, .none i, by rwa [Nat.zero_add] at h⟩
  | m + 1, i, h => by
    rw [Nat.succ_add] at h
    cases h with
    | more h hrest =>
      obtain ⟨j, hfirst, hlast⟩ := split hrest
      exact ⟨j, .more h hfirst, hlast⟩

theorem advances (hmove : Advances size move) : Advances size (Times move n) where
  le h := by
    induction h with
    | none i => exact Nat.le_refl i
    | more h _ ih => exact Nat.le_trans (hmove.le h) ih
  within h := by
    induction h with
    | none i => exact id
    | more h _ ih => exact fun hi => ih (hmove.within h hi)

/-- **Moves that stay in place can be left out**, and then there are no more moves than positions are passed. -/
theorem shorten (hmove : Advances size move) (h : Times move n i j) : ∃ m ≤ j - i, Times move m i j := by
  induction h with
  | none i => exact ⟨0, Nat.zero_le _, .none i⟩
  | @more n i j k h hrest ih =>
    obtain ⟨m, hm, hshort⟩ := ih
    have hij := hmove.le h
    have hjk := (advances hmove).le hrest
    by_cases hstay : i = j
    · subst hstay
      exact ⟨m, hm, hshort⟩
    · exact ⟨m + 1, by omega, .more h hshort⟩

end Times

/-! ## Stretches -/

/-- The stretches of a text that a pattern matches, from where they start to where they end. -/
def Spans (text : Array Char) : Pattern → Nat → Nat → Prop
  | nothing, i, j => i = j
  | one t, i, j => i + 1 = j ∧ ∃ c, text[i]? = some c ∧ t.has c = true
  | edge e, i, j => i = j ∧ e.holds (charBefore text i) text[i]? = true
  | seq a b, i, k => ∃ j, Spans text a i j ∧ Spans text b j k
  | alt a b, i, j => Spans text a i j ∨ Spans text b i j
  | rep a least most, i, j => ∃ n, least ≤ n ∧ (∀ m ∈ most, n ≤ max least m) ∧ Times (Spans text a) n i j

variable {text : Array Char} {f : List Nat → List Nat} {move : Nat → Nat → Prop} {size : Nat}

theorem spans_advances (text : Array Char) : ∀ p : Pattern, Advances text.size (Spans text p)
  | nothing => ⟨Nat.le_of_eq, fun h hi => h ▸ hi⟩
  | one t => by
    refine ⟨fun ⟨hj, _⟩ => by omega, fun ⟨hj, c, hc, _⟩ _ => ?_⟩
    have hi := (Array.getElem?_eq_some_iff.1 hc).1
    omega
  | edge e => ⟨fun h => Nat.le_of_eq h.1, fun h hi => h.1 ▸ hi⟩
  | seq a b => by
    have ha := spans_advances text a
    have hb := spans_advances text b
    exact ⟨fun ⟨_, h, h'⟩ => Nat.le_trans (ha.le h) (hb.le h'), fun ⟨_, h, h'⟩ hi => hb.within h' (ha.within h hi)⟩
  | alt a b => by
    have ha := spans_advances text a
    have hb := spans_advances text b
    exact ⟨fun h => h.elim ha.le hb.le, fun h => h.elim ha.within hb.within⟩
  | rep a least most => by
    have ha := spans_advances text a
    exact ⟨fun ⟨_, _, _, h⟩ => (Times.advances ha).le h, fun ⟨_, _, _, h⟩ => (Times.advances ha).within h⟩

/-! ## Steps -/

/-- From positions in a text, a step reaches the ends of moves and nothing else. -/
def Finds (size : Nat) (f : List Nat → List Nat) (move : Nat → Nat → Prop) : Prop :=
  ∀ s : List Nat, (∀ i ∈ s, i ≤ size) → ∀ j, j ∈ f s ↔ ∃ i ∈ s, move i j

namespace Finds

theorem within (hf : Finds size f move) (hmove : Advances size move) {s : List Nat} (hs : ∀ i ∈ s, i ≤ size) :
    ∀ j ∈ f s, j ≤ size := by
  intro j hj
  obtain ⟨i, hi, h⟩ := (hf s hs j).1 hj
  exact hmove.within h (hs i hi)

theorem iterate (hf : Finds size f move) (hmove : Advances size move) :
    ∀ n, Finds size (iterate f n) (Times move n)
  | 0, s, _, j => by
    refine ⟨fun hj => ⟨j, hj, .none j⟩, ?_⟩
    rintro ⟨i, hi, h⟩
    cases h
    exact hi
  | n + 1, s, hs, k => by
    rw [Pattern.iterate, iterate hf hmove n (f s) (hf.within hmove hs)]
    constructor
    · rintro ⟨j, hj, hrest⟩
      obtain ⟨i, hi, h⟩ := (hf s hs j).1 hj
      exact ⟨i, hi, .more h hrest⟩
    · rintro ⟨i, hi, h⟩
      cases h with
      | more h hrest => exact ⟨_, (hf s hs _).2 ⟨i, hi, h⟩, hrest⟩

theorem reach (hf : Finds size f move) (hmove : Advances size move) :
    ∀ n, Finds size (reach f n) (fun i j => ∃ m ≤ n, Times move m i j)
  | 0, s, _, j => by
    refine ⟨fun hj => ⟨j, hj, 0, Nat.le_refl 0, .none j⟩, ?_⟩
    rintro ⟨i, hi, m, hm, h⟩
    obtain rfl := Nat.le_zero.1 hm
    cases h
    exact hi
  | n + 1, s, hs, k => by
    have hboth : ∀ j ∈ (s ++ f s).eraseDups, j ≤ size := by
      intro j hj
      rw [List.mem_eraseDups, List.mem_append] at hj
      exact hj.elim (hs j) (hf.within hmove hs j)
    rw [Pattern.reach, reach hf hmove n _ hboth]
    simp only [List.mem_eraseDups, List.mem_append]
    constructor
    · rintro ⟨j, hj | hj, m, hm, h⟩
      · exact ⟨j, hj, m, Nat.le_succ_of_le hm, h⟩
      · obtain ⟨i, hi, hfirst⟩ := (hf s hs j).1 hj
        exact ⟨i, hi, m + 1, Nat.succ_le_succ hm, .more hfirst h⟩
    · rintro ⟨i, hi, m, hm, h⟩
      cases h with
      | none => exact ⟨k, Or.inl hi, 0, Nat.zero_le n, .none k⟩
      | more h hrest => exact ⟨_, Or.inr ((hf s hs _).2 ⟨i, hi, h⟩), _, Nat.le_of_succ_le_succ hm, hrest⟩

end Finds

theorem finds_rep {a : Pattern} (ha : Finds text.size (a.step text) (Spans text a)) (least : Nat) (most : Option Nat) :
    Finds text.size ((rep a least most).step text) (Spans text (rep a least most)) := by
  intro s hs k
  have hmove := spans_advances text a
  have hfirst := (ha.iterate hmove least).within (Times.advances hmove) hs
  change k ∈ Pattern.reach (a.step text) _ (Pattern.iterate (a.step text) least s) ↔ _
  rw [ha.reach hmove _ _ hfirst]
  simp only [ha.iterate hmove least s hs]
  constructor
  · rintro ⟨j, ⟨i, hi, hleast⟩, m, hm, hmore⟩
    refine ⟨i, hi, least + m, Nat.le_add_right _ _, fun most' hmost => ?_, hleast.append hmore⟩
    rw [Option.mem_def] at hmost
    subst hmost
    simp only at hm
    omega
  · rintro ⟨i, hi, n, hn, hmost, h⟩
    obtain ⟨m, rfl⟩ := Nat.exists_eq_add_of_le hn
    obtain ⟨j, hleast, hmore⟩ := h.split
    cases most with
    | some most =>
      have := hmost most rfl
      exact ⟨j, ⟨i, hi, hleast⟩, m, by simp only; omega, hmore⟩
    | none =>
      -- as many rounds as characters are enough
      obtain ⟨m, hm, hshort⟩ := Times.shorten hmove hmore
      have hj := hfirst j ((ha.iterate hmove least s hs j).2 ⟨i, hi, hleast⟩)
      have hk := (Times.advances hmove).within hmore hj
      exact ⟨j, ⟨i, hi, hleast⟩, m, by simp only; omega, hshort⟩

/-- **A step through a pattern reaches the ends of the stretches that it spans**, and no other positions. -/
theorem finds_step (text : Array Char) : ∀ p : Pattern, Finds text.size (p.step text) (Spans text p)
  | nothing => fun s _ j => by simp [step, Spans]
  | one t => fun s _ j => by
    simp only [step, Spans, List.mem_filterMap, Option.bind_eq_some_iff, Option.ite_none_right_eq_some, Option.some_inj]
    constructor
    · rintro ⟨i, hi, c, hc, ht, hj⟩
      exact ⟨i, hi, hj, c, hc, ht⟩
    · rintro ⟨i, hi, hj, c, hc, ht⟩
      exact ⟨i, hi, c, hc, ht, hj⟩
  | edge e => fun s _ j => by
    simp only [step, Spans, List.mem_filter]
    constructor
    · rintro ⟨hj, h⟩
      exact ⟨j, hj, rfl, h⟩
    · rintro ⟨_, hi, rfl, h⟩
      exact ⟨hi, h⟩
  | seq a b => fun s hs k => by
    have ha := finds_step text a
    rw [step, finds_step text b _ (ha.within (spans_advances text a) hs)]
    simp only [ha s hs, Spans]
    constructor
    · rintro ⟨j, ⟨i, hi, h⟩, h'⟩
      exact ⟨i, hi, j, h, h'⟩
    · rintro ⟨i, hi, j, h, h'⟩
      exact ⟨j, ⟨i, hi, h⟩, h'⟩
  | alt a b => fun s hs j => by
    simp only [step, Spans, List.mem_eraseDups, List.mem_append, finds_step text a s hs, finds_step text b s hs,
      and_or_left, exists_or]
  | rep a least most => finds_rep (finds_step text a) least most

/-- **A text matches exactly when the pattern spans some stretch of it.** -/
theorem isMatch_iff (p : Pattern) (s : String) :
    p.isMatch s = true ↔ ∃ i j, i ≤ s.toList.length ∧ Spans s.toList.toArray p i j := by
  have hstarts : ∀ i ∈ List.range (s.toList.toArray.size + 1), i ≤ s.toList.toArray.size :=
    fun i hi => Nat.le_of_lt_succ (List.mem_range.1 hi)
  rw [isMatch, Bool.not_eq_true', List.isEmpty_eq_false_iff_exists_mem]
  constructor
  · rintro ⟨j, hj⟩
    obtain ⟨i, hi, h⟩ := (finds_step _ p _ hstarts j).1 hj
    exact ⟨i, j, hstarts i hi, h⟩
  · rintro ⟨i, j, hi, h⟩
    exact ⟨j, (finds_step _ p _ hstarts j).2 ⟨i, List.mem_range.2 (Nat.lt_succ_of_le hi), h⟩⟩

end Pattern
end DynamicMembers
