import DynamicMembers.Proofs.Answer
import DynamicMembers.Proofs.Text.Trim
import DynamicMembers.Proofs.Value.Atoms
import Mathlib.Logic.Function.Iterate
/-!
# Decorations — question marks in front of a piece and array brackets behind it

What a piece with decorations is read as follows from what it is read as without them (`atom_decorated`).  Every piece
stands without its decorations between characters that mean nothing to the scan (`exists_undecorated`), and is read only
if it is read without them (`exists_ok_undecorated`).
-/
namespace DynamicMembers
namespace PhpDoc

/-! ## One decoration -/

theorem beforeBrackets_eq_some_iff {cs element : List Char} :
    beforeBrackets cs = some element ↔ cs = element ++ ['[', ']'] := by
  unfold beforeBrackets
  split
  · rename_i s hs
    have hcs : cs = s.reverse ++ ['[', ']'] := by
      rw [← List.reverse_reverse cs, hs]
      simp
    rw [hcs, Option.some.injEq, List.append_left_inj]
  · rename_i hnot
    constructor
    · intro h
      cases h
    · rintro rfl
      exact (hnot element.reverse (by simp)).elim

theorem eq_minus_or_isDigit {cs : List Char} (h : isInteger cs = true) : ∀ c ∈ cs, c = '-' ∨ c.isDigit = true := by
  unfold isInteger at h
  split at h
  · rw [Bool.and_eq_true, List.all_eq_true] at h
    exact List.forall_mem_cons.2 ⟨Or.inl rfl, fun c hc => Or.inr (h.2 c hc)⟩
  · rw [Bool.and_eq_true, List.all_eq_true] at h
    exact fun c hc => Or.inr (h.2 c hc)

theorem isInteger_eq_false {cs : List Char} {c : Char} (hc : c ∈ cs) (hminus : c ≠ '-') (hdigit : c.isDigit = false) :
    isInteger cs = false := by
  by_contra h
  rcases eq_minus_or_isDigit (by simpa using h) c hc with h | h
  · exact hminus h
  · rw [hdigit] at h
    cases h

theorem atom_of_blank {cs : List Char} (ht : Text.trim cs = []) : atom cs = .error .emptyMember := by
  rw [atom]
  split <;> rename_i h <;> rw [ht] at h <;> cases h

theorem atom_of_question {cs inner : List Char} (ht : Text.trim cs = '?' :: inner) :
    atom cs = (atom inner).map .nullable := by
  rw [atom]
  split
  · rename_i h
    rw [ht] at h
    cases h
  · rename_i h
    rw [ht] at h
    cases h
    rfl
  · rename_i hnot h
    rw [ht] at h
    cases h
    exact absurd rfl hnot

/-- Blanks around a piece do not matter. -/
theorem atom_trim (cs : List Char) : atom (Text.trim cs) = atom cs := by
  have htrim := Text.trim_trim cs
  rcases h : Text.trim cs with _ | ⟨c, r⟩
  · rw [atom_of_blank h, ← h, atom_of_blank (htrim.trans h)]
  · rw [h] at htrim
    by_cases hc : c = '?'
    · subst hc
      rw [atom_of_question h, atom_of_question htrim]
    · rw [atom_of_trim h hc, atom_of_trim htrim hc]

/-! ## Upright pieces -/

/-- A piece without blanks at its ends that starts neither as a nullable type nor as a literal does. -/
structure Upright (cs : List Char) : Prop where
  starts : ∃ c r, cs = c :: r ∧ c ∉ ['?', '\'', '"']
  head : ∀ c ∈ cs.head?, Text.isBlank c = false
  last : ∀ c ∈ cs.getLast?, Text.isBlank c = false

namespace Upright

variable {cs : List Char}

theorem trim (h : Upright cs) : Text.trim cs = cs := Text.trim_of_ends h.head h.last

theorem append (h : Upright cs) {tail : List Char} (hne : tail ≠ [])
    (hlast : ∀ c ∈ tail.getLast?, Text.isBlank c = false) : Upright (cs ++ tail) := by
  obtain ⟨c, r, rfl, hc⟩ := h.starts
  refine ⟨⟨c, r ++ tail, rfl, hc⟩, h.head, fun d hd => hlast d ?_⟩
  rwa [List.getLast?_append_of_ne_nil _ hne] at hd

end Upright

/-- An upright piece that is no integer is an array, a generic or a name. -/
theorem atom_of_upright {cs : List Char} (h : Upright cs) (hi : isInteger cs = false) :
    atom cs =
      match beforeBrackets cs with
      | some element => (atom element).map (fun _ => .array)
      | none =>
        if '<' ∈ cs then
          if cs.getLast? = some '>' then atom (cs.takeWhile (· != '<'))
          else .error (.unbalancedGeneric (String.ofList cs))
        else nameOf cs := by
  have ht := h.trim
  obtain ⟨c, r, rfl, hc⟩ := h.starts
  simp only [List.mem_cons, List.not_mem_nil, or_false, not_or] at hc
  have hquote : ¬ (c = '\'' ∨ c = '"') := by simp [hc.2]
  have hinteger : ¬ isInteger (c :: r) = true := by simp [hi]
  exact (atom_of_trim ht hc.1).trans ((if_neg hquote).trans (if_neg hinteger))

theorem atom_of_brackets {cs element : List Char} (h : Upright cs) (hb : beforeBrackets cs = some element) :
    atom cs = (atom element).map (fun _ => .array) := by
  have hmem : '[' ∈ cs := by
    rw [beforeBrackets_eq_some_iff.1 hb]
    simp
  rw [atom_of_upright h (isInteger_eq_false hmem (by decide) (by decide)), hb]

theorem atom_of_angle {cs : List Char} (h : Upright cs) (hb : beforeBrackets cs = none) (ho : '<' ∈ cs) :
    atom cs = if cs.getLast? = some '>' then atom (cs.takeWhile (· != '<'))
      else .error (.unbalancedGeneric (String.ofList cs)) := by
  rw [atom_of_upright h (isInteger_eq_false ho (by decide) (by decide)), hb]
  exact if_pos ho

/-! ## Any decorations -/

/-- A piece with question marks in front and array brackets behind. -/
def decorated (questions brackets : Nat) (cs : List Char) : List Char :=
  List.replicate questions '?' ++ (cs ++ (List.replicate brackets ['[', ']']).flatten)

theorem decorated_zero (brackets : Nat) (cs : List Char) :
    decorated 0 brackets cs = cs ++ (List.replicate brackets ['[', ']']).flatten := rfl

theorem decorated_succ (questions brackets : Nat) (cs : List Char) :
    decorated (questions + 1) brackets cs = '?' :: decorated questions brackets cs := rfl

theorem decorated_zero_succ (brackets : Nat) (cs : List Char) :
    decorated 0 (brackets + 1) cs = decorated 0 brackets (cs ++ ['[', ']']) := by
  rw [decorated_zero, decorated_zero, List.replicate_succ, List.flatten_cons, List.append_assoc]

theorem Upright.brackets {cs : List Char} (h : Upright cs) : Upright (cs ++ ['[', ']']) :=
  h.append (by simp) (by simpa using (by decide : Text.isBlank ']' = false))

theorem Upright.decorated_zero : ∀ (brackets : Nat) {cs : List Char}, Upright cs → Upright (decorated 0 brackets cs)
  | 0, cs, h => by
    rwa [PhpDoc.decorated_zero, List.replicate_zero, List.flatten_nil, List.append_nil]
  | brackets + 1, cs, h => by
    rw [decorated_zero_succ]
    exact Upright.decorated_zero brackets h.brackets

/-- What the decorations make of a type. -/
def decoratedType (questions brackets : Nat) (t : PhpType) : PhpType :=
  PhpType.nullable^[questions] (if brackets = 0 then t else .array)

theorem atom_decorated_zero : ∀ (brackets : Nat) {cs : List Char}, Upright cs →
    atom (decorated 0 brackets cs) = (atom cs).map (decoratedType 0 brackets)
  | 0, cs, h => by
    rw [decorated_zero, List.replicate_zero, List.flatten_nil, List.append_nil]
    cases atom cs <;> rfl
  | brackets + 1, cs, h => by
    rw [decorated_zero_succ, atom_decorated_zero brackets h.brackets,
      atom_of_brackets h.brackets (beforeBrackets_eq_some_iff.2 rfl)]
    cases atom cs with
    | error fault => rfl
    | ok t => cases brackets <;> rfl

theorem Upright.last_decorated {cs : List Char} (h : Upright cs) (questions brackets : Nat) :
    ∀ c ∈ (decorated questions brackets cs).getLast?, Text.isBlank c = false := by
  have hup := h.decorated_zero brackets
  obtain ⟨d, r, hd, -⟩ := hup.starts
  have hne : decorated 0 brackets cs ≠ [] := by simp [hd]
  have hsplit : decorated questions brackets cs = List.replicate questions '?' ++ decorated 0 brackets cs := rfl
  intro c hc
  rw [hsplit, List.getLast?_append_of_ne_nil _ hne] at hc
  exact hup.last c hc

theorem trim_decorated_succ {cs : List Char} (h : Upright cs) (questions brackets : Nat) :
    Text.trim (decorated (questions + 1) brackets cs) = '?' :: decorated questions brackets cs := by
  refine Text.trim_of_ends (fun c hc => ?_) (h.last_decorated (questions + 1) brackets)
  rw [decorated_succ] at hc
  cases hc
  decide

/-- **A piece with decorations is read as the decorated type of the piece.** -/
theorem atom_decorated : ∀ (questions brackets : Nat) {cs : List Char}, Upright cs →
    atom (decorated questions brackets cs) = (atom cs).map (decoratedType questions brackets)
  | 0, brackets, _, h => atom_decorated_zero brackets h
  | questions + 1, brackets, cs, h => by
    rw [atom_of_question (trim_decorated_succ h questions brackets), atom_decorated questions brackets h]
    cases atom cs with
    | error fault => rfl
    | ok t => exact congrArg Except.ok (Function.iterate_succ_apply' _ _ _).symm

/-! ## Without decorations -/

/-- What is left of a piece when question marks in front of it, array brackets behind it and blanks are taken away. -/
def undecorated (cs : List Char) : List Char :=
  match _h : Text.trim cs with
  | '?' :: inner => undecorated inner
  | bare =>
    match _hb : beforeBrackets bare with
    | some element => undecorated element
    | none => bare
  termination_by cs.length
  decreasing_by
    · have := length_trim_le cs
      rw [_h, List.length_cons] at this
      omega
    · have := length_trim_le cs
      have := length_beforeBrackets _hb
      rw [_h] at *
      omega

/-- Nothing is left to take away. -/
theorem undecorated_bare (cs : List Char) : Text.trim (undecorated cs) = undecorated cs ∧
    (∀ inner, undecorated cs ≠ '?' :: inner) ∧ beforeBrackets (undecorated cs) = none := by
  fun_induction undecorated cs with
  | case1 _ _ _ ih => exact ih
  | case2 _ _ _ _ ih => exact ih
  | case3 cs hquestion hb => exact ⟨Text.trim_trim cs, hquestion, hb⟩

theorem undecorated_of_question {cs inner : List Char} (ht : Text.trim cs = '?' :: inner) :
    undecorated cs = undecorated inner := by
  rw [undecorated]
  split
  · rename_i h
    rw [ht] at h
    cases h
    rfl
  · rename_i hnot
    exact absurd ht (hnot inner)

theorem undecorated_of_upright {cs : List Char} (h : Upright cs) :
    undecorated cs = (beforeBrackets cs).elim cs undecorated := by
  rw [undecorated, h.trim]
  obtain ⟨c, r, rfl, hc⟩ := h.starts
  split
  · rename_i heq
    obtain ⟨rfl, -⟩ := List.cons.inj heq
    exact absurd List.mem_cons_self hc
  · split <;> rename_i hb <;> rw [hb] <;> rfl

theorem undecorated_decorated_zero : ∀ (brackets : Nat) {cs : List Char}, Upright cs →
    undecorated (decorated 0 brackets cs) = undecorated cs
  | 0, cs, _ => by
    rw [decorated_zero, List.replicate_zero, List.flatten_nil, List.append_nil]
  | brackets + 1, cs, h => by
    rw [decorated_zero_succ, undecorated_decorated_zero brackets h.brackets, undecorated_of_upright h.brackets,
      beforeBrackets_eq_some_iff.2 rfl, Option.elim_some]

/-- **All decorations are taken away.** -/
theorem undecorated_decorated : ∀ (questions brackets : Nat) {cs : List Char}, Upright cs → beforeBrackets cs = none →
    undecorated (decorated questions brackets cs) = cs
  | 0, brackets, cs, h, hb => by
    rw [undecorated_decorated_zero brackets h, undecorated_of_upright h, hb, Option.elim_none]
  | questions + 1, brackets, cs, h, hb => by
    rw [undecorated_of_question (trim_decorated_succ h questions brackets), undecorated_decorated questions brackets h hb]

/-- Characters that mean nothing to the scan. -/
def Unmarked (cs : List Char) : Prop := ∀ c ∈ cs, c ∉ marks

instance (cs : List Char) : Decidable (Unmarked cs) := List.decidableBAll (· ∉ marks) cs

theorem Unmarked.append {a b : List Char} (ha : Unmarked a) (hb : Unmarked b) : Unmarked (a ++ b) := fun c hc =>
  (List.mem_append.1 hc).elim (ha c) (hb c)

theorem unmarked_of_blank {cs : List Char} (h : ∀ c ∈ cs, Text.isBlank c = true) : Unmarked cs := fun c hc =>
  not_mem_of_any_eq_false (p := Text.isBlank) (by decide) (h c hc)

theorem unmarked_of_trim {cs : List Char} (h : Unmarked (Text.trim cs)) : Unmarked cs := by
  obtain ⟨before, after, hcs, hbefore, hafter⟩ := Text.exists_trim cs
  rw [hcs]
  exact (unmarked_of_blank hbefore).append (h.append (unmarked_of_blank hafter))

/-- **A piece stands without its decorations between characters that mean nothing to the scan.** -/
theorem exists_undecorated (cs : List Char) : ∃ before after, cs = before ++ (undecorated cs ++ after) ∧
    Unmarked before ∧ Unmarked after := by
  fun_induction undecorated cs with
  | case1 cs inner ht ih =>
    obtain ⟨before, after, hcs, hbefore, hafter⟩ := Text.exists_trim cs
    obtain ⟨ahead, behind, hinner, hahead, hbehind⟩ := ih
    refine ⟨before ++ ['?'] ++ ahead, behind ++ after, ?_,
      ((unmarked_of_blank hbefore).append (by decide)).append hahead, hbehind.append (unmarked_of_blank hafter)⟩
    rw [ht, hinner] at hcs
    rw [hcs]
    simp
  | case2 cs element _ hb ih =>
    obtain ⟨before, after, hcs, hbefore, hafter⟩ := Text.exists_trim cs
    obtain ⟨ahead, behind, helement, hahead, hbehind⟩ := ih
    refine ⟨before ++ ahead, behind ++ ['[', ']'] ++ after, ?_, (unmarked_of_blank hbefore).append hahead,
      (hbehind.append (by decide)).append (unmarked_of_blank hafter)⟩
    rw [beforeBrackets_eq_some_iff.1 hb, helement] at hcs
    rw [hcs]
    simp
  | case3 cs _ _ =>
    obtain ⟨before, after, hcs, hbefore, hafter⟩ := Text.exists_trim cs
    exact ⟨before, after, hcs, unmarked_of_blank hbefore, unmarked_of_blank hafter⟩

theorem last_of_literal {quote : Char} {cs s : List Char} (h : literal quote cs = some s) :
    cs.getLast? = some quote := by
  rw [literal, beforeClosing] at h
  split at h
  · assumption
  · cases h

theorem upright_of_trim {cs : List Char} {c : Char} {r : List Char} (ht : Text.trim cs = c :: r)
    (hc : c ∉ ['?', '\'', '"']) : Upright (Text.trim cs) :=
  ⟨⟨c, r, ht, hc⟩, Text.isBlank_head_trim cs, Text.isBlank_last_trim cs⟩

/-- **A piece is read only if it is read without its decorations.** -/
theorem exists_ok_undecorated (cs : List Char) : ∀ {t}, atom cs = .ok t → ∃ u, atom (undecorated cs) = .ok u := by
  fun_induction undecorated cs with
  | case1 cs inner ht ih =>
    intro t h
    rw [atom_of_question ht] at h
    obtain ⟨u, hu, -⟩ := map_eq_ok h
    exact ih hu
  | case2 cs element hquestion hb ih =>
    intro t h
    have htext := beforeBrackets_eq_some_iff.1 hb
    rcases ht : Text.trim cs with _ | ⟨c, r⟩
    · rw [ht] at htext
      simp at htext
    have hc : c ≠ '?' := by
      rintro rfl
      exact hquestion r ht
    by_cases hq : c = '\'' ∨ c = '"'
    · -- a literal ends with its quote and not with a bracket
      rw [atom_of_trim ht hc, if_pos hq] at h
      cases hs : literal c r with
      | none =>
        rw [hs] at h
        cases h
      | some s =>
        have hlast : (c :: r).getLast? = some ']' := by
          rw [← ht, htext]
          simp
        rw [List.getLast?_cons, last_of_literal hs] at hlast
        obtain rfl : c = ']' := Option.some.inj hlast
        exact absurd hq (by decide)
    · have hup : Upright (Text.trim cs) := upright_of_trim ht (by simp [hc, hq])
      rw [← atom_trim, atom_of_brackets hup hb] at h
      obtain ⟨u, hu, -⟩ := map_eq_ok h
      exact ih hu
  | case3 cs _ _ =>
    intro t h
    exact ⟨t, (atom_trim cs).trans h⟩

end PhpDoc
end DynamicMembers
