import DynamicMembers.Class.Index
import Mathlib.Data.List.Shortlex
/-!
# Paths up the hierarchy — in breadth-first order

A path up is told by the positions of its steps among the supertypes, the parent standing before the interfaces.  One
path is earlier than another when it is shorter, or as long and to the left where the two part.
-/
namespace DynamicMembers

/-- One path is before another in breadth-first order. -/
abbrev Earlier (p q : List Nat) : Prop := List.Shortlex (· < ·) p q

namespace Earlier

variable {p q r : List Nat}

theorem trans (h : Earlier p q) (h' : Earlier q r) : Earlier p r := by
  rcases List.shortlex_def.1 h with hl | ⟨hl, hpq⟩
  · rcases List.shortlex_def.1 h' with hl' | ⟨hl', -⟩
    · exact .of_length_lt (hl.trans hl')
    · exact .of_length_lt (by omega)
  · rcases List.shortlex_def.1 h' with hl' | ⟨hl', hqr⟩
    · exact .of_length_lt (by omega)
    · exact .of_lex (hl.trans hl') (List.lt_trans hpq hqr)

theorem irrefl (p : List Nat) : ¬Earlier p p := Std.Irrefl.irrefl p

theorem nil_concat (p : List Nat) (i : Nat) : Earlier [] (p ++ [i]) := .of_length_lt (by simp)

theorem concat_of_lex (h : List.Lex (· < ·) p q) (hlength : p.length = q.length) (i j : Nat) :
    List.Lex (· < ·) (p ++ [i]) (q ++ [j]) := by
  induction h with
  | nil => cases hlength
  | rel hab => exact .rel hab
  | cons _ ih => exact .cons (ih (Nat.succ.inj hlength))

/-- A step further, the earlier of two paths is still the earlier one, whatever the steps. -/
theorem concat (h : Earlier p q) (i j : Nat) : Earlier (p ++ [i]) (q ++ [j]) := by
  rcases List.shortlex_def.1 h with hlength | ⟨hlength, hlex⟩
  · exact .of_length_lt (by simpa using hlength)
  · exact .of_lex (by simpa using hlength) (concat_of_lex hlex hlength i j)

theorem concat_of_lt (p : List Nat) {i j : Nat} (h : i < j) : Earlier (p ++ [i]) (p ++ [j]) :=
  List.Shortlex.append_left ((List.shortlex_singleton_iff i j).2 h) p

/-- In a list sorted by paths, whatever stands in front is earlier and whatever stands behind is later. -/
theorem of_split {α : Type} {front back : List (List Nat × α)} {e : List Nat × α}
    (h : ((front ++ e :: back).map Prod.fst).Pairwise Earlier) :
    (∀ f ∈ front, Earlier f.1 e.1) ∧ ∀ f ∈ back, Earlier e.1 f.1 := by
  rw [List.map_append, List.pairwise_append, List.map_cons, List.pairwise_cons] at h
  exact ⟨fun f hf => h.2.2 f.1 (List.mem_map_of_mem hf) e.1 List.mem_cons_self,
    fun f hf => h.2.1.1 f.1 (List.mem_map_of_mem hf)⟩

end Earlier

/-- One path is the other or before it. -/
def NoLater (p q : List Nat) : Prop := p = q ∨ Earlier p q

namespace NoLater

variable {p q r : List Nat}

theorem trans_earlier (h : NoLater p q) (h' : Earlier q r) : Earlier p r := by
  rcases h with rfl | h
  · exact h'
  · exact h.trans h'

theorem earlier_trans (h' : NoLater q r) (h : Earlier p q) : Earlier p r := by
  rcases h' with rfl | h'
  · exact h
  · exact h.trans h'

theorem trans (h : NoLater p q) (h' : NoLater q r) : NoLater p r := by
  rcases h' with rfl | h'
  · exact h
  · exact .inr (h.trans_earlier h')

theorem concat (h : NoLater p q) (i : Nat) : NoLater (p ++ [i]) (q ++ [i]) :=
  h.imp (congrArg (· ++ [i])) (·.concat i i)

theorem concat_of_le (p : List Nat) {i j : Nat} (h : i ≤ j) : NoLater (p ++ [i]) (p ++ [j]) :=
  (Nat.eq_or_lt_of_le h).imp (fun heq => by rw [heq]) (.concat_of_lt p)

theorem length_le (h : NoLater p q) : p.length ≤ q.length := by
  rcases h with rfl | h
  · exact Nat.le_refl _
  · rcases List.shortlex_def.1 h with hlt | ⟨heq, -⟩
    · exact Nat.le_of_lt hlt
    · exact Nat.le_of_eq heq

end NoLater

namespace ClassIndex

variable (x : ClassIndex)

/-- The name at the end of a path up from a name, registered or not; on the way every class is registered. -/
def nameAt (start : String) : List Nat → Option String
  | [] => some start
  | i :: path => (x.find? start).bind fun c => c.supertypes[i]?.bind fun s => nameAt s path

theorem nameAt_concat (i : Nat) : ∀ (start : String) (path : List Nat), x.nameAt start (path ++ [i]) =
    (x.nameAt start path).bind fun name => (x.find? name).bind fun c => c.supertypes[i]?
  | start, [] => by simp [nameAt]
  | start, j :: path => by
    simp only [List.cons_append, nameAt, Option.bind_assoc, nameAt_concat i _ path]

end ClassIndex
end DynamicMembers
