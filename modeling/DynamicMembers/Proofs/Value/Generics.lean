import DynamicMembers.Proofs.Value.Names
import DynamicMembers.Proofs.Value.Bars
/-!
# Generics — a name with arguments in angle brackets

The arguments of a generic are dropped.  Where they are balanced they stay within their piece, and a name is read with
them as without them, under any decorations (`resolve_generic`).
-/
namespace DynamicMembers
namespace PhpDoc

/-- A base with arguments in angle brackets. -/
def generic (base args : List Char) : List Char := base ++ '<' :: (args ++ ['>'])

section Generic

variable {base args : List Char}

theorem getLast?_generic (base args : List Char) : (generic base args).getLast? = some '>' := by
  rw [generic, ← List.cons_append, ← List.append_assoc, List.getLast?_concat]

theorem beforeBrackets_generic (base args : List Char) : beforeBrackets (generic base args) = none := by
  cases h : beforeBrackets (generic base args) with
  | none => rfl
  | some element =>
    have hlast := getLast?_generic base args
    rw [beforeBrackets_eq_some_iff.1 h] at hlast
    simp at hlast

theorem takeWhile_angle (h : '<' ∉ base) (rest : List Char) : (base ++ '<' :: rest).takeWhile (· != '<') = base := by
  refine (Text.span_append (fun c hc => ?_) (fun c hc => ?_)).1
  · simpa using fun heq : c = '<' => h (heq ▸ hc)
  · cases hc
    rfl

theorem Upright.generic (h : Upright base) (args : List Char) : Upright (generic base args) := by
  refine h.append (List.cons_ne_nil _ _) (fun c hc => ?_)
  rw [← List.cons_append, List.getLast?_concat] at hc
  cases hc
  decide

/-- The arguments are dropped. -/
theorem atom_generic (h : Upright (generic base args)) (hangle : '<' ∉ base) : atom (generic base args) = atom base := by
  rw [atom_of_angle h (beforeBrackets_generic base args) (by simp [generic]), if_pos (getLast?_generic base args),
    generic, takeWhile_angle hangle]

/-- A piece with a `<` that is read ends with a `>`, and is read as what stands in front of the `<`. -/
theorem exists_generic_of_atom {cs : List Char} (h : Upright cs) (hb : beforeBrackets cs = none) (hangle : '<' ∈ cs)
    {t : PhpType} (ht : atom cs = .ok t) : ∃ base args, cs = generic base args ∧ '<' ∉ base ∧ atom base = .ok t := by
  rw [atom_of_angle h hb hangle] at ht
  split at ht
  · rename_i hlast
    obtain ⟨base, rest, rfl, hbase⟩ := List.eq_append_cons_of_mem hangle
    have hrest : rest.getLast? = some '>' := by
      rw [List.getLast?_append_of_ne_nil _ (List.cons_ne_nil _ _)] at hlast
      cases rest with
      | nil => cases hlast
      | cons c rest => rwa [List.getLast?_cons_cons] at hlast
    obtain ⟨args, rfl⟩ := List.getLast?_eq_some_iff.1 hrest
    rw [takeWhile_angle hbase] at ht
    exact ⟨base, args, rfl, hbase, ht⟩
  · cases ht

end Generic

/-! ## Arguments that balance -/

theorem closed_generic {base args : List Char} (hbase : Unmarked base) (hargs : Balanced args) :
    Closed (generic base args) := by
  have hinside : (Scan.plain 1).through args = some (.plain 1) := Scan.through_inside hargs
  rw [Closed, generic, Scan.through_append, Scan.through_of_unmarked 0 hbase, Option.bind_some,
    Scan.through_cons (t := .plain 1) (by simp) (by simp [Scan.step]), Scan.through_append, hinside, Option.bind_some,
    Scan.through_cons (t := .plain 0) (by simp) (by simp [Scan.step])]
  rfl

theorem closed_decorated {cs : List Char} (h : Closed cs) (questions brackets : Nat) :
    Closed (decorated questions brackets cs) := by
  have hquestions : Unmarked (List.replicate questions '?') := by
    intro c hc
    rw [List.eq_of_mem_replicate hc]
    decide
  have hbrackets : Unmarked (List.replicate brackets ['[', ']']).flatten := by
    intro c hc
    obtain ⟨l, hl, hc⟩ := List.mem_flatten.1 hc
    rw [List.eq_of_mem_replicate hl] at hc
    exact (by decide : Unmarked ['[', ']']) c hc
  rw [Closed, decorated, Scan.through_append, Scan.through_of_unmarked 0 hquestions, Option.bind_some,
    Scan.through_append, h, Option.bind_some, Scan.through_of_unmarked 0 hbrackets]

theorem read_of_closed {cs : List Char} (h : Closed cs) : read cs = (atom cs).map (fun t => .unionOf [t]) := by
  rw [read, pieces_of_closed h]
  simp only [List.mapM_cons, List.mapM_nil]
  cases atom cs <;> rfl

/-- **Balanced arguments do not matter.**  A keyword or class name is read, bare or with any question marks in front and
array brackets behind, and is read the same with any balanced arguments in angle brackets. -/
theorem resolve_generic (base args : String) (hbase : IsName base.toList) (hargs : Balanced args.toList)
    (questions brackets : Nat) :
    resolve (String.ofList (decorated questions brackets (base ++ "<" ++ args ++ ">").toList)) =
      resolve (String.ofList (decorated questions brackets base.toList)) ∧
    ∃ t, resolve (String.ofList (decorated questions brackets base.toList)) = .ok t := by
  have htext : (base ++ "<" ++ args ++ ">").toList = generic base.toList args.toList := by
    rw [String.toList_append, String.toList_append, String.toList_append, generic, List.append_assoc, List.append_assoc]
    rfl
  have hangle : '<' ∉ base.toList := hbase.not_mem (by decide) (by decide) (by decide)
  have hup := hbase.upright.generic args.toList
  obtain ⟨t, ht⟩ := hbase.exists_atom
  have hbare : resolve (String.ofList (decorated questions brackets base.toList)) =
      .ok (.unionOf [decoratedType questions brackets t]) := by
    have hclosed : Closed base.toList := closed_of_unmarked hbase.unmarked
    rw [resolve_ok_iff, String.toList_ofList, read_of_closed (closed_decorated hclosed _ _),
      atom_decorated _ _ hbase.upright, ht]
    rfl
  have hfull : resolve (String.ofList (decorated questions brackets (base ++ "<" ++ args ++ ">").toList)) =
      .ok (.unionOf [decoratedType questions brackets t]) := by
    have hclosed : Closed (generic base.toList args.toList) := closed_generic hbase.unmarked hargs
    rw [resolve_ok_iff, String.toList_ofList, htext, read_of_closed (closed_decorated hclosed _ _),
      atom_decorated _ _ hup, atom_generic hup hangle, ht]
    rfl
  exact ⟨hfull.trans hbare.symm, _, hbare⟩

/-- Arguments with bars, nested brackets, brackets in quotes and escaped quotes. -/
def crowdedArguments : String := "int|'>|\\'<', Map<(A|B)[], \"]\\\"\">|?C, ''"

theorem resolve_generic_crowded :
    IsName "\\App\\Box".toList ∧ Balanced crowdedArguments.toList ∧
    resolve (String.ofList (decorated 2 1 ("\\App\\Box" ++ "<" ++ crowdedArguments ++ ">").toList)) =
      resolve (String.ofList (decorated 2 1 "\\App\\Box".toList)) := by
  have hname : IsName "\\App\\Box".toList := Or.inr (by decide)
  have hbalanced : Balanced crowdedArguments.toList := by decide
  exact ⟨hname, hbalanced, (resolve_generic "\\App\\Box" crowdedArguments hname hbalanced 2 1).1⟩

end PhpDoc
end DynamicMembers
