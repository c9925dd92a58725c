import DynamicMembers.Proofs.Value.Algebra
import DynamicMembers.Proofs.Value.Balance
import DynamicMembers.Proofs.Value.RoundTrip
import Mathlib
/-!
# Bars — reading two texts with a bar between them

Behind a text that leaves no quote and no bracket open a bar cuts, so the pieces of both texts are read one after the
other: the two texts are read as the union of what each is read as, or turned down for the first fault of either
(`resolve_bar`).
-/
namespace DynamicMembers
namespace PhpDoc

/-- What is read is the union of what the pieces are read as. -/
theorem read_eq_ok_iff {cs : List Char} {t : PhpType} : read cs = .ok t ↔
    ∃ ps types, pieces (.plain 0) cs = some ps ∧ ps.mapM atom = .ok types ∧ t = .unionOf types := by
  rw [read]
  cases pieces (.plain 0) cs with
  | none => simp
  | some ps =>
    constructor
    · intro h
      obtain ⟨types, htypes, rfl⟩ := map_eq_ok h
      exact ⟨ps, types, rfl, htypes, rfl⟩
    · rintro ⟨qs, types, hqs, htypes, rfl⟩
      cases hqs
      simp only [htypes]
      rfl

theorem exists_pieces_of_read {cs : List Char} {t : PhpType} (h : read cs = .ok t) :
    ∃ ps, pieces (.plain 0) cs = some ps := by
  obtain ⟨ps, -, hps, -⟩ := read_eq_ok_iff.1 h
  exact ⟨ps, hps⟩

/-- A text that is read leaves no bracket open, and if no quote either, it is balanced. -/
theorem balanced_of_read {cs : List Char} {t : PhpType} (h : read cs = .ok t) (hquotes : QuotesClosed cs) :
    Balanced cs := by
  obtain ⟨ps, hps⟩ := exists_pieces_of_read h
  obtain ⟨s, hrun, hdepth⟩ := isSome_pieces_iff.1 (Option.isSome_iff_exists.2 ⟨ps, hps⟩)
  obtain ⟨d, hd⟩ := hquotes
  rw [hd] at hrun
  cases hrun
  rw [Balanced, hd]
  exact congrArg (fun d => some (Scan.plain d)) hdepth

theorem ne_nil_of_mapM_atom {ps : List (List Char)} {types : List PhpType} (hps : ps ≠ [])
    (h : ps.mapM atom = .ok types) : types ≠ [] := by
  rintro rfl
  cases mapM_eq_ok_iff.1 h
  exact hps rfl

/-- **Two texts with a bar between them are read one after the other**, when the first is balanced and the second can be
cut into pieces. -/
theorem read_bar {a b : List Char} (ha : Balanced a) {qs : List (List Char)} (hb : pieces (.plain 0) b = some qs) :
    read (a ++ '|' :: b) = (read a).bind (fun x => (read b).map (fun y => .unionOf [x, y])) := by
  obtain ⟨ps, hps⟩ := Scan.exists_pieces ha rfl
  rw [read, read, read, pieces_append_bar ha, hps, hb, Option.bind_some, Option.map_some]
  simp only [List.mapM_append]
  cases hxs : ps.mapM atom with
  | error fault => rfl
  | ok xs =>
    cases hys : qs.mapM atom with
    | error fault => rfl
    | ok ys =>
      have hpair : PhpType.unionOf [.unionOf xs, .unionOf ys] = .unionOf (xs ++ ys) :=
        PhpType.unionOf_pair (fun t ht => (mapM_atom_proper hxs t ht).1) (fun t ht => (mapM_atom_proper hys t ht).1)
          (ne_nil_of_mapM_atom (pieces_ne_nil hps) hxs) (ne_nil_of_mapM_atom (pieces_ne_nil hb) hys)
      exact congrArg Except.ok hpair.symm

/-! ## Texts -/

theorem resolve_eq_error_iff {text : String} {e : InferenceError} :
    resolve text = .error e ↔ ∃ fault, read text.toList = .error fault ∧ e = .unresolvedType text fault := by
  unfold resolve
  cases read text.toList with
  | ok t => simp
  | error fault => simp [eq_comm]

theorem toList_bar (a b : String) : (a ++ "|" ++ b).toList = a.toList ++ '|' :: b.toList := by
  rw [String.toList_append, String.toList_append, List.append_assoc]
  rfl

/-- **Reading is a homomorphism for unions.**  Two texts that are read, the first with no quote open at its end, are with
a bar between them read as the union of both types; and of two balanced texts, one turned down, the whole is turned down,
for the fault of the first that is. -/
theorem resolve_bar (a b : String) :
    (∀ x y, resolve a = .ok x → resolve b = .ok y → QuotesClosed a.toList →
      resolve (a ++ "|" ++ b) = .ok (.unionOf [x, y])) ∧
    (Balanced a.toList → Balanced b.toList → ∀ e, resolve a = .error e ∨ resolve b = .error e →
      ∃ fault, resolve (a ++ "|" ++ b) = .error (.unresolvedType (a ++ "|" ++ b) fault) ∧
        (resolve a = .error (.unresolvedType a fault) ∨
          (∃ x, resolve a = .ok x) ∧ resolve b = .error (.unresolvedType b fault))) := by
  constructor
  · intro x y hx hy hquotes
    rw [resolve_ok_iff] at hx hy ⊢
    obtain ⟨qs, hqs⟩ := exists_pieces_of_read hy
    rw [toList_bar, read_bar (balanced_of_read hx hquotes) hqs, hx, hy]
    rfl
  · intro ha hb e he
    obtain ⟨qs, hqs⟩ := Scan.exists_pieces hb rfl
    have hbar := read_bar ha hqs
    rw [← toList_bar] at hbar
    cases hx : read a.toList with
    | error fault =>
      rw [hx] at hbar
      exact ⟨fault, resolve_eq_error_iff.2 ⟨fault, hbar, rfl⟩, Or.inl (resolve_eq_error_iff.2 ⟨fault, hx, rfl⟩)⟩
    | ok x =>
      have hok : resolve a = .ok x := resolve_ok_iff.2 hx
      have hrefused : resolve b = .error e := by
        rcases he with he | he
        · rw [hok] at he
          cases he
        · exact he
      obtain ⟨fault, hy, rfl⟩ := resolve_eq_error_iff.1 hrefused
      rw [hx, hy] at hbar
      exact ⟨fault, resolve_eq_error_iff.2 ⟨fault, hbar, rfl⟩, Or.inr ⟨⟨x, hok⟩, hrefused⟩⟩

/-- A literal with a bar and a quote in it in front of a text that leaves a quote open, and an accepted text in front of
one that is turned down. -/
theorem resolve_bar_literal :
    let literal := "?bool<int|'>'>|\"a|\\\"\""
    resolve literal = .ok (.union [.bool, .null, .stringLiteral "a|\""]) ∧ QuotesClosed literal.toList ∧
    resolve "null|bool<int>'>" = .ok (.union [.null, .bool]) ∧
    resolve (literal ++ "|" ++ "null|bool<int>'>") =
      .ok (.unionOf [.union [.bool, .null, .stringLiteral "a|\""], .union [.null, .bool]]) ∧
    Balanced literal.toList ∧ Balanced "null|?".toList ∧
    resolve "null|?" = .error (.unresolvedType "null|?" .emptyMember) ∧
    ∃ fault, resolve (literal ++ "|" ++ "null|?") = .error (.unresolvedType (literal ++ "|" ++ "null|?") fault) := by
  intro literal
  have hliteral : resolve literal = .ok (.union [.bool, .null, .stringLiteral "a|\""]) := by cbv
  have hopen : resolve "null|bool<int>'>" = .ok (.union [.null, .bool]) := by cbv
  have hrefused : resolve "null|?" = .error (.unresolvedType "null|?" .emptyMember) := by cbv
  have hbalanced : Balanced literal.toList := by decide
  have hrest : Balanced "null|?".toList := by decide
  obtain ⟨fault, hfault, -⟩ := (resolve_bar literal "null|?").2 hbalanced hrest _ (Or.inr hrefused)
  exact ⟨hliteral, hbalanced.quotesClosed, hopen,
    (resolve_bar literal "null|bool<int>'>").1 _ _ hliteral hopen hbalanced.quotesClosed,
    hbalanced, hrest, hrefused, fault, hfault⟩

end PhpDoc
end DynamicMembers
