import DynamicMembers.Proofs.Answer
import DynamicMembers.Proofs.Value.Atoms
import DynamicMembers.Proofs.Value.Union
/-!
# Printing and reading types — each undoes the other

A normal type with proper class names is read back from its printed form, whatever its literals hold, and every type
that is read from a text is such a type.
-/
namespace DynamicMembers
namespace PhpType

/-- The class names of a type are words with separators between them. -/
def WellNamed (t : PhpType) : Prop := ∀ name, named name ∈ t.members → PhpDoc.isClassPath name.toList = true

theorem wellNamed_of_mem {t m : PhpType} (h : t.WellNamed) (ht : t.Normalized) (hm : m ∈ t.members) : m.WellNamed := by
  intro name hname
  rw [members_of_not_union (not_union_of_mem_members ht hm)] at hname
  rw [List.mem_singleton] at hname
  exact h name (hname ▸ hm)

theorem joined_eq_join : ∀ l : List PhpType, joined l = Text.join '|' (l.map chars)
  | [] => rfl
  | [_] => rfl
  | t :: u :: l => by
    rw [joined, joined_eq_join (u :: l)]
    · rfl
    · exact List.cons_ne_nil u l

theorem chars_eq_join (t : PhpType) : t.chars = Text.join '|' (t.members.map chars) := by
  cases t with
  | union l => exact joined_eq_join l
  | _ => rfl

end PhpType

namespace PhpDoc

open PhpType (WellNamed)

/-- **The printed form of a type that is no union is read as that type.** -/
theorem atom_chars {t : PhpType} (hu : t.isUnion = false) (hw : t.WellNamed) : atom t.chars = .ok t := by
  cases t with
  | union l => cases hu
  | named name => exact atom_separated (hw name List.mem_cons_self)
  | intLiteral w => exact atom_writeInt w
  | stringLiteral s => exact (atom_escape s.toList).trans (by rw [String.ofList_toList])
  | boolLiteral b => cases b <;> exact (atom_letters (by decide) (by decide)).trans rfl
  | _ => exact (atom_letters (by decide) (by decide)).trans rfl

/-- The printed form of a type that is no union is one piece. -/
theorem closed_chars {t : PhpType} (hu : t.isUnion = false) (hw : t.WellNamed) : Closed t.chars := by
  cases t with
  | union l => cases hu
  | named name =>
    refine closed_of_unmarked (fun c hc => ?_)
    rcases List.mem_cons.1 hc with rfl | hc
    · decide
    · rcases mem_classPath (hw name List.mem_cons_self) c hc with rfl | hp
      · decide
      · exact not_mem_of_any_eq_false (p := isWordPart) (by decide) hp
  | intLiteral w =>
    refine closed_of_unmarked (fun c hc => ?_)
    rcases mem_writeInt hc with rfl | hd
    · decide
    · exact not_mem_of_any_eq_false (p := Char.isDigit) (by decide) hd
  | stringLiteral s => exact closed_quoted s.toList
  | boolLiteral b => cases b <;> exact closed_of_letters (by decide)
  | _ => exact closed_of_letters (by decide)

theorem mapM_atom_chars : ∀ {l : List PhpType}, (∀ t ∈ l, atom t.chars = .ok t) →
    (l.map PhpType.chars).mapM atom = .ok l
  | [], _ => rfl
  | t :: l, h => by
    have ih := mapM_atom_chars (fun u hu => h u (List.mem_cons_of_mem t hu))
    rw [List.map_cons, List.mapM_cons, h t List.mem_cons_self, ih]
    rfl

/-- **The printed forms of types that are no unions, with bars between them, are read as the union of these types.** -/
theorem read_join {types : List PhpType} (hne : types ≠ []) (h : ∀ t ∈ types, t.isUnion = false ∧ t.WellNamed) :
    read (Text.join '|' (types.map PhpType.chars)) = .ok (.unionOf types) := by
  have hp : pieces (.plain 0) (Text.join '|' (types.map PhpType.chars)) = some (types.map PhpType.chars) := by
    refine pieces_join (by simpa using hne) (fun p hp => ?_)
    obtain ⟨t, ht, rfl⟩ := List.mem_map.1 hp
    exact closed_chars (h t ht).1 (h t ht).2
  rw [read, hp]
  simp only [mapM_atom_chars (fun t ht => atom_chars (h t ht).1 (h t ht).2)]
  rfl

/-- **A normal type with proper class names is read from its printed form.** -/
theorem read_chars {t : PhpType} (hn : t.Normalized) (hw : t.WellNamed) : read t.chars = .ok t := by
  have hu : ∀ m ∈ t.members, m.isUnion = false ∧ m.WellNamed := fun m hm =>
    ⟨PhpType.not_union_of_mem_members hn hm, PhpType.wellNamed_of_mem hw hn hm⟩
  rw [PhpType.chars_eq_join, read_join (PhpType.members_ne_nil hn) hu, PhpType.unionOf_members hn]

/-! ## What is read -/

def Proper (t : PhpType) : Prop := t.Normalized ∧ t.WellNamed

theorem proper_of_plain {t : PhpType} (hu : t.isUnion = false) (hn : ∀ name, t ≠ .named name) : Proper t := by
  refine ⟨PhpType.normalized_of_not_union hu, fun name hm => ?_⟩
  rw [PhpType.members_of_not_union hu] at hm
  exact absurd (List.mem_singleton.1 hm).symm (hn name)

theorem proper_unionOf {types : List PhpType} (h : ∀ t ∈ types, Proper t) : Proper (.unionOf types) := by
  have hn : ∀ t ∈ types, t.Normalized := fun t ht => (h t ht).1
  refine ⟨PhpType.unionOf_normalized hn, fun name hm => ?_⟩
  rcases PhpType.mem_members_unionOf hn hm with hm | ⟨t, ht, hm⟩
  · cases hm
  · exact (h t ht).2 name hm

theorem proper_nullable {t : PhpType} (h : Proper t) : Proper t.nullable := by
  refine proper_unionOf (fun u hu => ?_)
  rcases List.mem_cons.1 hu with rfl | hu
  · exact h
  · rw [List.mem_singleton.1 hu]
    exact proper_of_plain rfl (by simp)

theorem keyword_plain {cs : List Char} {t : PhpType} (h : keyword cs = some t) :
    t.isUnion = false ∧ ∀ name, t ≠ .named name := by
  unfold keyword at h
  split at h
  all_goals cases h
  all_goals exact ⟨rfl, by simp⟩

theorem isClassPath_bare {cs : List Char} (h : isClassName cs = true) :
    isClassPath (Name.bare (String.ofList cs)).toList = true := by
  rw [Name.bare, String.toList_ofList, String.toList_ofList]
  unfold isClassName at h
  split at h
  · rw [List.dropWhile_cons_of_pos rfl, dropSeparators_of_classPath h]
    exact h
  · rw [dropSeparators_of_classPath h]
    exact h

theorem nameOf_proper {cs : List Char} {t : PhpType} (h : nameOf cs = .ok t) : Proper t := by
  unfold nameOf at h
  split at h
  · rename_i hk
    cases h
    exact proper_of_plain (keyword_plain hk).1 (keyword_plain hk).2
  · split at h
    · rename_i hc
      cases h
      refine ⟨trivial, fun name hm => ?_⟩
      have hname : PhpType.named name = .named (Name.bare (String.ofList cs)) := List.mem_singleton.1 hm
      cases hname
      exact isClassPath_bare hc
    · cases h

theorem integer_plain {cs : List Char} {t : PhpType} (h : integer cs = .ok t) :
    t.isUnion = false ∧ ∀ name, t ≠ .named name := by
  unfold integer at h
  split at h
  · cases h
  · split at h
    · cases h
      exact ⟨rfl, by simp⟩
    · cases h

theorem atom_proper (cs : List Char) : ∀ {t : PhpType}, atom cs = .ok t → Proper t := by
  fun_induction atom cs with
  | case1 | case4 | case8 =>
    intro t h
    cases h
  | case2 _ inner _ ih =>
    intro t h
    obtain ⟨u, hu, rfl⟩ := map_eq_ok h
    exact proper_nullable (ih hu)
  | case3 =>
    intro t h
    cases h
    exact proper_of_plain rfl (by simp)
  | case5 =>
    intro t h
    exact proper_of_plain (integer_plain h).1 (integer_plain h).2
  | case6 =>
    intro t h
    obtain ⟨_, -, rfl⟩ := map_eq_ok h
    exact proper_of_plain rfl (by simp)
  | case7 _ _ _ _ _ _ _ _ _ _ ih =>
    intro t h
    exact ih h
  | case9 =>
    intro t h
    exact nameOf_proper h

theorem mapM_atom_proper : ∀ {ps : List (List Char)} {types : List PhpType}, ps.mapM atom = .ok types →
    ∀ t ∈ types, Proper t
  | [], types, h, t, ht => by
    cases h
    cases ht
  | p :: ps, types, h, t, ht => by
    rw [List.mapM_cons] at h
    cases hp : atom p with
    | error fault =>
      rw [hp] at h
      cases h
    | ok u =>
      cases hps : ps.mapM atom with
      | error fault =>
        rw [hp, hps] at h
        cases h
      | ok us =>
        rw [hp, hps] at h
        cases h
        rcases List.mem_cons.1 ht with rfl | ht
        · exact atom_proper p hp
        · exact mapM_atom_proper hps t ht

/-- **Whatever is read is normal and has proper class names.** -/
theorem read_proper {cs : List Char} {t : PhpType} (h : read cs = .ok t) : Proper t := by
  unfold read at h
  split at h
  · cases h
  · obtain ⟨types, htypes, rfl⟩ := map_eq_ok h
    exact proper_unionOf (mapM_atom_proper htypes)

theorem resolve_ok_iff {text : String} {t : PhpType} : resolve text = .ok t ↔ read text.toList = .ok t := by
  unfold resolve
  cases read text.toList with
  | ok u => simp
  | error fault => simp

/-- **Printing and reading types are inverse.**  A normal type whose class names are words with separators between them
is read back from its text; and what is read from any text is such a type. -/
theorem resolve_text :
    (∀ t : PhpType, t.Normalized → t.WellNamed → resolve t.text = .ok t) ∧
    ∀ (text : String) (t : PhpType), resolve text = .ok t →
      t.Normalized ∧ t.WellNamed ∧ resolve t.text = .ok t := by
  have hback : ∀ t : PhpType, t.Normalized → t.WellNamed → resolve t.text = .ok t := by
    intro t hn hw
    rw [resolve_ok_iff, PhpType.text, String.toList_ofList]
    exact read_chars hn hw
  refine ⟨hback, fun text t h => ?_⟩
  obtain ⟨hn, hw⟩ := read_proper (resolve_ok_iff.1 h)
  exact ⟨hn, hw, hback t hn hw⟩

/-- A union of what is hard to print: quotes, bars and brackets in a literal, the least word, a class named by a
keyword. -/
def awkwardUnion : PhpType :=
  .union [.stringLiteral " |'\\<", .intLiteral Int64.minValue, .named "int", .named "App\\_Model1", .null]

theorem resolve_text_awkward :
    awkwardUnion.Normalized ∧ awkwardUnion.WellNamed ∧ resolve awkwardUnion.text = .ok awkwardUnion := by
  have hn : awkwardUnion.Normalized := by
    refine ⟨by decide, by decide, by decide⟩
  have hw : awkwardUnion.WellNamed := by
    intro name hm
    simp only [awkwardUnion, PhpType.members, List.mem_cons, PhpType.named.injEq, List.not_mem_nil, reduceCtorEq,
      or_false, false_or] at hm
    rcases hm with rfl | rfl <;> rfl
  exact resolve_text.2 _ _ (resolve_text.1 awkwardUnion hn hw)

end PhpDoc
end DynamicMembers
