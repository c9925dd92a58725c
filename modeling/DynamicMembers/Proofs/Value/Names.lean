import DynamicMembers.Proofs.Text.Case
import DynamicMembers.Proofs.Value.Decorations
/-!
# Names — keywords and class names as pieces

A name has word characters, separators and hyphens only, so that it has nothing in it that a piece is decided by before
its name is looked up, and nothing that means anything to the scan; and every name is read (`IsName.exists_atom`).
-/
namespace DynamicMembers
namespace PhpDoc

/-- A keyword or a class name. -/
def IsName (cs : List Char) : Prop := (keyword cs).isSome = true ∨ isClassName cs = true

theorem isDigit_of_isWordStart {c : Char} (h : isWordStart c = true) : c.isDigit = false := by
  by_contra hd
  have hdigit : 48 ≤ c.toNat ∧ c.toNat ≤ 57 := Char.isDigit_iff_toNat.1 (by simpa using hd)
  rcases Bool.or_eq_true_iff.1 h with h | h
  · rcases Bool.or_eq_true_iff.1 h with h | h
    · have hupper := Text.toNat_of_isUpper h
      omega
    · have hlower := Text.toNat_of_isLower h
      omega
  · obtain rfl : c = '_' := by simpa using h
    exact absurd hdigit (by decide)

/-- The lower-case letters of a keyword, which may have hyphens between them. -/
theorem keyword_letters {cs : List Char} (h : (keyword cs).isSome = true) :
    (cs.map Char.toLower).all (fun c => c == '-' || c.isLower) = true ∧ (cs.map Char.toLower).any Char.isLower = true := by
  have hword : (Text.lower (String.ofList cs)).toList = cs.map Char.toLower := by
    rw [Text.toList_lower, String.toList_ofList]
  rw [← hword]
  unfold keyword at h
  split at h
  all_goals first | (rename_i hw; rw [hw]; decide) | cases h

theorem isName_of_nameOf {cs : List Char} {t : PhpType} (h : nameOf cs = .ok t) : IsName cs := by
  unfold nameOf at h
  split at h
  · rename_i hk
    exact Or.inl (by rw [hk]; rfl)
  · split at h
    · rename_i hc
      exact Or.inr hc
    · cases h

namespace IsName

variable {cs : List Char}

theorem mem (h : IsName cs) : ∀ c ∈ cs, c = '\\' ∨ c = '-' ∨ isWordPart c = true := by
  rcases h with h | h
  · intro c hc
    have hletter := List.all_eq_true.1 (keyword_letters h).1 c.toLower (List.mem_map_of_mem hc)
    rcases Bool.or_eq_true_iff.1 hletter with hminus | hlower
    · exact Or.inr (Or.inl ((toLower_eq_iff (by decide)).1 (by simpa using hminus)))
    · rw [← isWordPart_toLower]
      simp [isWordPart, Char.isAlphanum, Char.isAlpha, hlower]
  · unfold isClassName at h
    split at h
    · refine List.forall_mem_cons.2 ⟨Or.inl rfl, fun c hc => ?_⟩
      exact (mem_classPath h c hc).imp_right Or.inr
    · exact fun c hc => (mem_classPath h c hc).imp_right Or.inr

/-- A name is no integer. -/
theorem exists_mem (h : IsName cs) : ∃ c ∈ cs, c ≠ '-' ∧ c.isDigit = false := by
  rcases h with h | h
  · obtain ⟨d, hd, hlower⟩ := List.any_eq_true.1 (keyword_letters h).2
    obtain ⟨c, hc, rfl⟩ := List.mem_map.1 hd
    refine ⟨c, hc, ?_, ?_⟩
    · rintro rfl
      exact absurd hlower (by decide)
    · rw [← isDigit_toLower, isDigit_of_isLower hlower]
  · unfold isClassName at h
    split at h
    · exact ⟨'\\', List.mem_cons_self, by decide, by decide⟩
    · rename_i hnot
      cases cs with
      | nil => cases h
      | cons c r =>
        have hc : c ≠ '\\' := by
          rintro rfl
          exact hnot r rfl
        have hstart : isWordStart c = true := by
          rw [Text.split, if_neg hc] at h
          cases hs : Text.split '\\' r with
          | nil => exact absurd hs (Text.split_ne_nil _ _)
          | cons w ws =>
            rw [hs, Text.onHead, List.all_cons, isWord, Bool.and_eq_true, Bool.and_eq_true] at h
            exact h.1.1
        refine ⟨c, List.mem_cons_self, ?_, ?_⟩
        · rintro rfl
          exact absurd hstart (by decide)
        · exact isDigit_of_isWordStart hstart

theorem not_mem (h : IsName cs) {c : Char} (hsep : c ≠ '\\') (hminus : c ≠ '-') (hpart : isWordPart c = false) :
    c ∉ cs := by
  intro hc
  rcases h.mem c hc with h | h | h
  · exact hsep h
  · exact hminus h
  · rw [hpart] at h
    cases h

theorem isBlank (h : IsName cs) : ∀ c ∈ cs, Text.isBlank c = false := by
  intro c hc
  rcases h.mem c hc with rfl | rfl | h
  · decide
  · decide
  · exact isBlank_of_isWordPart h

theorem unmarked (h : IsName cs) : Unmarked cs := by
  intro c hc
  rcases h.mem c hc with rfl | rfl | h
  · decide
  · decide
  · exact not_mem_of_any_eq_false (p := isWordPart) (by decide) h

theorem upright (h : IsName cs) : Upright cs where
  starts := by
    obtain ⟨c, hc, -⟩ := h.exists_mem
    cases cs with
    | nil => cases hc
    | cons d r =>
      refine ⟨d, r, rfl, ?_⟩
      rcases h.mem d List.mem_cons_self with rfl | rfl | hd
      · decide
      · decide
      · exact not_mem_of_any_eq_false (p := isWordPart) (by decide) hd
  head c hc := h.isBlank c (List.mem_of_mem_head? hc)
  last c hc := h.isBlank c (List.mem_of_mem_getLast? hc)

theorem exists_atom (h : IsName cs) : ∃ t, atom cs = .ok t := by
  obtain ⟨c, hc, hminus, hdigit⟩ := h.exists_mem
  have hb : beforeBrackets cs = none := beforeBrackets_of_not_mem (h.not_mem (by decide) (by decide) (by decide))
  have ho : '<' ∉ cs := h.not_mem (by decide) (by decide) (by decide)
  have hname : atom cs = nameOf cs := by
    rw [atom_of_upright h.upright (isInteger_eq_false hc hminus hdigit), hb]
    exact if_neg ho
  rw [hname, nameOf]
  cases hk : keyword cs with
  | some t => exact ⟨t, rfl⟩
  | none =>
    have hclass : isClassName cs = true := by
      rcases h with h | h
      · rw [hk] at h
        cases h
      · exact h
    exact ⟨_, if_pos hclass⟩

end IsName

end PhpDoc
end DynamicMembers
