import DynamicMembers.Proofs.Value.Atoms
import Mathlib
/-!
# Case of names — a proper class name is one in every spelling

Whether a text is words with separators between them does not depend on the case of its letters, so of two spellings of
one class both are proper or neither is (`isClassPath_of_classKey_eq`).
-/
namespace DynamicMembers

theorem Text.lower_lower (s : String) : lower (lower s) = lower s := by
  rw [lower, toList_lower, List.map_map, lower]
  congr 2
  funext c
  exact Char.toLower_toLower_eq_toLower c

namespace PhpDoc

theorem toLower_eq_iff {c d : Char} (hd : d.isAlpha = false) : c.toLower = d ↔ c = d := by
  by_cases hc : c.isUpper
  · have halpha : c.isAlpha = true := by simp [Char.isAlpha, hc]
    constructor
    · rintro rfl
      rw [Char.isAlpha_toLower_eq_isAlpha, halpha] at hd
      cases hd
    · rintro rfl
      rw [halpha] at hd
      cases hd
  · rw [Char.toLower_eq_of_not_isUpper hc]

theorem isDigit_toLower (c : Char) : c.toLower.isDigit = c.isDigit := by
  by_cases hc : c.isUpper
  · have hlower : c.toLower.isLower = true := by simp [Char.isAlpha, hc]
    have hupper := Text.toNat_of_isUpper hc
    have hdigit : c.isDigit = false := by
      by_contra hd
      have hrange : 48 ≤ c.toNat ∧ c.toNat ≤ 57 := Char.isDigit_iff_toNat.1 (by simpa using hd)
      omega
    rw [isDigit_of_isLower hlower, hdigit]
  · rw [Char.toLower_eq_of_not_isUpper hc]

theorem isWordStart_toLower (c : Char) : isWordStart c.toLower = isWordStart c := by
  have hunderscore : (c.toLower == '_') = (c == '_') := by
    rw [Bool.eq_iff_iff, beq_iff_eq, beq_iff_eq]
    exact toLower_eq_iff (by decide)
  rw [isWordStart, isWordStart, Char.isAlpha_toLower_eq_isAlpha, hunderscore]

theorem isWordPart_eq (c : Char) : isWordPart c = (isWordStart c || c.isDigit) := by
  simp only [isWordPart, isWordStart, Char.isAlphanum, Bool.or_assoc, Bool.or_comm (c == '_')]

theorem isWordPart_toLower (c : Char) : isWordPart c.toLower = isWordPart c := by
  rw [isWordPart_eq, isWordPart_eq, isWordStart_toLower, isDigit_toLower]

theorem isWord_map_toLower (w : List Char) : isWord (w.map Char.toLower) = isWord w := by
  cases w with
  | nil => rfl
  | cons c w =>
    rw [List.map_cons, isWord, isWord, isWordStart_toLower, List.all_map]
    congr 2
    funext d
    exact isWordPart_toLower d

theorem split_map_toLower : ∀ cs : List Char,
    Text.split '\\' (cs.map Char.toLower) = (Text.split '\\' cs).map (·.map Char.toLower)
  | [] => rfl
  | c :: cs => by
    have ih := split_map_toLower cs
    have hsep : c.toLower = '\\' ↔ c = '\\' := toLower_eq_iff (by decide)
    rw [List.map_cons, Text.split, Text.split]
    by_cases hc : c = '\\'
    · rw [if_pos (hsep.2 hc), if_pos hc, ih, List.map_cons, List.map_nil]
    · rw [if_neg (fun h => hc (hsep.1 h)), if_neg hc, ih]
      cases Text.split '\\' cs <;> rfl

theorem isClassPath_map_toLower (cs : List Char) : isClassPath (cs.map Char.toLower) = isClassPath cs := by
  rw [isClassPath, isClassPath, split_map_toLower, List.all_map]
  congr 1
  funext w
  exact isWord_map_toLower w

/-- **A class name is proper in every spelling.** -/
theorem isClassPath_of_classKey_eq {a b : String} (h : Name.classKey a = Name.classKey b) :
    isClassPath (Name.bare a).toList = isClassPath (Name.bare b).toList := by
  have hlower : (Name.bare a).toList.map Char.toLower = (Name.bare b).toList.map Char.toLower := by
    rw [← Text.toList_lower, ← Text.toList_lower]
    exact congrArg (fun k => k.text.toList) h
  rw [← isClassPath_map_toLower, hlower, isClassPath_map_toLower]

end PhpDoc
end DynamicMembers
