import DynamicMembers.Php.Lexer
import DynamicMembers.Proofs.Text.Runs
/-!
# Characters — those that continue no token

Blanks and what a comment begins with are inert: they are part of no name and no number and stand in no sign but first.
-/
namespace DynamicMembers
namespace Php

/-! ## Inert characters -/

theorem eq_false_of_imp {a b : Bool} (h : a = true → b = false) (hb : b = true) : a = false := by
  cases a with
  | false => rfl
  | true => exact (h rfl).symm.trans hb |>.symm

/-- A blank, or what a comment begins with. -/
def isInert (c : Char) : Bool := isSpace c || c == '/' || c == '#'

theorem ne_of_isInert {c d : Char} (hc : isInert c = true) (hd : isInert d = false) : c ≠ d := by
  rintro rfl
  rw [hc] at hd
  cases hd

theorem toNat_of_isInert {c : Char} (h : isInert c = true) :
    c.toNat ≤ 13 ∨ c.toNat = 32 ∨ c.toNat = 35 ∨ c.toNat = 47 ∨ 0x80 ≤ c.toNat ∧ isSpace c = true := by
  simp only [isInert, Bool.or_eq_true, beq_iff_eq] at h
  rcases h with (h | rfl) | rfl
  · have hspace := h
    simp only [isSpace, Bool.or_eq_true, Bool.and_eq_true, beq_iff_eq, decide_eq_true_eq] at h
    rcases h with ((((rfl | h) | h) | h) | h) | h
    · exact Or.inr (Or.inl rfl)
    · exact Or.inl h.2
    all_goals exact Or.inr (Or.inr (Or.inr (Or.inr ⟨by omega, hspace⟩)))
  · exact Or.inr (Or.inr (Or.inr (Or.inl rfl)))
  · exact Or.inr (Or.inr (Or.inl rfl))

theorem isNamePart_of_isInert {c : Char} (h : isInert c = true) : isNamePart c = false := by
  have hunderscore : (c == '_') = false := by simpa using ne_of_isInert (d := '_') h (by decide)
  have hnat := toNat_of_isInert h
  have halpha : c.isAlpha = false := by
    rw [Bool.eq_false_iff]
    intro ha
    rcases Bool.or_eq_true_iff.1 ha with hupper | hlower
    · have hbounds := Text.toNat_of_isUpper hupper
      omega
    · have hbounds := Text.toNat_of_isLower hlower
      omega
  have hdigit : c.isDigit = false := by
    rw [Bool.eq_false_iff]
    intro hd
    have hbounds : 48 ≤ c.toNat ∧ c.toNat ≤ 57 := Char.isDigit_iff_toNat.1 hd
    omega
  have hletter : (decide (0x80 ≤ c.toNat) && !isSpace c) = false := by
    rcases hnat with h | h | h | h | h
    all_goals first | simp [h.2] | simp; omega
  simp [isNamePart, isNameStart, halpha, hdigit, hunderscore, hletter]

theorem isNameStart_of_isInert {c : Char} (h : isInert c = true) : isNameStart c = false := by
  have hpart := isNamePart_of_isInert h
  simp only [isNamePart, Bool.or_eq_false_iff] at hpart
  exact hpart.1

theorem isNamePart_of_isNameStart {c : Char} (h : isNameStart c = true) : isNamePart c = true := by simp [isNamePart, h]

theorem isDigitPart_of_isInert {c : Char} (h : isInert c = true) : isDigitPart c = false := by
  have hpart := isNamePart_of_isInert h
  simp only [isNamePart, isNameStart, Bool.or_eq_false_iff] at hpart
  simp [isDigitPart, hpart]

theorem isDigit_of_isInert {c : Char} (h : isInert c = true) : c.isDigit = false := by
  have hpart := isDigitPart_of_isInert h
  simp only [isDigitPart, Bool.or_eq_false_iff] at hpart
  exact hpart.1

theorem isDigitPart_of_isDigit {c : Char} (h : c.isDigit = true) : isDigitPart c = true := by simp [isDigitPart, h]

/-- No sign goes on with what a comment begins with. -/
theorem any_isInert_of_mem_signs {s : List Char} (hs : s ∈ signs) : s.tail.any isInert = false := by
  have hall : signs.all (fun s => !s.tail.any isInert) = true := by decide
  simpa using List.all_eq_true.1 hall s hs

end Php
end DynamicMembers
