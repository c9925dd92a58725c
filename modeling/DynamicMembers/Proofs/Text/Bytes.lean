import Mathlib.Data.List.Lex
import Mathlib.Data.String.Basic
/-!
# Bytes of texts — texts compare as their bytes do

Texts are ordered by their characters.  The bytes of a character grow with it and none are the beginning of another's,
so texts compare in the same way by their bytes (`bytes_lt`).
-/
namespace DynamicMembers
namespace Text

def bytes (s : String) : List UInt8 := s.toUTF8.data.toList

/-- The digits of a number to base 64, of which the bytes of a character are made. -/
theorem exists_digits {v : Nat} (h : v < 1114112) : ∃ a b c d, v = ((a * 64 + b) * 64 + c) * 64 + d ∧
    v / 262144 % 8 = a ∧ v / 4096 = a * 64 + b ∧ v / 4096 % 64 = b ∧ v / 64 % 64 = c ∧ v % 64 = d ∧
      a < 5 ∧ b < 64 ∧ c < 64 ∧ d < 64 :=
  ⟨v / 262144, v / 4096 % 64, v / 64 % 64, v % 64, by omega⟩

/-- **A smaller character has smaller bytes**, whatever follows. -/
theorem utf8EncodeChar_append_lt {c d : Char} (h : c < d) (rest rest' : List UInt8) :
    String.utf8EncodeChar c ++ rest < String.utf8EncodeChar d ++ rest' := by
  have hlt : c.val.toNat < d.val.toNat := h
  have hvalid : d.val.toNat < 1114112 := by
    have := d.valid
    unfold UInt32.isValidChar Nat.isValidChar at this
    omega
  unfold String.utf8EncodeChar
  simp only
  generalize c.val.toNat = v at hlt ⊢
  generalize d.val.toNat = w at hlt hvalid ⊢
  obtain ⟨v₃, v₂, v₁, v₀, hv, h₃, h₂₃, h₂, h₁, h₀, hv₃, hv₂, hv₁, hv₀⟩ := exists_digits (hlt.trans hvalid)
  obtain ⟨w₃, w₂, w₁, w₀, hw, k₃, k₂₃, k₂, k₁, k₀, hw₃, hw₂, hw₁, hw₀⟩ := exists_digits hvalid
  rw [h₀, h₁, h₂, h₃, k₀, k₁, k₂, k₃]
  clear h₀ h₁ h₂ h₃ k₀ k₁ k₂ k₃
  -- one case for each pair of lengths: the first bytes tell lengths apart, the digits tell characters of one length apart
  split_ifs
  all_goals
    simp only [List.cons_append, List.nil_append, List.cons_lt_cons_iff, UInt8.lt_iff_toNat_lt, ← UInt8.toNat_inj,
      UInt8.toNat_ofNat']
    simp (disch := omega) only [Nat.mod_eq_of_lt]
    generalize (rest < rest') = further
    rcases Classical.propComplete further with rfl | rfl <;> omega

theorem flatMap_utf8EncodeChar_lt {l m : List Char} (h : l < m) :
    l.flatMap String.utf8EncodeChar < m.flatMap String.utf8EncodeChar := by
  induction h with
  | @nil c l =>
    rw [List.flatMap_nil, List.flatMap_cons]
    cases hc : String.utf8EncodeChar c with
    | nil => exact absurd hc String.utf8EncodeChar_ne_nil
    | cons b bs => exact List.nil_lt_cons b _
  | @cons c l m _ ih => exact List.append_left_lt ih
  | rel h => exact utf8EncodeChar_append_lt h _ _

theorem bytes_eq_flatMap (s : String) : bytes s = s.toList.flatMap String.utf8EncodeChar := by
  rw [bytes, String.toUTF8, ← String.utf8Encode_toList, List.utf8Encode]
  simp

/-- **A smaller text has smaller bytes.** -/
theorem bytes_lt {a b : String} (h : a < b) : bytes a < bytes b := by
  rw [bytes_eq_flatMap, bytes_eq_flatMap]
  exact flatMap_utf8EncodeChar_lt (String.lt_iff_toList_lt.1 h)

theorem map_bytes_lt {l m : List String} (h : l < m) : l.map bytes < m.map bytes := by
  induction h with
  | nil => exact List.nil_lt_cons _ _
  | cons _ ih => exact List.cons_lt_cons_self.2 ih
  | rel h => exact List.Lex.rel (bytes_lt h)

end Text
end DynamicMembers
