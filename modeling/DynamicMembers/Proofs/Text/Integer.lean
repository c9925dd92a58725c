import DynamicMembers.Text.Integer
import Mathlib.Data.Nat.Digits.Defs
/-!
# Integers in writing — what is written is read back

The decimal digits of a number are read as that number (`readNat_decimal`), and every 64-bit word comes back from its
text (`toInt64_toInt`, `readInt_writeInt`).  In any radix up to sixteen digits are read as the number that they write
(`readNat_digits`).
-/
namespace DynamicMembers
namespace Text

theorem digitOf_of_isDigit {c : Char} (h : c.isDigit = true) : digitOf 10 c = some (c.toNat - '0'.toNat) := by
  have hlt : c.toNat - '0'.toNat < 10 := by
    have hle : c.toNat ≤ 57 := (Char.isDigit_iff_toNat.1 h).2
    change c.toNat - 48 < 10
    omega
  rw [digitOf, digitValue, if_pos h, Option.filter_some, if_pos (by simpa using hlt)]

theorem readDigits_of_isDigit : ∀ {cs : List Char} (n : Nat), (∀ c ∈ cs, c.isDigit = true) →
    readDigits 10 cs n = some (Nat.ofDigitChars 10 cs n)
  | [], n, _ => by rw [readDigits, Nat.ofDigitChars_nil]
  | c :: cs, n, h => by
    have hc := digitOf_of_isDigit (h c List.mem_cons_self)
    have ih := readDigits_of_isDigit (n * 10 + (c.toNat - '0'.toNat)) (fun d hd => h d (List.mem_cons_of_mem c hd))
    rw [readDigits, hc, Nat.ofDigitChars_cons, Nat.mul_comm 10 n]
    exact ih

theorem isDigit_of_mem_decimal {n : Nat} {c : Char} (h : c ∈ decimal n) : c.isDigit = true :=
  Nat.isDigit_of_mem_toDigits (by decide) (by decide) h

theorem decimal_ne_nil (n : Nat) : decimal n ≠ [] := Nat.toDigits_ne_nil

theorem readNat_decimal (n : Nat) : readNat 10 (decimal n) = some n := by
  have hread : readDigits 10 (decimal n) 0 = some n := by
    rw [readDigits_of_isDigit 0 (fun c hc => isDigit_of_mem_decimal hc), decimal, Nat.ofDigitChars_ten_toDigits]
  cases h : decimal n with
  | nil => exact absurd h (decimal_ne_nil n)
  | cons c cs =>
    rw [readNat, ← h]
    exact hread

/-- **An integer is read back from its text.** -/
theorem readInt_writeInt : ∀ n : Int, readInt 10 (writeInt n) = some n
  | .ofNat n => by
    rw [writeInt]
    cases h : decimal n with
    | nil => exact absurd h (decimal_ne_nil n)
    | cons c cs =>
      have hc : c.isDigit = true := isDigit_of_mem_decimal (h ▸ List.mem_cons_self)
      have hread : readNat 10 (c :: cs) = some n := h ▸ readNat_decimal n
      unfold readInt
      split
      · rename_i heq
        cases heq
        exact absurd hc (by decide)
      · rename_i heq
        cases heq
        exact absurd hc (by decide)
      · rw [hread]
        rfl
  | .negSucc n => by
    rw [writeInt, readInt, readNat_decimal]
    rfl

/-- A word is in its range, and comes back from its value. -/
theorem toInt64_toInt (w : Int64) : toInt64 w.toInt = .ok w := by
  have hmin : ¬ w.toInt < Int64.minValue.toInt := Int.not_lt.2 w.minValue_le_toInt
  have hmax : ¬ Int64.maxValue.toInt < w.toInt := Int.not_lt.2 w.toInt_le
  rw [toInt64, if_neg hmin, if_neg hmax, Int64.ofInt_toInt]

/-! ## Digits of a radix -/

theorem digitValue_digitChar : ∀ n < 16, digitValue (Nat.digitChar n) = some n := by decide

theorem isDigit_digitChar : ∀ n < 10, (Nat.digitChar n).isDigit = true := by decide

variable {radix : Nat} {ds : List Nat}

theorem digitOf_digitChar (hradix : radix ≤ 16) {d : Nat} (hd : d < radix) :
    digitOf radix (Nat.digitChar d) = some d := by
  rw [digitOf, digitValue_digitChar d (by omega), Option.filter_some, if_pos (by simpa using hd)]

theorem readDigits_digits (hradix : radix ≤ 16) : ∀ {ds : List Nat} (n : Nat), (∀ d ∈ ds, d < radix) →
    readDigits radix (ds.map Nat.digitChar) n = some (ds.foldl (fun n d => d + radix * n) n)
  | [], _, _ => rfl
  | d :: ds, n, h => by
    obtain ⟨hd, hds⟩ := List.forall_mem_cons.1 h
    have ih := readDigits_digits hradix (d + radix * n) hds
    rw [List.map_cons, readDigits, digitOf_digitChar hradix hd, List.foldl_cons, ← ih, Nat.add_comm, Nat.mul_comm n]
    rfl

/-- **Digits are read as the number that they write**, the first of them standing highest. -/
theorem readNat_digits (hradix : radix ≤ 16) (hne : ds ≠ []) (h : ∀ d ∈ ds, d < radix) :
    readNat radix (ds.map Nat.digitChar) = some (Nat.ofDigits radix ds.reverse) := by
  obtain ⟨d, ds, rfl⟩ := List.exists_cons_of_ne_nil hne
  have hread := readDigits_digits hradix 0 h
  rw [List.map_cons, readNat, ← List.map_cons, hread, Nat.ofDigits_eq_foldr, List.foldr_reverse]
  rfl

/-- In a larger radix digits write a larger number, unless all but the last of them are zero. -/
theorem ofDigits_eq_iff {p q : Nat} (hp : 0 < p) (hpq : p < q) : ∀ {ds : List Nat}, (∀ d ∈ ds, d < p) →
    (Nat.ofDigits q ds = Nat.ofDigits p ds ↔ Nat.ofDigits p ds < p)
  | [], _ => by simp [hp]
  | d :: ds, h => by
    obtain ⟨hd, hds⟩ := List.forall_mem_cons.1 h
    have ih := ofDigits_eq_iff hp hpq hds
    have hle := Nat.ofDigits_monotone ds hpq.le
    rw [Nat.ofDigits_cons, Nat.ofDigits_cons]
    by_cases hzero : Nat.ofDigits p ds = 0
    · have hsame := ih.2 (by omega)
      simp [hsame, hzero, hd]
    · have hgrows : p * Nat.ofDigits p ds < q * Nat.ofDigits q ds :=
        Nat.mul_lt_mul_of_lt_of_le hpq hle (by omega)
      have hbig : p ≤ p * Nat.ofDigits p ds := Nat.le_mul_of_pos_right p (by omega)
      omega

end Text
end DynamicMembers
