import DynamicMembers.Php.Lowering
import DynamicMembers.Proofs.Text.Integer
import DynamicMembers.Text.Split
/-!
# Integers — the number that an integer literal writes, and the one that is read

An integer literal is written in the radix that its start names, with single underscores between some of its digits.
Underscores and capitals are forgotten (`IntegerLiteral.spelled_text`), and digits are read as the number they write
(`Text.readNat_digits`).  The starts of octal literals are not told apart, though: behind a leading zero alone the
digits are read as decimal ones, and behind a zero with a letter nothing is read (`IntegerLiteral.integer_text`).  So a
literal has its value exactly when it is not one of these that show it (`IntegerLiteral.integer_text_iff`).
-/
namespace DynamicMembers
namespace Text

/-! ## Underscores -/

theorem filter_join {sep : Char} : ∀ {ps : List (List Char)}, (∀ p ∈ ps, sep ∉ p) →
    (join sep ps).filter (· != sep) = ps.flatten
  | [], _ => rfl
  | p :: ps, h => by
    have hp : p.filter (· != sep) = p :=
      List.filter_eq_self.2 fun c hc => bne_iff_ne.2 fun he => h p List.mem_cons_self (he ▸ hc)
    by_cases hps : ps = []
    · subst hps
      rw [join, hp, List.flatten_singleton]
    · have ih := filter_join fun q hq => h q (List.mem_cons_of_mem p hq)
      rw [join_cons sep p hps, List.filter_append, hp, List.filter_cons_of_neg (by simp), ih, List.flatten_cons]

end Text

namespace Php
namespace Literal

/-! ## Literals -/

/-- How an integer literal starts. -/
inductive Start where
  | decimal
  | hexadecimal (capital : Bool)
  | binary (capital : Bool)
  /-- A leading zero, which is a digit too. -/
  | octal
  /-- A zero and the letter o. -/
  | markedOctal (capital : Bool)
  deriving DecidableEq

namespace Start

def radix : Start → Nat
  | decimal => 10
  | hexadecimal _ => 16
  | binary _ => 2
  | octal => 8
  | markedOctal _ => 8

/-- What stands in front of the digits. -/
def text : Start → List Char
  | decimal => []
  | hexadecimal capital => ['0', if capital then 'X' else 'x']
  | binary capital => ['0', if capital then 'B' else 'b']
  | octal => []
  | markedOctal capital => ['0', if capital then 'O' else 'o']

/-- The first digit that a start may have. -/
def Leads : Start → Nat → Prop
  | decimal, d => d ≠ 0
  | octal, d => d = 0
  | _, _ => True

theorem radix_le (s : Start) : s.radix ≤ 16 := by cases s <;> simp [radix]

end Start

/-- A digit of a radix; where it is a letter, it may be a capital. -/
structure Digit (radix : Nat) where
  value : Fin radix
  capital : Bool := false

def Digit.char {radix : Nat} (d : Digit radix) : Char :=
  if d.capital then (Nat.digitChar d.value).toUpper else Nat.digitChar d.value

theorem Digit.char_spec {radix : Nat} (h : radix ≤ 16) (d : Digit radix) :
    d.char ≠ '_' ∧ d.char.toLower = Nat.digitChar d.value := by
  have hall : ∀ n < 16, ∀ capital : Bool,
      (if capital then (Nat.digitChar n).toUpper else Nat.digitChar n) ≠ '_' ∧
        (if capital then (Nat.digitChar n).toUpper else Nat.digitChar n).toLower = Nat.digitChar n := by decide
  exact hall d.value (Nat.lt_of_lt_of_le d.value.isLt h) d.capital

/-- An integer literal: its digits in groups, with an underscore between one group and the next. -/
structure IntegerLiteral where
  start : Start
  groups : List (List (Digit start.radix))
  groups_ne : groups ≠ []
  group_ne : ∀ g ∈ groups, g ≠ []
  leads : ∀ d ∈ groups.flatten.head?, start.Leads d.value

/-- The 64-bit word of a number, when it has one. -/
def word (n : Nat) : Option Int64 := if n < 2 ^ 63 then some (Int64.ofNat n) else none

namespace IntegerLiteral

def text (l : IntegerLiteral) : List Char := l.start.text ++ Text.join '_' (l.groups.map (·.map Digit.char))

def digits (l : IntegerLiteral) : List Nat := l.groups.flatten.map (·.value.val)

/-- The number that a literal writes. -/
def value (l : IntegerLiteral) : Nat := Nat.ofDigits l.start.radix l.digits.reverse

/-- The number that is read from a literal. -/
def read (l : IntegerLiteral) : Option Nat :=
  match l.start with
  | .octal => some (Nat.ofDigits 10 l.digits.reverse)
  | .markedOctal _ => none
  | _ => some l.value

/-- An octal literal whose value shows that it is not read as one. -/
def Misread (l : IntegerLiteral) : Prop :=
  l.value < 2 ^ 63 ∧ (l.start = .octal ∧ 8 ≤ l.value ∨ ∃ capital, l.start = .markedOctal capital)

theorem digits_ne_nil (l : IntegerLiteral) : l.digits ≠ [] := by
  obtain ⟨g, gs, hgroups⟩ := List.exists_cons_of_ne_nil l.groups_ne
  have hg : g ≠ [] := l.group_ne g (by rw [hgroups]; exact List.mem_cons_self)
  simp [digits, hgroups, hg]

theorem digits_lt (l : IntegerLiteral) : ∀ d ∈ l.digits, d < l.start.radix := by
  intro d hd
  obtain ⟨digit, -, rfl⟩ := List.mem_map.1 hd
  exact digit.value.isLt

theorem spelled_text (l : IntegerLiteral) : (l.text.filter (· != '_')).map Char.toLower =
    l.start.text.map Char.toLower ++ l.digits.map Nat.digitChar := by
  have hstart : l.start.text.filter (· != '_') = l.start.text := by
    rcases l.start with _ | capital | capital | _ | capital
    case decimal | octal => rfl
    all_goals cases capital <;> rfl
  have hgroups : ∀ p ∈ l.groups.map (·.map Digit.char), '_' ∉ p := by
    intro p hp hmem
    obtain ⟨g, -, rfl⟩ := List.mem_map.1 hp
    obtain ⟨d, -, hd⟩ := List.mem_map.1 hmem
    exact (d.char_spec l.start.radix_le).1 hd
  have hchars : l.groups.flatten.map (Char.toLower ∘ Digit.char) = l.digits.map Nat.digitChar := by
    rw [digits, List.map_map]
    exact List.map_congr_left fun d _ => (d.char_spec l.start.radix_le).2
  rw [text, List.filter_append, hstart, Text.filter_join hgroups, List.map_append, ← hchars, ← List.map_flatten,
    List.map_map]

end IntegerLiteral

/-! ## Reading -/

theorem toOption_toInt64 (n : Nat) : (Text.toInt64 n).toOption = word n := by
  have hmin : ¬ (n : Int) < Int64.minValue.toInt := by rw [Int64.toInt_minValue]; omega
  rw [Text.toInt64, if_neg hmin, Int64.toInt_maxValue, word]
  by_cases hn : n < 2 ^ 63
  · rw [if_neg (by omega), if_pos hn, Int64.ofInt_eq_ofNat]
    rfl
  · rw [if_pos (by omega), if_neg hn]
    rfl

theorem word_inj {m n : Nat} (hn : n < 2 ^ 63) (h : word m = word n) : m = n := by
  rw [word, word, if_pos hn] at h
  by_cases hm : m < 2 ^ 63
  · rw [if_pos hm] at h
    have hword := congrArg Int64.toInt (Option.some.inj h)
    rw [Int64.toInt_ofNat_of_lt hm, Int64.toInt_ofNat_of_lt hn] at hword
    exact Int.ofNat.inj hword
  · rw [if_neg hm] at h
    cases h

theorem magnitude_of_isDigit {cs : List Char} (h : ∀ c ∈ cs, c.isDigit = true) :
    magnitude cs = Text.readNat 10 cs := by
  unfold magnitude
  split
  · exact absurd (h 'x' (by simp)) (by decide)
  · exact absurd (h 'b' (by simp)) (by decide)
  · rfl

namespace IntegerLiteral

theorem magnitude_spelled (l : IntegerLiteral) :
    magnitude (l.start.text.map Char.toLower ++ l.digits.map Nat.digitChar) = l.read := by
  have hread := Text.readNat_digits l.start.radix_le l.digits_ne_nil l.digits_lt
  have hdigit (h : l.start.radix ≤ 10) : ∀ c ∈ l.digits.map Nat.digitChar, c.isDigit = true := by
    intro c hc
    obtain ⟨d, hd, rfl⟩ := List.mem_map.1 hc
    exact Text.isDigit_digitChar d (Nat.lt_of_lt_of_le (l.digits_lt d hd) h)
  rw [read, value]
  rcases hs : l.start with _ | capital | capital | _ | capital <;> rw [hs] at hread hdigit
  case decimal => exact (magnitude_of_isDigit (hdigit (by decide))).trans hread
  case hexadecimal | binary => cases capital <;> exact hread
  case octal =>
    have hlt := l.digits_lt
    rw [hs] at hlt
    have hlarger : ∀ d ∈ l.digits, d < 10 := fun d hd => Nat.lt_trans (hlt d hd) (by decide)
    have hdecimal := Text.readNat_digits (by decide) l.digits_ne_nil hlarger
    exact (magnitude_of_isDigit (hdigit (by decide))).trans hdecimal
  case markedOctal => cases capital <;> rfl

theorem integer_text (l : IntegerLiteral) : integer l.text = l.read.bind word := by
  rw [integer, l.spelled_text, l.magnitude_spelled]
  exact Option.bind_congr fun n _ => toOption_toInt64 n

/-- **An integer literal has the value that it writes, if it fits a 64-bit word, and else none, exactly when it is not
a misread octal one.** -/
theorem integer_text_iff (l : IntegerLiteral) : integer l.text = word l.value ↔ ¬ l.Misread := by
  rw [integer_text, read, Misread]
  rcases hs : l.start with _ | capital | capital | _ | capital
  case decimal | hexadecimal | binary => simp
  case octal =>
    have hlt := l.digits_lt
    rw [hs] at hlt
    have hvalue : l.value = Nat.ofDigits 8 l.digits.reverse := by rw [value, hs]; rfl
    have hsame := Text.ofDigits_eq_iff (p := 8) (q := 10) (by decide) (by decide) fun d hd =>
      hlt d (List.mem_reverse.1 hd)
    have hle := Nat.ofDigits_monotone (p := 8) (q := 10) l.digits.reverse (by decide)
    rw [← hvalue] at hsame hle
    simp only [Option.bind_some, true_and, reduceCtorEq, exists_false, or_false, not_and, Nat.not_le]
    constructor
    · exact fun hword hfits => hsame.1 (word_inj hfits hword)
    · intro h
      by_cases hfits : l.value < 2 ^ 63
      · rw [hsame.2 (h hfits)]
      · rw [word, word, if_neg hfits, if_neg (by omega)]
  case markedOctal => simp [word]

/-- Fifteen with a leading zero. -/
def fifteen : IntegerLiteral where
  start := .octal
  groups := [[⟨⟨0, by decide⟩, false⟩, ⟨⟨1, by decide⟩, false⟩, ⟨⟨7, by decide⟩, false⟩]]
  groups_ne := by decide
  group_ne := by decide
  leads := by simp [Start.Leads]

/-- An octal literal is read as a decimal one. -/
theorem octal_read_as_decimal : fifteen.text = "017".toList ∧ word fifteen.value = some 15 ∧
    integer fifteen.text = some 17 ∧ statements "<?php 017;" = [.expression (.int 17)] :=
  ⟨by decide, by decide, by decide, rfl⟩

end IntegerLiteral
end Literal
end Php
end DynamicMembers
