import DynamicMembers.Text.Characters
import DynamicMembers.Text.Words
import Mathlib
/-!
# Capitalised words — a name that is written in them is cut where they begin

Among ASCII letters a name is cut in front of a capital that follows a small letter, and nowhere in front of a small
letter.  So a name that is one capitalised word behind the other has just these words (`words_flatten`), and in snake
case they stand in lower case with underscores between them (`snake_flatten`).
-/
namespace DynamicMembers
namespace Text

/-! ## ASCII letters -/

theorem toUpper_ascii {c : Char} (h : c.toNat < 0x80) : toUpper c = [c.toUpper] := if_pos h

theorem toLower_ascii {c : Char} (h : c.toNat < 0x80) : toLower c = [c.toLower] := if_pos h

theorem toNat_of_isAlpha {c : Char} (h : c.isAlpha = true) :
    65 ≤ c.toNat ∧ c.toNat ≤ 90 ∨ 97 ≤ c.toNat ∧ c.toNat ≤ 122 := by
  rcases Bool.or_eq_true_iff.1 h with h | h
  · exact .inl (toNat_of_isUpper h)
  · exact .inr (toNat_of_isLower h)

theorem ascii_of_isAlpha {c : Char} (h : c.isAlpha = true) : c.toNat < 0x80 := by
  have hc := toNat_of_isAlpha h
  omega

theorem isDigit_of_isAlpha {c : Char} (h : c.isAlpha = true) : c.isDigit = false := by
  have hc := toNat_of_isAlpha h
  by_contra hd
  have hdigit : 48 ≤ c.toNat ∧ c.toNat ≤ 57 := Char.isDigit_iff_toNat.1 (by simpa using hd)
  omega

theorem isWordGap_of_isAlpha {c : Char} (h : c.isAlpha = true) : isWordGap c = false := by
  have hne : ∀ d : Char, d.isAlpha = false → (c == d) = false := by
    intro d hd
    rw [beq_eq_false_iff_ne]
    rintro rfl
    rw [h] at hd
    cases hd
  rw [isWordGap, hne '_' (by decide), hne '-' (by decide), hne ' ' (by decide)]
  rfl

theorem toLower_ne_of_isUpper {c : Char} (h : c.isUpper = true) : c.toLower ≠ c := by
  intro he
  have hlower := Char.isUpper_toLower_eq_false c
  rw [he, h] at hlower
  cases hlower

theorem toUpper_ne_of_isLower {c : Char} (h : c.isLower = true) : c.toUpper ≠ c := by
  intro he
  have hupper := Char.isLower_toUpper_eq_false c
  rw [he, h] at hupper
  cases hupper

theorem isAlpha_of_isUpper {c : Char} (h : c.isUpper = true) : c.isAlpha = true := by simp [Char.isAlpha, h]

theorem isAlpha_of_isLower {c : Char} (h : c.isLower = true) : c.isAlpha = true := by simp [Char.isAlpha, h]

theorem isCapital_of_isUpper {c : Char} (h : c.isUpper = true) : isCapital c = true := by
  have hascii := ascii_of_isAlpha (isAlpha_of_isUpper h)
  have hself : c.toUpper = c := Char.toUpper_eq_of_not_isLower (Char.not_isLower_of_isUpper h)
  have hne := toLower_ne_of_isUpper h
  simp [isCapital, toUpper_ascii hascii, toLower_ascii hascii, hself, Ne.symm hne]

theorem isSmall_of_isLower {c : Char} (h : c.isLower = true) : isSmall c = true := by
  have hascii := ascii_of_isAlpha (isAlpha_of_isLower h)
  have hself : c.toLower = c := Char.toLower_eq_of_not_isUpper (Char.not_isUpper_of_isLower h)
  have hne := toUpper_ne_of_isLower h
  simp [isSmall, toUpper_ascii hascii, toLower_ascii hascii, hself, hne]

theorem isCapital_of_isLower {c : Char} (h : c.isLower = true) : isCapital c = false := by
  have hne := toUpper_ne_of_isLower h
  simp [isCapital, toUpper_ascii (ascii_of_isAlpha (isAlpha_of_isLower h)), hne]

/-- A text of ASCII characters has no final sigma, so each letter is put in lower case for itself. -/
theorem lowerFrom_ascii : ∀ {w : List Char} (before : List Char), (∀ c ∈ w, c.toNat < 0x80) →
    lowerFrom before w = w.map Char.toLower
  | [], _, _ => rfl
  | c :: w, before, h => by
    obtain ⟨hc, hw⟩ := List.forall_mem_cons.1 h
    have hsigma : c ≠ 'Σ' := by
      rintro rfl
      exact absurd hc (by decide)
    rw [lowerFrom, lowerIn, if_neg hsigma, toLower_ascii hc, lowerFrom_ascii (c :: before) hw, List.map_cons,
      List.singleton_append]

theorem lowerWord_ascii {w : List Char} (h : ∀ c ∈ w, c.toNat < 0x80) : lowerWord w = w.map Char.toLower :=
  lowerFrom_ascii [] h

/-! ## Capitalised words -/

/-- An ASCII capital with small ASCII letters behind it, at least one. -/
def isCapitalised : List Char → Bool
  | c :: d :: cs => c.isUpper && (d :: cs).all Char.isLower
  | _ => false

theorem isCapitalised_iff {w : List Char} : isCapitalised w = true ↔
    ∃ c cs, w = c :: cs ∧ c.isUpper = true ∧ cs ≠ [] ∧ ∀ d ∈ cs, d.isLower = true := by
  match w with
  | [] => simp [isCapitalised]
  | [c] => simp [isCapitalised]
  | c :: d :: cs => simp [isCapitalised]

theorem isAlpha_of_isCapitalised {w : List Char} (h : isCapitalised w = true) : ∀ c ∈ w, c.isAlpha = true := by
  obtain ⟨c, cs, rfl, hc, -, hcs⟩ := isCapitalised_iff.1 h
  exact List.forall_mem_cons.2 ⟨isAlpha_of_isUpper hc, fun d hd => isAlpha_of_isLower (hcs d hd)⟩

/-- The words behind a cut: none when nothing is left. -/
def wordsBehind : List Char → List (List Char)
  | [] => []
  | c :: cs => words (c :: cs)

/-- A letter and a small letter behind it stand in one word. -/
theorem endsAfter_small {a b : Char} (ha : a.isAlpha = true) (hb : b.isLower = true) (r : List Char) :
    endsAfter a (b :: r) = false := by
  have hcapital := isCapital_of_isLower hb
  have hbetween : endsBetween a b = false := by
    simp [endsBetween, hcapital, isDigit_of_isAlpha ha, isDigit_of_isAlpha (isAlpha_of_isLower hb)]
  cases r with
  | nil => exact hbetween
  | cons c r => simp [endsAfter, hbetween, hcapital]

/-- Between a small letter and a capital a word ends. -/
theorem endsAfter_capital {a b : Char} (ha : a.isLower = true) (hb : b.isUpper = true) (r : List Char) :
    endsAfter a (b :: r) = true := by
  have hbetween : endsBetween a b = true := by
    simp [endsBetween, isSmall_of_isLower ha, isCapital_of_isUpper hb]
  cases r with
  | nil => exact hbetween
  | cons c r => simp [endsAfter, hbetween]

theorem words_cons_small {a b : Char} (ha : a.isAlpha = true) (hb : b.isLower = true) (r : List Char) :
    words (a :: b :: r) = onHead a (words (b :: r)) := by
  rw [words, isWordGap_of_isAlpha ha, endsAfter_small ha hb]
  rfl

/-- Small letters stand in one word, which ends where a capital follows. -/
theorem words_small {rest : List Char} (hrest : ∀ c ∈ rest.head?, c.isUpper = true) : ∀ {cs : List Char}, cs ≠ [] →
    (∀ c ∈ cs, c.isLower = true) → words (cs ++ rest) = cs :: wordsBehind rest
  | [], hne, _ => absurd rfl hne
  | [c], _, h => by
    have hc : c.isLower = true := h c List.mem_cons_self
    have hgap := isWordGap_of_isAlpha (isAlpha_of_isLower hc)
    cases rest with
    | nil => simp [words, hgap, endsAfter, onHead, wordsBehind]
    | cons d rest =>
      rw [List.singleton_append, words, hgap, endsAfter_capital hc (hrest d rfl)]
      rfl
  | c :: d :: cs, _, h => by
    obtain ⟨hc, hcs⟩ := List.forall_mem_cons.1 h
    have ih := words_small hrest (List.cons_ne_nil d cs) hcs
    rw [List.cons_append, List.cons_append, words_cons_small (isAlpha_of_isLower hc) (hcs d List.mem_cons_self),
      ← List.cons_append, ih, onHead]

/-- **A capitalised word in front of another, or of nothing, is a word of its own.** -/
theorem words_capitalised {w rest : List Char} (hw : isCapitalised w = true)
    (hrest : ∀ c ∈ rest.head?, c.isUpper = true) : words (w ++ rest) = w :: wordsBehind rest := by
  obtain ⟨c, cs, rfl, hc, hne, hcs⟩ := isCapitalised_iff.1 hw
  obtain ⟨d, ds, rfl⟩ := List.exists_cons_of_ne_nil hne
  rw [List.cons_append, List.cons_append, words_cons_small (isAlpha_of_isUpper hc) (hcs d List.mem_cons_self),
    ← List.cons_append, words_small hrest hne hcs, onHead]

theorem head?_flatten {ws : List (List Char)} (h : ∀ w ∈ ws, isCapitalised w = true) :
    ∀ c ∈ ws.flatten.head?, c.isUpper = true := by
  cases ws with
  | nil => intro c hc; cases hc
  | cons w ws =>
    obtain ⟨c, cs, rfl, hc, -, -⟩ := isCapitalised_iff.1 (h w List.mem_cons_self)
    intro d hd
    obtain rfl : c = d := Option.some.inj hd
    exact hc

theorem wordsBehind_flatten : ∀ {ws : List (List Char)}, (∀ w ∈ ws, isCapitalised w = true) →
    wordsBehind ws.flatten = ws
  | [], _ => rfl
  | w :: ws, h => by
    obtain ⟨hw, hws⟩ := List.forall_mem_cons.1 h
    have hwords := words_capitalised hw (head?_flatten hws)
    rw [wordsBehind_flatten hws] at hwords
    obtain ⟨c, cs, rfl, -, -, -⟩ := isCapitalised_iff.1 hw
    exact hwords

/-- **A name in capitalised words has these words.** -/
theorem words_flatten {ws : List (List Char)} (hne : ws ≠ []) (h : ∀ w ∈ ws, isCapitalised w = true) :
    words ws.flatten = ws := by
  obtain ⟨w, ws, rfl⟩ := List.exists_cons_of_ne_nil hne
  obtain ⟨hw, hws⟩ := List.forall_mem_cons.1 h
  rw [List.flatten_cons, words_capitalised hw (head?_flatten hws), wordsBehind_flatten hws]

/-- **In snake case capitalised words stand in lower case with underscores between them.** -/
theorem snake_flatten {ws : List (List Char)} (hne : ws ≠ []) (h : ∀ w ∈ ws, isCapitalised w = true) :
    snake ws.flatten = join '_' (ws.map (·.map Char.toLower)) := by
  rw [snake, words_flatten hne h]
  refine congrArg (join '_') (List.map_congr_left fun w hw => lowerWord_ascii ?_)
  exact fun c hc => ascii_of_isAlpha (isAlpha_of_isCapitalised (h w hw) c hc)

end Text
end DynamicMembers
