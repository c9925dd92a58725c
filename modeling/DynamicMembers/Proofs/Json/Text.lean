import DynamicMembers.Json.Writer
import DynamicMembers.Proofs.Text.Integer
/-!
# Written JSON — every value is read back from its text

What is written never begins with a gap, and each of its parts ends where the writer ended it: a string at its own
quote, a number before whatever cannot continue a number.  The reader takes a character at every step, so the length of
what was written is nesting enough (`ofText?_write`).
-/
namespace DynamicMembers
namespace Json

/-! ## Strings -/

theorem hex4_low {n : Nat} (h : n < 256) :
    hex4 '0' '0' (Nat.digitChar (n / 16)) (Nat.digitChar (n % 16)) = some n := by
  have hhigh : Text.digitOf 16 (Nat.digitChar (n / 16)) = some (n / 16) := Text.digitOf_digitChar (by decide) (by omega)
  have hlow : Text.digitOf 16 (Nat.digitChar (n % 16)) = some (n % 16) := Text.digitOf_digitChar (by decide) (by omega)
  have hzero : Text.digitOf 16 '0' = some 0 := by decide
  simp only [hex4, Text.readNat, Text.readDigits, hzero, hhigh, hlow, bind, Option.bind_some]
  exact congrArg some (by omega)

theorem units_unescaped {c : Char} (hquote : c ≠ '"') (hbackslash : c ≠ '\\') (hcontrol : ¬ c.toNat < 0x20)
    (r : List Char) : units (c :: r) = (units r).map fun u => (c.toNat :: u.1, u.2) := by
  rw [units.eq_def]
  split
  · contradiction
  · rename_i heq
    exact absurd (List.cons.inj heq).1 hquote
  · rename_i heq
    exact absurd (List.cons.inj heq).1 hbackslash
  · rename_i heq
    exact absurd (List.cons.inj heq).1 hbackslash
  · rename_i heq
    obtain ⟨rfl, rfl⟩ := List.cons.inj heq
    rw [if_neg (fun h => h.elim hcontrol hbackslash)]
    cases units r <;> rfl

/-- **A written character is read as its code unit**, whether it is escaped or not. -/
theorem units_escape (c : Char) (r : List Char) :
    units (escape c ++ r) = (units r).map fun u => (c.toNat :: u.1, u.2) := by
  unfold escape
  split
  · cases h : units r <;> simp [units, escaped, h]
  · cases h : units r <;> simp [units, escaped, h]
  · cases h : units r <;> simp [units, escaped, h]
  · cases h : units r <;> simp [units, escaped, h]
  · cases h : units r <;> simp [units, escaped, h]
  · cases h : units r <;> simp [units, escaped, h]
  · cases h : units r <;> simp [units, escaped, h]
  · rename_i hquote hbackslash _ _ _ _ _
    by_cases hcontrol : c.toNat < 0x20
    · rw [if_pos hcontrol]
      cases h : units r <;> simp [units, hex4_low (n := c.toNat) (by omega), h]
    · rw [if_neg hcontrol]
      exact units_unescaped hquote hbackslash hcontrol r

theorem units_flatMap_escape (r : List Char) : ∀ cs : List Char,
    units (cs.flatMap escape ++ '"' :: r) = some (cs.map Char.toNat, r)
  | [] => by simp [units]
  | c :: cs => by
    rw [List.flatMap_cons, List.append_assoc, units_escape, units_flatMap_escape r cs]
    rfl

/-- A character is no half of a pair. -/
theorem not_surrogate (c : Char) : isHighSurrogate c.toNat = false ∧ isLowSurrogate c.toNat = false := by
  have hvalid : c.toNat < 0xd800 ∨ 0xdfff < c.toNat ∧ c.toNat < 0x110000 := c.valid
  constructor
  · simp only [isHighSurrogate, Bool.and_eq_false_iff, decide_eq_false_iff_not]
    omega
  · simp only [isLowSurrogate, Bool.and_eq_false_iff, decide_eq_false_iff_not]
    omega

theorem pairUp_toNat : ∀ cs : List Char, pairUp (cs.map Char.toNat) = some cs
  | [] => rfl
  | [c] => by simp [pairUp, not_surrogate c]
  | c :: d :: cs => by
    have ih := pairUp_toNat (d :: cs)
    rw [List.map_cons] at ih
    simp only [List.map_cons, pairUp, not_surrogate c, Bool.false_eq_true, if_false, ih, Char.ofNat_toNat,
      Option.map_some]

/-- **A written string is read back up to its quote.** -/
theorem text_writeText (s : Option String) (r : List Char) :
    ∃ cs, writeText s = '"' :: cs ∧ text (cs ++ r) = some (s, r) := by
  cases s with
  | some s =>
    refine ⟨_, rfl, ?_⟩
    rw [List.append_assoc, List.singleton_append, text, units_flatMap_escape, Option.map_some]
    simp only [pairUp_toNat, Option.map_some, String.ofList_toList]
  | none => exact ⟨_, rfl, rfl⟩

/-! ## Numbers -/

/-- What follows cannot continue a number. -/
def Stops : List Char → Prop
  | [] => True
  | c :: _ => c.isDigit = false ∧ c ≠ '.' ∧ c ≠ 'e' ∧ c ≠ 'E'

theorem digits_append (ds : List Char) {r : List Char} (hds : ∀ c ∈ ds, c.isDigit = true)
    (hr : ∀ c ∈ r.head?, c.isDigit = false) : digits (ds ++ r) = (ds, r) := by
  have htake : r.takeWhile Char.isDigit = [] := by
    cases r with
    | nil => rfl
    | cons c r => rw [List.takeWhile_cons_of_neg (by simp [hr c rfl])]
  have hdrop : r.dropWhile Char.isDigit = r := by
    cases r with
    | nil => rfl
    | cons c r => rw [List.dropWhile_cons_of_neg (by simp [hr c rfl])]
  rw [digits, List.takeWhile_append_of_pos hds, List.dropWhile_append_of_pos hds, htake, hdrop, List.append_nil]

theorem Stops.head_isDigit {r : List Char} (h : Stops r) : ∀ c ∈ r.head?, c.isDigit = false := by
  cases r with
  | nil => simp
  | cons c r => simpa using h.1

theorem Stops.fraction {r : List Char} (h : Stops r) : fraction r = some ([], r) := by
  unfold Json.fraction
  split
  · exact absurd rfl h.2.1
  · rfl

theorem Stops.exponent {r : List Char} (h : Stops r) : exponent r = some (none, r) := by
  cases r with
  | nil => rfl
  | cons c r =>
    have hmark : ¬ (c = 'e' ∨ c = 'E') := fun he => he.elim h.2.2.1 h.2.2.2
    unfold Json.exponent
    exact if_neg hmark

/-- Only zero is written with a leading zero. -/
theorem head?_decimal (n : Nat) (h : 0 < n) : (Text.decimal n).head? ≠ some '0' := by
  induction n using Nat.strongRecOn with
  | ind n ih =>
    by_cases hlt : n < 10
    · rw [Text.decimal, Nat.toDigits_of_lt_base hlt]
      have hdigit : ∀ m < 10, 0 < m → Nat.digitChar m ≠ '0' := by decide
      simpa using hdigit n hlt h
    · rw [Text.decimal, Nat.toDigits_of_base_le (by decide) (by omega), List.head?_append,
        Option.or_of_isSome (by simp [Nat.toDigits_ne_nil])]
      exact ih (n / 10) (by omega) (by omega)

theorem unsignedNumber_decimal {negative : Bool} {n : Nat} (h : negative = true → 0 < n) {r : List Char}
    (hr : Stops r) :
    unsignedNumber negative (Text.decimal n ++ r) = some (integer (if negative then -n else n), r) := by
  have hdigits : digits (Text.decimal n ++ r) = (Text.decimal n, r) :=
    digits_append _ (fun c hc => Text.isDigit_of_mem_decimal hc) hr.head_isDigit
  have hvalue : Nat.ofDigitChars 10 (Text.decimal n) 0 = n := Nat.ofDigitChars_ten_toDigits
  have hzero : ¬ ((Text.decimal n).isEmpty || ((Text.decimal n).head? == some '0' &&
      decide (1 < (Text.decimal n).length))) = true := by
    by_cases hn : 0 < n
    · simp [Text.decimal_ne_nil, head?_decimal n hn]
    · obtain rfl : n = 0 := by omega
      decide
  simp only [unsignedNumber, hdigits, hr.fraction, hr.exponent, hvalue, if_neg hzero, bind, Option.bind_some]
  cases negative with
  | false => simp
  | true =>
    have hn : n ≠ 0 := Nat.pos_iff_ne_zero.1 (h rfl)
    simp [hn]

/-- **A written integer is read back**, and nothing behind it is taken for a part of it. -/
theorem number_writeInt (n : Int) {r : List Char} (hr : Stops r) :
    number (Text.writeInt n ++ r) = some (integer n, r) := by
  cases n with
  | ofNat n =>
    have hunsigned : number (Text.decimal n ++ r) = unsignedNumber false (Text.decimal n ++ r) := by
      cases h : Text.decimal n with
      | nil => exact absurd h (Text.decimal_ne_nil n)
      | cons c cs =>
        have hc : c.isDigit = true := Text.isDigit_of_mem_decimal (h ▸ List.mem_cons_self)
        have hminus : c ≠ '-' := by
          rintro rfl
          cases hc
        simp [number, hminus]
    rw [Text.writeInt, hunsigned, unsignedNumber_decimal (by simp) hr]
    rfl
  | negSucc n =>
    rw [Text.writeInt, List.cons_append, number, unsignedNumber_decimal (by omega) hr]
    rfl

/-- A number that is no integer is read as one that is within the range, or beyond it, as it was. -/
theorem number_real (finite : Bool) {r : List Char} (hr : Stops r) :
    number (writeChars (real finite) ++ r) = some (real finite, r) := by
  cases finite with
  | true =>
    have hwhole : digits ('0' :: '.' :: '0' :: r) = (['0'], '.' :: '0' :: r) := by
      exact digits_append ['0'] (by simp) (by simp)
    have hpart : digits ('0' :: r) = (['0'], r) := digits_append ['0'] (by simp) hr.head_isDigit
    simp [writeChars, number, unsignedNumber, hwhole, fraction, hpart, hr.exponent, isFinite, Nat.ofDigitChars]
  | false =>
    have hwhole : digits ('1' :: 'e' :: '9' :: '9' :: '9' :: r) = (['1'], 'e' :: '9' :: '9' :: '9' :: r) := by
      exact digits_append ['1'] (by simp) (by simp)
    have hpower : digits ('9' :: '9' :: '9' :: r) = (['9', '9', '9'], r) :=
      digits_append ['9', '9', '9'] (by simp) hr.head_isDigit
    have hbeyond : isFinite ['1'] 999 = false := by decide
    simp [writeChars, number, unsignedNumber, hwhole, fraction, exponent, hpower, Nat.ofDigitChars, hbeyond]

/-! ## Values -/

/-- What writes an integer begins with a digit or a minus sign. -/
theorem writeInt_eq_cons (n : Int) : ∃ c cs, Text.writeInt n = c :: cs ∧ (c.isDigit = true ∨ c = '-') := by
  cases n with
  | negSucc n => exact ⟨_, _, rfl, Or.inr rfl⟩
  | ofNat n =>
    cases h : Text.decimal n with
    | nil => exact absurd h (Text.decimal_ne_nil n)
    | cons c cs => exact ⟨c, cs, h, Or.inl (Text.isDigit_of_mem_decimal (h ▸ List.mem_cons_self))⟩

theorem not_gap_of_numeral {c : Char} (h : c.isDigit = true ∨ c = '-') : isGap c = false ∧ c ≠ ']' := by
  rcases h with h | rfl
  · constructor
    · rw [Bool.eq_false_iff]
      intro hgap
      simp only [isGap, Bool.or_eq_true, beq_iff_eq] at hgap
      rcases hgap with ((rfl | rfl) | rfl) | rfl <;> cases h
    · rintro rfl
      cases h
  · decide

/-- What is written begins with no gap, and not with what closes an array. -/
theorem writeChars_eq_cons (j : Json) : ∃ c cs, writeChars j = c :: cs ∧ isGap c = false ∧ c ≠ ']' := by
  cases j with
  | integer n =>
    obtain ⟨c, cs, h, hc⟩ := writeInt_eq_cons n
    exact ⟨c, cs, h, not_gap_of_numeral hc⟩
  | string s => cases s <;> exact ⟨_, _, rfl, by decide⟩
  | bool b => cases b <;> exact ⟨_, _, rfl, by decide⟩
  | real finite => cases finite <;> exact ⟨_, _, rfl, by decide⟩
  | _ => exact ⟨_, _, rfl, by decide⟩

theorem skipGaps_cons {c : Char} (h : isGap c = false) (cs : List Char) : skipGaps (c :: cs) = c :: cs :=
  List.dropWhile_cons_of_neg (by simp [h])

@[simp] theorem skipGaps_writeChars (j : Json) (r : List Char) :
    skipGaps (writeChars j ++ r) = writeChars j ++ r := by
  obtain ⟨c, cs, h, hgap, -⟩ := writeChars_eq_cons j
  rw [h, List.cons_append, skipGaps_cons hgap]

/-- What begins as a number is read as one. -/
theorem value_of_numeral {c : Char} (h : c.isDigit = true ∨ c = '-') (n : Nat) (cs : List Char) :
    value (n + 1) (c :: cs) = number (c :: cs) := by
  have hne : ∀ d, d.isDigit = false → d ≠ '-' → c ≠ d := by
    rintro d hdigit hminus rfl
    rcases h with h | h
    · exact absurd h (by simp [hdigit])
    · exact hminus h
  rw [value]
  all_goals
    intro r heq
    exact absurd (List.cons.inj heq).1 (hne _ (by decide) (by decide))

theorem writeChars_pos (j : Json) : 0 < (writeChars j).length := by
  obtain ⟨c, cs, h, -⟩ := writeChars_eq_cons j
  rw [h]
  exact Nat.succ_pos _

theorem writeItems_cons_cons (v w : Json) (l : List Json) :
    writeItems (v :: w :: l) = writeChars v ++ ',' :: writeItems (w :: l) := by simp [writeItems]

theorem writeFields_cons_cons (k : Option String) (v : Json) (m : Option String × Json)
    (l : List (Option String × Json)) :
    writeFields ((k, v) :: m :: l) = writeText k ++ ':' :: (writeChars v ++ ',' :: writeFields (m :: l)) := by
  simp [writeFields]

theorem writeItems_eq_cons (v : Json) (l : List Json) :
    ∃ c cs, writeItems (v :: l) = c :: cs ∧ isGap c = false ∧ c ≠ ']' := by
  obtain ⟨c, cs, h, hc⟩ := writeChars_eq_cons v
  cases l with
  | nil => exact ⟨c, cs, h, hc⟩
  | cons w l => exact ⟨c, _, by rw [writeItems_cons_cons, h, List.cons_append], hc⟩

theorem writeFields_eq_cons (m : Option String × Json) (l : List (Option String × Json)) :
    ∃ cs, writeFields (m :: l) = '"' :: cs := by
  obtain ⟨k, v⟩ := m
  obtain ⟨cs, h, -⟩ := text_writeText k []
  cases l with
  | nil => exact ⟨_, by rw [writeFields, h, List.cons_append]⟩
  | cons m l => exact ⟨_, by rw [writeFields_cons_cons, h, List.cons_append]⟩

theorem value_array {n : Nat} {l : List Json} {cs r : List Char}
    (hhead : ∃ c ds, cs = c :: ds ∧ isGap c = false ∧ c ≠ ']') (hitems : items n cs = some (l, r)) :
    value (n + 1) ('[' :: cs) = some (array l, r) := by
  obtain ⟨c, ds, rfl, hgap, hclose⟩ := hhead
  simp [value, skipGaps_cons hgap, hclose, hitems]

theorem value_object {n : Nat} {l : List (Option String × Json)} {cs r : List Char} (hhead : ∃ ds, cs = '"' :: ds)
    (hfields : fields n cs = some (l, r)) : value (n + 1) ('\x7b' :: cs) = some (object l, r) := by
  obtain ⟨ds, rfl⟩ := hhead
  simp [value, skipGaps_cons (c := '"') rfl, hfields]

/-- The last member of an object. -/
theorem fields_last (k : Option String) {v : Json} {n : Nat} {cs r : List Char} (hskip : skipGaps cs = cs)
    (hv : value n cs = some (v, '\x7d' :: r)) : fields (n + 1) (writeText k ++ ':' :: cs) = some ([(k, v)], r) := by
  obtain ⟨ds, h, htext⟩ := text_writeText k (':' :: cs)
  simp [h, fields, htext, hskip, hv, skipGaps_cons (c := '"') rfl, skipGaps_cons (c := ':') rfl,
    skipGaps_cons (c := '\x7d') rfl]

/-- A member with others behind it. -/
theorem fields_further (k : Option String) {v : Json} {l : List (Option String × Json)} {n : Nat} {cs ds r : List Char}
    (hskip : skipGaps cs = cs) (hv : value n cs = some (v, ',' :: ds)) (hl : fields n ds = some (l, r)) :
    fields (n + 1) (writeText k ++ ':' :: cs) = some ((k, v) :: l, r) := by
  obtain ⟨es, h, htext⟩ := text_writeText k (':' :: cs)
  simp [h, fields, htext, hskip, hv, hl, skipGaps_cons (c := '"') rfl, skipGaps_cons (c := ':') rfl,
    skipGaps_cons (c := ',') rfl]

mutual

/-- **A written value is read back**, when what follows cannot continue a number. -/
theorem value_writeChars : ∀ (j : Json) {n : Nat} {r : List Char}, (writeChars j).length ≤ n → Stops r →
    value n (writeChars j ++ r) = some (j, r)
  | j, 0, _, h, _ => absurd (writeChars_pos j) (by omega)
  | null, n + 1, _, _, _ => rfl
  | bool true, n + 1, _, _, _ => rfl
  | bool false, n + 1, _, _, _ => rfl
  | integer i, n + 1, r, _, hr => by
    have hnumber := number_writeInt i hr
    obtain ⟨c, cs, h, hc⟩ := writeInt_eq_cons i
    rw [h, List.cons_append] at hnumber
    rw [writeChars, h, List.cons_append, value_of_numeral hc, hnumber]
  | real finite, n + 1, r, _, hr => by
    have hnumber := number_real finite hr
    cases finite with
    | true => exact (value_of_numeral (Or.inl rfl) n _).trans hnumber
    | false => exact (value_of_numeral (Or.inl rfl) n _).trans hnumber
  | string s, n + 1, r, _, _ => by
    obtain ⟨cs, h, htext⟩ := text_writeText s r
    rw [writeChars, h, List.cons_append, value, htext]
    rfl
  | array [], n + 1, _, _, _ => rfl
  | array (v :: l), n + 1, r, h, _ => by
    have hlength : (writeItems (v :: l)).length < n := by
      simp only [writeChars, List.length_cons, List.length_append, List.length_nil] at h
      omega
    have hitems := items_writeItems (v :: l) (List.cons_ne_nil v l) r hlength
    obtain ⟨c, cs, heq, hc⟩ := writeItems_eq_cons v l
    rw [writeChars, List.cons_append, List.append_assoc, List.singleton_append]
    exact value_array ⟨c, _, by rw [heq, List.cons_append], hc⟩ hitems
  | object [], n + 1, _, _, _ => rfl
  | object (m :: l), n + 1, r, h, _ => by
    have hlength : (writeFields (m :: l)).length < n := by
      simp only [writeChars, List.length_cons, List.length_append, List.length_nil] at h
      omega
    have hfields := fields_writeFields (m :: l) (List.cons_ne_nil m l) r hlength
    obtain ⟨cs, heq⟩ := writeFields_eq_cons m l
    rw [writeChars, List.cons_append, List.append_assoc, List.singleton_append]
    exact value_object ⟨_, by rw [heq, List.cons_append]⟩ hfields

theorem items_writeItems : ∀ (l : List Json), l ≠ [] → ∀ {n : Nat} (r : List Char), (writeItems l).length < n →
    items n (writeItems l ++ ']' :: r) = some (l, r)
  | [], hne, _, _, _ => absurd rfl hne
  | _ :: _, _, 0, _, h => absurd h (Nat.not_lt_zero _)
  | [v], _, n + 1, r, h => by
    have hv : value n (writeChars v ++ ']' :: r) = some (v, ']' :: r) :=
      value_writeChars v (Nat.lt_succ_iff.1 h) (by simp [Stops])
    rw [writeItems, items, skipGaps_writeChars, hv]
    rfl
  | v :: w :: l, _, n + 1, r, h => by
    rw [writeItems_cons_cons, List.length_append, List.length_cons] at h
    have hv : value n (writeChars v ++ ',' :: (writeItems (w :: l) ++ ']' :: r)) =
        some (v, ',' :: (writeItems (w :: l) ++ ']' :: r)) := value_writeChars v (by omega) (by simp [Stops])
    have hl : items n (writeItems (w :: l) ++ ']' :: r) = some (w :: l, r) :=
      items_writeItems (w :: l) (List.cons_ne_nil w l) r (by omega)
    rw [writeItems_cons_cons, List.append_assoc, List.cons_append]
    simp [items, hv, hl, skipGaps_cons (c := ',') rfl]

theorem fields_writeFields : ∀ (l : List (Option String × Json)), l ≠ [] → ∀ {n : Nat} (r : List Char),
    (writeFields l).length < n → fields n (writeFields l ++ '\x7d' :: r) = some (l, r)
  | [], hne, _, _, _ => absurd rfl hne
  | _ :: _, _, 0, _, h => absurd h (Nat.not_lt_zero _)
  | [(k, v)], _, n + 1, r, h => by
    rw [writeFields, List.length_append, List.length_cons] at h
    have hv : value n (writeChars v ++ '\x7d' :: r) = some (v, '\x7d' :: r) :=
      value_writeChars v (by omega) (by simp [Stops])
    rw [writeFields, List.append_assoc, List.cons_append]
    exact fields_last k (skipGaps_writeChars v _) hv
  | (k, v) :: m :: l, _, n + 1, r, h => by
    rw [writeFields_cons_cons, List.length_append, List.length_cons, List.length_append, List.length_cons] at h
    have hv : value n (writeChars v ++ ',' :: (writeFields (m :: l) ++ '\x7d' :: r)) =
        some (v, ',' :: (writeFields (m :: l) ++ '\x7d' :: r)) := value_writeChars v (by omega) (by simp [Stops])
    have hl : fields n (writeFields (m :: l) ++ '\x7d' :: r) = some (m :: l, r) :=
      fields_writeFields (m :: l) (List.cons_ne_nil m l) r (by omega)
    rw [writeFields_cons_cons, List.append_assoc, List.cons_append, List.append_assoc, List.cons_append]
    exact fields_further k (skipGaps_writeChars v _) hv hl

end

/-- **Every value is read back from what is written.** -/
theorem ofText?_write (j : Json) : ofText? (write j) = some j := by
  have hvalue := value_writeChars j (Nat.le_succ _) (r := []) trivial
  have hskip := skipGaps_writeChars j []
  rw [List.append_nil] at hvalue hskip
  rw [ofText?, write, String.toList_ofList, hskip, hvalue]
  rfl

end Json
end DynamicMembers
