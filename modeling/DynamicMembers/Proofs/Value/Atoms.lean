import DynamicMembers.Proofs.Text.Integer
import DynamicMembers.Proofs.Value.Pieces
import Mathlib.Data.List.Basic
/-!
# Single pieces of an annotation — how each form is read

A piece is decided by its form: a quoted literal, digits, a generic, a keyword or a class name.  What the printer writes
for a literal (`atom_escape`, `atom_writeInt`), for a class (`atom_separated`) or for a keyword (`atom_letters`) is read
as it was meant.
-/
namespace DynamicMembers
namespace PhpDoc

/-! ## One piece, by its form -/

section Atom

variable {cs r : List Char} {c : Char}

theorem atom_of_trim (ht : Text.trim cs = c :: r) (hc : c ≠ '?') :
    atom cs =
      if c = '\'' ∨ c = '"' then
        match literal c r with
        | some s => .ok (.stringLiteral (String.ofList s))
        | none => .error (.unterminatedLiteral (String.ofList (c :: r)))
      else if isInteger (c :: r) then integer (c :: r)
      else match beforeBrackets (c :: r) with
        | some element => (atom element).map (fun _ => .array)
        | none =>
          if '<' ∈ c :: r then
            if (c :: r).getLast? = some '>' then atom ((c :: r).takeWhile (· != '<'))
            else .error (.unbalancedGeneric (String.ofList (c :: r)))
          else nameOf (c :: r) := by
  rw [atom]
  split
  · rename_i h
    rw [ht] at h
    cases h
  · rename_i h
    rw [ht] at h
    cases h
    exact absurd rfl hc
  · rename_i c' r' _ h
    rw [ht] at h
    cases h
    congr 2
    split <;> rename_i hb <;> rw [hb]
    rfl

theorem atom_quoted (ht : Text.trim cs = c :: r) (hq : c = '\'' ∨ c = '"') {s : List Char} (hs : literal c r = some s) :
    atom cs = .ok (.stringLiteral (String.ofList s)) := by
  have hc : c ≠ '?' := by rcases hq with rfl | rfl <;> decide
  rw [atom_of_trim ht hc, if_pos hq, hs]

theorem atom_integer (ht : Text.trim cs = c :: r) (hc : c ∉ ['?', '\'', '"']) (hi : isInteger (c :: r) = true) :
    atom cs = integer (c :: r) := by
  simp only [List.mem_cons, List.not_mem_nil, or_false, not_or] at hc
  rw [atom_of_trim ht hc.1, if_neg (by simp [hc.2]), if_pos hi]

theorem atom_name (ht : Text.trim cs = c :: r) (hc : c ∉ ['?', '\'', '"']) (hi : isInteger (c :: r) = false)
    (hb : beforeBrackets (c :: r) = none) (ho : '<' ∉ c :: r) : atom cs = nameOf (c :: r) := by
  simp only [List.mem_cons, List.not_mem_nil, or_false, not_or] at hc
  rw [atom_of_trim ht hc.1, if_neg (by simp [hc.2]), hi, if_neg (by decide), hb]
  exact if_neg ho

end Atom

/-! ## Literals -/

theorem unescape_cons {quote c : Char} (hc : c ≠ '\\') (hq : c ≠ quote) (cs : List Char) :
    unescape quote (c :: cs) = (unescape quote cs).map (c :: ·) := by
  rw [unescape, if_neg hq] <;> simp [hc]

theorem unescape_escape : ∀ cs : List Char, unescape '\'' (PhpType.escape cs) = some cs
  | [] => rfl
  | c :: cs => by
    have ih := unescape_escape cs
    rw [PhpType.escape]
    split
    · rename_i hc
      rw [unescape, if_pos hc.symm, ih, Option.map_some]
    · rename_i hc
      rw [not_or] at hc
      rw [unescape_cons hc.1 hc.2, ih, Option.map_some]

theorem literal_escape (cs : List Char) : literal '\'' (PhpType.escape cs ++ ['\'']) = some cs := by
  rw [literal, beforeClosing, List.getLast?_concat, if_pos rfl, List.dropLast_concat, Option.bind_some, unescape_escape]

theorem atom_escape (cs : List Char) :
    atom ('\'' :: (PhpType.escape cs ++ ['\''])) = .ok (.stringLiteral (String.ofList cs)) := by
  have ht : Text.trim ('\'' :: (PhpType.escape cs ++ ['\''])) = '\'' :: (PhpType.escape cs ++ ['\'']) := by
    refine Text.trim_of_ends (fun c hc => ?_) (fun c hc => ?_)
    · cases hc
      decide
    · rw [← List.cons_append, List.getLast?_concat] at hc
      cases hc
      decide
  exact atom_quoted ht (Or.inl rfl) (literal_escape cs)

/-! ## Integers -/

theorem isInteger_writeInt : ∀ n : Int, isInteger (Text.writeInt n) = true
  | .ofNat n => by
    have hd : ∀ c ∈ Text.decimal n, c.isDigit = true := fun c hc => Text.isDigit_of_mem_decimal hc
    rw [Text.writeInt]
    cases h : Text.decimal n with
    | nil => exact absurd h (Text.decimal_ne_nil n)
    | cons c cs =>
      rw [h] at hd
      have hc : c ≠ '-' := by
        rintro rfl
        exact absurd (hd '-' List.mem_cons_self) (by decide)
      rw [isInteger]
      · simpa using hd
      · simp [hc]
  | .negSucc n => by
    have hd : ∀ c ∈ Text.decimal (n + 1), c.isDigit = true := fun c hc => Text.isDigit_of_mem_decimal hc
    rw [Text.writeInt, isInteger, List.all_eq_true.2 hd, Bool.and_true, Bool.not_eq_true', List.isEmpty_eq_false_iff]
    exact Text.decimal_ne_nil (n + 1)

theorem mem_writeInt {c : Char} : ∀ {n : Int}, c ∈ Text.writeInt n → c = '-' ∨ c.isDigit = true
  | .ofNat _, h => Or.inr (Text.isDigit_of_mem_decimal h)
  | .negSucc n, h => by
    rw [Text.writeInt] at h
    rcases List.mem_cons.1 h with h | h
    · exact Or.inl h
    · exact Or.inr (Text.isDigit_of_mem_decimal h)

theorem integer_writeInt (w : Int64) : integer (Text.writeInt w.toInt) = .ok (.intLiteral w) := by
  simp only [integer, Text.readInt_writeInt, Text.toInt64_toInt]

theorem atom_writeInt (w : Int64) : atom (Text.writeInt w.toInt) = .ok (.intLiteral w) := by
  have hm : ∀ c ∈ Text.writeInt w.toInt, c = '-' ∨ c.isDigit = true := fun c hc => mem_writeInt hc
  have ht : Text.trim (Text.writeInt w.toInt) = Text.writeInt w.toInt := Text.trim_of_unblank (fun c hc => by
    rcases hm c hc with rfl | hd
    · decide
    · exact Text.isBlank_of_isDigit hd)
  have hi := isInteger_writeInt w.toInt
  have hr := integer_writeInt w
  generalize Text.writeInt w.toInt = cs at *
  cases cs with
  | nil => cases hi
  | cons c r =>
    rw [atom_integer ht (fun hc => ?_) hi, hr]
    rcases hm c List.mem_cons_self with rfl | hd
    · exact absurd hc (by decide)
    · exact not_mem_of_any_eq_false (p := Char.isDigit) (by decide) hd hc

/-! ## Class names -/

/-- Words with separators between them. -/
def isClassPath (cs : List Char) : Bool := (Text.split '\\' cs).all isWord

theorem isWordPart_of_mem {w : List Char} (h : isWord w = true) : ∀ c ∈ w, isWordPart c = true := by
  cases w with
  | nil => cases h
  | cons d w =>
    simp only [isWord, Bool.and_eq_true, List.all_eq_true] at h
    intro c hc
    rcases List.mem_cons.1 hc with rfl | hc
    · have hs := h.1
      simp only [isWordStart, isWordPart, Char.isAlphanum, Bool.or_eq_true] at hs ⊢
      tauto
    · exact h.2 c hc

theorem mem_classPath {cs : List Char} (h : isClassPath cs = true) : ∀ c ∈ cs, c = '\\' ∨ isWordPart c = true := by
  intro c hc
  rw [← Text.join_split '\\' cs] at hc
  rcases Text.mem_join hc with hc | ⟨w, hw, hc⟩
  · exact Or.inl hc
  · exact Or.inr (isWordPart_of_mem (List.all_eq_true.1 h w hw) c hc)

theorem isDigit_of_isLower {c : Char} (h : c.isLower = true) : c.isDigit = false := by
  have hletter := Text.toNat_of_isLower h
  by_contra hd
  have hdigit : 48 ≤ c.toNat ∧ c.toNat ≤ 57 := Char.isDigit_iff_toNat.1 (by simpa using hd)
  omega

theorem toNat_of_isWordPart {c : Char} (h : isWordPart c = true) : 48 ≤ c.toNat ∧ c.toNat ≤ 122 := by
  rcases Bool.or_eq_true_iff.1 h with h | h
  · rcases Bool.or_eq_true_iff.1 h with h | h
    · rcases Bool.or_eq_true_iff.1 h with h | h
      · have hupper := Text.toNat_of_isUpper h
        omega
      · have hlower := Text.toNat_of_isLower h
        omega
    · have hdigit : 48 ≤ c.toNat ∧ c.toNat ≤ 57 := Char.isDigit_iff_toNat.1 h
      omega
  · obtain rfl : c = '_' := by simpa using h
    decide

theorem isBlank_of_isWordPart {c : Char} (h : isWordPart c = true) : Text.isBlank c = false := by
  have hc := toNat_of_isWordPart h
  exact Text.isBlank_of_visible (by omega) (by omega)

/-- A class path does not start with a separator. -/
theorem head_ne_of_classPath {cs : List Char} (h : isClassPath cs = true) : ∀ c ∈ cs.head?, (c == '\\') = false := by
  intro c hc
  cases cs with
  | nil => cases hc
  | cons d cs =>
    obtain rfl : d = c := Option.some.inj hc
    by_contra hsep
    have hd : d = '\\' := by simpa using hsep
    rw [isClassPath, Text.split, if_pos hd] at h
    cases h

theorem dropSeparators_of_classPath {cs : List Char} (h : isClassPath cs = true) :
    cs.dropWhile (· == Name.separator) = cs :=
  Text.dropWhile_of_head (head_ne_of_classPath h)

theorem keyword_separated (cs : List Char) : keyword ('\\' :: cs) = none := by
  have hhead : ∀ s, Text.lower (String.ofList ('\\' :: cs)) = s → s.toList.head? = some '\\' := by
    rintro s rfl
    rw [Text.toList_lower, String.toList_ofList]
    rfl
  unfold keyword
  split
  all_goals first | rfl | exact absurd (hhead _ ‹_›) (by decide)

theorem ofClass_separated {name : String} (h : isClassPath name.toList = true) :
    PhpType.ofClass (String.ofList ('\\' :: name.toList)) = .named name := by
  rw [PhpType.ofClass, Name.bare, String.toList_ofList, List.dropWhile_cons_of_pos rfl, dropSeparators_of_classPath h,
    String.ofList_toList]

theorem beforeBrackets_of_not_mem {cs : List Char} (h : ']' ∉ cs) : beforeBrackets cs = none := by
  unfold beforeBrackets
  split
  · rename_i heq
    have hmem : ']' ∈ cs.reverse := by
      rw [heq]
      exact List.mem_cons_self
    exact absurd (List.mem_reverse.1 hmem) h
  · rfl

theorem atom_letters {cs : List Char} (hne : cs ≠ []) (hall : cs.all Char.isLower = true) : atom cs = nameOf cs := by
  have h : ∀ c ∈ cs, c.isLower = true := List.all_eq_true.1 hall
  have ht : Text.trim cs = cs := Text.trim_of_unblank (fun c hc => by
    have hletter := Text.toNat_of_isLower (h c hc)
    exact Text.isBlank_of_visible (by omega) (by omega))
  cases cs with
  | nil => exact absurd rfl hne
  | cons c r =>
    have hc := h c List.mem_cons_self
    have hnot : ∀ d, d.isLower = false → d ∉ c :: r := fun d hd hm => by rw [h d hm] at hd; cases hd
    have hi : isInteger (c :: r) = false := by
      rw [isInteger]
      · rw [List.all_cons, isDigit_of_isLower hc, Bool.false_and, Bool.and_false]
      · intro cs heq
        cases heq
        exact absurd hc (by decide)
    exact atom_name ht (not_mem_of_any_eq_false (p := Char.isLower) (by decide) hc) hi
      (beforeBrackets_of_not_mem (hnot ']' (by decide))) (hnot '<' (by decide))

theorem atom_separated {name : String} (h : isClassPath name.toList = true) :
    atom ('\\' :: name.toList) = .ok (.named name) := by
  have hm : ∀ c ∈ '\\' :: name.toList, c = '\\' ∨ isWordPart c = true := by
    intro c hc
    rcases List.mem_cons.1 hc with hc | hc
    · exact Or.inl hc
    · exact mem_classPath h c hc
  have hnot : ∀ d, d ≠ '\\' → isWordPart d = false → d ∉ '\\' :: name.toList := by
    intro d hd hw hc
    rcases hm d hc with hc | hc
    · exact hd hc
    · rw [hw] at hc
      cases hc
  have ht : Text.trim ('\\' :: name.toList) = '\\' :: name.toList := Text.trim_of_unblank (fun c hc => by
    rcases hm c hc with rfl | hw
    · decide
    · exact isBlank_of_isWordPart hw)
  have hb : beforeBrackets ('\\' :: name.toList) = none := beforeBrackets_of_not_mem (hnot ']' (by decide) (by decide))
  rw [atom_name ht (by decide) rfl hb (hnot '<' (by decide) (by decide)), nameOf, keyword_separated]
  simp only
  rw [if_pos (show isClassName ('\\' :: name.toList) = true from h), ofClass_separated h]

end PhpDoc
end DynamicMembers
