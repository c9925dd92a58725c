import DynamicMembers.Proofs.Php.Heredocs
/-!
# Scanning — what a token takes

A scan splits what it is given into a token and its rest (`splits_scan`), and the token takes a character at least
(`scan_taken_ne_nil`).  A string that is closed before a place is the same whatever stands there.
-/
namespace DynamicMembers
namespace Php

/-! ## Numbers -/

theorem head?_filter_append (p : Char → Bool) (cs : List Char) :
    (cs.head?.filter p).toList ++ cs.drop (cs.head?.filter p).toList.length = cs := by
  cases cs with
  | nil => rfl
  | cons c cs => by_cases hc : p c = true <;> simp [Option.filter, hc]

/-- What makes an exponent: its letter, its sign if it has one, and a digit. -/
structure ExponentMark (x : Char) (sign : List Char) (d : Char) : Prop where
  letter : x = 'e' ∨ x = 'E'
  sign : sign = [] ∨ sign = ['+'] ∨ sign = ['-']
  digit : d.isDigit = true

theorem ExponentMark.exponent? {x d : Char} {sign : List Char} (h : ExponentMark x sign d) (z : List Char) :
    exponent? (x :: (sign ++ d :: z)) =
      some (x :: (sign ++ (d :: z).takeWhile isDigitPart), (d :: z).dropWhile isDigitPart) := by
  obtain ⟨hletter, hsign, hdigit⟩ := h
  have hplus : d ≠ '+' := by rintro rfl; cases hdigit
  have hminus : d ≠ '-' := by rintro rfl; cases hdigit
  rcases hsign with rfl | rfl | rfl <;> simp [Php.exponent?, Option.filter, hletter, hdigit, hplus, hminus]

theorem ExponentMark.any_isInert {x d : Char} {sign : List Char} (h : ExponentMark x sign d) :
    (x :: (sign ++ [d])).any isInert = false := by
  have hdigit : Php.isInert d = false := eq_false_of_imp isDigit_of_isInert h.digit
  rcases h.letter with rfl | rfl <;> rcases h.sign with rfl | rfl | rfl <;> simp [hdigit] <;> decide

theorem exists_of_exponent? {cs : List Char} {r : List Char × List Char} (h : exponent? cs = some r) :
    ∃ x sign d z, cs = x :: (sign ++ d :: z) ∧ ExponentMark x sign d := by
  cases cs with
  | nil => cases h
  | cons x cs =>
    rw [exponent?] at h
    simp only at h
    split at h
    · rename_i hletter
      split at h
      · rename_i hdigit
        have hcs := head?_filter_append (fun c => c == '+' || c == '-') cs
        generalize hs : (cs.head?.filter fun c => c == '+' || c == '-').toList = sign at hdigit hcs
        generalize cs.drop sign.length = digits at hdigit hcs
        obtain ⟨d, z, rfl⟩ : ∃ d z, digits = d :: z := by
          cases digits with
          | nil => cases hdigit
          | cons d z => exact ⟨d, z, rfl⟩
        refine ⟨x, sign, d, z, by rw [hcs], hletter, ?_, hdigit⟩
        subst hs
        cases cs with
        | nil => exact Or.inl rfl
        | cons c cs =>
          by_cases hc : (c == '+' || c == '-') = true
          · simp only [List.head?_cons, Option.filter, hc, ite_true]
            simpa using hc
          · exact Or.inl (by simp [Option.filter, hc])
      · cases h
    · cases h

theorem exponent?_append {cs e rest : List Char} (h : exponent? cs = some (e, rest)) : e ++ rest = cs := by
  obtain ⟨x, sign, d, z, rfl, hmark⟩ := exists_of_exponent? h
  rw [hmark.exponent?] at h
  obtain ⟨rfl, rfl⟩ := Prod.mk.inj (Option.some.inj h)
  rw [List.cons_append, List.append_assoc, List.takeWhile_append_dropWhile]

theorem exists_withExponent {kind k : TokenKind} {taken text rest rest' : List Char}
    (h : withExponent kind taken rest = (k, text, rest')) : ∃ e, text = taken ++ e ∧ rest = e ++ rest' := by
  unfold withExponent at h
  split at h
  · rename_i e r hexp
    cases h
    exact ⟨e, rfl, (exponent?_append hexp).symm⟩
  · cases h
    exact ⟨[], (List.append_nil _).symm, rfl⟩

theorem decimalNumber_whole {digits r : List Char} (htake : (digits ++ r).takeWhile isDigitPart = digits)
    (hdrop : (digits ++ r).dropWhile isDigitPart = r) (hr : ¬ ['.'] <+: r) :
    number.decimalNumber (digits ++ r) = withExponent .integer digits r := by
  unfold number.decimalNumber
  simp only [htake, hdrop]
  split
  · exact absurd ⟨_, rfl⟩ hr
  · rfl

theorem decimalNumber_point {digits r : List Char} (htake : (digits ++ '.' :: r).takeWhile isDigitPart = digits)
    (hdrop : (digits ++ '.' :: r).dropWhile isDigitPart = '.' :: r) :
    number.decimalNumber (digits ++ '.' :: r) =
      withExponent .literal (digits ++ '.' :: r.takeWhile isDigitPart) (r.dropWhile isDigitPart) := by
  unfold number.decimalNumber
  simp only [htake, hdrop]

/-- The letters behind the zero of a number that is not decimal. -/
def isRadix (c : Char) : Bool := decide (c.toLower ∈ ['x', 'b', 'o'])

theorem number_radix {c : Char} (hc : isRadix c = true) (r : List Char) :
    number ('0' :: c :: r) = (.integer, '0' :: c :: r.takeWhile isNamePart, r.dropWhile isNamePart) := by
  rw [isRadix, decide_eq_true_eq] at hc
  simp only [number, hc, ite_true]

theorem number_decimal {cs : List Char} (h : ∀ c r, cs = '0' :: c :: r → isRadix c = false) :
    number cs = number.decimalNumber cs := by
  unfold number
  split
  · rename_i c r
    have hc := h c r rfl
    rw [isRadix, decide_eq_false_iff_not] at hc
    rw [if_neg hc]
  · rfl

theorem isRadix_of_isInert {c : Char} (h : isInert c = true) : isRadix c = false := by
  have hnat := toNat_of_isInert h
  have hlower : c.toLower = c := by
    refine Text.toLower_of_not_isUpper (Bool.eq_false_iff.2 fun hupper => ?_)
    have hbounds := Text.toNat_of_isUpper hupper
    omega
  have hx : c ≠ 'x' := ne_of_isInert h (by decide)
  have hb : c ≠ 'b' := ne_of_isInert h (by decide)
  have ho : c ≠ 'o' := ne_of_isInert h (by decide)
  simp [isRadix, hlower, hx, hb, ho]

/-- A number that begins with a point has a digit behind it. -/
theorem any_head?_of_number {k : TokenKind} {cs t r : List Char} (hcs : cs.head?.any Char.isDigit = true)
    (h : number ('.' :: cs) = (k, '.' :: t, r)) : t.head?.any Char.isDigit = true := by
  rw [number_decimal fun _ _ h => absurd (List.cons.inj h).1 (by decide)] at h
  have hdecimal : number.decimalNumber ('.' :: cs) =
      withExponent .literal ('.' :: cs.takeWhile isDigitPart) (cs.dropWhile isDigitPart) :=
    @decimalNumber_point [] cs rfl rfl
  rw [hdecimal] at h
  obtain ⟨e, ht, -⟩ := exists_withExponent h
  obtain rfl : t = cs.takeWhile isDigitPart ++ e := (List.cons.inj ht).2
  exact Text.any_head?_append (Text.any_head?_takeWhile (fun _ => isDigitPart_of_isDigit) hcs) e

/-! ## Strings -/

theorem upToQuote_append (quote : Char) : ∀ cs : List Char,
    (upToQuote quote cs).1 ++ (upToQuote quote cs).2 = cs := by
  intro cs
  fun_induction upToQuote quote cs with
  | case1 c cs ih => simpa [taking] using ih
  | case2 cs => simp
  | case3 c cs _ hc ih => simpa [taking] using ih
  | case4 => rfl

theorem upToQuote_cons {quote c : Char} (hc : c ≠ '\\') (cs : List Char) :
    upToQuote quote (c :: cs) = if c = quote then ([c], cs) else taking [c] (upToQuote quote cs) := by
  rw [upToQuote]
  rintro d ds rfl
  exact absurd rfl hc

/-- A string that is closed before a place is the same whatever stands there. -/
theorem upToQuote_closed (quote : Char) (cs : List Char) (h : (upToQuote quote cs).2 ≠ []) (r : List Char) :
    upToQuote quote ((upToQuote quote cs).1 ++ r) = ((upToQuote quote cs).1, r) := by
  -- a backslash at the very end would take what follows
  have hend {c : Char} {cs : List Char} (hescape : ∀ d ds, c = '\\' → cs = d :: ds → False) (hcs : cs ≠ []) :
      c ≠ '\\' := by
    intro hc
    obtain ⟨d, ds, rfl⟩ := List.exists_cons_of_ne_nil hcs
    exact hescape d ds hc rfl
  fun_induction upToQuote quote cs with
  | case1 c cs ih => simp [taking, upToQuote, ih h]
  | case2 cs hescape =>
    have hquote : quote ≠ '\\' := hend hescape h
    simp [upToQuote_cons hquote]
  | case3 c cs hescape hc ih =>
    have hcs : cs ≠ [] := by
      rintro rfl
      exact h rfl
    simp [taking, upToQuote_cons (hend hescape hcs), hc, ih h]
  | case4 => exact absurd rfl h

theorem upToQuote_of_closed {quote : Char} {t r : List Char} (hr : r ≠ []) (h : upToQuote quote (t ++ r) = (t, r))
    (r' : List Char) : upToQuote quote (t ++ r') = (t, r') := by
  have hclosed := upToQuote_closed quote (t ++ r) (by rwa [h]) r'
  rwa [h] at hclosed

namespace Interpolated

theorem read_append (quote : Char) (m : Inside) (cs : List Char) :
    (read quote m cs).taken ++ (read quote m cs).rest = cs := by
  fun_induction read quote m cs <;> simp_all [after, noted]

/-- An interpolating string takes its first character first. -/
theorem exists_taken (quote : Char) (m : Inside) (c : Char) (cs : List Char) :
    ∃ t, (read quote m (c :: cs)).taken = c :: t := by
  unfold read
  split <;> rename_i h <;> cases h
  case h_5 | h_6 =>
    split <;> exact ⟨_, rfl⟩
  all_goals exact ⟨_, rfl⟩

theorem read_text_cons (quote : Char) {c : Char} {cs : List Char} (hescape : c ≠ '\\') (hsigil : c ≠ '$')
    (hbrace : ∀ ds, c = '\x7b' → cs ≠ '$' :: ds) : read quote .text (c :: cs) =
      if c = quote then ⟨false, [c], cs⟩ else after [c] (read quote .text cs) := by
  rw [read]
  · exact fun _ _ h _ => hescape h
  · exact hbrace
  · exact fun _ h _ => hsigil h
  · exact fun _ _ h _ => hsigil h

theorem read_sigil_cons {quote c : Char} (hc : c ≠ '\x7b') (cs : List Char) : read quote .text ('$' :: c :: cs) =
    if isNameStart c then after ['$', c] (read quote .text cs).noted else after ['$'] (read quote .text (c :: cs)) := by
  rw [read]
  exact hc

theorem read_quoted_cons {quote q c : Char} {d : Nat} {cs : List Char} (hescape : c ≠ '\\') :
    read quote (.code d (some q)) (c :: cs) =
      after [c] (read quote (.code d (if c = q then none else some q)) cs) := by
  rw [read]
  exact fun _ _ h _ => hescape h

/-- A string that is closed before a place is the same whatever stands there, interpolated code in it included. -/
theorem read_closed {quote : Char} (hquote : quote ≠ '\\' ∧ quote ≠ '$' ∧ quote ≠ '\x7b') (m : Inside)
    (cs : List Char) (h : (read quote m cs).rest ≠ []) (r : List Char) :
    read quote m ((read quote m cs).taken ++ r) = ⟨(read quote m cs).interpolates, (read quote m cs).taken, r⟩ := by
  -- a backslash or a sigil at the very end would take what follows
  have hmore {m : Inside} {c : Char} {cs : List Char} (h : (after [c] (read quote m cs)).rest ≠ []) :
      ∃ d ds, cs = d :: ds := List.exists_cons_of_ne_nil fun hcs => h (by rw [hcs, read]; rfl)
  fun_induction read quote m cs with
  | case1 => exact absurd rfl h
  | case2 c cs ih => simp [after, read, ih h]
  | case3 cs ih => simp [after, noted, read, ih h]
  | case4 cs ih => simp [after, noted, read, ih h]
  | case5 c cs hc hstart ih => simp [after, noted, read, hstart, ih h]
  | case6 c cs hc hstart ih =>
    obtain ⟨t, ht⟩ := exists_taken quote .text c cs
    have ih := ih h
    rw [ht, List.cons_append] at ih
    simp [after, ht, read_sigil_cons hc, hstart, ih]
  | case7 cs _ _ _ _ =>
    simp [read_text_cons quote hquote.1 hquote.2.1 fun _ h => absurd h hquote.2.2]
  | case8 c cs hescape hbrace _ hsigil hc ih =>
    have ih := ih h
    obtain ⟨d, ds, rfl⟩ := hmore h
    obtain ⟨t, ht⟩ := exists_taken quote .text d ds
    rw [ht, List.cons_append] at ih
    have hopen (es : List Char) (hc : c = '\x7b') : d :: (t ++ r) ≠ '$' :: es := by
      rintro ⟨⟩
      exact hbrace ds hc rfl
    have hcons := read_text_cons quote (fun hc => hescape d ds hc rfl) (fun hc => hsigil d ds hc rfl) hopen
    simp [after, ht, hcons, hc, ih]
  | case9 d c cs ih => simp [after, read, ih h]
  | case10 d q c cs ih => simp [after, read, ih h]
  | case11 d q c cs hescape ih =>
    obtain ⟨e, es, rfl⟩ := hmore h
    simp [after, read_quoted_cons fun hc => hescape e es hc rfl, ih h]

end Interpolated

theorem interpolating_of_closed (mark : List Char) {kind k : TokenKind} {t r : List Char} {quote : Char}
    (hquote : quote ≠ '\\' ∧ quote ≠ '$' ∧ quote ≠ '\x7b') (hr : r ≠ [])
    (h : interpolating kind mark quote (t ++ r) = (k, mark ++ t, r)) (r' : List Char) :
    interpolating kind mark quote (t ++ r') = (k, mark ++ t, r') := by
  obtain ⟨rfl, htaken, hleft⟩ := Prod.mk.inj h |>.imp_right Prod.mk.inj
  have htaken : (Interpolated.read quote .text (t ++ r)).taken = t := List.append_cancel_left htaken
  have hclosed := Interpolated.read_closed hquote .text (t ++ r) (by rwa [hleft]) r'
  rw [htaken] at hclosed
  simp [interpolating, hclosed]

/-- A word or a string behind a letter that may mark strings. -/
def marked (c : Char) : List Char → TokenKind × List Char × List Char
  | '\'' :: r => (.single, c :: '\'' :: (upToQuote '\'' r).1, (upToQuote '\'' r).2)
  | '"' :: r => interpolating .double [c, '"'] '"' r
  | '<' :: '<' :: '<' :: r => (heredoc [c, '<', '<', '<'] r).getD (word (c :: '<' :: '<' :: '<' :: r))
  | r => word (c :: r)

theorem marked_word {c : Char} {cs : List Char} (hsingle : ¬ ['\''] <+: cs) (hdouble : ¬ ['"'] <+: cs)
    (hheredoc : ¬ ['<', '<', '<'] <+: cs) : marked c cs = word (c :: cs) := by
  unfold marked
  split
  · exact absurd ⟨_, rfl⟩ hsingle
  · exact absurd ⟨_, rfl⟩ hdouble
  · exact absurd ⟨_, rfl⟩ hheredoc
  · rfl

theorem scan_of_letter {c : Char} (hc : c = 'b' ∨ c = 'B') (cs : List Char) : scan c cs = marked c cs := by
  rcases hc with rfl | rfl
  all_goals
    unfold marked
    split
    · rfl
    · rfl
    · rfl
    · unfold scan
      simp

/-! ## A token and its rest are what was scanned -/

/-- What a scan takes and what it leaves make up what it was given. -/
def Splits (r : TokenKind × List Char × List Char) (cs : List Char) : Prop := r.2.1 ++ r.2.2 = cs

theorem splits_withExponent (kind : TokenKind) (taken rest : List Char) :
    Splits (withExponent kind taken rest) (taken ++ rest) := by
  unfold withExponent
  split
  · rename_i e rest' h
    rw [Splits, List.append_assoc, exponent?_append h]
  · rfl

theorem splits_decimalNumber (cs : List Char) : Splits (number.decimalNumber cs) cs := by
  have hdigits : cs.takeWhile isDigitPart ++ cs.dropWhile isDigitPart = cs := List.takeWhile_append_dropWhile
  unfold number.decimalNumber
  simp only
  split
  · rename_i r h
    have hpoint := splits_withExponent .literal
      (cs.takeWhile isDigitPart ++ '.' :: r.takeWhile isDigitPart) (r.dropWhile isDigitPart)
    rw [Splits, hpoint, List.append_assoc, List.cons_append, List.takeWhile_append_dropWhile, ← h, hdigits]
  · rw [Splits, splits_withExponent .integer, hdigits]

theorem splits_number (cs : List Char) : Splits (number cs) cs := by
  unfold number
  split
  · split
    · simp [Splits]
    · exact splits_decimalNumber _
  · exact splits_decimalNumber _

theorem splits_sign (c : Char) (cs : List Char) : Splits (sign c cs) (c :: cs) := by
  unfold sign
  split
  · rename_i s h
    have hfound : s.isPrefixOf (c :: cs) = true :=
      List.find?_some (p := fun s : List Char => s.isPrefixOf (c :: cs)) h
    exact List.prefix_iff_eq_append.1 (List.isPrefixOf_iff_prefix.1 hfound)
  · rfl

theorem splits_interpolating (kind : TokenKind) (mark : List Char) (quote : Char) (cs : List Char) :
    Splits (interpolating kind mark quote cs) (mark ++ cs) := by
  rw [Splits, interpolating, List.append_assoc, Interpolated.read_append]

theorem splits_word (cs : List Char) : Splits (word cs) cs := List.takeWhile_append_dropWhile

theorem splits_heredoc {mark cs : List Char} {r : TokenKind × List Char × List Char} (h : heredoc mark cs = some r) :
    Splits r (mark ++ cs) := by
  unfold heredoc at h
  obtain ⟨⟨name, rest⟩, hname, rfl⟩ := Option.map_eq_some_iff.1 h
  obtain ⟨opening, rfl, -⟩ := opens_of_heredocName hname
  simp [Splits, upToName_append]

theorem splits_getD_heredoc (mark : List Char) {cs : List Char} {r : TokenKind × List Char × List Char}
    (h : Splits r (mark ++ cs)) : Splits ((heredoc mark cs).getD r) (mark ++ cs) := by
  cases hd : heredoc mark cs with
  | none => exact h
  | some r' => exact splits_heredoc hd

/-- **A token and its rest are what was scanned.** -/
theorem splits_scan (c : Char) (cs : List Char) : Splits (scan c cs) (c :: cs) := by
  unfold scan
  split
  · rename_i hc
    subst hc
    split
    · simp [Splits]
    · rfl
  split
  · exact congrArg (c :: ·) (upToQuote_append c cs)
  split
  · exact splits_interpolating .double [c] c cs
  split
  · exact splits_interpolating .literal [c] c cs
  split
  · exact splits_number (c :: cs)
  split
  · rename_i h
    have hcs : ['<', '<'] ++ cs.drop 2 = cs := h.2 ▸ List.take_append_drop 2 cs
    have hmark : [c, '<', '<'] ++ cs.drop 2 = c :: cs := congrArg (c :: ·) hcs
    exact hmark ▸ splits_getD_heredoc _ (hmark ▸ splits_sign c cs)
  split
  · split
    · exact congrArg (c :: '\'' :: ·) (upToQuote_append '\'' _)
    · exact splits_interpolating .double [c, '"'] '"' _
    · exact splits_getD_heredoc [c, '<', '<', '<'] (splits_word _)
    · exact splits_word _
  split
  · exact splits_word _
  · exact splits_sign c cs

/-! ## Every token takes a character -/

theorem sign_taken_ne_nil (c : Char) (cs : List Char) : (sign c cs).2.1 ≠ [] := by
  unfold sign
  split
  · rename_i s h
    have hsigns : signs.all (fun s => !s.isEmpty) = true := by decide
    have hs := List.all_eq_true.1 hsigns s (List.mem_of_find?_eq_some h)
    simpa using hs
  · simp

theorem word_taken_ne_nil {c : Char} (hc : isNameStart c = true) (cs : List Char) : (word (c :: cs)).2.1 ≠ [] := by
  rw [word, List.takeWhile_cons_of_pos (isNamePart_of_isNameStart hc)]
  simp

theorem getD_heredoc_taken_ne_nil {c : Char} {mark cs : List Char} {r : TokenKind × List Char × List Char}
    (h : r.2.1 ≠ []) : ((heredoc (c :: mark) cs).getD r).2.1 ≠ [] := by
  cases hfound : heredoc (c :: mark) cs with
  | none => exact h
  | some res =>
    obtain ⟨k, t, r'⟩ := res
    obtain ⟨u, rfl⟩ := exists_of_heredoc hfound
    simp

theorem marked_taken_ne_nil {c : Char} (hc : isNameStart c = true) (cs : List Char) : (marked c cs).2.1 ≠ [] := by
  unfold marked
  split
  · simp
  · simp [interpolating]
  · exact getD_heredoc_taken_ne_nil (word_taken_ne_nil hc _)
  · exact word_taken_ne_nil hc _

theorem withExponent_taken_ne_nil {kind : TokenKind} {taken rest : List Char} (h : taken ≠ []) :
    (withExponent kind taken rest).2.1 ≠ [] := by
  have hself : withExponent kind taken rest =
      ((withExponent kind taken rest).1, (withExponent kind taken rest).2) := rfl
  obtain ⟨e, he, -⟩ := exists_withExponent hself
  simp [he, h]

theorem number_taken_ne_nil {c : Char} {cs : List Char}
    (h : c.isDigit = true ∨ c = '.' ∧ cs.head?.any Char.isDigit = true) : (number (c :: cs)).2.1 ≠ [] := by
  have hdecimal : (number.decimalNumber (c :: cs)).2.1 ≠ [] := by
    unfold number.decimalNumber
    simp only
    split
    · exact withExponent_taken_ne_nil (by simp)
    · rename_i hpoint
      rcases h with hdigit | ⟨rfl, hdigit⟩
      · rw [List.takeWhile_cons_of_pos (isDigitPart_of_isDigit hdigit)]
        exact withExponent_taken_ne_nil (by simp)
      · exact absurd rfl (hpoint cs)
  unfold number
  split
  · split
    · simp
    · exact hdecimal
  · exact hdecimal

theorem scan_taken_ne_nil (c : Char) (cs : List Char) : (scan c cs).2.1 ≠ [] := by
  by_cases hletter : c = 'b' ∨ c = 'B'
  · have hstart : isNameStart c = true := by rcases hletter with rfl | rfl <;> decide
    rw [scan_of_letter hletter]
    exact marked_taken_ne_nil hstart cs
  unfold scan
  split
  · split <;> simp
  split
  · simp
  split
  · simp [interpolating]
  split
  · simp [interpolating]
  split
  · rename_i hnumber
    exact number_taken_ne_nil (by simpa using hnumber)
  split
  · exact getD_heredoc_taken_ne_nil (sign_taken_ne_nil c cs)
  split
  · rename_i hstart
    exact word_taken_ne_nil hstart cs
  · exact sign_taken_ne_nil c cs

theorem length_scan_le (c : Char) (cs : List Char) : (scan c cs).2.2.length ≤ cs.length := by
  have hsplit : (scan c cs).2.1 ++ (scan c cs).2.2 = c :: cs := splits_scan c cs
  have hlength := congrArg List.length hsplit
  have hpos := List.length_pos_iff.2 (scan_taken_ne_nil c cs)
  rw [List.length_append, List.length_cons] at hlength
  omega

end Php
end DynamicMembers
