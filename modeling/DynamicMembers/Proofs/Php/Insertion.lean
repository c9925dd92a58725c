import DynamicMembers.Proofs.Php.Scanning
/-!
# Insertion — a token is the same in front of a comment

How far a token goes may depend on what follows it, but blanks and comments continue no token: one that ends before a
place in the source is the same when a comment is put in there (`scan_insert`).
-/
namespace DynamicMembers
namespace Php

/-- A comment, with the blanks before it. -/
def BeginsComment (cs : List Char) : Prop :=
  ∃ blanks c r, cs = blanks ++ c :: r ∧ (∀ b ∈ blanks, isSpace b = true) ∧ (c = '/' ∨ c = '#')

theorem BeginsComment.exists_cons {y : List Char} (hy : BeginsComment y) : ∃ c r, y = c :: r ∧ isInert c = true := by
  obtain ⟨_ | ⟨b, blanks⟩, c, r, rfl, hblanks, hc⟩ := hy
  · exact ⟨c, r, rfl, by rcases hc with rfl | rfl <;> rfl⟩
  · have hb : isSpace b = true := hblanks b List.mem_cons_self
    exact ⟨b, blanks ++ c :: r, rfl, by simp [isInert, hb]⟩

theorem BeginsComment.head {y : List Char} (hy : BeginsComment y) {p : Char → Bool}
    (hp : ∀ c, isInert c = true → p c = false) : ∀ c ∈ y.head?, p c = false := by
  obtain ⟨c, r, rfl, hc⟩ := hy.exists_cons
  simpa using hp c hc

theorem BeginsComment.exists_indent {y : List Char} (hy : BeginsComment y) : ∃ indent c r, y = indent ++ c :: r ∧
    (∀ b ∈ indent, isIndent b = true) ∧ isIndent c = false ∧ isInert c = true := by
  obtain ⟨blanks, c, r, rfl, hblanks, hc⟩ := hy
  induction blanks with
  | nil =>
    refine ⟨[], c, r, rfl, by simp, ?_⟩
    rcases hc with rfl | rfl <;> decide
  | cons b blanks ih =>
    obtain ⟨hb, hblanks⟩ := List.forall_mem_cons.1 hblanks
    by_cases hindent : isIndent b = true
    · obtain ⟨indent, d, rest, heq, hall, hd⟩ := ih hblanks
      exact ⟨b :: indent, d, rest, by simp [heq], List.forall_mem_cons.2 ⟨hindent, hall⟩, hd⟩
    · exact ⟨[], b, blanks ++ c :: r, rfl, by simp, by simpa using hindent, by simp [isInert, hb]⟩

theorem find?_eq_some_of_imp {α : Type} {p q : α → Bool} {l : List α} {x : α} (h : ∀ y ∈ l, q y = true → p y = true)
    (hx : l.find? p = some x) (hq : q x = true) : l.find? q = some x := by
  rw [List.find?_eq_some_iff_append] at hx ⊢
  obtain ⟨-, before, after, rfl, hbefore⟩ := hx
  refine ⟨hq, before, after, rfl, fun y hy => ?_⟩
  have hp := hbefore y hy
  rw [Bool.not_eq_true'] at hp ⊢
  rw [Bool.eq_false_iff] at hp ⊢
  exact fun hqy => hp (h y (List.mem_append_left _ hy) hqy)

section Inserted

-- a place in a source: what stands behind it, and what stands there with the comment
variable {a y : List Char} (hy : BeginsComment y)
include hy

theorem head?_insert {p : Char → Bool} (hp : ∀ c, isInert c = true → p c = false) {w : List Char}
    (h : ∀ c ∈ (w ++ a).head?, p c = false) : ∀ c ∈ (w ++ y).head?, p c = false := by
  cases w with
  | cons c w => exact h
  | nil => exact hy.head hp

theorem any_head?_insert {p : Char → Bool} (hp : ∀ c, isInert c = true → p c = false) {t b : List Char}
    (h : (t ++ (b ++ a)).head?.any p = false) : (t ++ (b ++ y)).head?.any p = false := by
  rw [Text.any_head?_eq_false, ← List.append_assoc] at h ⊢
  exact head?_insert hy hp h

/-- A run of characters that ends before a place is the same when a comment stands there. -/
theorem span_insert {p : Char → Bool} (hp : ∀ c, isInert c = true → p c = false) {t w : List Char}
    (h : (t ++ (w ++ a)).takeWhile p = t) :
    (t ++ (w ++ y)).takeWhile p = t ∧ (t ++ (w ++ y)).dropWhile p = w ++ y := by
  have ht : ∀ c ∈ t, p c = true := fun c hc => by
    rw [← h] at hc
    exact List.all_eq_true.1 List.all_takeWhile c hc
  have hnone : (w ++ a).takeWhile p = [] := by simpa [List.takeWhile_append_of_pos ht] using h
  refine Text.span_append ht (head?_insert (a := a) hy hp ?_)
  cases hwa : w ++ a with
  | nil => simp
  | cons d r =>
    rw [hwa] at hnone
    by_cases hd : p d = true
    · rw [List.takeWhile_cons_of_pos hd] at hnone
      cases hnone
    · simpa using hd

theorem prefix_of_insert {s w : List Char} (hs : s.any isInert = false) (h : s <+: w ++ y) : s <+: w := by
  induction w generalizing s with
  | nil =>
    obtain ⟨d, r, rfl, hd⟩ := hy.exists_cons
    cases s with
    | nil => exact List.nil_prefix
    | cons c s =>
      rw [List.any_cons, Bool.or_eq_false_iff] at hs
      exact absurd (List.cons_prefix_cons.1 h).1.symm (ne_of_isInert hd hs.1)
  | cons d w ih =>
    cases s with
    | nil => exact List.nil_prefix
    | cons c s =>
      rw [List.any_cons, Bool.or_eq_false_iff] at hs
      obtain ⟨rfl, htail⟩ := List.cons_prefix_cons.1 h
      exact List.cons_prefix_cons.2 ⟨rfl, ih hs.2 htail⟩

/-- What stands in front of a comment and holds nothing inert stands before its place. -/
theorem exists_of_prefix {s t b : List Char} (hs : s.any isInert = false) (h : s <+: t ++ (b ++ y)) :
    ∃ u, ∀ z, t ++ (b ++ z) = s ++ (u ++ z) := by
  rw [← List.append_assoc] at h
  obtain ⟨u, hu⟩ := prefix_of_insert hy hs h
  exact ⟨u, fun z => by rw [← List.append_assoc, ← hu, List.append_assoc]⟩

theorem prefix_insert {s t b : List Char} (hs : s.any isInert = false) (h : s <+: t ++ (b ++ y)) :
    s <+: t ++ (b ++ a) := by
  obtain ⟨u, hu⟩ := exists_of_prefix hy hs h
  exact ⟨u ++ a, (hu a).symm⟩

/-! ## Numbers -/

theorem exponent?_insert_none {b : List Char} (h : exponent? (b ++ a) = none) : exponent? (b ++ y) = none := by
  cases hexp : exponent? (b ++ y) with
  | none => rfl
  | some r =>
    obtain ⟨x, sign, d, z, hcs, hmark⟩ := exists_of_exponent? hexp
    have hprefix : x :: (sign ++ [d]) <+: b ++ y := ⟨z, by simp [hcs]⟩
    obtain ⟨z', hz'⟩ := prefix_insert (a := a) hy (t := []) hmark.any_isInert hprefix
    have hcs' : b ++ a = x :: (sign ++ d :: z') := by simpa using hz'.symm
    rw [hcs', hmark.exponent?] at h
    cases h

theorem exponent?_insert {e b : List Char} (h : exponent? (e ++ (b ++ a)) = some (e, b ++ a)) :
    exponent? (e ++ (b ++ y)) = some (e, b ++ y) := by
  obtain ⟨x, sign, d, z, hcs, hmark⟩ := exists_of_exponent? h
  have hz := h
  rw [hcs, hmark.exponent?, Option.some_inj, Prod.mk.injEq] at hz
  obtain ⟨rfl, hrest⟩ := hz
  have hd : isDigitPart d = true := by simp [isDigitPart, hmark.digit]
  have hsame : (d :: z).takeWhile isDigitPart ++ (b ++ a) = d :: z := by
    rw [← hrest, List.takeWhile_append_dropWhile]
  obtain ⟨htake, hdrop⟩ := span_insert (a := a) hy (w := b) (t := (d :: z).takeWhile isDigitPart)
    (fun c => isDigitPart_of_isInert) (by rw [hsame])
  rw [List.takeWhile_cons_of_pos hd, List.cons_append] at htake hdrop ⊢
  simp [hmark.exponent?, htake, hdrop]

theorem withExponent_insert {kind k : TokenKind} {taken e b : List Char}
    (h : withExponent kind taken (e ++ (b ++ a)) = (k, taken ++ e, b ++ a)) :
    withExponent kind taken (e ++ (b ++ y)) = (k, taken ++ e, b ++ y) := by
  unfold withExponent at h ⊢
  cases hexp : exponent? (e ++ (b ++ a)) with
  | none =>
    simp only [hexp, Prod.mk.injEq] at h
    obtain ⟨rfl, htaken, -⟩ := h
    obtain rfl : e = [] := by simpa using htaken
    rw [List.nil_append] at hexp
    simp [exponent?_insert_none hy hexp]
  | some r =>
    obtain ⟨e', rest⟩ := r
    simp only [hexp, Prod.mk.injEq, List.append_cancel_left_eq] at h
    obtain ⟨rfl, rfl, rfl⟩ := h
    simp [exponent?_insert hy hexp]

/-- A decimal number is the same in front of a comment. -/
theorem decimalNumber_insert {k : TokenKind} {t b : List Char}
    (h : number.decimalNumber (t ++ (b ++ a)) = (k, t, b ++ a)) :
    number.decimalNumber (t ++ (b ++ y)) = (k, t, b ++ y) := by
  have hpoint {w : List Char} (hw : ∀ r, w ++ (b ++ a) = '.' :: r → False) : ¬ ['.'] <+: w ++ (b ++ y) := by
    intro hpoint
    obtain ⟨r, hr⟩ := prefix_insert (a := a) hy (by decide) hpoint
    exact hw r hr.symm
  have hspan (u w : List Char) (hu : (u ++ (w ++ (b ++ a))).takeWhile isDigitPart = u) :
      (u ++ (w ++ (b ++ y))).takeWhile isDigitPart = u ∧
        (u ++ (w ++ (b ++ y))).dropWhile isDigitPart = w ++ (b ++ y) := by
    rw [← List.append_assoc w] at hu ⊢
    exact span_insert hy (fun c => isDigitPart_of_isInert) hu
  unfold number.decimalNumber at h
  simp only at h
  generalize hdigits : (t ++ (b ++ a)).takeWhile isDigitPart = digits at h
  split at h
  · rename_i r hdrop
    obtain ⟨e, rfl, he⟩ := exists_withExponent h
    rw [he] at h
    generalize hfraction : r.takeWhile isDigitPart = fraction at h hdigits ⊢
    have hr' : r = fraction ++ (e ++ (b ++ a)) := by rw [← he, ← hfraction, List.takeWhile_append_dropWhile]
    subst hr'
    obtain ⟨htake, hdrop⟩ := hspan digits ('.' :: fraction ++ e) (by simpa using hdigits)
    obtain ⟨hfraction, hrest⟩ := hspan fraction e hfraction
    simp only [List.append_assoc, List.cons_append] at htake hdrop ⊢
    rw [decimalNumber_point htake hdrop, hfraction, hrest]
    simpa using withExponent_insert hy h
  · rename_i hr
    obtain ⟨e, rfl, he⟩ := exists_withExponent h
    rw [he] at h hr
    obtain ⟨htake, hdrop⟩ := hspan digits e (by simpa using hdigits)
    rw [List.append_assoc, decimalNumber_whole htake hdrop (hpoint hr)]
    exact withExponent_insert hy h

theorem number_insert {k : TokenKind} {c : Char} {t b : List Char}
    (h : number (c :: (t ++ (b ++ a))) = (k, c :: t, b ++ a)) :
    number (c :: (t ++ (b ++ y))) = (k, c :: t, b ++ y) := by
  by_cases hradix : ∃ d r, c :: (t ++ (b ++ a)) = '0' :: d :: r ∧ isRadix d = true
  · obtain ⟨d, r, hcs, hd⟩ := hradix
    obtain ⟨rfl, htail⟩ := List.cons.inj hcs
    rw [htail, number_radix hd] at h
    obtain ⟨rfl, ht, hrest⟩ := Prod.mk.inj h |>.imp_right Prod.mk.inj
    obtain rfl : d :: r.takeWhile isNamePart = t := (List.cons.inj ht).2
    have htake : (r.takeWhile isNamePart ++ (b ++ a)).takeWhile isNamePart = r.takeWhile isNamePart := by
      rw [← hrest, List.takeWhile_append_dropWhile]
    obtain ⟨htake, hdrop⟩ := span_insert hy (fun c => isNamePart_of_isInert) htake
    rw [List.cons_append, number_radix hd, htake, hdrop]
  · have hdecimal {cs : List Char} (h : ∀ d, isRadix d = true → ¬ ['0', d] <+: cs) :
        ∀ d r, cs = '0' :: d :: r → isRadix d = false := by
      rintro d r rfl
      rw [Bool.eq_false_iff]
      exact fun hd => h d hd ⟨r, rfl⟩
    have hbefore (d : Char) (hd : isRadix d = true) : ¬ ['0', d] <+: c :: (t ++ (b ++ a)) := by
      rintro ⟨r, hr⟩
      exact hradix ⟨d, r, hr.symm, hd⟩
    have hafter (d : Char) (hd : isRadix d = true) : ¬ ['0', d] <+: c :: (t ++ (b ++ y)) := by
      have hinert : isInert d = false := eq_false_of_imp isRadix_of_isInert hd
      exact fun h => hbefore d hd (prefix_insert hy (t := c :: t) (by simp [hinert]; decide) h)
    rw [number_decimal (hdecimal hbefore)] at h
    rw [number_decimal (hdecimal hafter)]
    exact decimalNumber_insert hy (t := c :: t) h

/-! ## Signs, words and variables -/

theorem sign_insert {k : TokenKind} {c : Char} {t b : List Char} (h : sign c (t ++ (b ++ a)) = (k, c :: t, b ++ a)) :
    sign c (t ++ (b ++ y)) = (k, c :: t, b ++ y) := by
  have hback : ∀ s ∈ signs,
      s.isPrefixOf (c :: (t ++ (b ++ y))) = true → s.isPrefixOf (c :: (t ++ (b ++ a))) = true := by
    intro s hs hprefix
    rw [List.isPrefixOf_iff_prefix] at hprefix ⊢
    cases s with
    | nil => exact List.nil_prefix
    | cons d s =>
      obtain ⟨rfl, htail⟩ := List.cons_prefix_cons.1 hprefix
      exact List.cons_prefix_cons.2 ⟨rfl, prefix_insert hy (any_isInert_of_mem_signs hs) htail⟩
  unfold sign at h ⊢
  cases hfound : signs.find? (·.isPrefixOf (c :: (t ++ (b ++ a)))) with
  | none =>
    rw [hfound] at h
    obtain ⟨rfl, ht, -⟩ := Prod.mk.inj h |>.imp_right Prod.mk.inj
    obtain rfl : t = [] := (List.cons.inj ht).2.symm
    have hnone : signs.find? (·.isPrefixOf (c :: ([] ++ (b ++ y)))) = none := by
      rw [List.find?_eq_none] at hfound ⊢
      exact fun s hs hprefix => hfound s hs (hback s hs hprefix)
    rw [hnone]
    rfl
  | some s =>
    rw [hfound] at h
    obtain ⟨rfl, rfl, -⟩ := Prod.mk.inj h |>.imp_right Prod.mk.inj
    have hstill : (c :: t).isPrefixOf (c :: (t ++ (b ++ y))) = true :=
      List.isPrefixOf_iff_prefix.2 ⟨b ++ y, rfl⟩
    rw [find?_eq_some_of_imp hback hfound hstill]
    simp

theorem word_insert {k : TokenKind} {t b : List Char} (h : word (t ++ (b ++ a)) = (k, t, b ++ a)) :
    word (t ++ (b ++ y)) = (k, t, b ++ y) := by
  obtain ⟨rfl, htake, -⟩ := Prod.mk.inj h |>.imp_right Prod.mk.inj
  obtain ⟨htake, hdrop⟩ := span_insert hy (fun c => isNamePart_of_isInert) htake
  rw [word, htake, hdrop]

theorem var_insert {k : TokenKind} {t b : List Char} (h : scan '$' (t ++ (b ++ a)) = (k, '$' :: t, b ++ a)) :
    scan '$' (t ++ (b ++ y)) = (k, '$' :: t, b ++ y) := by
  have hdollar (cs : List Char) : scan '$' cs = if cs.head?.any isNameStart then
      (.var, '$' :: cs.takeWhile isNamePart, cs.dropWhile isNamePart) else (.sign, ['$'], cs) := rfl
  rw [hdollar] at h ⊢
  split at h
  · rename_i hstart
    obtain ⟨rfl, ht, -⟩ := Prod.mk.inj h |>.imp_right Prod.mk.inj
    have ht : (t ++ (b ++ a)).takeWhile isNamePart = t := (List.cons.inj ht).2
    have hname := Text.any_head?_takeWhile (fun c => isNamePart_of_isNameStart) hstart
    rw [ht] at hname
    obtain ⟨htake, hdrop⟩ := span_insert hy (fun c => isNamePart_of_isInert) ht
    rw [if_pos (Text.any_head?_append hname _), htake, hdrop]
  · rename_i hstart
    obtain ⟨rfl, ht, -⟩ := Prod.mk.inj h |>.imp_right Prod.mk.inj
    obtain rfl : t = [] := (List.cons.inj ht).2.symm
    have hnone := any_head?_insert hy (t := []) (fun c => isNameStart_of_isInert) (Bool.eq_false_iff.2 hstart)
    rw [hnone]
    rfl

/-! ## Heredocs -/

/-- What a comment begins with is no name of a heredoc. -/
theorem heredocName_of_beginsComment {blanks : List Char} (hblanks : ∀ b ∈ blanks, isIndent b = true) :
    heredocName (blanks ++ y) = none := by
  obtain ⟨indent, c, r, rfl, hindent, hc, hinert⟩ := hy.exists_indent
  have hall : ∀ b ∈ blanks ++ indent, isIndent b = true := by
    intro b hb
    exact (List.mem_append.1 hb).elim (hblanks b) (hindent b)
  rw [← List.append_assoc, heredocName_bare hall hc (isQuote_of_isInert hinert), isNameStart_of_isInert hinert]
  rfl

theorem heredocName_insert_none {b : List Char} (h : heredocName (b ++ a) = none) : heredocName (b ++ y) = none := by
  rcases Text.exists_run isIndent b with hall | ⟨blanks, c, r, rfl, hblanks, hc⟩
  · exact heredocName_of_beginsComment hy hall
  simp only [List.append_assoc, List.cons_append] at h ⊢
  by_cases hquote : isQuote c = true
  · rw [heredocName_quoted hblanks hquote] at h ⊢
    rcases Text.exists_run isNamePart r with hall | ⟨run, d, r, rfl, hrun, hd⟩
    · obtain ⟨-, hdrop⟩ := Text.span_append hall (hy.head fun c => isNamePart_of_isInert)
      obtain ⟨d, rest, rfl, hd⟩ := hy.exists_cons
      have hne : d ≠ c := by
        rintro rfl
        rw [isQuote_of_isInert hd] at hquote
        cases hquote
      simp [hdrop, hne]
    · have hspan (z : List Char) := Text.span_append (r := d :: (r ++ z)) hrun (by simpa using hd)
      simp only [List.append_assoc, List.cons_append, hspan] at h ⊢
      split at h
      · rename_i hstart
        split at h
        · cases h
        · rename_i hclose
          simpa [hstart] using hclose
      · rename_i hstart
        rw [if_neg hstart]
  · have hquote : isQuote c = false := by simpa using hquote
    rw [heredocName_bare hblanks hc hquote] at h ⊢
    split at h
    · cases h
    · rename_i hstart
      rw [if_neg hstart]

/-- A heredoc that is closed before a place is the same when a comment stands there. -/
theorem upToName_insert {name t b : List Char} (hname : IsName name) (ha : a ≠ []) {atStart : Bool}
    (h : upToName name atStart (t ++ (b ++ a)) = (t, b ++ a)) :
    upToName name atStart (t ++ (b ++ y)) = (t, b ++ y) := by
  have hrest : b ++ a ≠ [] := List.append_ne_nil_of_right_ne_nil b ha
  have hclosed {t : List Char} {atStart : Bool} (h : upToName name atStart (t ++ (b ++ a)) = (t, b ++ a)) :
      (∃ c ∈ t, isSpace c = false) ∧
        closesHeredoc name (t ++ (b ++ y)) = closesHeredoc name (t ++ (b ++ a)) := by
    have hends := upToName_closed hname atStart (t ++ (b ++ a)) (by rw [h]; exact hrest)
    rw [h] at hends
    have hblank : ∃ c ∈ t, isSpace c = false := hname.exists_mem_of_suffix hends.1
    have hstop : ∀ c ∈ (b ++ y).head?, isNamePart c = false :=
      head?_insert hy (fun c => isNamePart_of_isInert) hends.2
    exact ⟨hblank, closesHeredoc_congr hname hblank hstop hends.2⟩
  induction t generalizing atStart with
  | nil =>
    obtain ⟨c, hc, -⟩ := (hclosed h).1
    cases hc
  | cons c t ih =>
    obtain ⟨hblank, hsame⟩ := hclosed h
    have hrun := fun r => (Text.run_append_of_mem hblank r).1
    simp only [List.cons_append, upToName] at h hsame hrun ⊢
    rw [hsame]
    split at h
    · rename_i hclose
      rw [if_pos hclose]
      rw [hrun] at h ⊢
      generalize ((c :: t).takeWhile isSpace).length + name.length = length at h ⊢
      obtain ⟨htake, hdrop⟩ := Prod.mk.inj h
      have hlength : length = (c :: t).length := by
        have hsum := congrArg List.length hdrop
        have hpos := List.length_pos_iff.2 hrest
        simp only [List.length_drop, List.length_cons, List.length_append] at hsum hpos ⊢
        omega
      rw [hlength, ← List.cons_append, List.take_left, List.drop_left]
    · rename_i hopen
      rw [if_neg hopen]
      have hinner : upToName name (isNewline c) (t ++ (b ++ a)) = (t, b ++ a) := by
        simpa [taking, Prod.ext_iff] using h
      rw [ih hinner]
      rfl

theorem heredoc_insert (mark : List Char) {k : TokenKind} {t b : List Char} (ha : a ≠ [])
    (h : heredoc mark (t ++ (b ++ a)) = some (k, mark ++ t, b ++ a)) :
    heredoc mark (t ++ (b ++ y)) = some (k, mark ++ t, b ++ y) := by
  obtain ⟨⟨name, rest⟩, hname, hr⟩ := Option.map_eq_some_iff.1 h
  obtain ⟨opening, hcs, hopens, hvalid⟩ := opens_of_heredocName hname
  simp only [hcs, List.length_append, Nat.add_sub_cancel_right, List.take_left] at hr
  obtain ⟨rfl, htaken, hleft⟩ := Prod.mk.inj hr |>.imp_right Prod.mk.inj
  have hsplit := upToName_append name false rest
  generalize htext : (upToName name false rest).1 = text at htaken hsplit
  rw [hleft] at hsplit
  subst hsplit
  obtain rfl : opening ++ text = t := by simpa using htaken
  have hclosed : upToName name false (text ++ (b ++ a)) = (text, b ++ a) := Prod.ext htext hleft
  have hrest : b ++ a ≠ [] := List.append_ne_nil_of_right_ne_nil b ha
  have hends := (upToName_closed hvalid false (text ++ (b ++ a)) (by rw [hclosed]; exact hrest)).1
  rw [hclosed] at hends
  obtain ⟨c, hc, -⟩ := hvalid.exists_mem_of_suffix hends
  have hhead : (text ++ (b ++ y)).head? = (text ++ (b ++ a)).head? := by
    cases text with
    | nil => cases hc
    | cons d text => rfl
  have hname' := (hopens.congr hhead).heredocName hvalid
  rw [heredoc, List.append_assoc, hname', Option.map_some]
  simp [upToName_insert hy hvalid ha hclosed]

theorem heredoc_insert_none {mark b : List Char} (h : heredoc mark (b ++ a) = none) : heredoc mark (b ++ y) = none := by
  rw [heredoc, Option.map_eq_none_iff] at h ⊢
  exact heredocName_insert_none hy h

theorem angle_insert {k : TokenKind} {t b : List Char} (ha : a ≠ [])
    (h : scan '<' (t ++ (b ++ a)) = (k, '<' :: t, b ++ a)) : scan '<' (t ++ (b ++ y)) = (k, '<' :: t, b ++ y) := by
  have hopen (r : List Char) : scan '<' ('<' :: '<' :: r) =
      (heredoc ['<', '<', '<'] r).getD (sign '<' ('<' :: '<' :: r)) := rfl
  have hsign {cs : List Char} (h : ¬ ['<', '<'] <+: cs) : scan '<' cs = sign '<' cs := by
    have htake : cs.take 2 ≠ ['<', '<'] := fun htake => h (htake ▸ List.take_prefix 2 cs)
    have hstart : isNameStart '<' = false := by decide
    simp [scan, htake, hstart]
  by_cases hprefix : ['<', '<'] <+: t ++ (b ++ a)
  · obtain ⟨r, hr⟩ := hprefix
    have hr : '<' :: '<' :: r = t ++ (b ++ a) := hr
    have hscan := h
    rw [← hr, hopen] at hscan
    cases hheredoc : heredoc ['<', '<', '<'] r with
    | some res =>
      rw [hheredoc] at hscan
      obtain rfl : res = (k, '<' :: t, b ++ a) := hscan
      obtain ⟨u, hu⟩ := exists_of_heredoc hheredoc
      obtain rfl : t = '<' :: '<' :: u := (List.cons.inj hu).2
      obtain rfl : r = u ++ (b ++ a) := (List.cons.inj (List.cons.inj hr).2).2
      have hsame := heredoc_insert hy ['<', '<', '<'] ha hheredoc
      rw [List.cons_append, List.cons_append, hopen, hsame]
      rfl
    | none =>
      rw [hheredoc, hr] at hscan
      have hsame := sign_insert hy hscan
      by_cases hprefix : ['<', '<'] <+: t ++ (b ++ y)
      · obtain ⟨u, hu⟩ := exists_of_prefix hy (by decide) hprefix
        obtain rfl : r = u ++ a := (List.cons.inj (List.cons.inj (hr.trans (hu a))).2).2
        rw [hu y] at hsame ⊢
        change scan '<' ('<' :: '<' :: (u ++ y)) = _
        rw [hopen, heredoc_insert_none hy hheredoc]
        exact hsame
      · rw [hsign hprefix]
        exact hsame
  · rw [hsign hprefix] at h
    rw [hsign]
    · exact sign_insert hy h
    · exact fun h => hprefix (prefix_insert hy (by decide) h)

/-! ## Tokens -/

theorem marked_insert {k : TokenKind} {c : Char} {t b : List Char} (ha : a ≠ [])
    (h : marked c (t ++ (b ++ a)) = (k, c :: t, b ++ a)) : marked c (t ++ (b ++ y)) = (k, c :: t, b ++ y) := by
  have hrest : b ++ a ≠ [] := List.append_ne_nil_of_right_ne_nil b ha
  -- without the marks a word is read, in front of the comment as well
  have hword {s : List Char} (hs : s.any isInert = false) (h : ¬ s <+: t ++ (b ++ a)) : ¬ s <+: t ++ (b ++ y) :=
    fun hprefix => h (prefix_insert hy hs hprefix)
  by_cases hsingle : ['\''] <+: t ++ (b ++ a)
  · obtain ⟨r, hr⟩ := hsingle
    have hr : '\'' :: r = t ++ (b ++ a) := hr
    rw [← hr] at h
    obtain ⟨rfl, ht, hleft⟩ := Prod.mk.inj h |>.imp_right Prod.mk.inj
    obtain rfl : '\'' :: (upToQuote '\'' r).1 = t := (List.cons.inj ht).2
    generalize htext : (upToQuote '\'' r).1 = text at hr
    obtain rfl : r = text ++ (b ++ a) := (List.cons.inj hr).2
    have hclosed := upToQuote_of_closed hrest (Prod.ext htext hleft) (b ++ y)
    simp only [List.cons_append, marked, hclosed]
  by_cases hdouble : ['"'] <+: t ++ (b ++ a)
  · obtain ⟨r, hr⟩ := hdouble
    have hr : '"' :: r = t ++ (b ++ a) := hr
    rw [← hr] at h
    have hread : interpolating .double [c, '"'] '"' r = (k, c :: t, b ++ a) := h
    obtain ⟨text, rfl⟩ : ∃ text, t = '"' :: text := ⟨_, (List.cons.inj (congrArg (·.2.1) hread)).2.symm⟩
    obtain rfl : r = text ++ (b ++ a) := (List.cons.inj hr).2
    exact interpolating_of_closed [c, '"'] (by decide) hrest hread (b ++ y)
  by_cases hheredoc : ['<', '<', '<'] <+: t ++ (b ++ a)
  · obtain ⟨r, hr⟩ := hheredoc
    have hr : '<' :: '<' :: '<' :: r = t ++ (b ++ a) := hr
    have hread : (heredoc [c, '<', '<', '<'] r).getD (word (c :: '<' :: '<' :: '<' :: r)) = (k, c :: t, b ++ a) := by
      rw [← hr] at h
      exact h
    cases hfound : heredoc [c, '<', '<', '<'] r with
    | some res =>
      rw [hfound] at hread
      obtain rfl : res = (k, c :: t, b ++ a) := hread
      obtain ⟨u, hu⟩ := exists_of_heredoc hfound
      obtain rfl : t = '<' :: '<' :: '<' :: u := (List.cons.inj hu).2
      obtain rfl : r = u ++ (b ++ a) := (List.cons.inj (List.cons.inj (List.cons.inj hr).2).2).2
      have hsame := heredoc_insert hy [c, '<', '<', '<'] ha hfound
      simp only [List.cons_append, marked, hsame]
      rfl
    | none =>
      rw [hfound, hr] at hread
      have hsame := word_insert hy (t := c :: t) hread
      by_cases hprefix : ['<', '<', '<'] <+: t ++ (b ++ y)
      · obtain ⟨u, hu⟩ := exists_of_prefix hy (by decide) hprefix
        obtain rfl : r = u ++ a := (List.cons.inj (List.cons.inj (List.cons.inj (hr.trans (hu a))).2).2).2
        rw [List.cons_append, hu y] at hsame
        rw [hu y]
        simp only [List.cons_append, List.nil_append, marked, heredoc_insert_none hy hfound]
        exact hsame
      · rw [marked_word (hword (by decide) hsingle) (hword (by decide) hdouble) hprefix]
        exact hsame
  rw [marked_word hsingle hdouble hheredoc] at h
  rw [marked_word (hword (by decide) hsingle) (hword (by decide) hdouble) (hword (by decide) hheredoc)]
  exact word_insert hy (t := c :: t) h

/-- **A token that ends before a place is the same when a comment stands there.** -/
theorem scan_insert {k : TokenKind} {c : Char} {t b : List Char} (ha : a ≠ [])
    (h : scan c (t ++ (b ++ a)) = (k, c :: t, b ++ a)) :
    scan c (t ++ (b ++ y)) = (k, c :: t, b ++ y) := by
  have hrest : b ++ a ≠ [] := List.append_ne_nil_of_right_ne_nil b ha
  by_cases hdollar : c = '$'
  · subst hdollar
    exact var_insert hy h
  by_cases hangle : c = '<'
  · subst hangle
    exact angle_insert hy ha h
  by_cases hletter : c = 'b' ∨ c = 'B'
  · rw [scan_of_letter hletter] at h ⊢
    exact marked_insert hy ha h
  unfold scan at h ⊢
  rw [if_neg hdollar] at h ⊢
  split at h
  · rename_i hsingle
    obtain ⟨rfl, ht, hleft⟩ := Prod.mk.inj h |>.imp_right Prod.mk.inj
    have hclosed : upToQuote c (t ++ (b ++ a)) = (t, b ++ a) := Prod.ext (List.cons.inj ht).2 hleft
    rw [if_pos hsingle, upToQuote_of_closed hrest hclosed]
  rename_i hsingle
  rw [if_neg hsingle]
  split at h
  · rename_i hdouble
    rw [if_pos hdouble]
    exact interpolating_of_closed [c] (by simp [hdouble]) hrest h (b ++ y)
  rename_i hdouble
  rw [if_neg hdouble]
  split at h
  · rename_i hbacktick
    rw [if_pos hbacktick]
    exact interpolating_of_closed [c] (by simp [hbacktick]) hrest h (b ++ y)
  rename_i hbacktick
  rw [if_neg hbacktick]
  split at h
  · rename_i hnumber
    have hsame : (c.isDigit || (c == '.' && (t ++ (b ++ y)).head?.any Char.isDigit)) = true := by
      rw [Bool.or_eq_true, Bool.and_eq_true, beq_iff_eq] at hnumber ⊢
      refine hnumber.imp_right fun ⟨hpoint, hdigit⟩ => ⟨hpoint, ?_⟩
      subst hpoint
      exact Text.any_head?_append (any_head?_of_number hdigit h) _
    rw [if_pos hsame]
    exact number_insert hy h
  rename_i hnumber
  have hstill : ¬ (c.isDigit || (c == '.' && (t ++ (b ++ y)).head?.any Char.isDigit)) = true := by
    rw [Bool.or_eq_true, Bool.and_eq_true, not_or, not_and, Bool.not_eq_true, Bool.not_eq_true] at hnumber ⊢
    exact ⟨hnumber.1, fun hpoint => any_head?_insert hy (fun c => isDigit_of_isInert) (hnumber.2 hpoint)⟩
  rw [if_neg hstill]
  rw [if_neg fun h => hangle h.1] at h ⊢
  rw [if_neg hletter]
  split at h
  · rename_i hstart
    rw [if_pos hstart]
    exact word_insert hy (t := c :: t) h
  · rename_i hstart
    rw [if_neg hstart]
    exact sign_insert hy h

end Inserted

end Php
end DynamicMembers
