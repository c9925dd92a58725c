import DynamicMembers.Proofs.Php.Characters
/-!
# Heredocs — where they begin and end

Behind the mark of a heredoc stands its name, which may be quoted, and the text goes on up to a line that begins with
the name.  A heredoc that is closed ends with its name, where the name does not go on (`upToName_closed`).
-/
namespace DynamicMembers
namespace Php

/-! ## Names -/

/-- A blank that may stand between the mark of a heredoc and its name. -/
def isIndent (c : Char) : Bool := c == ' ' || c == '\t'

def isQuote (c : Char) : Bool := c == '"' || c == '\''

theorem isNamePart_of_isIndent {c : Char} (h : isIndent c = true) : isNamePart c = false := by
  rw [isIndent, Bool.or_eq_true, beq_iff_eq, beq_iff_eq] at h
  rcases h with rfl | rfl <;> decide

theorem isNamePart_of_isQuote {c : Char} (h : isQuote c = true) : isNamePart c = false := by
  rw [isQuote, Bool.or_eq_true, beq_iff_eq, beq_iff_eq] at h
  rcases h with rfl | rfl <;> decide

theorem isIndent_of_isQuote {c : Char} (h : isQuote c = true) : isIndent c = false := by
  rw [isQuote, Bool.or_eq_true, beq_iff_eq, beq_iff_eq] at h
  rcases h with rfl | rfl <;> rfl

theorem isQuote_of_isInert {c : Char} (h : isInert c = true) : isQuote c = false := by
  have hdouble : c ≠ '"' := ne_of_isInert h (by decide)
  have hsingle : c ≠ '\'' := ne_of_isInert h (by decide)
  simp [isQuote, hdouble, hsingle]

theorem dropWhile_isIndent {blanks r : List Char} {c : Char} (hblanks : ∀ b ∈ blanks, isIndent b = true)
    (hc : isIndent c = false) : (blanks ++ c :: r).dropWhile isIndent = c :: r :=
  (Text.span_append hblanks (by simpa using hc)).2

/-- A heredoc whose name is not quoted. -/
theorem heredocName_bare {blanks r : List Char} {c : Char} (hblanks : ∀ b ∈ blanks, isIndent b = true)
    (hc : isIndent c = false) (hquote : isQuote c = false) : heredocName (blanks ++ c :: r) =
      if isNameStart c then some ((c :: r).takeWhile isNamePart, (c :: r).dropWhile isNamePart) else none := by
  have hdrop := dropWhile_isIndent (r := r) hblanks hc
  have hstart : ((c :: r).takeWhile isNamePart).head?.any isNameStart = isNameStart c := by
    by_cases hpart : isNamePart c = true
    · simp [hpart]
    · have hpart := hpart
      simp only [isNamePart, Bool.or_eq_true, not_or, Bool.not_eq_true] at hpart
      simp [isNamePart, hpart]
  unfold isIndent at hdrop
  unfold isQuote at hquote
  unfold heredocName
  simp [hdrop, Option.filter, hquote, hstart]

theorem heredocName_quoted {blanks r : List Char} {q : Char} (hblanks : ∀ b ∈ blanks, isIndent b = true)
    (hquote : isQuote q = true) : heredocName (blanks ++ q :: r) =
      if (r.takeWhile isNamePart).head?.any isNameStart then
        if (r.dropWhile isNamePart).head? = some q then
          some (r.takeWhile isNamePart, (r.dropWhile isNamePart).drop 1)
        else none
      else none := by
  have hdrop := dropWhile_isIndent (r := r) hblanks (isIndent_of_isQuote hquote)
  unfold isIndent at hdrop
  unfold isQuote at hquote
  unfold heredocName
  simp only [hdrop, List.head?_cons, Option.filter, hquote, if_true, Option.isSome_some, List.drop_succ_cons,
    List.drop_zero]

structure IsName (name : List Char) : Prop where
  start : name.head?.any isNameStart = true
  part : ∀ c ∈ name, isNamePart c = true

theorem isName_takeWhile {cs : List Char} (h : (cs.takeWhile isNamePart).head?.any isNameStart = true) :
    IsName (cs.takeWhile isNamePart) := ⟨h, fun c hc => List.all_eq_true.1 List.all_takeWhile c hc⟩

theorem IsName.exists_mem_of_suffix {name cs : List Char} (hname : IsName name) (h : name <:+ cs) :
    ∃ c ∈ cs, isSpace c = false := by
  cases name with
  | nil => cases hname.start
  | cons c n =>
    have hspace (h : isSpace c = true) : isNamePart c = false := isNamePart_of_isInert (by simp [isInert, h])
    exact ⟨c, h.subset List.mem_cons_self, eq_false_of_imp hspace (hname.part c List.mem_cons_self)⟩

/-- What stands between the mark of a heredoc and its text: its name, which ends there or is quoted. -/
inductive Opens (name : List Char) : List Char → List Char → Prop
  | bare {blanks rest : List Char} (hblanks : ∀ b ∈ blanks, isIndent b = true)
      (hrest : ∀ c ∈ rest.head?, isNamePart c = false) : Opens name (blanks ++ name) rest
  | quoted {blanks rest : List Char} {q : Char} (hblanks : ∀ b ∈ blanks, isIndent b = true) (hq : isQuote q = true) :
      Opens name (blanks ++ q :: (name ++ [q])) rest

theorem Opens.congr {name opening rest rest' : List Char} (h : Opens name opening rest)
    (hhead : rest'.head? = rest.head?) : Opens name opening rest' := by
  cases h with
  | bare hblanks hrest => exact .bare hblanks (hhead ▸ hrest)
  | quoted hblanks hq => exact .quoted hblanks hq

theorem opens_of_heredocName {cs name rest : List Char} (h : heredocName cs = some (name, rest)) :
    ∃ opening, cs = opening ++ rest ∧ Opens name opening rest ∧ IsName name := by
  rcases Text.exists_run isIndent cs with hall | ⟨blanks, c, r, rfl, hblanks, hc⟩
  · have hnone : heredocName cs = none := by
      have hdrop : cs.dropWhile isIndent = [] := by simpa using (Text.span_append (r := []) hall (by simp)).2
      unfold isIndent at hdrop
      simp [heredocName, hdrop]
    rw [hnone] at h
    cases h
  by_cases hquote : isQuote c = true
  · rw [heredocName_quoted hblanks hquote] at h
    split at h
    · rename_i hstart
      split at h
      · rename_i hclose
        obtain ⟨rfl, rfl⟩ := Prod.mk.inj (Option.some.inj h)
        obtain ⟨rest, hrest⟩ : ∃ rest, r.dropWhile isNamePart = c :: rest := by
          cases hr : r.dropWhile isNamePart with
          | nil => simp [hr] at hclose
          | cons d rest => exact ⟨rest, by simpa [hr] using hclose⟩
        have hr : r.takeWhile isNamePart ++ c :: rest = r := by rw [← hrest, List.takeWhile_append_dropWhile]
        refine ⟨_, ?_, .quoted hblanks hquote, isName_takeWhile hstart⟩
        rw [hrest]
        simp [hr]
      · cases h
    · cases h
  · rw [heredocName_bare hblanks hc (by simpa using hquote)] at h
    split at h
    · rename_i hstart
      obtain ⟨rfl, rfl⟩ := Prod.mk.inj (Option.some.inj h)
      refine ⟨_, ?_, .bare hblanks (Text.head?_dropWhile isNamePart _), isName_takeWhile ?_⟩
      · rw [List.append_assoc, List.takeWhile_append_dropWhile]
      · rw [List.takeWhile_cons_of_pos (isNamePart_of_isNameStart hstart)]
        exact hstart
    · cases h

theorem Opens.heredocName {name opening rest : List Char} (h : Opens name opening rest) (hname : IsName name) :
    heredocName (opening ++ rest) = some (name, rest) := by
  cases h with
  | bare hblanks hrest =>
    obtain ⟨htake, hdrop⟩ := Text.span_append hname.part hrest
    obtain ⟨c, n, rfl, hstart⟩ : ∃ c n, name = c :: n ∧ isNameStart c = true := by
      cases name with
      | nil => cases hname.start
      | cons c n => exact ⟨c, n, rfl, hname.start⟩
    have hpart : isNamePart c = true := isNamePart_of_isNameStart hstart
    have hindent : isIndent c = false := eq_false_of_imp isNamePart_of_isIndent hpart
    have hquote : isQuote c = false := eq_false_of_imp isNamePart_of_isQuote hpart
    rw [List.append_assoc]
    rw [List.cons_append] at htake hdrop ⊢
    rw [heredocName_bare hblanks hindent hquote, if_pos hstart, htake, hdrop]
  | @quoted blanks _ q hblanks hq =>
    have hstop : ∀ c ∈ (q :: rest).head?, isNamePart c = false := by simpa using isNamePart_of_isQuote hq
    obtain ⟨htake, hdrop⟩ := Text.span_append hname.part hstop
    simp only [List.append_assoc, List.cons_append, List.nil_append]
    rw [heredocName_quoted hblanks hq, htake, hdrop, if_pos hname.start]
    simp

/-! ## Ends -/

theorem upToName_append (name : List Char) (atStart : Bool) (cs : List Char) :
    (upToName name atStart cs).1 ++ (upToName name atStart cs).2 = cs := by
  fun_induction upToName name atStart cs <;> simp_all [taking]

/-- A line closes a heredoc when the word behind its blanks is the name. -/
theorem closesHeredoc_eq {name : List Char} (hname : IsName name) (line : List Char) :
    closesHeredoc name line = decide ((line.dropWhile isSpace).takeWhile isNamePart = name) := by
  unfold closesHeredoc
  simp only
  generalize line.dropWhile isSpace = cs
  rw [Bool.eq_iff_iff, decide_eq_true_eq, Bool.and_eq_true, List.isPrefixOf_iff_prefix, Bool.not_eq_true']
  constructor
  · rintro ⟨⟨z, rfl⟩, hz⟩
    rw [List.drop_left] at hz
    exact (Text.span_append hname.part (Text.any_head?_eq_false.1 hz)).1
  · intro htake
    have hstop := Text.head?_dropWhile isNamePart cs
    have hcs : name ++ cs.dropWhile isNamePart = cs := by rw [← htake, List.takeWhile_append_dropWhile]
    generalize cs.dropWhile isNamePart = z at hstop hcs
    subst hcs
    rw [List.drop_left]
    exact ⟨⟨z, rfl⟩, Text.any_head?_eq_false.2 hstop⟩

theorem closesHeredoc_congr {name : List Char} (hname : IsName name) {l r r' : List Char}
    (hl : ∃ c ∈ l, isSpace c = false) (hr : ∀ c ∈ r.head?, isNamePart c = false)
    (hr' : ∀ c ∈ r'.head?, isNamePart c = false) : closesHeredoc name (l ++ r) = closesHeredoc name (l ++ r') := by
  rw [closesHeredoc_eq hname, closesHeredoc_eq hname, (Text.run_append_of_mem hl r).2, (Text.run_append_of_mem hl r').2,
    Text.takeWhile_append_stop hr, Text.takeWhile_append_stop hr']

theorem exists_of_closesHeredoc {name line : List Char} (hname : IsName name) (h : closesHeredoc name line = true) :
    ∃ r, line = line.takeWhile isSpace ++ name ++ r ∧ ∀ c ∈ r.head?, isNamePart c = false := by
  rw [closesHeredoc_eq hname, decide_eq_true_eq] at h
  refine ⟨(line.dropWhile isSpace).dropWhile isNamePart, ?_, Text.head?_dropWhile isNamePart _⟩
  rw [← h, List.append_assoc, List.takeWhile_append_dropWhile, List.takeWhile_append_dropWhile]

theorem upToName_closed {name : List Char} (hname : IsName name) (atStart : Bool) (cs : List Char)
    (h : (upToName name atStart cs).2 ≠ []) : name <:+ (upToName name atStart cs).1 ∧
      ∀ c ∈ (upToName name atStart cs).2.head?, isNamePart c = false := by
  fun_induction upToName name atStart cs with
  | case1 => exact absurd rfl h
  | case2 atStart c cs hclose length =>
    obtain ⟨r, hline, hr⟩ := exists_of_closesHeredoc hname (Bool.and_eq_true_iff.1 hclose).2
    have hlength : length = ((c :: cs).takeWhile isSpace ++ name).length := (List.length_append).symm
    rw [hlength]
    generalize (c :: cs).takeWhile isSpace = blanks at hline ⊢
    rw [hline, List.take_left, List.drop_left]
    exact ⟨List.suffix_append blanks name, hr⟩
  | case3 atStart c cs hopen ih =>
    exact ⟨(ih h).1.trans (List.suffix_cons c _), (ih h).2⟩

/-- What a heredoc takes begins with its mark. -/
theorem exists_of_heredoc {mark cs t r : List Char} {k : TokenKind} (h : heredoc mark cs = some (k, t, r)) :
    ∃ u, t = mark ++ u := by
  obtain ⟨_, -, h⟩ := Option.map_eq_some_iff.1 h
  obtain ⟨-, rfl, -⟩ := Prod.mk.inj h |>.imp_right Prod.mk.inj
  exact ⟨_, List.append_assoc _ _ _⟩

end Php
end DynamicMembers
