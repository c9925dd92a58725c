import DynamicMembers.Php.Lowering
import DynamicMembers.Proofs.Php.Places
/-!
# Strings — a string comes back from its literal

A string is written as a literal by putting a backslash before what would not stand for itself between the quotes, so
each of its characters is held as itself or behind a backslash (`HeldAs`).  Unescaping undoes this whatever the string
ends in or has in a row (`unescape_flatMap`).  No quote and no sigil is left bare, so a scan takes the literal whole and
finds nothing interpolated in it, and a source of one literal has the string as its value (`string_of_literal`).
-/
namespace DynamicMembers
namespace Php

namespace Literal

/-! ## Writing -/

/-- A character as it stands between single quotes. -/
def escapedSingle (c : Char) : List Char := if c = '\\' ∨ c = '\'' then ['\\', c] else [c]

/-- A character as it stands between double quotes. -/
def escapedDouble (c : Char) : List Char :=
  if c = '\\' ∨ c = '"' ∨ c = '$' then ['\\', c]
  else if c = '\n' then ['\\', 'n']
  else if c = '\t' then ['\\', 't']
  else if c = '\r' then ['\\', 'r']
  else [c]

def quoted (quote : Char) (escaped : Char → List Char) (s : List Char) : List Char :=
  quote :: (s.flatMap escaped ++ [quote])

def writeSingle (s : List Char) : List Char := quoted '\'' escapedSingle s

def writeDouble (s : List Char) : List Char := quoted '"' escapedDouble s

/-- What may stand in front of the quotes. -/
def marks : List (List Char) := [[], ['b'], ['B']]

theorem mem_marks {mark : List Char} : mark ∈ marks ↔ mark = [] ∨ mark = ['b'] ∨ mark = ['B'] := by simp [marks]

/-! ## Unescaping -/

/-- A character is held as itself, unless it is special, or as a backslash with a sign that is read as it. -/
inductive HeldAs (special : List Char) (unescape : List Char → List Char) (c : Char) : List Char → Prop
  | bare (hspecial : c ∉ special) (hread : ∀ cs, unescape (c :: cs) = c :: unescape cs) :
    HeldAs special unescape c [c]
  | escaped {sign : Char} (hread : ∀ cs, unescape ('\\' :: sign :: cs) = c :: unescape cs) :
    HeldAs special unescape c ['\\', sign]

theorem unescape_flatMap {special : List Char} {unescape : List Char → List Char} {escaped : Char → List Char}
    (h : ∀ c, HeldAs special unescape c (escaped c)) (hnil : unescape [] = []) (s : List Char) :
    unescape (s.flatMap escaped) = s := by
  induction s with
  | nil => exact hnil
  | cons c s ih =>
    have hc := h c
    rw [List.flatMap_cons]
    generalize escaped c = held at hc
    cases hc with
    | bare _ hread => rw [List.singleton_append, hread, ih]
    | escaped hread => rw [List.cons_append, List.singleton_append, hread, ih]

theorem heldAs_escapedSingle (c : Char) : HeldAs ['\\', '\''] unescapeSingle c (escapedSingle c) := by
  rw [escapedSingle]
  by_cases hc : c = '\\' ∨ c = '\''
  · rw [if_pos hc]
    rcases hc with rfl | rfl <;> exact .escaped fun cs => rfl
  · rw [if_neg hc]
    obtain ⟨hbackslash, hquote⟩ := not_or.1 hc
    refine .bare (by simp [hbackslash, hquote]) fun cs => ?_
    rw [unescapeSingle]
    · exact fun _ h _ => hbackslash h
    · exact fun _ h _ => hbackslash h

theorem heldAs_escapedDouble (c : Char) : HeldAs ['\\', '"', '$'] unescapeDouble c (escapedDouble c) := by
  rw [escapedDouble]
  by_cases hc : c = '\\' ∨ c = '"' ∨ c = '$'
  · rw [if_pos hc]
    rcases hc with rfl | rfl | rfl <;> exact .escaped fun cs => rfl
  rw [if_neg hc]
  by_cases hn : c = '\n'
  · subst hn
    exact .escaped fun cs => rfl
  by_cases ht : c = '\t'
  · subst ht
    exact .escaped fun cs => rfl
  by_cases hr : c = '\r'
  · subst hr
    exact .escaped fun cs => rfl
  -- any other character stands for itself, a quote of the other kind and a brace included
  rw [if_neg hn, if_neg ht, if_neg hr]
  simp only [not_or] at hc
  refine .bare (by simp [hc]) fun cs => ?_
  rw [unescapeDouble] <;> simp [hc.1]

/-! ## Reading -/

theorem between_quoted (quote : Char) (escaped : Char → List Char) (s : List Char) :
    between quote (quoted quote escaped s) = some (s.flatMap escaped) := by
  simp [between, quoted]

variable {mark : List Char}

theorem withoutMark_append (hmark : mark ∈ marks) {quote : Char} (hquote : quote ∉ ['b', 'B']) (cs : List Char) :
    withoutMark (mark ++ quote :: cs) = quote :: cs := by
  simp only [List.mem_cons, List.not_mem_nil, or_false] at hquote
  rcases mem_marks.1 hmark with rfl | rfl | rfl
  · rw [List.nil_append, withoutMark]
    · rintro _ ⟨⟩
      exact hquote (.inl rfl)
    · rintro _ ⟨⟩
      exact hquote (.inr rfl)
  · rfl
  · rfl

theorem single_writeSingle (hmark : mark ∈ marks) (s : List Char) : single (mark ++ writeSingle s) = some s := by
  have hbody : withoutMark (mark ++ writeSingle s) = writeSingle s := withoutMark_append hmark (by decide) _
  rw [single, hbody, writeSingle, between_quoted, Option.map_some, unescape_flatMap heldAs_escapedSingle rfl]

theorem double_writeDouble (hmark : mark ∈ marks) (s : List Char) : double (mark ++ writeDouble s) = some s := by
  have hbody : withoutMark (mark ++ writeDouble s) = writeDouble s := withoutMark_append hmark (by decide) _
  rw [double, hbody, writeDouble, between_quoted, Option.map_some, unescape_flatMap heldAs_escapedDouble rfl]

end Literal

/-! ## Scanning -/

theorem upToQuote_escaped (s rest : List Char) :
    upToQuote '\'' (s.flatMap Literal.escapedSingle ++ '\'' :: rest) =
      (s.flatMap Literal.escapedSingle ++ ['\''], rest) := by
  induction s with
  | nil => rfl
  | cons c s ih =>
    have hc := Literal.heldAs_escapedSingle c
    rw [List.flatMap_cons, List.append_assoc, List.append_assoc]
    generalize Literal.escapedSingle c = held at hc
    cases hc with
    | bare hspecial =>
      simp only [List.mem_cons, List.not_mem_nil, or_false, not_or] at hspecial
      rw [List.singleton_append, upToQuote_cons hspecial.1, if_neg hspecial.2, ih]
      rfl
    | escaped =>
      rw [List.cons_append, List.singleton_append, upToQuote, ih]
      rfl

namespace Interpolated

/-- What is escaped does not start with a sigil, so a brace in front of it opens nothing. -/
theorem escaped_ne_sigil (s rest ds : List Char) :
    s.flatMap Literal.escapedDouble ++ '"' :: rest ≠ '$' :: ds := by
  cases s with
  | nil => simp
  | cons c s =>
    have hc := Literal.heldAs_escapedDouble c
    rw [List.flatMap_cons, List.append_assoc]
    generalize Literal.escapedDouble c = held at hc
    cases hc with
    | bare hspecial =>
      rintro ⟨⟩
      simp at hspecial
    | escaped => simp

theorem read_escaped (s rest : List Char) : read '"' .text (s.flatMap Literal.escapedDouble ++ '"' :: rest) =
    ⟨false, s.flatMap Literal.escapedDouble ++ ['"'], rest⟩ := by
  induction s with
  | nil =>
    rw [List.flatMap_nil, List.nil_append, read_text_cons _ (by decide) (by decide) (by simp), if_pos rfl]
    rfl
  | cons c s ih =>
    have hc := Literal.heldAs_escapedDouble c
    rw [List.flatMap_cons, List.append_assoc, List.append_assoc]
    generalize Literal.escapedDouble c = held at hc
    cases hc with
    | bare hspecial =>
      simp only [List.mem_cons, List.not_mem_nil, or_false, not_or] at hspecial
      obtain ⟨hbackslash, hquote, hsigil⟩ := hspecial
      rw [List.singleton_append, read_text_cons _ hbackslash hsigil fun ds _ => escaped_ne_sigil s rest ds,
        if_neg hquote, ih]
      rfl
    | escaped =>
      rw [List.cons_append, List.singleton_append, read, ih]
      rfl

end Interpolated

/-- A text is one token of a kind, whatever follows it. -/
def IsToken (kind : TokenKind) (text : List Char) : Prop :=
  ∃ c cs, text = c :: cs ∧ ∀ rest, Gap.EndsAt c (cs ++ rest) ∧ scan c (cs ++ rest) = (kind, text, rest)

theorem Gap.endsAt_of_not_isInert {c : Char} (hc : isInert c = false) (htag : c ≠ '?') (cs : List Char) :
    EndsAt c cs := by
  simp only [isInert, Bool.or_eq_false_iff, beq_eq_false_iff_ne] at hc
  obtain ⟨⟨hspace, hslash⟩, hhash⟩ := hc
  exact ⟨hspace, fun h => absurd h hslash, fun h => absurd h hhash, fun h => absurd h htag⟩

variable {mark : List Char}

/-- A quoted text is one token in front of anything, with each mark, if it is for itself and behind a letter. -/
theorem isToken_marked (hmark : mark ∈ Literal.marks) {kind : TokenKind} {quote : Char} {body : List Char}
    (hquote : ∀ cs, Gap.EndsAt quote cs) (hscan : ∀ rest, scan quote (body ++ rest) = (kind, quote :: body, rest))
    (hmarked : ∀ c rest, marked c (quote :: (body ++ rest)) = (kind, c :: quote :: body, rest)) :
    IsToken kind (mark ++ quote :: body) := by
  have hletter {c : Char} (hc : c = 'b' ∨ c = 'B') : IsToken kind (c :: quote :: body) := by
    refine ⟨c, quote :: body, rfl, fun rest => ⟨?_, (scan_of_letter hc _).trans (hmarked c rest)⟩⟩
    rcases hc with rfl | rfl <;> exact Gap.endsAt_of_not_isInert (by decide) (by decide) _
  rcases Literal.mem_marks.1 hmark with rfl | rfl | rfl
  · exact ⟨quote, body, rfl, fun rest => ⟨hquote _, hscan rest⟩⟩
  · exact hletter (.inl rfl)
  · exact hletter (.inr rfl)

theorem isToken_writeSingle (hmark : mark ∈ Literal.marks) (s : List Char) :
    IsToken .single (mark ++ Literal.writeSingle s) := by
  have hread (rest : List Char) : upToQuote '\'' ((s.flatMap Literal.escapedSingle ++ ['\'']) ++ rest) =
      (s.flatMap Literal.escapedSingle ++ ['\''], rest) := by
    rw [List.append_assoc]
    exact upToQuote_escaped s rest
  refine isToken_marked hmark (Gap.endsAt_of_not_isInert (by decide) (by decide)) (fun rest => ?_) (fun c rest => ?_)
  · change (TokenKind.single, '\'' :: (upToQuote '\'' _).1, (upToQuote '\'' _).2) = _
    rw [hread]
  · rw [marked, hread]

theorem isToken_writeDouble (hmark : mark ∈ Literal.marks) (s : List Char) :
    IsToken .double (mark ++ Literal.writeDouble s) := by
  have hread (start rest : List Char) :
      interpolating .double start '"' ((s.flatMap Literal.escapedDouble ++ ['"']) ++ rest) =
        (.double, start ++ (s.flatMap Literal.escapedDouble ++ ['"']), rest) := by
    rw [interpolating, List.append_assoc, List.singleton_append, Interpolated.read_escaped]
    rfl
  refine isToken_marked hmark (Gap.endsAt_of_not_isInert (by decide) (by decide)) (fun rest => ?_) (fun c rest => ?_)
  · exact hread ['"'] rest
  · exact hread [c, '"'] rest

/-! ## Sources of one literal -/

def openingTag : List Char := ['<', '?', 'p', 'h', 'p', ' ']

/-- A source with one expression statement. -/
def sourceOf (text : List Char) : String := String.ofList (openingTag ++ (text ++ [';']))

theorem ofSource_of_isToken {kind : TokenKind} {text : List Char} (h : IsToken kind text) :
    Token.ofSource (sourceOf text).toList = [⟨{ text := openingTag }, kind, text⟩, ⟨{}, .sign, [';']⟩, .done] := by
  obtain ⟨c, cs, rfl, h⟩ := h
  obtain ⟨hends, hscan⟩ := h [';']
  have hgap : Gap.outside (openingTag ++ (c :: cs ++ [';'])) = ({ text := openingTag }, c :: (cs ++ [';'])) := by
    change Gap.after ['<', '?', 'p', 'h', 'p'] (Gap.after [' '] (Gap.inCode (c :: (cs ++ [';'])))) = _
    rw [Gap.inCode_of_endsAt hends]
    rfl
  rw [sourceOf, String.toList_ofList, Token.ofSource, hgap]
  -- the source is longer than its tokens are many, so the steps do not run out
  change Token.after (((cs ++ [';']).length + 6) + 1) _ = _
  rw [Token.after_cons, hscan]
  rfl

theorem statements_of_isToken {kind : TokenKind} {text s : List Char} {e : Expr} (h : IsToken kind text)
    (hkind : kind = .single ∧ e = .single (String.ofList text) ∨ kind = .double ∧ e = .double (String.ofList text))
    (hvalue : e.lower = .str (String.ofList s)) :
    statements (sourceOf text) = [.expression (.str (String.ofList s))] := by
  have hprogram : program (sourceOf text) = [.expression e] := by
    rw [program, ofSource_of_isToken h]
    rcases hkind with ⟨rfl, rfl⟩ | ⟨rfl, rfl⟩ <;> rfl
  rw [statements, hprogram, lowerStmts, Stmt.lower, hvalue]
  rfl

/-- **Every string comes back from its literal**, in single and in double quotes and with or without a mark: from the
text of the literal, and from a source that holds nothing else. -/
theorem string_of_literal (hmark : mark ∈ Literal.marks) (s : List Char) :
    Literal.single (mark ++ Literal.writeSingle s) = some s ∧
      Literal.double (mark ++ Literal.writeDouble s) = some s ∧
      statements (sourceOf (mark ++ Literal.writeSingle s)) = [.expression (.str (String.ofList s))] ∧
      statements (sourceOf (mark ++ Literal.writeDouble s)) = [.expression (.str (String.ofList s))] := by
  have hsingle := Literal.single_writeSingle hmark s
  have hdouble := Literal.double_writeDouble hmark s
  refine ⟨hsingle, hdouble, ?_, ?_⟩
  · refine statements_of_isToken (isToken_writeSingle hmark s) (.inl ⟨rfl, rfl⟩) ?_
    rw [Expr.lower, String.toList_ofList, hsingle]
  · refine statements_of_isToken (isToken_writeDouble hmark s) (.inr ⟨rfl, rfl⟩) ?_
    rw [Expr.lower, String.toList_ofList, hdouble]

/-- A quote between two backslashes, the second of them last. -/
theorem string_of_literal_backslashes :
    ['b'] ∈ Literal.marks ∧ Literal.writeSingle "\\'\\".toList = "'\\\\\\'\\\\'".toList ∧
      Literal.single (['b'] ++ Literal.writeSingle "\\'\\".toList) = some "\\'\\".toList ∧
      statements "<?php b'\\\\\\'\\\\';" = [.expression (.str "\\'\\")] := by
  have h := @string_of_literal ['b'] (by decide) "\\'\\".toList
  exact ⟨by decide, by decide, h.1, h.2.2.1⟩

end Php
end DynamicMembers
