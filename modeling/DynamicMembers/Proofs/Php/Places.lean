import DynamicMembers.Proofs.Php.Grammar
import DynamicMembers.Proofs.Php.Insertion
/-!
# Places — comments between the tokens of a source

A place stands between tokens when reading comes to it in code, behind a token or in a gap.  A comment that is put in at
such a place belongs to the gap there, and all tokens are the same (`sameCode_insert`).
-/
namespace DynamicMembers
namespace Php

/-! ## Gaps -/

namespace Gap

/-- What a gap holds and what follows it make up what was read. -/
def Parts (r : Gap × List Char) (cs : List Char) : Prop := r.1.text ++ r.2 = cs

theorem parts_read : (∀ cs, Parts (inCode cs) cs) ∧ (∀ cs, Parts (outside cs) cs) ∧ (∀ cs, Parts (inBlock cs) cs) ∧
    ∀ cs, Parts (inLine cs) cs := by
  refine inCode.mutual_induct (fun cs => Parts (inCode cs) cs) (fun cs => Parts (outside cs) cs)
    (fun cs => Parts (inBlock cs) cs) (fun cs => Parts (inLine cs) cs)
    ?_ ?_ ?_ ?_ ?_ ?_ ?_ ?_ ?_ ?_ ?_ ?_ ?_ ?_ ?_ ?_ ?_ ?_ ?_ ?_ ?_
  all_goals
    intros
    simp only [Parts] at *
    simp [inCode, outside, inBlock, inLine, after, afterComment, afterCode, *]
  case refine_19 | refine_20 =>
    split <;> assumption

theorem length_rest_le (cs : List Char) : (inCode cs).2.length ≤ cs.length := by
  have hparts : (inCode cs).1.text ++ (inCode cs).2 = cs := parts_read.1 cs
  have hlength := congrArg List.length hparts
  rw [List.length_append] at hlength
  omega

/-- A gap ends at a character: it is no blank and begins no comment and no closing tag. -/
structure EndsAt (c : Char) (cs : List Char) : Prop where
  space : isSpace c = false
  comment : c = '/' → ¬ ['/'] <+: cs ∧ ¬ ['*'] <+: cs
  bracket : c = '#' → ['['] <+: cs
  tag : c = '?' → ¬ ['>'] <+: cs

theorem endsAt_of_inCode {c : Char} {cs : List Char} (h : inCode (c :: cs) = ({}, c :: cs)) : EndsAt c cs := by
  unfold inCode at h
  split at h
  · cases congrArg (·.1.comments) h
  · cases congrArg (·.1.comments) h
  · rename_i hcs
    cases hcs
    exact ⟨by decide, by simp, fun _ => ⟨_, rfl⟩, by simp⟩
  · cases congrArg (·.1.comments) h
  · cases congrArg (·.1.leaves) h
  · rename_i hline hblock hbracket hhash htag hcs
    cases hcs
    split at h
    · cases congrArg (·.1.text) h
    · rename_i hspace
      exact ⟨by simpa using hspace, fun hc => ⟨fun ⟨r, hr⟩ => hline r hc hr.symm, fun ⟨r, hr⟩ => hblock r hc hr.symm⟩,
        fun hc => (hhash hc).elim, fun hc ⟨r, hr⟩ => htag r hc hr.symm⟩
  · rename_i hcs
    cases hcs

theorem inCode_of_endsAt {c : Char} {cs : List Char} (h : EndsAt c cs) : inCode (c :: cs) = ({}, c :: cs) := by
  obtain ⟨hspace, hslash, hhash, htag⟩ := h
  unfold inCode
  split
  · rename_i hcs
    cases hcs
    exact absurd ⟨_, rfl⟩ (hslash rfl).1
  · rename_i hcs
    cases hcs
    exact absurd ⟨_, rfl⟩ (hslash rfl).2
  · rename_i hcs
    rw [hcs]
  · rename_i hbracket hcs
    cases hcs
    obtain ⟨r, rfl⟩ := hhash rfl
    exact (hbracket r rfl).elim
  · rename_i hcs
    cases hcs
    exact absurd ⟨_, rfl⟩ (htag rfl)
  · rename_i hcs
    cases hcs
    rw [if_neg (by simp [hspace])]
  · rename_i hcs
    cases hcs

end Gap

/-! ## The tokens behind a gap -/

namespace Token

theorem after_cons (n : Nat) (g : Gap) (c : Char) (cs : List Char) : after (n + 1) (g, c :: cs) =
    ⟨g, (scan c cs).1, (scan c cs).2.1⟩ :: after n (Gap.inCode (scan c cs).2.2) := rfl

theorem sameTokens_after : ∀ (n n' : Nat) (g g' : Gap) (cs : List Char), cs.length ≤ n → cs.length ≤ n' →
    g.leaves = g'.leaves → SameTokens (after n (g, cs)) (after n' (g', cs)) := by
  intro n
  induction n with
  | zero =>
    intro n' g g' cs hn hn' hleaves
    obtain rfl : cs = [] := List.length_eq_zero_iff.1 (Nat.le_zero.1 hn)
    cases n' <;> exact .cons ⟨rfl, rfl, hleaves⟩ .nil
  | succ n ih =>
    intro n' g g' cs hn hn' hleaves
    cases cs with
    | nil => cases n' <;> exact .cons ⟨rfl, rfl, hleaves⟩ .nil
    | cons c cs =>
      obtain ⟨n', rfl⟩ : ∃ m, n' = m + 1 := ⟨n' - 1, by simp at hn'; omega⟩
      have hrest := Nat.le_trans (Gap.length_rest_le (scan c cs).2.2) (length_scan_le c cs)
      rw [List.length_cons] at hn hn'
      rw [after_cons, after_cons]
      exact .cons ⟨rfl, rfl, hleaves⟩ (ih n' _ _ _ (by omega) (by omega) rfl)

theorem exists_after (n : Nat) (cs : List Char) : ∃ k text ts, ∀ g, after n (g, cs) = ⟨g, k, text⟩ :: ts := by
  cases n with
  | zero => exact ⟨.finish, [], [], fun g => by cases cs <;> rfl⟩
  | succ n =>
    cases cs with
    | nil => exact ⟨.finish, [], [], fun g => rfl⟩
    | cons c cs => exact ⟨_, _, _, fun g => after_cons n g c cs⟩

theorem leaves_of_sameTokens {n n' : Nat} {g g' : Gap} {cs cs' : List Char}
    (h : SameTokens (after n (g, cs)) (after n' (g', cs'))) : g.leaves = g'.leaves := by
  obtain ⟨k, text, ts, hcs⟩ := exists_after n cs
  obtain ⟨k', text', ts', hcs'⟩ := exists_after n' cs'
  rw [hcs, hcs'] at h
  cases h with
  | cons h _ => exact h.leaves

theorem sameTokens_regap {n n' : Nat} {g g' u u' : Gap} {cs cs' : List Char}
    (h : SameTokens (after n (g, cs)) (after n' (g', cs'))) (hleaves : u.leaves = u'.leaves) :
    SameTokens (after n (u, cs)) (after n' (u', cs')) := by
  obtain ⟨k, text, ts, hcs⟩ := exists_after n cs
  obtain ⟨k', text', ts', hcs'⟩ := exists_after n' cs'
  rw [hcs, hcs'] at h ⊢
  cases h with
  | cons h hts => exact .cons ⟨h.kind, h.text, hleaves⟩ hts

end Token

/-! ## Places between tokens -/

/-- Reading passes over a text into code, whatever stands behind what follows it. -/
def PassesOver (read : List Char → Gap × List Char) (p b : List Char) : Prop :=
  ∃ leaves : Bool, ∀ z, (read (p ++ (b ++ z))).2 = (Gap.inCode (b ++ z)).2 ∧
    (read (p ++ (b ++ z))).1.leaves = (leaves || (Gap.inCode (b ++ z)).1.leaves)

theorem PassesOver.sameTokens {read : List Char → Gap × List Char} {p b z z' : List Char} (hp : PassesOver read p b)
    {n n' : Nat} (h : SameTokens (Token.after n (Gap.inCode (b ++ z))) (Token.after n' (Gap.inCode (b ++ z')))) :
    SameTokens (Token.after n (read (p ++ (b ++ z)))) (Token.after n' (read (p ++ (b ++ z')))) := by
  obtain ⟨leaves, hp⟩ := hp
  have hread (z : List Char) : read (p ++ (b ++ z)) = ((read (p ++ (b ++ z))).1, (Gap.inCode (b ++ z)).2) := by
    rw [← (hp z).1]
  rw [hread z, hread z']
  refine Token.sameTokens_regap h ?_
  rw [(hp z).2, (hp z').2, Token.leaves_of_sameTokens h]

/-- Reading a text from a place in code comes to another place in code, between tokens or in the gap of one. -/
inductive Reaches (a : List Char) : List Char → Prop
  | here : Reaches a []
  | gap {p b : List Char} (hp : PassesOver Gap.inCode p b) (hb : Reaches a b) : Reaches a (p ++ b)
  | token {k : TokenKind} {c : Char} {t b : List Char}
      (hgap : Gap.inCode (c :: (t ++ (b ++ a))) = ({}, c :: (t ++ (b ++ a))))
      (hscan : scan c (t ++ (b ++ a)) = (k, c :: t, b ++ a)) (hb : Reaches a b) : Reaches a (c :: (t ++ b))

/-- A token that begins behind a gap begins there in front of a comment as well, unless a slash and the comment make
another comment together. -/
theorem Gap.EndsAt.insert {k : TokenKind} {c : Char} {t b a y : List Char} (h : EndsAt c (t ++ (b ++ a)))
    (hy : BeginsComment y) (hscan : scan c (t ++ (b ++ a)) = (k, c :: t, b ++ a))
    (hslash : (c :: (t ++ b)).getLast? = some '/' → ¬ ['/'] <+: y) : EndsAt c (t ++ (b ++ y)) where
  space := h.space
  comment hc := by
    refine ⟨?_, fun hstar => (h.comment hc).2 (prefix_insert hy (by decide) hstar)⟩
    have hbefore := (h.comment hc).1
    rw [← List.append_assoc] at hbefore ⊢
    cases htb : t ++ b with
    | nil => exact hslash (by rw [htb, hc]; rfl)
    | cons d u =>
      rw [htb] at hbefore
      rintro ⟨r, hr⟩
      exact hbefore ⟨u ++ a, by rw [(List.cons.inj hr).1]; rfl⟩
  bracket := by
    rintro rfl
    obtain ⟨r, hr⟩ := h.bracket rfl
    have hbracket : scan '#' ('[' :: r) = (.sign, ['#', '['], r) := rfl
    rw [← hr, List.singleton_append, hbracket] at hscan
    obtain ⟨-, ht, -⟩ := Prod.mk.inj hscan |>.imp_right Prod.mk.inj
    obtain rfl : t = ['['] := (List.cons.inj ht).2.symm
    exact ⟨b ++ y, rfl⟩
  tag hc htag := h.tag hc (prefix_insert hy (by decide) htag)

theorem sameTokens_of_reaches {a b y : List Char} (h : Reaches a b) (ha : a ≠ []) (hy : BeginsComment y)
    (hslash : b.getLast? = some '/' → ¬ ['/'] <+: y)
    (hhere : ∀ n n', a.length ≤ n → y.length ≤ n' →
      SameTokens (Token.after n (Gap.inCode a)) (Token.after n' (Gap.inCode y))) :
    ∀ n n', (b ++ a).length ≤ n → (b ++ y).length ≤ n' →
      SameTokens (Token.after n (Gap.inCode (b ++ a))) (Token.after n' (Gap.inCode (b ++ y))) := by
  induction h with
  | here => exact hhere
  | @gap p b hp hb ih =>
    have hlast : b.getLast? = some '/' → ¬ ['/'] <+: y := fun hb => hslash (by simp [hb])
    intro n n' hn hn'
    rw [List.append_assoc, List.length_append] at hn hn'
    rw [List.append_assoc, List.append_assoc]
    exact hp.sameTokens (ih hlast n n' (by omega) (by omega))
  | @token k c t b hgap hscan hb ih =>
    have hlast : b.getLast? = some '/' → ¬ ['/'] <+: y := fun hb =>
      hslash (by rw [← List.cons_append, List.getLast?_append, hb]; rfl)
    have hscan' := scan_insert hy ha hscan
    have hgap' := Gap.inCode_of_endsAt ((Gap.endsAt_of_inCode hgap).insert hy hscan hslash)
    intro n n' hn hn'
    simp only [List.cons_append, List.append_assoc, List.length_cons, List.length_append] at hn hn' ⊢
    obtain ⟨n, rfl⟩ : ∃ m, n = m + 1 := ⟨n - 1, by omega⟩
    obtain ⟨n', rfl⟩ : ∃ m, n' = m + 1 := ⟨n' - 1, by omega⟩
    have hsame := ih hlast n n' (by rw [List.length_append]; omega) (by rw [List.length_append]; omega)
    rw [hgap, hgap', Token.after_cons, Token.after_cons, hscan, hscan']
    exact .cons ⟨rfl, rfl, rfl⟩ hsame

/-! ## Comments -/

namespace Gap

theorem after_after (p q : List Char) (r : Gap × List Char) : after p (after q r) = after (p ++ q) r := by
  simp [after]

theorem inCode_blank {c : Char} (hc : isSpace c = true) (cs : List Char) :
    inCode (c :: cs) = after [c] (inCode cs) := by
  have hne {d : Char} (hd : isSpace d = false) : c ≠ d := by
    rintro rfl
    rw [hc] at hd
    cases hd
  have hslash : c ≠ '/' := hne (by decide)
  have hhash : c ≠ '#' := hne (by decide)
  have htag : c ≠ '?' := hne (by decide)
  rw [inCode, if_pos hc]
  · exact fun _ h _ => hslash h
  · exact fun _ h _ => hslash h
  · exact fun _ h _ => hhash h
  · exact hhash
  · exact fun _ h _ => htag h

theorem inCode_blanks {blanks : List Char} (h : ∀ c ∈ blanks, isSpace c = true) (cs : List Char) :
    inCode (blanks ++ cs) = after blanks (inCode cs) := by
  induction blanks with
  | nil => simp [after]
  | cons c blanks ih =>
    obtain ⟨hc, hblanks⟩ := List.forall_mem_cons.1 h
    rw [List.cons_append, inCode_blank hc, ih hblanks, after_after, List.singleton_append]

theorem inBlock_append (next : List Char) : ∀ {body : List Char}, ¬ ['*', '/'] <:+: body →
    inBlock (body ++ '*' :: '/' :: next) = after (body ++ ['*', '/']) (inCode next)
  | [], _ => rfl
  | c :: body, h => by
    have hbody : ¬ ['*', '/'] <:+: body := fun hin => h (List.infix_cons hin)
    rw [List.cons_append, inBlock, inBlock_append next hbody, after_after]
    · rfl
    · rintro r rfl hr
      cases body with
      | nil => cases hr
      | cons d body =>
        obtain rfl : d = '/' := (List.cons.inj hr).1
        exact h ⟨[], body, rfl⟩

end Gap

/-- The text of a line comment in front of what ends it: a newline or a closing tag. -/
structure IsLine (next body : List Char) : Prop where
  newline : body.any isNewline = false
  tag : ¬ ['?', '>'] <:+: body
  ends : next.head?.any isNewline = true ∨ ['?', '>'] <+: next ∧ body.getLast? ≠ some '?'

namespace IsLine

variable {next body : List Char} {c : Char}

theorem head (h : IsLine next (c :: body)) : isNewline c = false := by
  have hnewline := h.newline
  rw [List.any_cons, Bool.or_eq_false_iff] at hnewline
  exact hnewline.1

theorem tail (h : IsLine next (c :: body)) : IsLine next body := by
  have hnewline := h.newline
  rw [List.any_cons, Bool.or_eq_false_iff] at hnewline
  refine ⟨hnewline.2, fun hin => h.tag (List.infix_cons hin), h.ends.imp_right fun hends => ⟨hends.1, ?_⟩⟩
  cases body with
  | nil => simp
  | cons d body => simpa using hends.2

theorem inLine_end (h : next.head?.any isNewline = true) : Gap.inLine next = Gap.inCode next ∧
    Gap.inLine ('?' :: next) = Gap.after ['?'] (Gap.inCode next) := by
  cases next with
  | nil => cases h
  | cons c r =>
    have hc : isNewline c = true := h
    have hnewline := h
    simp only [List.head?_cons, Option.any_some, isNewline, Bool.or_eq_true, beq_iff_eq] at hnewline
    rcases hnewline with rfl | rfl <;> exact ⟨rfl, rfl⟩

theorem inLine_cons (hc : c ≠ '?') (hnewline : isNewline c = false) (cs : List Char) :
    Gap.inLine (c :: cs) = Gap.after [c] (Gap.inLine cs) := by
  rw [Gap.inLine, if_neg (by simp [hnewline])]
  · exact fun _ h _ => hc h
  · exact fun _ _ h _ => hc h

theorem inLine_append : ∀ {body : List Char}, IsLine next body →
    Gap.inLine (body ++ next) = Gap.after body (Gap.inCode next)
  | [], h => by
    rcases h.ends with hnewline | ⟨⟨r, rfl⟩, -⟩
    · exact (inLine_end hnewline).1
    · rfl
  | [c], h => by
    by_cases hc : c = '?'
    · subst hc
      rcases h.ends with hnewline | ⟨-, hlast⟩
      · exact (inLine_end hnewline).2
      · exact absurd rfl hlast
    · exact (inLine_cons hc h.head next).trans (congrArg (Gap.after [c]) (inLine_append h.tail))
  | c :: d :: body, h => by
    by_cases hc : c = '?'
    · -- a question mark takes the character behind it along
      subst hc
      have hd : d ≠ '>' := by
        rintro rfl
        exact h.tag ⟨[], body, rfl⟩
      rw [List.cons_append, List.cons_append, Gap.inLine, if_neg (by simp [h.tail.head]), inLine_append h.tail.tail,
        Gap.after_after]
      · rfl
      · exact hd
    · rw [List.cons_append, inLine_cons hc h.head, inLine_append h.tail, Gap.after_after]
      rfl

end IsLine

/-- A comment in front of something: a block, or a line that ends there. -/
inductive IsComment (next : List Char) : List Char → Prop
  | block {body : List Char} (hbody : ¬ ['*', '/'] <:+: body) : IsComment next ('/' :: '*' :: (body ++ ['*', '/']))
  | line {body : List Char} (hbody : IsLine next body) : IsComment next ('/' :: '/' :: body)
  | hash {body : List Char} (hbody : IsLine next body) (hhead : body.head? ≠ some '[') : IsComment next ('#' :: body)

theorem IsComment.inCode_append {next comment : List Char} (h : IsComment next comment) :
    Gap.inCode (comment ++ next) = Gap.afterComment comment (Gap.inCode next) := by
  have hopen (p q : List Char) (r : Gap × List Char) :
      Gap.afterComment p (Gap.after q r) = Gap.afterComment (p ++ q) r := by
    simp [Gap.afterComment, Gap.after]
  cases h with
  | @block body hbody =>
    have hbody := Gap.inBlock_append next hbody
    rw [List.cons_append, List.cons_append, List.append_assoc, Gap.inCode]
    exact (congrArg (Gap.afterComment ['/', '*']) hbody).trans (hopen _ _ _)
  | @line body hbody =>
    rw [List.cons_append, List.cons_append, Gap.inCode, hbody.inLine_append, hopen]
    rfl
  | @hash body hbody hhead =>
    have hbracket : ∀ cs, body ++ next = '[' :: cs → False := by
      intro cs hcs
      cases body with
      | cons c body => exact hhead (by rw [(List.cons.inj hcs).1]; rfl)
      | nil =>
        obtain rfl : next = '[' :: cs := hcs
        rcases hbody.ends with hnewline | ⟨⟨r, hr⟩, -⟩
        · cases hnewline
        · cases hr
    rw [List.cons_append, Gap.inCode, hbody.inLine_append, hopen]
    · rfl
    · exact hbracket

theorem IsComment.beginsComment {next comment blanks : List Char} (h : IsComment next comment)
    (hblanks : ∀ c ∈ blanks, isSpace c = true) : BeginsComment (blanks ++ (comment ++ next)) := by
  cases h with
  | block => exact ⟨blanks, '/', _, rfl, hblanks, Or.inl rfl⟩
  | line => exact ⟨blanks, '/', _, rfl, hblanks, Or.inl rfl⟩
  | hash => exact ⟨blanks, '#', _, rfl, hblanks, Or.inr rfl⟩

/-! ## Comments in sources -/

/-- A place in a source that stands in code, between tokens. -/
structure BetweenTokens (before after : String) : Prop where
  reaches : ∃ p b, before.toList = p ++ b ∧ PassesOver Gap.outside p b ∧ Reaches after.toList b
  more : after ≠ ""

/-- A comment with blanks around it, as it may be put in at a place: the slash of a token before it makes no comment
with its own. -/
structure CommentAt (before text after : String) : Prop where
  parts : ∃ blanks comment blanks', text.toList = blanks ++ comment ++ blanks' ∧ (∀ c ∈ blanks, isSpace c = true) ∧
    (∀ c ∈ blanks', isSpace c = true) ∧ IsComment (blanks' ++ after.toList) comment
  apart : before.toList.getLast? = some '/' → ¬ ['/'] <+: text.toList

/-- A comment belongs to the gap that it is put in. -/
theorem sameTokens_of_comment {a blanks comment blanks' : List Char} (hblanks : ∀ c ∈ blanks, isSpace c = true)
    (hblanks' : ∀ c ∈ blanks', isSpace c = true) (hcomment : IsComment (blanks' ++ a) comment) {n n' : Nat}
    (hn : a.length ≤ n) (hn' : (blanks ++ (comment ++ (blanks' ++ a))).length ≤ n') :
    SameTokens (Token.after n (Gap.inCode a))
      (Token.after n' (Gap.inCode (blanks ++ (comment ++ (blanks' ++ a))))) := by
  rw [Gap.inCode_blanks hblanks, hcomment.inCode_append, Gap.inCode_blanks hblanks']
  have hrest := Gap.length_rest_le a
  simp only [List.length_append] at hn'
  exact Token.sameTokens_after n n' _ _ _ (by omega) (by omega) rfl

/-- **A comment between tokens leaves the code the same.** -/
theorem sameCode_insert {before text after : String} (hplace : BetweenTokens before after)
    (htext : CommentAt before text after) : SameCode (before ++ after) (before ++ text ++ after) := by
  obtain ⟨⟨p, b, hbefore, hp, hb⟩, hmore⟩ := hplace
  obtain ⟨⟨blanks, comment, blanks', htext, hblanks, hblanks', hcomment⟩, hapart⟩ := htext
  have ha : after.toList ≠ [] := fun h => hmore (String.toList_eq_nil_iff.1 h)
  have hy : BeginsComment (blanks ++ (comment ++ (blanks' ++ after.toList))) := hcomment.beginsComment hblanks
  have hslash (hb : b.getLast? = some '/') : ¬ ['/'] <+: blanks ++ (comment ++ (blanks' ++ after.toList)) := by
    have hbegins := hapart (by rw [hbefore, List.getLast?_append, hb]; rfl)
    obtain ⟨c, r, hcons⟩ : ∃ c r, text.toList = c :: r := by
      refine List.exists_cons_of_ne_nil fun hnil => ?_
      rw [htext] at hnil
      cases hcomment <;> simp at hnil
    have hy : blanks ++ (comment ++ (blanks' ++ after.toList)) = c :: (r ++ after.toList) := by
      rw [← List.cons_append, ← hcons, htext]
      simp
    rw [hcons] at hbegins
    rw [hy]
    exact fun hprefix => hbegins (List.cons_prefix_cons.2 ⟨(List.cons_prefix_cons.1 hprefix).1, List.nil_prefix⟩)
  have hsame := sameTokens_of_reaches hb ha hy hslash fun n n' => sameTokens_of_comment hblanks hblanks' hcomment
  have hsource : (before ++ after).toList = p ++ (b ++ after.toList) := by simp [hbefore]
  have hsource' : (before ++ text ++ after).toList =
      p ++ (b ++ (blanks ++ (comment ++ (blanks' ++ after.toList)))) := by simp [hbefore, htext]
  rw [SameCode, hsource, hsource']
  exact hp.sameTokens (hsame _ _ (by simp) (by simp))

end Php
end DynamicMembers
