import Mathlib.Data.List.Forall2
import Mathlib.Data.Option.Basic
import DynamicMembers.Php.Parser
import DynamicMembers.Proofs.Php.Marks
/-!
# Readers — tokens of the same code are read alike

Tokens of the same code differ in the gaps before them: in their blanks and comments, and not in whether they leave the
code.  A reader of tokens reads them alike when it fails on both or on neither, gives related results and leaves rests
of the same code.
-/
namespace DynamicMembers
namespace Php

/-- Two tokens differ in the gap before them at most, and either both gaps leave the code or neither does. -/
structure Token.Alike (t u : Token) : Prop where
  kind : t.kind = u.kind
  text : t.text = u.text
  leaves : t.gap.leaves = u.gap.leaves

/-- Tokens of the same code. -/
abbrev SameTokens : List Token → List Token → Prop := List.Forall₂ Token.Alike

namespace Token

variable {t u : Token}

theorem Alike.exists_gap (h : t.Alike u) : ∃ g : Gap, g.leaves = t.gap.leaves ∧ u = { t with gap := g } := by
  obtain ⟨gap, kind, text⟩ := t
  obtain ⟨gap', kind', text'⟩ := u
  obtain ⟨rfl, rfl, hleaves⟩ := h
  exact ⟨gap', hleaves.symm, rfl⟩

theorem Alike.isSign (h : t.Alike u) (s : String) : t.isSign s = u.isSign s := by
  unfold Token.isSign
  rw [h.kind, h.text]

theorem Alike.isKeyword (h : t.Alike u) (w : String) : t.isKeyword w = u.isKeyword w := by
  unfold Token.isKeyword Token.keyword?
  rw [h.kind, h.text]

theorem alike_gap {g : Gap} (h : g.leaves = t.gap.leaves) : t.Alike { t with gap := g } := ⟨rfl, rfl, h.symm⟩

end Token

namespace Parser

variable {α β γ δ : Type}

/-- Two readers read the same code alike: with related results, and rests of the same code. -/
def Reads (R : α → β → Prop) (p : Parser α) (q : Parser β) : Prop :=
  ∀ ts us, SameTokens ts us → Option.Rel (fun x y => R x.1 y.1 ∧ SameTokens x.2 y.2) (p.run ts) (q.run us)

variable {R : α → β → Prop} {S : γ → δ → Prop}

theorem reads_pure {a : α} {b : β} (h : R a b) : Reads R (pure a) (pure b) := fun _ _ hts => .some ⟨h, hts⟩

theorem reads_failure : Reads R failure failure := fun _ _ _ => .none

theorem Reads.bind {p : Parser α} {q : Parser β} {f : α → Parser γ} {g : β → Parser δ} (h : Reads R p q)
    (hf : ∀ a b, R a b → Reads S (f a) (g b)) : Reads S (p >>= f) (q >>= g) := by
  intro ts us hts
  have hrel := h ts us hts
  rw [StateT.run_bind, StateT.run_bind]
  generalize p.run ts = x at hrel ⊢
  generalize q.run us = y at hrel ⊢
  cases hrel with
  | none => exact .none
  | some h => exact hf _ _ h.1 _ _ h.2

theorem Reads.seq {p : Parser α} {q : Parser β} {f : Parser γ} {g : Parser δ} (h : Reads R p q) (hf : Reads S f g) :
    Reads S (p >>= fun _ => f) (q >>= fun _ => g) := h.bind fun _ _ _ => hf

/-- The reader behind one that gives a token is given the same token behind another gap. -/
theorem Reads.bindToken {p q : Parser Token} {f g : Token → Parser γ} {T : γ → γ → Prop} (h : Reads Token.Alike p q)
    (hf : ∀ (t : Token) (gap : Gap), gap.leaves = t.gap.leaves → Reads T (f t) (g { t with gap := gap })) :
    Reads T (p >>= f) (q >>= g) := by
  refine h.bind fun t u htu => ?_
  obtain ⟨gap, hleaves, rfl⟩ := htu.exists_gap
  exact hf t gap hleaves

/-- The reader behind one that gives the same answer on the same code. -/
theorem Reads.bindEq {p q : Parser α} {f g : α → Parser γ} {T : γ → γ → Prop} (h : Reads Eq p q)
    (hf : ∀ a, Reads T (f a) (g a)) : Reads T (p >>= f) (q >>= g) := by
  refine h.bind fun a b hab => ?_
  obtain rfl : a = b := hab
  exact hf a

theorem Reads.map {p : Parser α} {q : Parser β} {f : α → γ} {g : β → δ} (h : Reads R p q)
    (hf : ∀ a b, R a b → S (f a) (g b)) : Reads S (f <$> p) (g <$> q) := by
  rw [map_eq_pure_bind, map_eq_pure_bind]
  exact h.bind fun a b hab => reads_pure (hf a b hab)

theorem reads_ite {c : Prop} [Decidable c] {p p' : Parser α} {q q' : Parser β} (h : Reads R p q) (h' : Reads R p' q') :
    Reads R (if c then p else p') (if c then q else q') := by
  by_cases hc : c
  · rw [if_pos hc, if_pos hc]
    exact h
  · rw [if_neg hc, if_neg hc]
    exact h'

theorem reads_orElse {p p' : Parser α} {q q' : Parser β} (h : Reads R p q) (h' : Reads R p' q') :
    Reads R (p <|> p') (q <|> q') := by
  intro ts us hts
  have hrel := h ts us hts
  change Option.Rel _ ((p.run ts).orElse fun _ => p'.run ts) ((q.run us).orElse fun _ => q'.run us)
  generalize p.run ts = x at hrel ⊢
  generalize q.run us = y at hrel ⊢
  cases hrel with
  | none => exact h' ts us hts
  | some h => exact .some h

/-- A reader of tokens that leaves them where they are. -/
theorem reads_ofState {f : List Token → α} {g : List Token → β} (h : ∀ ts us, SameTokens ts us → R (f ts) (g us)) :
    Reads R (do return f (← get)) (do return g (← get)) := fun ts us hts => .some ⟨h ts us hts, hts⟩

theorem reads_modify {f : List Token → List Token} (h : ∀ ts us, SameTokens ts us → SameTokens (f ts) (f us)) :
    Reads Eq (modify f) (modify f) := fun ts us hts => .some ⟨rfl, h ts us hts⟩

theorem reads_guard (c : Prop) [Decidable c] : Reads Eq (guard c : Parser Unit) (guard c) :=
  reads_ite (reads_pure rfl) reads_failure

theorem reads_get : Reads SameTokens get get := fun _ _ hts => .some ⟨hts, hts⟩

theorem reads_set {ts us : List Token} (h : SameTokens ts us) : Reads Eq (set ts) (set us) :=
  fun _ _ _ => .some ⟨rfl, h⟩

/-! ## Single tokens -/

theorem alike_getElem? {ts us : List Token} (h : SameTokens ts us) (n : Nat) :
    (ts[n]?.getD .done).Alike (us[n]?.getD .done) := by
  induction h generalizing n with
  | nil => exact ⟨rfl, rfl, rfl⟩
  | cons htu _ ih =>
    cases n with
    | zero => exact htu
    | succ n => exact ih n

theorem reads_peekAt (n : Nat) : Reads Token.Alike (peekAt n) (peekAt n) :=
  reads_ofState fun _ _ h => alike_getElem? h n

theorem reads_peek : Reads Token.Alike peek peek := reads_peekAt 0

theorem reads_peekInside : Reads Token.Alike peekInside peekInside := by
  refine reads_peek.bind fun t u h => reads_pure ?_
  rw [← h.leaves]
  split
  · exact ⟨rfl, rfl, rfl⟩
  · exact h

theorem sameTokens_tail {ts us : List Token} (h : SameTokens ts us) : SameTokens ts.tail us.tail := by
  cases h with
  | nil => exact .nil
  | cons _ h => exact h

theorem reads_advance : Reads Token.Alike advance advance := by
  refine reads_peek.bindToken fun t gap hgap => ?_
  refine reads_ite ?_ (reads_pure (Token.alike_gap hgap))
  exact (reads_modify fun _ _ => sameTokens_tail).bindEq fun _ => reads_pure (Token.alike_gap hgap)

theorem reads_accept (s : String) : Reads Eq (accept s) (accept s) := by
  refine reads_peek.bindToken fun t gap _ => reads_ite ?_ (reads_pure rfl)
  exact reads_advance.bindToken fun _ _ _ => reads_pure rfl

theorem reads_expect (s : String) : Reads Eq (expect s) (expect s) :=
  (reads_accept s).bindEq fun found => reads_guard (found = true)

theorem reads_anyWord : Reads Eq anyWord anyWord := by
  refine reads_peek.bindToken fun t gap _ => ?_
  exact (reads_guard (t.kind = .word)).bindEq fun _ => reads_advance.bindToken fun _ _ _ => reads_pure rfl

/-- What is kept as it is written may hold other comments. -/
theorem reads_spanFrom (start start' : List Token) : Reads (fun _ _ => True) (spanFrom start) (spanFrom start') :=
  reads_ofState fun _ _ _ => trivial

/-- Two lists of nothing but comments. -/
def OnlyComments {α : Type} (comment : α) (cs cs' : List α) : Prop :=
  ∃ m n, cs = List.replicate m comment ∧ cs' = List.replicate n comment

theorem reads_commentsBefore (comment : α) :
    Reads (OnlyComments comment) (commentsBefore comment) (commentsBefore comment) :=
  reads_peek.bind fun t u _ => reads_pure ⟨t.gap.comments, u.gap.comments, rfl, rfl⟩

/-! ## Passing over tokens -/

/-- A condition on tokens that does not depend on what stands in the gap before them. -/
def Ungapped (stop : Token → Bool) : Prop := ∀ t u : Token, t.Alike u → stop t = stop u

theorem sameTokens_tokensFrom {stop : Token → Bool} (hstop : Ungapped stop) {ts us : List Token}
    (h : SameTokens ts us) (depth : Nat) : SameTokens (tokensFrom stop depth ts) (tokensFrom stop depth us) := by
  induction h generalizing depth with
  | nil => exact .nil
  | @cons t u ts us htu hts ih =>
    have hhere := hstop t u htu
    obtain ⟨gap, hgap, rfl⟩ := htu.exists_gap
    have hall : SameTokens (t :: ts) ({ t with gap := gap } :: us) := .cons htu hts
    have hpass {c : Prop} [Decidable c] {ls rs ls' rs' : List Token} (h : SameTokens ls ls') (h' : SameTokens rs rs') :
        SameTokens (if c then ls else rs) (if c then ls' else rs') := by
      split
      · exact h
      · exact h'
    rw [tokensFrom, tokensFrom, ← hhere]
    exact hpass hall (hpass hall (hpass (ih (depth + 1)) (hpass (hpass hall (ih (depth - 1))) (ih depth))))

theorem reads_passTo {stop : Token → Bool} (hstop : Ungapped stop) : Reads Eq (passTo stop) (passTo stop) :=
  reads_modify fun _ _ h => sameTokens_tokensFrom hstop h 0

theorem ungapped_endsStatement : Ungapped endsStatement := fun t u h => by
  unfold endsStatement
  rw [h.isSign, h.kind, h.leaves]

theorem endsStatement_gap {t : Token} {g : Gap} (h : g.leaves = t.gap.leaves) :
    endsStatement { t with gap := g } = endsStatement t := (ungapped_endsStatement t _ (Token.alike_gap h)).symm

theorem reads_passToSign (signs : List String) : Reads Eq (passToSign signs) (passToSign signs) :=
  reads_passTo fun t u h => by
    have hsigns : t.isSign = u.isSign := funext h.isSign
    rw [hsigns]

theorem reads_passGroup : Reads Eq passGroup passGroup := by
  refine reads_peek.bindToken fun t gap _ => (reads_guard (t.opens = true)).bindEq fun _ => ?_
  refine reads_advance.bindToken fun _ _ _ => (reads_passTo fun _ _ _ => rfl).bindEq fun _ => ?_
  exact reads_advance.bindToken fun _ _ _ => reads_pure rfl

theorem reads_passStatement : Reads Eq passStatement passStatement :=
  (reads_passTo ungapped_endsStatement).bindEq fun _ => (reads_accept ";").bindEq fun _ => reads_pure rfl

theorem reads_semicolon : Reads Eq semicolon semicolon := by
  refine reads_peek.bind fun t u h => ?_
  rw [ungapped_endsStatement t u h]
  exact (reads_guard (endsStatement u = true)).bindEq fun _ => (reads_accept ";").bindEq fun _ => reads_pure rfl

/-! ## Names and heads -/

theorem sameTokens_afterSegments : ∀ {ts us : List Token}, SameTokens ts us →
    SameTokens (afterSegments ts) (afterSegments us)
  | _, _, .nil => .nil
  | _, _, .cons h .nil => .cons h .nil
  | _, _, .cons (a := s) (b := s') hs (.cons (a := w) (b := w') hw h) => by
    rw [afterSegments, afterSegments, ← hs.isSign, ← hw.kind]
    split
    · exact sameTokens_afterSegments h
    · exact .cons hs (.cons hw h)

theorem reads_name : Reads (fun _ _ => True) name name := by
  have hrest : ∀ start start' : List Token, SameTokens start start' → Reads (fun _ _ => True)
      (do modify afterSegments; guard ((← get).length < start.length); spanFrom start)
      (do modify afterSegments; guard ((← get).length < start'.length); spanFrom start') := by
    intro start start' hstart
    refine (reads_modify fun _ _ => sameTokens_afterSegments).bindEq fun _ => reads_get.bind fun ts us hts => ?_
    rw [hts.length_eq, hstart.length_eq]
    exact (reads_guard _).bindEq fun _ => reads_spanFrom start start'
  unfold name
  refine reads_get.bind fun start start' hstart => reads_peek.bindToken fun t gap _ => reads_ite ?_ ?_
  · exact reads_anyWord.bindEq fun _ => hrest start start' hstart
  · exact hrest start start' hstart

theorem reads_computedVariable : ∀ n, Reads Eq (computedVariable n) (computedVariable n)
  | 0 => reads_failure
  | n + 1 => by
    unfold computedVariable
    refine (reads_accept "$").bindEq fun found => reads_ite (reads_computedVariable n) ?_
    refine reads_peek.bindToken fun t gap _ => reads_ite ?_ reads_passGroup
    exact reads_advance.bindToken fun _ _ _ => reads_pure rfl

theorem reads_memberName : Reads Eq memberName memberName := by
  unfold memberName
  refine reads_peek.bindToken fun t gap _ => reads_ite ?_ ?_
  · exact reads_anyWord.map fun _ _ => congrArg some
  · refine reads_get.bind fun ts us hts => ?_
    rw [hts.length_eq]
    exact (reads_computedVariable _).bindEq fun _ => reads_pure rfl

theorem reads_passAttributes : ∀ n, Reads Eq (passAttributes n) (passAttributes n)
  | 0 => reads_failure
  | n + 1 => by
    unfold passAttributes
    refine reads_peek.bindToken fun t gap _ => reads_ite ?_ (reads_pure rfl)
    exact reads_passGroup.bindEq fun _ => reads_passAttributes n

theorem reads_passModifiers : ∀ n, Reads Eq (passModifiers n) (passModifiers n)
  | 0 => reads_failure
  | n + 1 => by
    unfold passModifiers
    refine reads_peek.bindToken fun t gap _ => reads_ite ?_ (reads_pure rfl)
    exact reads_advance.bindToken fun _ _ _ => reads_passModifiers n

theorem reads_passReference : ∀ n, Reads Eq (passReference n) (passReference n)
  | 0 => reads_failure
  | n + 1 => by
    unfold passReference
    refine reads_peekInside.bindToken fun t gap _ => reads_ite ?_ (reads_ite ?_ (reads_pure rfl))
    · exact reads_advance.bindToken fun _ _ _ => reads_memberName.bindEq fun _ => reads_passReference n
    · exact reads_passGroup.bindEq fun _ => reads_passReference n

/-- Parameters of the same names. -/
def SameNames (ps ps' : List Param) : Prop := paramNames ps = paramNames ps'

theorem sameNames_append {cs cs' ps ps' : List Param} (h : OnlyComments .comment cs cs') (hps : SameNames ps ps') :
    SameNames (cs ++ ps) (cs' ++ ps') := by
  obtain ⟨m, n, rfl, rfl⟩ := h
  have hnone (k : Nat) : paramNames (List.replicate k .comment) = [] := by simp [paramNames]
  have happend (ps qs : List Param) : paramNames (ps ++ qs) = paramNames ps ++ paramNames qs := List.filterMap_append
  rw [SameNames, happend, happend, hnone, hnone, hps]

theorem reads_params : ∀ n, Reads SameNames (params n) (params n)
  | 0 => reads_failure
  | n + 1 => by
    unfold params
    refine (reads_commentsBefore Param.comment).bind fun cs cs' hcs => ?_
    refine (reads_accept ")").bindEq fun found => reads_ite (reads_pure ?_) ?_
    · have hnone : SameNames [] [] := rfl
      simpa using sameNames_append hcs hnone
    · refine (reads_passTo fun t u h => by rw [h.kind]).bindEq fun _ => reads_peek.bindToken fun v gap _ => ?_
      refine (reads_guard (v.kind = .var)).bindEq fun _ => (reads_passToSign [","]).bindEq fun _ => ?_
      refine (reads_accept ",").bindEq fun _ => (reads_params n).bind fun ps ps' hps => reads_pure ?_
      exact sameNames_append hcs (congrArg (variableName (String.ofList v.text) :: ·) hps)

theorem reads_atClause : Reads Eq atClause atClause := by
  have hrest : ∀ (t : Token) (start start' : List Token), SameTokens start start' → Reads Eq
      (do
        let found := (t.isKeyword "else" || t.isKeyword "elseif") && !(← peek).isSign ":"
        set start
        return found)
      (do
        let found := (t.isKeyword "else" || t.isKeyword "elseif") && !(← peek).isSign ":"
        set start'
        return found) :=
    fun t start start' hstart => reads_peek.bindToken fun _ _ _ => (reads_set hstart).seq (reads_pure rfl)
  unfold atClause
  refine reads_get.bind fun start start' hstart => reads_advance.bindToken fun t gap _ => reads_ite ?_ ?_
  · exact reads_passGroup.bindEq fun _ => hrest t start start' hstart
  · exact hrest t start start' hstart

end Parser
end Php
end DynamicMembers
