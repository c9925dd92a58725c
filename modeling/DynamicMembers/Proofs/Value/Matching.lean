import DynamicMembers.Proofs.Value.Generics
/-!
# Matching — whether the brackets of a generic belong together

A text is cut with a counter for brackets of both kinds, and of a piece with a `<` only the last character is looked at.
So the piece is read as what stands in front of its first `<` also where the last `>` does not close it: behind a list of
arguments that is closed early there may be more text, in quotes or with brackets of its own, and a `>` may close a
parenthesis.  Nothing else goes wrong (`isGeneric_iff`).
-/
namespace DynamicMembers
namespace PhpDoc

/-! ## Pieces without their decorations -/

theorem Scan.depth_of_step {s t : Scan} {c : Char} (h : s.step c = some t) (hc : c ∉ marks) : t.depth = s.depth := by
  simp only [marks, List.mem_cons, List.not_mem_nil, or_false, not_or] at hc
  obtain ⟨hq, hdq, hlt, hopen, hgt, hclose, -⟩ := hc
  cases s with
  | plain d =>
    simp only [step, hq, hdq, hlt, hopen, hgt, hclose, or_self, if_false] at h
    cases h
    rfl
  | quoted d q e =>
    cases e with
    | true =>
      cases h
      rfl
    | false =>
      simp only [step] at h
      split at h
      · cases h
        rfl
      · split at h <;> cases h <;> rfl

theorem Scan.depth_of_unmarked : ∀ {s t : Scan} {cs : List Char}, s.through cs = some t → Unmarked cs →
    t.depth = s.depth
  | _, _, [], h, _ => by
    cases h
    rfl
  | s, t, c :: cs, h, hc => by
    obtain ⟨hfirst, hrest⟩ := List.forall_mem_cons.1 hc
    rw [through] at h
    split at h
    · cases h
    · obtain ⟨s', hstep, hthrough⟩ := Option.bind_eq_some_iff.1 h
      rw [depth_of_unmarked hthrough hrest, depth_of_step hstep hfirst]

/-- Decorations mean nothing to the scan. -/
theorem through_undecorated {cs : List Char} {s : Scan} (h : (Scan.plain 0).through cs = some s) (hd : s.depth = 0) :
    ∃ t, (Scan.plain 0).through (undecorated cs) = some t ∧ t.depth = 0 := by
  obtain ⟨before, after, hcs, hbefore, hafter⟩ := exists_undecorated cs
  rw [hcs, Scan.through_append, Scan.through_of_unmarked 0 hbefore, Option.bind_some, Scan.through_append] at h
  obtain ⟨t, ht, hrest⟩ := Option.bind_eq_some_iff.1 h
  exact ⟨t, ht, (Scan.depth_of_unmarked hrest hafter).symm.trans hd⟩

/-- What is read as a name, a number or an array of these has no character that means anything to the scan. -/
theorem unmarked_of_atom (cs : List Char) : ∀ {t}, atom cs = .ok t → (∀ c ∈ (Text.trim cs).head?, c ∉ ['?', '\'', '"']) →
    '<' ∉ cs → Unmarked cs := by
  fun_induction atom cs with
  -- nothing is read
  | case1 | case4 | case8 =>
    intro t h
    cases h
  | case2 cs inner ht =>
    intro t _ hhead
    rw [ht] at hhead
    exact absurd (hhead '?' rfl) (by decide)
  | case3 cs c r _ ht hq =>
    intro t _ hhead
    rw [ht] at hhead
    exact absurd (hhead c rfl) (by rcases hq with rfl | rfl <;> decide)
  | case5 cs c r _ ht _ hi =>
    intro t _ _ _
    refine unmarked_of_trim (fun d hd => ?_)
    rw [ht] at hd
    rcases eq_minus_or_isDigit hi d hd with rfl | hdigit
    · decide
    · exact not_mem_of_any_eq_false (p := Char.isDigit) (by decide) hdigit
  | case6 cs c r _ ht _ _ element hb ih =>
    intro t h hhead hangle
    have htext := beforeBrackets_eq_some_iff.1 hb
    obtain ⟨u, hu, -⟩ := map_eq_ok h
    rw [ht] at hhead
    have helement : '<' ∉ element := by
      intro hm
      refine hangle (Text.mem_of_mem_trim ?_)
      rw [ht, htext]
      exact List.mem_append_left _ hm
    have hstart : ∀ d ∈ (Text.trim element).head?, d ∉ ['?', '\'', '"'] := by
      cases element with
      | nil => exact fun d hd => by cases hd
      | cons d e =>
        obtain ⟨rfl, -⟩ := List.cons.inj htext
        have hblank : Text.isBlank c = false := Text.isBlank_head_trim cs c (by rw [ht]; rfl)
        rw [Text.head?_trim_cons hblank]
        exact hhead
    refine unmarked_of_trim ?_
    rw [ht, htext]
    exact (ih hu hstart helement).append (by decide)
  | case7 cs c r _ ht _ _ _ ho =>
    intro t _ _ hangle
    exact absurd (Text.mem_of_mem_trim (by rw [ht]; exact ho)) hangle
  | case9 cs c r _ ht =>
    intro t h _ _
    refine unmarked_of_trim ?_
    rw [ht]
    exact (isName_of_nameOf h).unmarked

/-! ## Lists of arguments -/

/-- A bracket that is opened outside quotes and the bracket that closes it are of one kind. -/
def Paired (cs : List Char) : Prop := ∀ before opening inner closing after,
  cs = before ++ opening :: (inner ++ closing :: after) → QuotesClosed before → (opening = '<' ∨ opening = '(') →
    Balanced inner → (closing = '>' ∨ closing = ')') → (opening = '<' ↔ closing = '>')

/-- The first `<` is matched by a `>` at the end: between them stands one list of arguments, with its quotes closed and
its brackets balanced and paired. -/
def IsGeneric (cs : List Char) : Prop := ∃ base args, cs = generic base args ∧ '<' ∉ base ∧ Balanced args ∧ Paired args

/-- The list of arguments that the first `<` opens is closed and something stands behind it. -/
def ClosesEarly (cs : List Char) : Prop := ∃ base args closing rest, cs = base ++ '<' :: (args ++ closing :: rest) ∧
  '<' ∉ base ∧ (closing = '>' ∨ closing = ')') ∧ Balanced args ∧ rest ≠ []

/-- What stands in front of a closing bracket at the end of a text with arguments and one bracket more. -/
theorem eq_of_concat_closing {args inner rest : List Char} {closing last : Char}
    (h : args ++ [last] = inner ++ closing :: rest) :
    (rest = [] ∧ args = inner ∧ last = closing) ∨ ∃ behind, rest = behind ++ [last] ∧ args = inner ++ closing :: behind := by
  rcases List.eq_nil_or_concat' rest with rfl | ⟨behind, end', rfl⟩
  · obtain ⟨hargs, hlast⟩ := List.append_inj' h rfl
    exact Or.inl ⟨rfl, hargs, (List.cons.inj hlast).1⟩
  · have hsplit : args ++ [last] = (inner ++ closing :: behind) ++ [end'] := by rw [h]; simp
    obtain ⟨hargs, hlast⟩ := List.append_inj' hsplit rfl
    obtain rfl := (List.cons.inj hlast).1
    exact Or.inr ⟨behind, rfl, hargs⟩

/-- **Where the brackets of a generic balance, its arguments do unless their list is closed early.** -/
theorem balanced_iff {args : List Char} {s : Scan} (h : (Scan.plain 1).run (args ++ ['>']) = some s) (hd : s.depth = 0) :
    Balanced args ↔ ¬ ∃ inner closing rest, args ++ ['>'] = inner ++ closing :: rest ∧
      (closing = '>' ∨ closing = ')') ∧ Balanced inner ∧ rest ≠ [] := by
  constructor
  · rintro hargs ⟨inner, closing, rest, htext, hclosing, hinner, hne⟩
    rcases eq_of_concat_closing htext with ⟨hnil, -⟩ | ⟨behind, -, rfl⟩
    · exact hne hnil
    · exact absurd hargs (not_balanced_closing hinner hclosing behind)
  · intro hnot
    cases hrun : (Scan.plain 0).run args with
    | none =>
      obtain ⟨inner, closing, rest, rfl, hclosing, hinner⟩ := Scan.exists_closing_of_run_eq_none hrun
      exact absurd ⟨inner, closing, rest ++ ['>'], by simp, hclosing, hinner, by simp⟩ hnot
    | some t =>
      have hinside : (Scan.plain 1).run args = some t.inside := Scan.run_of_through (Scan.through_inside hrun)
      rw [Scan.run_append, hinside, Option.bind_some, Scan.run_cons] at h
      obtain ⟨s', hstep, hend⟩ := Option.bind_eq_some_iff.1 h
      cases hend
      rw [Balanced, hrun, Scan.eq_plain_of_step_inside hstep hd]

/-! ## Generics -/

section Generic

variable {base args : List Char}

theorem eq_of_angle {base' rest rest' : List Char} (h : '<' ∉ base) (h' : '<' ∉ base')
    (heq : base ++ '<' :: rest = base' ++ '<' :: rest') : base = base' ∧ rest = rest' := by
  have hbase : base = base' := by rw [← takeWhile_angle h rest, heq, takeWhile_angle h']
  rw [hbase] at heq
  exact ⟨hbase, (List.cons.inj (List.append_cancel_left heq)).2⟩

theorem isGeneric_generic_iff (h : '<' ∉ base) : IsGeneric (generic base args) ↔ Balanced args ∧ Paired args := by
  constructor
  · rintro ⟨base', args', heq, hbase', hargs'⟩
    obtain ⟨-, htail⟩ := eq_of_angle h hbase' heq
    rwa [List.append_cancel_right htail]
  · exact fun hargs => ⟨base, args, rfl, h, hargs⟩

theorem closesEarly_generic_iff (h : '<' ∉ base) : ClosesEarly (generic base args) ↔
    ∃ inner closing rest, args ++ ['>'] = inner ++ closing :: rest ∧ (closing = '>' ∨ closing = ')') ∧
      Balanced inner ∧ rest ≠ [] := by
  constructor
  · rintro ⟨base', inner, closing, rest, heq, hbase', hrest⟩
    obtain ⟨-, htail⟩ := eq_of_angle h hbase' heq
    exact ⟨inner, closing, rest, htail, hrest⟩
  · rintro ⟨inner, closing, rest, htail, hrest⟩
    exact ⟨base, inner, closing, rest, by rw [generic, htail], h, hrest⟩

theorem run_base (hbase : Unmarked base) (rest : List Char) :
    (Scan.plain 0).run (base ++ '<' :: rest) = (Scan.plain 1).run rest := by
  have hopen : (Scan.plain 0).step '<' = some (.plain 1) := by simp [Scan.step]
  rw [Scan.run_append, Scan.run_of_through (Scan.through_of_unmarked 0 hbase), Option.bind_some, Scan.run_cons, hopen,
    Option.bind_some]

theorem paired_of_generic (hbase : Unmarked base) (h : Paired (generic base args)) : Paired args := by
  rintro before opening inner closing after htext ⟨d, hbefore⟩ hopening hinner hclosing
  have hrun : (Scan.plain 1).run before = some (.plain (d + 1)) := Scan.run_of_through (Scan.through_inside hbefore)
  refine h (base ++ '<' :: before) opening inner closing (after ++ ['>']) ?_ ⟨d + 1, ?_⟩ hopening hinner hclosing
  · rw [generic, htext]
    simp
  · rw [run_base hbase, hrun]

/-- An opening bracket of a generic is its first `<` or stands in its arguments. -/
theorem split_generic (hbase : Unmarked base) {before rest : List Char} {opening : Char} (hopening : opening ∈ marks)
    (h : generic base args = before ++ opening :: rest) :
    (before = base ∧ opening = '<' ∧ args ++ ['>'] = rest) ∨
    ∃ ahead, before = base ++ '<' :: ahead ∧ args ++ ['>'] = ahead ++ opening :: rest := by
  rw [generic] at h
  rcases List.append_eq_append_iff.1 h with ⟨ahead, rfl, hrest⟩ | ⟨behind, rfl, hrest⟩
  · cases ahead with
    | nil =>
      rw [List.nil_append] at hrest
      obtain ⟨rfl, htail⟩ := List.cons.inj hrest
      exact Or.inl ⟨List.append_nil base, rfl, htail⟩
    | cons c ahead =>
      rw [List.cons_append] at hrest
      obtain ⟨rfl, htail⟩ := List.cons.inj hrest
      exact Or.inr ⟨ahead, rfl, htail⟩
  · cases behind with
    | nil =>
      rw [List.nil_append] at hrest
      obtain ⟨rfl, htail⟩ := List.cons.inj hrest
      exact Or.inl ⟨(List.append_nil before).symm, rfl, htail.symm⟩
    | cons c behind =>
      rw [List.cons_append] at hrest
      obtain ⟨rfl, -⟩ := List.cons.inj hrest
      exact absurd hopening (hbase _ (List.mem_append_right before List.mem_cons_self))

theorem paired_generic (hbase : Unmarked base) (hargs : Balanced args) (h : Paired args) : Paired (generic base args) := by
  rintro before opening inner closing after htext hbefore hopening hinner hclosing
  have hmark : opening ∈ marks := by rcases hopening with rfl | rfl <;> decide
  rcases split_generic hbase hmark htext with ⟨-, rfl, htail⟩ | ⟨ahead, rfl, htail⟩
  · rcases eq_of_concat_closing htail with ⟨-, -, rfl⟩ | ⟨behind, -, rfl⟩
    · simp
    · exact absurd hargs (not_balanced_closing hinner hclosing behind)
  · -- the bracket is opened in the arguments, so it is closed in them
    obtain ⟨d, hd⟩ := hbefore
    rw [run_base hbase] at hd
    rw [← List.cons_append, ← List.append_assoc] at htail
    rcases eq_of_concat_closing htail with ⟨-, rfl, -⟩ | ⟨behind, -, rfl⟩
    · exact absurd hargs (not_balanced_opening (quotesClosed_of_inside hargs hd) hopening hinner)
    · have hsplit : ahead ++ opening :: inner ++ closing :: behind = ahead ++ opening :: (inner ++ closing :: behind) := by
        simp
      rw [hsplit] at hargs
      exact h ahead opening inner closing behind hsplit (quotesClosed_of_inside hargs hd) hopening hinner hclosing

end Generic

/-- A bare piece with a `<` that is read, and is no literal, is a generic, and its base has nothing in it that means
anything to the scan. -/
theorem exists_generic_of_bare {bare : List Char} (htrim : Text.trim bare = bare)
    (hquestion : ∀ inner, bare ≠ '?' :: inner) (hb : beforeBrackets bare = none)
    (hliteral : ∀ c ∈ bare.head?, c ≠ '\'' ∧ c ≠ '"') (hangle : '<' ∈ bare) {t : PhpType} (ht : atom bare = .ok t) :
    ∃ base args, bare = generic base args ∧ '<' ∉ base ∧ Unmarked base ∧ atom base = .ok t := by
  have hhead : ∀ c ∈ bare.head?, c ∉ ['?', '\'', '"'] := by
    intro c hc
    obtain ⟨r, rfl⟩ := List.head?_eq_some_iff.1 hc
    have hc' : c ≠ '?' := fun heq => hquestion r (heq ▸ rfl)
    simpa [hc'] using hliteral c rfl
  have hup : Upright bare := by
    obtain ⟨c, r, hcons⟩ := List.exists_cons_of_ne_nil (List.ne_nil_of_mem hangle)
    rw [← htrim]
    exact upright_of_trim (htrim.trans hcons) (hhead c (by rw [hcons]; rfl))
  obtain ⟨base, args, rfl, hbase, hread⟩ := exists_generic_of_atom hup hb hangle ht
  refine ⟨base, args, rfl, hbase, unmarked_of_atom base hread ?_ hbase, hread⟩
  cases base with
  | nil => exact fun c hc => by cases hc
  | cons d base =>
    rw [Text.head?_trim_cons (hup.head d rfl)]
    exact hhead

/-- **What is dropped of a generic is one list of arguments, unless the list is closed early or its brackets are of
different kinds.**  Of every piece of a text that is read, if without its decorations it is no literal and has a `<`: it
ends with a `>` and is read as what stands in front of the `<`; what stands between them is balanced exactly when no
text stands behind a list that is closed; and the two match exactly when also all brackets are paired. -/
theorem isGeneric_iff (text : String) {t : PhpType} (h : resolve text = .ok t)
    {ps : List (List Char)} (hps : pieces (.plain 0) text.toList = some ps) {p : List Char} (hp : p ∈ ps)
    (hliteral : ∀ c ∈ (undecorated p).head?, c ≠ '\'' ∧ c ≠ '"') (hangle : '<' ∈ undecorated p) :
    (∃ base args, undecorated p = generic base args ∧ '<' ∉ base ∧
      (∃ u, atom (undecorated p) = .ok u ∧ atom base = .ok u) ∧ (Balanced args ↔ ¬ ClosesEarly (undecorated p))) ∧
    (IsGeneric (undecorated p) ↔ Paired (undecorated p) ∧ ¬ ClosesEarly (undecorated p)) := by
  obtain ⟨ps', types, hps', htypes, -⟩ := read_eq_ok_iff.1 (resolve_ok_iff.1 h)
  obtain rfl : ps = ps' := Option.some.inj (hps.symm.trans hps')
  obtain ⟨v, hv⟩ := exists_ok_of_mem htypes p hp
  obtain ⟨u, hu⟩ := exists_ok_undecorated p hv
  obtain ⟨s, hs, hd⟩ := through_of_mem_pieces hps hp
  obtain ⟨s', hs', hd'⟩ := through_undecorated hs hd
  obtain ⟨htrim, hquestion, hb⟩ := undecorated_bare p
  obtain ⟨base, args, hgeneric, hbase, hunmarked, hread⟩ :=
    exists_generic_of_bare htrim hquestion hb hliteral hangle hu
  have hrun := Scan.run_of_through hs'
  rw [hgeneric, generic, run_base hunmarked] at hrun
  have hbalanced : Balanced args ↔ ¬ ClosesEarly (undecorated p) := by
    rw [hgeneric, closesEarly_generic_iff hbase, balanced_iff hrun hd']
  refine ⟨⟨base, args, hgeneric, hbase, ⟨u, hu, hread⟩, hbalanced⟩, ?_⟩
  rw [← hbalanced, hgeneric, isGeneric_generic_iff hbase, and_comm]
  exact and_congr_left (fun hargs => ⟨paired_generic hunmarked hargs, paired_of_generic hunmarked⟩)

theorem isGeneric_iff_decorated :
    let text := "'a<'|?null<'|>', (null)>[]"
    let bare := generic "null".toList "'|>', (null)".toList
    let piece := decorated 1 1 bare
    resolve text = .ok (.union [.stringLiteral "a<", .array, .null]) ∧
    pieces (.plain 0) text.toList = some ["'a<'".toList, piece] ∧ undecorated piece = bare ∧
    (∀ c ∈ bare.head?, c ≠ '\'' ∧ c ≠ '"') ∧ '<' ∈ bare ∧ (IsGeneric bare ↔ Paired bare ∧ ¬ ClosesEarly bare) := by
  intro text bare piece
  have hresolve : resolve text = .ok (.union [.stringLiteral "a<", .array, .null]) := by cbv
  have hpieces : pieces (.plain 0) text.toList = some ["'a<'".toList, piece] := by decide
  have hname : IsName "null".toList := Or.inr (by decide)
  have hbare : undecorated piece = bare :=
    undecorated_decorated 1 1 (hname.upright.generic _) (beforeBrackets_generic _ _)
  have hliteral : ∀ c ∈ bare.head?, c ≠ '\'' ∧ c ≠ '"' := by
    intro c hc
    cases hc
    decide
  have hangle : '<' ∈ bare := by simp [bare, generic]
  have hmatch := (isGeneric_iff text hresolve hpieces (p := piece) (by simp) (by rwa [hbare]) (by rwa [hbare])).2
  rw [hbare] at hmatch
  exact ⟨hresolve, hpieces, hbare, hliteral, hangle, hmatch⟩

/-- A list of arguments that is closed early is accepted with the text behind it. -/
theorem resolve_closed_early :
    let bare := generic "array".toList "int>x<int".toList
    resolve "array<int>x<int>" = .ok .array ∧ pieces (.plain 0) "array<int>x<int>".toList = some [bare] ∧
    undecorated bare = bare ∧ (∀ c ∈ bare.head?, c ≠ '\'' ∧ c ≠ '"') ∧ '<' ∈ bare ∧ ¬ IsGeneric bare := by
  intro bare
  have hname : IsName "array".toList := Or.inr (by decide)
  have hargs : ¬ Balanced "int>x<int".toList := by decide
  have hbare : undecorated bare = bare := by
    rw [undecorated_of_upright (hname.upright.generic _), beforeBrackets_generic, Option.elim_none]
  have hliteral : ∀ c ∈ bare.head?, c ≠ '\'' ∧ c ≠ '"' := by
    intro c hc
    cases hc
    decide
  refine ⟨by cbv, by decide, hbare, hliteral, by simp [bare, generic], ?_⟩
  rw [isGeneric_generic_iff (by decide)]
  exact fun h => hargs h.1

end PhpDoc
end DynamicMembers
