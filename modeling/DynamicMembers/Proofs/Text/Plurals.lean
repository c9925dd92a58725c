import DynamicMembers.Proofs.Text.Runs
import DynamicMembers.Proofs.Text.Words
import DynamicMembers.Text.Plural
/-!
# Plurals of names — only the last word of a name is made plural

The plural of a name is looked for on the whole of it, from its last capital on or by its ending.  A capitalised word
has two letters at least, and no ending that counts is longer, so nothing in front of the last word is looked at
(`plural_append`); what comes out for the last word is a capitalised word again (`isCapitalised_plural`).
-/
namespace DynamicMembers
namespace Text

/-- The last part of a name begins at its last capital. -/
theorem lastPart_append (front : List Char) {c : Char} {cs : List Char} (hc : c.isUpper = true)
    (hcs : ∀ d ∈ cs, d.isUpper = false) : lastPart (front ++ c :: cs) = (front, c :: cs) := by
  have hreverse : (front ++ c :: cs).reverse = cs.reverse ++ c :: front.reverse := by simp
  have hsmall : (front ++ c :: cs).reverse.takeWhile (fun d => !d.isUpper) = cs.reverse := by
    have hall : ∀ d ∈ cs.reverse, (!d.isUpper) = true := fun d hd => by simp [hcs d (List.mem_reverse.1 hd)]
    have hstop : ∀ d ∈ (c :: front.reverse).head?, (!d.isUpper) = false := fun d hd => by
      obtain rfl : c = d := Option.some.inj hd
      rw [hc]
      rfl
    rw [hreverse, (span_append hall hstop).1]
  have hlength : (front ++ c :: cs).length - cs.length - 1 = front.length := by
    rw [List.length_append, List.length_cons]
    omega
  have hne : cs.length ≠ (front ++ c :: cs).length := by
    rw [List.length_append, List.length_cons]
    omega
  simp only [lastPart, hsmall, List.reverse_reverse, if_neg hne, hlength, List.take_left, List.drop_left]

variable {last : List Char}

theorem lastPart_capitalised (front : List Char) (h : isCapitalised last = true) :
    lastPart (front ++ last) = (front, last) := by
  obtain ⟨c, cs, rfl, hc, -, hcs⟩ := isCapitalised_iff.1 h
  exact lastPart_append front hc fun d hd => by simpa using Char.not_isUpper_of_isLower (hcs d hd)

theorem two_le_length (h : isCapitalised last = true) : 2 ≤ last.length := by
  obtain ⟨c, cs, rfl, -, hne, -⟩ := isCapitalised_iff.1 h
  have hpos := List.length_pos_iff.2 hne
  rw [List.length_cons]
  omega

/-! ## Nothing in front of the last word counts -/

/-- Whether a name ends in `y` behind a consonant shows in its last two letters. -/
theorem yStem_append (front : List Char) (h : 2 ≤ last.length) :
    yStem (front ++ last) = (yStem last).map (front ++ ·) := by
  have hlength : 2 ≤ last.reverse.length := by rwa [List.length_reverse]
  obtain ⟨y, c, r, hlast⟩ : ∃ y c r, last.reverse = y :: c :: r := by
    match last.reverse, hlength with
    | y :: c :: r, _ => exact ⟨y, c, r, rfl⟩
  have hwhole : (front ++ last).reverse = y :: c :: (r ++ front.reverse) := by
    rw [List.reverse_append, hlast]
    rfl
  simp only [yStem, hlast, hwhole]
  split
  · simp
  · rfl

theorem length_sibilant : ∀ s ∈ sibilants, s.toList.length ≤ 2 := by decide

theorem isSuffixOf_append {s l : List Char} (front : List Char) (h : s.length ≤ l.length) :
    s.isSuffixOf (front ++ l) = s.isSuffixOf l := by
  rw [Bool.eq_iff_iff, List.isSuffixOf_iff_suffix, List.isSuffixOf_iff_suffix]
  exact ⟨fun hs => List.suffix_of_suffix_length_le hs (List.suffix_append front l) h, List.suffix_append_of_suffix⟩

theorem endsSibilant_append (front : List Char) (h : 2 ≤ last.length) :
    sibilants.any (fun s => s.toList.isSuffixOf ((front ++ last).map Char.toLower)) =
      sibilants.any (fun s => s.toList.isSuffixOf (last.map Char.toLower)) := by
  rw [Bool.eq_iff_iff, List.any_eq_true, List.any_eq_true]
  refine exists_congr fun s => and_congr_right fun hs => ?_
  have hshort : s.toList.length ≤ (last.map Char.toLower).length := by
    rw [List.length_map]
    exact (length_sibilant s hs).trans h
  rw [List.map_append, isSuffixOf_append _ hshort]

theorem regularPlural_append (front : List Char) (h : 2 ≤ last.length) :
    regularPlural (front ++ last) = front ++ regularPlural last := by
  unfold regularPlural
  rw [yStem_append front h, endsSibilant_append front h]
  cases yStem last with
  | some stem => exact List.append_assoc ..
  | none =>
    simp only [Option.map_none]
    split <;> exact List.append_assoc ..

/-- **The plural of a name is that of its last word, behind what stands in front of it.** -/
theorem plural_append (front : List Char) (h : isCapitalised last = true) :
    plural (front ++ last) = front ++ plural last := by
  have halone : lastPart last = ([], last) := lastPart_capitalised [] h
  simp only [plural, lastPart_capitalised front h, halone]
  split
  · rfl
  · split
    · rfl
    · exact regularPlural_append front (two_le_length h)

/-! ## The plural of a capitalised word -/

theorem isCapitalised_append (h : isCapitalised last = true) {suffix : List Char}
    (hs : ∀ c ∈ suffix, c.isLower = true) : isCapitalised (last ++ suffix) = true := by
  obtain ⟨c, cs, rfl, hc, hne, hcs⟩ := isCapitalised_iff.1 h
  refine isCapitalised_iff.2 ⟨c, cs ++ suffix, rfl, hc, List.append_ne_nil_of_left_ne_nil hne suffix, ?_⟩
  intro d hd
  exact (List.mem_append.1 hd).elim (hcs d) (hs d)

theorem isCapitalised_irregular : ∀ e ∈ irregular, isCapitalised (pascal e.2.toList) = true := by decide

theorem yStem_eq_dropLast {stem : List Char} (h : yStem last = some stem) : stem = last.dropLast := by
  unfold yStem at h
  split at h
  case h_1 y c r hr =>
    have hlast : last = (c :: r).reverse ++ [y] := by rw [← List.reverse_reverse last, hr, List.reverse_cons]
    split at h
    · rw [hlast, List.dropLast_concat, Option.some.inj h]
    · cases h
  case h_2 => cases h

/-- With `ies` in the place of its last letter a capitalised word remains one, were it of two letters only. -/
theorem isCapitalised_dropLast_append (h : isCapitalised last = true) :
    isCapitalised (last.dropLast ++ "ies".toList) = true := by
  obtain ⟨c, cs, rfl, hc, hne, hcs⟩ := isCapitalised_iff.1 h
  rw [List.dropLast_cons_of_ne_nil hne]
  refine isCapitalised_iff.2 ⟨c, cs.dropLast ++ "ies".toList, rfl, hc, by simp, ?_⟩
  have hies : ∀ d ∈ "ies".toList, d.isLower = true := by simp
  intro d hd
  exact (List.mem_append.1 hd).elim (fun hd => hcs d (List.mem_of_mem_dropLast hd)) (hies d)

theorem isCapitalised_regularPlural (h : isCapitalised last = true) : isCapitalised (regularPlural last) = true := by
  unfold regularPlural
  split
  case h_1 stem hstem =>
    rw [yStem_eq_dropLast hstem]
    exact isCapitalised_dropLast_append h
  case h_2 =>
    split
    · exact isCapitalised_append h (by simp)
    · exact isCapitalised_append h (by simp)

/-- **The plural of a capitalised word is one.** -/
theorem isCapitalised_plural (h : isCapitalised last = true) : isCapitalised (plural last) = true := by
  have halone : lastPart last = ([], last) := lastPart_capitalised [] h
  have hhead : last.head?.any Char.isUpper = true := by
    obtain ⟨c, cs, rfl, hc, -, -⟩ := isCapitalised_iff.1 h
    exact hc
  simp only [plural, halone, hhead, if_true, List.nil_append]
  split
  case isTrue => exact h
  case isFalse =>
    split
    case h_1 p hp =>
      obtain ⟨l₁, l₂, hl, -⟩ := List.lookup_eq_some_iff.1 hp
      have hmem : (String.ofList (last.map Char.toLower), p) ∈ irregular := by
        rw [hl]
        exact List.mem_append_right l₁ List.mem_cons_self
      exact isCapitalised_irregular (_, p) hmem
    case h_2 => exact isCapitalised_regularPlural h

/-! ## Plurals in snake case -/

theorem join_concat (sep : Char) (last : List Char) : ∀ front : List (List Char),
    join sep (front ++ [last]) = front.flatMap (· ++ [sep]) ++ last
  | [] => rfl
  | w :: front => by
    have hne : front ++ [last] ≠ [] := List.append_ne_nil_of_right_ne_nil front (List.cons_ne_nil last [])
    rw [List.cons_append, join_cons sep w hne, join_concat sep last front, List.flatMap_cons, List.append_assoc,
      List.append_assoc, List.singleton_append]

/-- **The plural of a name in capitalised words is, in snake case, the words in front of the last in lower case, an
underscore behind each, and the plural of the last in snake case.** -/
theorem snake_plural_flatten {front : List (List Char)} (hfront : ∀ w ∈ front, isCapitalised w = true)
    (hlast : isCapitalised last = true) : snake (plural (front.flatten ++ last)) =
      front.flatMap (fun w => w.map Char.toLower ++ ['_']) ++ snake (plural last) := by
  have hplural := isCapitalised_plural hlast
  have hwords : ∀ w ∈ front ++ [plural last], isCapitalised w = true :=
    List.forall_mem_append.2 ⟨hfront, List.forall_mem_singleton.2 hplural⟩
  have halone : snake (plural last) = (plural last).map Char.toLower := by
    have hsnake := snake_flatten (List.cons_ne_nil (plural last) []) (List.forall_mem_singleton.2 hplural)
    rwa [List.flatten_singleton] at hsnake
  calc snake (plural (front.flatten ++ last))
      = snake (front ++ [plural last]).flatten := by
        rw [plural_append front.flatten hlast, List.flatten_append, List.flatten_singleton]
    _ = join '_' ((front ++ [plural last]).map (·.map Char.toLower)) :=
        snake_flatten (List.append_ne_nil_of_right_ne_nil front (List.cons_ne_nil _ [])) hwords
    _ = front.flatMap (fun w => w.map Char.toLower ++ ['_']) ++ snake (plural last) := by
        rw [List.map_append, List.map_singleton, join_concat, List.flatMap_map, halone]

end Text
end DynamicMembers
