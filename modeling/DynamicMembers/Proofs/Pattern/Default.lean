import DynamicMembers.Proofs.Pattern.Matching
import DynamicMembers.Proofs.Text.Words
import DynamicMembers.Schema.Discovery
import DynamicMembers.Settings
/-!
# The default pattern — names that end in `.php`, in any case

Case is ignored as Unicode has it, where letters outside ASCII may be the other case of ASCII letters, as the Kelvin
sign is of `k`.  None is of a letter of the default pattern (`mem_caseVariants_iff`), so the pattern selects the names
that end in `.php` when ASCII case alone is ignored (`filePattern_default`).
-/
namespace DynamicMembers

/-- The characters of the default pattern that stand for themselves. -/
def phpEnding : List Char := ['.', 'p', 'h', 'p']

theorem forall_mem_phpEnding {P : Char → Prop} (hdot : P '.') (hp : P 'p') (hh : P 'h') : ∀ c ∈ phpEnding, P c := by
  simp only [phpEnding, List.forall_mem_cons]
  exact ⟨hdot, hp, hh, hp, fun _ h => nomatch h⟩

namespace Text

variable {c d : Char}

/-! ## Case -/

theorem toNat_of_ofNat {n : Nat} (h : Char.ofNat n = c) (hc : c.toNat ≠ 0) : n = c.toNat := by
  unfold Char.ofNat at h
  split at h
  · rw [← h]
    rfl
  · rw [← h] at hc
    exact absurd rfl hc

theorem toNat_of_mem_phpEnding : ∀ c ∈ phpEnding, c.toNat = 0x2e ∨ c.toNat = 0x68 ∨ c.toNat = 0x70 :=
  forall_mem_phpEnding (by decide) (by decide) (by decide)

theorem ne_of_mem_phpEnding (hd : 0x80 ≤ d.toNat) (hc : c ∈ phpEnding) : d ≠ c := by
  have hnat := toNat_of_mem_phpEnding c hc
  rintro rfl
  omega

theorem apply_ne {r : CaseRun} (hr : r ∈ upperRuns ++ lowerRuns) (hd : 0x80 ≤ d.toNat) (hc : c ∈ phpEnding) :
    r.apply d ≠ some c := by
  have hruns : ∀ r ∈ upperRuns ++ lowerRuns, r.last < 0x80 ∨
      ∀ n ∈ [0x2e, 0x68, 0x70], r.last + r.offset < n ∨ n < r.first + r.offset := by decide +kernel
  intro h
  rw [CaseRun.apply, Option.ite_none_right_eq_some, Option.some_inj] at h
  obtain ⟨⟨hfirst, hlast, -⟩, h⟩ := h
  have hnat := toNat_of_mem_phpEnding c hc
  have hcode := toNat_of_ofNat h (by omega)
  rcases hruns r hr with hascii | hfar
  · omega
  · have hdot := hfar 0x2e (by simp)
    have hh := hfar 0x68 (by simp)
    have hp := hfar 0x70 (by simp)
    omega

theorem findSome?_apply_ne {runs : List CaseRun} (hruns : runs ⊆ upperRuns ++ lowerRuns) (hd : 0x80 ≤ d.toNat)
    (hc : c ∈ phpEnding) : (runs.findSome? (·.apply d)).getD d ≠ c := by
  cases hfound : runs.findSome? (·.apply d) with
  | none => exact ne_of_mem_phpEnding hd hc
  | some e =>
    obtain ⟨r, hr, he⟩ := List.exists_of_findSome?_eq_some hfound
    rintro rfl
    exact apply_ne (hruns hr) hd hc he

theorem toUpper_ne (hd : 0x80 ≤ d.toNat) (hc : c ∈ phpEnding) : toUpper d ≠ [c] := by
  have hexpansions : ∀ e ∈ upperExpansions, e.2.length ≠ 1 := by decide +kernel
  rw [toUpper, if_neg (Nat.not_lt.2 hd)]
  intro h
  split at h
  · rename_i e hfind
    have hlength := congrArg List.length h
    rw [List.length_map] at hlength
    exact hexpansions e (List.mem_of_find?_eq_some hfind) hlength
  · exact findSome?_apply_ne (List.subset_append_left _ _) hd hc (List.cons.inj h).1

theorem toLower_ne (hd : 0x80 ≤ d.toNat) (hc : c ∈ phpEnding) : toLower d ≠ [c] := by
  rw [toLower, if_neg (Nat.not_lt.2 hd)]
  intro h
  split at h
  · cases h
  · exact findSome?_apply_ne (List.subset_append_right _ _) hd hc (List.cons.inj h).1

theorem not_mem_caseVariants (hd : 0x80 ≤ d.toNat) (hc : c ∈ phpEnding) : c ∉ caseVariants d := by
  unfold caseVariants
  split
  · rename_i orbit hfind
    intro h
    obtain ⟨n, hn, hcode⟩ := List.mem_map.1 h
    have horbits : ∀ o ∈ caseOrbits, ∀ n ∈ o, Char.ofNat n ∉ phpEnding := by decide +kernel
    exact horbits orbit (List.mem_of_find?_eq_some hfind) n hn (hcode ▸ hc)
  · rw [List.mem_cons, not_or, List.mem_flatten]
    refine ⟨(ne_of_mem_phpEnding hd hc).symm, ?_⟩
    rintro ⟨l, hl, hcl⟩
    rw [List.mem_filter, beq_iff_eq, List.length_eq_one_iff] at hl
    obtain ⟨hl, e, rfl⟩ := hl
    obtain rfl := List.mem_singleton.1 hcl
    simp only [List.mem_cons, List.not_mem_nil, or_false] at hl
    exact hl.elim (fun h => toUpper_ne hd hc h.symm) (fun h => toLower_ne hd hc h.symm)

theorem caseVariants_ascii (hd : d.toNat < 0x80) (hfind : caseOrbits.find? (·.contains d.toNat) = none) :
    caseVariants d = [d, d.toUpper, d.toLower] := by
  rw [caseVariants, hfind, toUpper_ascii hd, toLower_ascii hd]
  rfl

theorem mem_caseVariants_ascii (hd : d.toNat < 0x80) (hc : c ∈ phpEnding) : c ∈ caseVariants d ↔ d.toLower = c := by
  -- of the ASCII letters, only `k` and `s` have a third form
  have hthird : ∀ orbit ∈ caseOrbits, ∀ n ∈ orbit, n < 0x80 → n ∈ [0x4b, 0x53, 0x6b, 0x73] := by decide +kernel
  cases hfind : caseOrbits.find? (·.contains d.toNat) with
  | some orbit =>
    have hsame : ∀ c ∈ phpEnding, ∀ n ∈ [0x4b, 0x53, 0x6b, 0x73],
        c ∈ caseVariants (Char.ofNat n) ↔ (Char.ofNat n).toLower = c :=
      forall_mem_phpEnding (by decide +kernel) (by decide +kernel) (by decide +kernel)
    have hcontains := List.find?_some hfind
    rw [List.contains_iff_mem] at hcontains
    have h := hsame c hc d.toNat (hthird orbit (List.mem_of_find?_eq_some hfind) d.toNat hcontains hd)
    rwa [Char.ofNat_toNat] at h
  | none =>
    have hsame : ∀ c ∈ phpEnding, ∀ n < 0x80,
        c ∈ [Char.ofNat n, (Char.ofNat n).toUpper, (Char.ofNat n).toLower] ↔ (Char.ofNat n).toLower = c :=
      forall_mem_phpEnding (by decide +kernel) (by decide +kernel) (by decide +kernel)
    have h := hsame c hc d.toNat hd
    rwa [Char.ofNat_toNat, ← caseVariants_ascii hd hfind] at h

/-- **Only ASCII letters are the other case of a character of the default pattern.** -/
theorem mem_caseVariants_iff (hc : c ∈ phpEnding) (d : Char) : c ∈ caseVariants d ↔ d.toLower = c := by
  by_cases hd : d.toNat < 0x80
  · exact mem_caseVariants_ascii hd hc
  · have hd : 0x80 ≤ d.toNat := Nat.le_of_not_lt hd
    have hupper : d.isUpper = false := by
      by_contra hupper
      have := toNat_of_isUpper (c := d) (by simpa using hupper)
      omega
    rw [toLower_of_not_isUpper hupper]
    exact iff_of_false (not_mem_caseVariants hd hc) (ne_of_mem_phpEnding hd hc)

end Text

namespace Pattern

/-! ## Letters in a row -/

theorem has_folded_only {c : Char} (hc : c ∈ phpEnding) (d : Char) :
    (CharSet.folded (.only c)).has d = true ↔ d.toLower = c := by
  rw [← Text.mem_caseVariants_iff hc, CharSet.has, List.any_eq_true]
  simp only [CharSet.only, CharSet.has, Bool.and_eq_true, decide_eq_true_eq]
  constructor
  · rintro ⟨e, he, hle, hge⟩
    rwa [Char.le_antisymm hle hge]
  · exact fun h => ⟨c, h, Char.le_refl c, Char.le_refl c⟩

/-- Letters in a row, in any case, and then another pattern. -/
def lettersThen (last : Pattern) (cs : List Char) : Pattern :=
  cs.foldr (fun c p => .seq (.one (.folded (.only c))) p) last

theorem spans_lettersThen (l : List Char) (last : Pattern) (j : Nat) : ∀ {cs : List Char}, cs ⊆ phpEnding → ∀ i,
    Spans l.toArray (lettersThen last cs) i j ↔
      cs <+: (l.drop i).map Char.toLower ∧ Spans l.toArray last (i + cs.length) j
  | [], _, i => by simp [lettersThen]
  | c :: cs, h, i => by
    have hc : c ∈ phpEnding := h List.mem_cons_self
    have ih := spans_lettersThen l last j (fun d hd => h (List.mem_cons_of_mem c hd)) (i + 1)
    have hstep : Spans l.toArray (lettersThen last (c :: cs)) i j ↔
        (∃ d, l[i]? = some d ∧ d.toLower = c) ∧ Spans l.toArray (lettersThen last cs) (i + 1) j := by
      simp only [lettersThen, List.foldr_cons, Spans, List.getElem?_toArray, has_folded_only hc]
      constructor
      · rintro ⟨_, ⟨rfl, hd⟩, hrest⟩
        exact ⟨hd, hrest⟩
      · rintro ⟨hd, hrest⟩
        exact ⟨i + 1, ⟨rfl, hd⟩, hrest⟩
    rw [hstep, ih, List.length_cons, Nat.add_right_comm, ← Nat.add_assoc, ← and_assoc]
    refine and_congr_left fun _ => ?_
    cases hl : l[i]? with
    | none =>
      have hdrop : l.drop i = [] := List.drop_eq_nil_iff.2 (List.getElem?_eq_none_iff.1 hl)
      simp [hdrop]
    | some d =>
      obtain ⟨hi, hd⟩ := List.getElem?_eq_some_iff.1 hl
      rw [List.drop_eq_getElem_cons hi, hd, List.map_cons, List.cons_prefix_cons]
      simp [eq_comm]

theorem spans_stop {text : Array Char} {i j : Nat} :
    Spans text (.seq (.edge .stop) .nothing) i j ↔ i = j ∧ text.size ≤ i := by
  simp only [Spans, Edge.holds, Option.isNone_iff_eq_none, Array.getElem?_eq_none_iff]
  constructor
  · rintro ⟨_, ⟨rfl, hi⟩, rfl⟩
    exact ⟨rfl, hi⟩
  · rintro ⟨rfl, hi⟩
    exact ⟨i, ⟨rfl, hi⟩, rfl⟩

/-- **The default pattern of migrations selects the names that end in `.php`, in any case.** -/
theorem filePattern_default : ∃ p, Schema.filePattern ({} : Settings).filePattern = .ok p ∧
    ∀ name, p.isMatch name = true ↔ phpEnding <:+ name.toList.map Char.toLower := by
  refine ⟨lettersThen (.seq (.edge .stop) .nothing) phpEnding, by decide +kernel, fun name => ?_⟩
  rw [isMatch_iff]
  simp only [spans_lettersThen _ _ _ (List.Subset.refl phpEnding), spans_stop, List.size_toArray]
  constructor
  · rintro ⟨i, _, hi, hspelled, rfl, hend⟩
    have hlength : ((name.toList.drop i).map Char.toLower).length ≤ phpEnding.length := by
      rw [List.length_map, List.length_drop]
      omega
    rw [hspelled.eq_of_length_le hlength]
    exact (List.drop_suffix i name.toList).map Char.toLower
  · rintro ⟨before, h⟩
    have hlength := congrArg List.length h
    rw [List.length_append, List.length_map] at hlength
    have hdrop : (name.toList.drop before.length).map Char.toLower = phpEnding := by
      rw [List.map_drop, ← h, List.drop_left]
    exact ⟨before.length, before.length + phpEnding.length, by omega, hdrop ▸ List.prefix_rfl, rfl, by omega⟩

end Pattern
end DynamicMembers
