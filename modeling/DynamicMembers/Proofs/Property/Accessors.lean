import DynamicMembers.Proofs.Class.Inheritance
import DynamicMembers.Proofs.Text.Words
import DynamicMembers.Property.Resolver
/-!
# Accessors — the word boundaries of a property are lost in its accessor

However a name is cut into words, put together again they are the name without what stands between words
(`Text.flatten_words`), and a capital at the start of each is lost in lower case (`Text.lower_pascal`).  So the key of
an accessor is the property without gaps and in lower case, and properties that differ in nothing else are shadowed by
the same declarations (`accessors_of_squeezed`).
-/
namespace DynamicMembers
namespace Text

/-! ## Words put together -/

theorem flatten_onHead (c : Char) (ps : List (List Char)) : (onHead c ps).flatten = c :: ps.flatten := by
  cases ps <;> rfl

/-- **Cutting a name into words loses its gaps and nothing else.** -/
theorem flatten_words : ∀ cs : List Char, (words cs).flatten = cs.filter (fun c => !isWordGap c)
  | [] => rfl
  | c :: cs => by
    have ih := flatten_words cs
    rw [words]
    by_cases hgap : isWordGap c = true
    · rw [if_pos hgap, List.filter_cons_of_neg (by simp [hgap]), ← ih]
      rfl
    · rw [if_neg hgap, List.filter_cons_of_pos (by simp [hgap]), ← ih]
      by_cases hend : endsAfter c cs = true
      · rw [if_pos hend]
        rfl
      · rw [if_neg hend, flatten_onHead]

theorem ascii_of_mem_words {cs w : List Char} (h : ∀ c ∈ cs, c.toNat < 0x80) (hw : w ∈ words cs) :
    ∀ c ∈ w, c.toNat < 0x80 := by
  intro c hc
  have hmem : c ∈ (words cs).flatten := List.mem_flatten.2 ⟨w, hw, hc⟩
  rw [flatten_words] at hmem
  exact h c (List.mem_of_mem_filter hmem)

theorem lower_capitalWord {w : List Char} (h : ∀ c ∈ w, c.toNat < 0x80) :
    (capitalWord w).map Char.toLower = w.map Char.toLower := by
  cases w with
  | nil => rfl
  | cons c w =>
    obtain ⟨hc, hw⟩ := List.forall_mem_cons.1 h
    have htwice : Char.toLower ∘ Char.toLower = Char.toLower := funext Char.toLower_toLower_eq_toLower
    rw [capitalWord, toUpper_ascii hc, lowerWord_ascii hw, List.singleton_append, List.map_cons, List.map_map, htwice,
      Char.toLower_toUpper_eq_toLower, List.map_cons]

/-- In lower case the words of a name with a capital each are the name without its gaps. -/
theorem lower_pascal {cs : List Char} (h : ∀ c ∈ cs, c.toNat < 0x80) :
    (pascal cs).map Char.toLower = (cs.filter (fun c => !isWordGap c)).map Char.toLower := by
  have hwords : ∀ w ∈ words cs, (capitalWord w).map Char.toLower = w.map Char.toLower :=
    fun w hw => lower_capitalWord (ascii_of_mem_words h hw)
  calc (pascal cs).map Char.toLower
      = ((words cs).map fun w => (capitalWord w).map Char.toLower).flatten := by
        rw [pascal, List.map_flatMap, List.flatMap_def]
    _ = ((words cs).map fun w => w.map Char.toLower).flatten := by rw [List.map_congr_left hwords]
    _ = (cs.filter (fun c => !isWordGap c)).map Char.toLower := by rw [← List.map_flatten, flatten_words]

end Text

/-! ## Keys of accessors -/

/-- A property without underscores, hyphens and spaces, in lower case. -/
def squeezed (property : String) : String :=
  String.ofList ((property.toList.filter fun c => c != '_' && c != '-' && c != ' ').map Char.toLower)

variable {p q : String}

theorem methodKey_accessorMethod (hp : ∀ c ∈ p.toList, c.toNat < 0x80) :
    Name.methodKey (accessorMethod p) = "get" ++ squeezed p ++ "attribute" := by
  have hgap : (fun c => !Text.isWordGap c) = fun c => c != '_' && c != '-' && c != ' ' := by
    funext c
    simp [Text.isWordGap, bne]
  have haccessor : (accessorMethod p).toList = "get".toList ++ Text.pascal p.toList ++ "Attribute".toList := by
    simp only [accessorMethod, String.toList_append, String.toList_ofList]
  have hsqueezed : (squeezed p).toList = (p.toList.filter fun c => c != '_' && c != '-' && c != ' ').map Char.toLower :=
    String.toList_ofList
  refine String.toList_injective ?_
  rw [Name.methodKey, Text.toList_lower, haccessor, List.map_append, List.map_append, Text.lower_pascal hp, hgap,
    String.toList_append, String.toList_append, hsqueezed]
  rfl

theorem PropertyRules.claimed_eq_nativeAccessor_iff (rules : PropertyRules) (c : ClassInfo) (property : String) :
    rules.claimed c property = some .nativeAccessor ↔ rules.index.isSubclass c.name rules.modelClass = true ∧
      c.isAbstract = false ∧ (rules.index.nativeMethod c (accessorMethod property)).isSome = true := by
  rw [claimed, ClassIndex.hasNativeMethod]
  cases rules.index.isSubclass c.name rules.modelClass <;> cases c.isAbstract <;>
    cases rules.index.nativeMethod c (accessorMethod property) <;> cases rules.annotated c property <;> simp

/-- **Word boundaries and case are lost in an accessor.**  Its key is the property without gaps and in lower case,
between two fixed words.  So properties that differ in gaps and case only have the same accessor in every class, and one
is left to its accessor when the other is. -/
theorem accessors_of_squeezed (hp : ∀ c ∈ p.toList, c.toNat < 0x80) (hq : ∀ c ∈ q.toList, c.toNat < 0x80) :
    Name.methodKey (accessorMethod p) = "get" ++ squeezed p ++ "attribute" ∧
      (squeezed p = squeezed q → ∀ (rules : PropertyRules) (c : ClassInfo),
        rules.index.nativeMethod c (accessorMethod p) = rules.index.nativeMethod c (accessorMethod q) ∧
          (rules.claimed c p = some .nativeAccessor ↔ rules.claimed c q = some .nativeAccessor)) := by
  refine ⟨methodKey_accessorMethod hp, fun hpq rules c => ?_⟩
  have hkey : Name.methodKey (accessorMethod p) = Name.methodKey (accessorMethod q) := by
    rw [methodKey_accessorMethod hp, methodKey_accessorMethod hq, hpq]
  have hnative := rules.index.nativeMethod_congr hkey c
  rw [rules.claimed_eq_nativeAccessor_iff, rules.claimed_eq_nativeAccessor_iff, hnative]
  exact ⟨rfl, Iff.rfl⟩

/-- A property with an acronym, a digit and a gap of two signs, and one in small letters. -/
theorem accessors_of_squeezed_line : accessorMethod "HTTPLine_-2" = "getHttpLine2Attribute" ∧
    Name.methodKey (accessorMethod "HTTPLine_-2") = "get" ++ squeezed "HTTPLine_-2" ++ "attribute" ∧
    squeezed "HTTPLine_-2" = squeezed "http line2" ∧
    ∀ (rules : PropertyRules) (c : ClassInfo),
      rules.index.nativeMethod c (accessorMethod "HTTPLine_-2") =
          rules.index.nativeMethod c (accessorMethod "http line2") ∧
        (rules.claimed c "HTTPLine_-2" = some .nativeAccessor ↔
          rules.claimed c "http line2" = some .nativeAccessor) := by
  have h := @accessors_of_squeezed "HTTPLine_-2" "http line2" (by simp) (by simp)
  have hsqueezed : squeezed "HTTPLine_-2" = squeezed "http line2" := by decide
  exact ⟨by decide, h.1, hsqueezed, h.2 hsqueezed⟩

end DynamicMembers
