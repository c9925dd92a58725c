import DynamicMembers.Proofs.Text.Plurals
import DynamicMembers.Property.Resolver
/-!
# Tables of classes — the conventional table is put together from the words of the base name

The namespace of a class is no part of its base name (`Name.baseName_within`), and of the base name only the last word
is made plural.  So the table of a class is the other words in lower case, an underscore behind each, and then the
table of a class of the last word alone, whatever namespaces the two are in (`tableName_of_words`).
-/
namespace DynamicMembers
namespace Name

/-- The name of a class in a namespace, or in none. -/
def within : Option String → String → String
  | none, base => base
  | some ns, base => ns ++ "\\" ++ base

variable {base : String}

/-- What is left of a namespace without its leading separators ends in a separator too, if anything is left. -/
theorem getLast?_dropWhile {ns : List Char} (hns : ∀ c ∈ ns.getLast?, c = separator) :
    ∀ c ∈ (ns.dropWhile (· == separator)).getLast?, c = separator := by
  obtain ⟨dropped, hdropped⟩ := List.dropWhile_suffix (l := ns) (· == separator)
  intro c hc
  refine hns c ?_
  rw [← hdropped, List.getLast?_append, hc]
  rfl

/-- The base name is read from the end up to the separator that the namespace ends in. -/
theorem baseName_append {ns : String} (hns : ∀ c ∈ ns.toList.getLast?, c = separator)
    (hbase : separator ∉ base.toList) : baseName (ns ++ base) = base := by
  have hne : ∀ c ∈ base.toList, c ≠ separator := fun c hc he => hbase (he ▸ hc)
  have hself : base.toList.dropWhile (· == separator) = base.toList :=
    Text.dropWhile_of_head fun c hc => beq_eq_false_iff_ne.2 (hne c (List.mem_of_mem_head? hc))
  have hbare : (bare (ns ++ base)).toList = ns.toList.dropWhile (· == separator) ++ base.toList := by
    rw [bare, String.toList_ofList, String.toList_append, List.dropWhile_append, hself]
    split
    case isTrue hempty => rw [List.isEmpty_iff.1 hempty, List.nil_append]
    case isFalse => rfl
  have hall : ∀ c ∈ base.toList.reverse, (c != separator) = true :=
    fun c hc => bne_iff_ne.2 (hne c (List.mem_reverse.1 hc))
  have hstop : ∀ c ∈ (ns.toList.dropWhile (· == separator)).reverse.head?, (c != separator) = false := by
    intro c hc
    rw [List.head?_reverse] at hc
    rw [getLast?_dropWhile hns c hc]
    rfl
  rw [baseName, hbare, List.reverse_append, (Text.span_append hall hstop).1, List.reverse_reverse, String.ofList_toList]

/-- **A namespace is no part of the base name.** -/
theorem baseName_within (hbase : separator ∉ base.toList) : ∀ ns : Option String, baseName (within ns base) = base
  | none => by
    have h : baseName ("" ++ base) = base := baseName_append (by simp) hbase
    rwa [String.empty_append] at h
  | some ns => baseName_append (by simp [separator]) hbase

end Name

/-! ## The table of a class -/

variable {front : List String} {last : String}

theorem separator_not_mem (h : Text.isCapitalised last.toList = true) : Name.separator ∉ last.toList :=
  fun hmem => absurd (Text.isAlpha_of_isCapitalised h _ hmem) (by decide)

theorem separator_not_mem_join (hfront : ∀ w ∈ front, Text.isCapitalised w.toList = true)
    (hlast : Text.isCapitalised last.toList = true) : Name.separator ∉ (String.join front ++ last).toList := by
  rw [String.toList_append, String.toList_join]
  intro hmem
  rcases List.mem_append.1 hmem with hmem | hmem
  · obtain ⟨w, hw, hmem⟩ := List.mem_flatMap.1 hmem
    exact separator_not_mem (hfront w hw) hmem
  · exact separator_not_mem hlast hmem

theorem conventionalTable_join (hfront : ∀ w ∈ front, Text.isCapitalised w.toList = true)
    (hlast : Text.isCapitalised last.toList = true) : conventionalTable (String.join front ++ last) =
      String.join (front.map fun w => Text.lower w ++ "_") ++ conventionalTable last := by
  have hwords : ∀ w ∈ front.map String.toList, Text.isCapitalised w = true := List.forall_mem_map.2 hfront
  refine String.toList_injective ?_
  rw [conventionalTable, conventionalTable, String.toList_ofList, String.toList_append, String.toList_append,
    String.toList_join, String.toList_join, String.toList_ofList, List.flatMap_def,
    Text.snake_plural_flatten hwords hlast, List.flatMap_map, List.flatMap_map]
  simp only [String.toList_append, Text.toList_lower, String.reduceToList]

theorem tableName_within {base : String} (hbase : Name.separator ∉ base.toList) (ns : Option String) {c : ClassInfo}
    (hc : c.name = Name.within ns base) (htable : c.record.bind Record.table = none) :
    c.tableName = conventionalTable base := by
  rw [ClassInfo.tableName, htable, hc, Name.baseName_within hbase ns]

/-- **The table of a class is the words of its base name in lower case with an underscore behind each, the last word
apart, and then the table of the class of the last word alone.**  Neither class names a table of its own, and the two
namespaces do not matter. -/
theorem tableName_of_words (hfront : ∀ w ∈ front, Text.isCapitalised w.toList = true)
    (hlast : Text.isCapitalised last.toList = true) (ns ns' : Option String) {c d : ClassInfo}
    (hc : c.name = Name.within ns (String.join front ++ last)) (hd : d.name = Name.within ns' last)
    (hct : c.record.bind Record.table = none) (hdt : d.record.bind Record.table = none) :
    c.tableName = String.join (front.map fun w => Text.lower w ++ "_") ++ d.tableName := by
  have htable := tableName_within (separator_not_mem_join hfront hlast) ns hc hct
  have hlasttable := tableName_within (separator_not_mem hlast) ns' hd hdt
  rw [htable, hlasttable, conventionalTable_join hfront hlast]

/-- The persons of a blog's team are in the table of that name, whichever namespace persons are in. -/
theorem tableName_of_words_person :
    (ClassInfo.ofName "App\\Models\\BlogTeamPerson").tableName =
        String.join (["Blog", "Team"].map fun w => Text.lower w ++ "_") ++
          (ClassInfo.ofName "Accounts\\Person").tableName ∧
      (ClassInfo.ofName "Accounts\\Person").tableName = "people" :=
  ⟨@tableName_of_words ["Blog", "Team"] "Person" (by decide) (by decide) (some "App\\Models") (some "Accounts") _ _
    (by decide) (by decide) rfl rfl, by decide⟩

end DynamicMembers
