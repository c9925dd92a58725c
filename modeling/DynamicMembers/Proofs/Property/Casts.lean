import DynamicMembers.Property.Decision
import DynamicMembers.Proofs.Text.Case
import DynamicMembers.Proofs.Text.Trim
/-!
# Casts — what a decision rests on, and which casts decide the same

A date needs nothing but itself, a cast nothing of the storage.  A cast counts by its name without the blanks around it
and without parameters, and the name of a built-in cast by its word in lower case, several words meaning the same.  Only
a name that is no such word is looked up among the classes (`typePair_precedence`).
-/
namespace DynamicMembers
namespace Decision

open PhpDoc (isWordPart)

variable {date cast : String} {f g : ColumnFacts} {known : String → Bool}

/-! ## What a decision rests on -/

theorem nullSuffix_congr (h : f.nullable = g.nullable) : f.nullSuffix = g.nullSuffix := by
  rw [ColumnFacts.nullSuffix, h, ColumnFacts.nullSuffix]

/-- A shared decision reads of the facts only whether the column is nullable and its options. -/
theorem dispatch_congr (hnullable : f.nullable = g.nullable) (hoptions : f.options = g.options) (type : String) :
    dispatch type f = dispatch type g := by
  unfold dispatch
  rw [nullSuffix_congr hnullable, hoptions]

theorem ofCast_eq (date cast : String) (f : ColumnFacts) (known : String → Bool) : ofCast date cast f known =
    (dispatch (canonicalCast (Text.lower (castName cast))) f).getD
      (.both (.textual (castType date (castName cast) known))) := by
  unfold ofCast
  simp only
  cases dispatch (canonicalCast (Text.lower (castName cast))) f <;> rfl

theorem typePair_of_cast (h : f.cast = some cast) (date : String) (known : String → Bool) :
    typePair date f known = if f.isDate then ofDate date f else ofCast date cast f known := by
  simp only [typePair, h]

/-- Casts that decide the same for a column that is no date decide the same for a date. -/
theorem typePair_cast_congr {cast' : String} {known known' : String → Bool}
    (h : ofCast date cast f known = ofCast date cast' f known') :
    typePair date { f with cast := some cast } known = typePair date { f with cast := some cast' } known' := by
  have hcast : ∀ c k, ofCast date c { f with cast := some c } k = ofCast date c f k := fun c k => by
    rw [ofCast_eq, ofCast_eq, dispatch_congr (f := { f with cast := some c }) (g := f) rfl rfl]
  rw [typePair_of_cast rfl, typePair_of_cast rfl, hcast, hcast, h]
  rfl

/-! ## The name of a cast -/

theorem castName_eq (cast : String) (h : ':' ∉ cast.toList) :
    castName cast = String.ofList (Text.trim cast.toList) := by
  have hall : cast.toList.takeWhile (· != ':') = cast.toList :=
    List.takeWhile_eq_self_iff.2 (fun c hc => by
      simp only [bne_iff_ne, ne_eq]
      rintro rfl
      exact h hc)
  rw [castName, hall]

/-- **Blanks around a cast and parameters behind it leave its name as it is.** -/
theorem castName_spaced {name before after : String} (h : ':' ∉ name.toList) (hbefore : Text.isAllBlank before = true)
    (hafter : Text.isAllBlank after = true) :
    castName (before ++ name ++ after) = castName name ∧
    ∀ params, castName (before ++ name ++ after ++ ":" ++ params) = castName name := by
  have hblank : ∀ {s : String}, Text.isAllBlank s = true → ':' ∉ s.toList := by
    intro s hs hc
    exact absurd (List.all_eq_true.1 hs _ hc) (by decide)
  have hnot : ':' ∉ (before ++ name ++ after).toList := by
    simp only [String.toList_append, List.mem_append, not_or]
    exact ⟨⟨hblank hbefore, h⟩, hblank hafter⟩
  have hspaced : castName (before ++ name ++ after) = castName name := by
    rw [castName_eq _ hnot, castName_eq _ h, String.toList_append, String.toList_append,
      Text.trim_between (List.all_eq_true.1 hbefore) (List.all_eq_true.1 hafter)]
  refine ⟨hspaced, fun params => ?_⟩
  have hstop : ((before ++ name ++ after).toList ++ ':' :: params.toList).takeWhile (· != ':') =
      (before ++ name ++ after).toList.takeWhile (· != ':') := Text.takeWhile_append_stop (by simp)
  have hparams : (before ++ name ++ after ++ ":" ++ params).toList =
      (before ++ name ++ after).toList ++ ':' :: params.toList := by
    rw [String.toList_append, String.toList_append, List.append_assoc]
    rfl
  rw [← hspaced, castName, hparams, hstop, castName]

theorem castName_of_word (h : ∀ c ∈ cast.toList, isWordPart c = true) : castName cast = cast := by
  have hcolon : ':' ∉ cast.toList := fun hc => absurd (h _ hc) (by decide)
  rw [castName_eq cast hcolon, Text.trim_of_unblank (fun c hc => PhpDoc.isBlank_of_isWordPart (h c hc)),
    String.ofList_toList]

/-! ## Built-in casts -/

/-- The casts with a meaning of their own, in lower case, those of one meaning together. -/
def builtinCasts : List (List String) :=
  [["string"], ["int", "integer", "timestamp"], ["real", "double", "float"], ["bool", "boolean"], ["enum"],
   ["array", "json"], ["object"], ["date", "datetime", "immutable_date", "immutable_datetime"], ["collection"]]

/-- What a built-in cast that no storage type shares is written as. -/
def builtinText (date : String) : String → Option String
  | "array" | "json" => some "array"
  | "object" => some "object"
  | "date" | "datetime" | "immutable_date" | "immutable_datetime" => some date
  | "collection" => some collection
  | _ => none

/-- The decision of a cast that is a word, without regard to classes. -/
def wordPair (date : String) (f : ColumnFacts) (word : String) : Option TypePair :=
  (dispatch (canonicalCast word) f).or ((builtinText date word).map fun text => .both (.textual text))

/-- The text of a cast that names a class. -/
def classText (known : String → Bool) (name : String) : String := if known name then Name.qualified name else "mixed"

theorem castType_eq (date name : String) (known : String → Bool) :
    castType date name known = (builtinText date (Text.lower name)).getD (classText known name) := by
  unfold castType builtinText classText
  generalize Text.lower name = word
  split <;> grind

/-- **Classes are asked for only when the word of a cast decides nothing.** -/
theorem ofCast_eq_wordPair (date cast : String) (f : ColumnFacts) (known : String → Bool) : ofCast date cast f known =
    (wordPair date f (Text.lower (castName cast))).getD (.both (.textual (classText known (castName cast)))) := by
  rw [ofCast_eq, wordPair, castType_eq]
  generalize dispatch (canonicalCast (Text.lower (castName cast))) f = shared
  generalize builtinText date (Text.lower (castName cast)) = text
  cases shared <;> cases text <;> rfl

/-- **The words of one meaning decide the same.** -/
theorem exists_wordPair (date : String) (f : ColumnFacts) :
    ∀ group ∈ builtinCasts, ∃ pair, ∀ word ∈ group, wordPair date f word = some pair := by
  simp only [builtinCasts, List.forall_mem_cons, List.not_mem_nil, false_imp_iff, implies_true, and_true]
  exact ⟨⟨_, rfl⟩, ⟨_, rfl, rfl, rfl⟩, ⟨_, rfl, rfl, rfl⟩, ⟨_, rfl, rfl⟩, ⟨_, rfl⟩, ⟨_, rfl, rfl⟩, ⟨_, rfl⟩,
    ⟨_, rfl, rfl, rfl, rfl⟩, ⟨_, rfl⟩⟩

/-- A word in lower case that is no built-in cast decides nothing. -/
theorem wordPair_eq_none {name : String} (h : Text.lower name ∉ builtinCasts.flatten) :
    wordPair date f (Text.lower name) = none := by
  have hlower := Text.lower_lower name
  generalize Text.lower name = word at h hlower
  simp only [builtinCasts, List.flatten_cons, List.flatten_nil, List.mem_append, List.mem_cons, List.not_mem_nil,
    or_false, not_or] at h
  -- neither the synonyms nor the two tables list the word
  have hcanonical : canonicalCast word = word := by
    unfold canonicalCast
    split <;> simp_all
  have hdispatch : dispatch word f = none := by
    unfold dispatch
    rw [hlower]
    split <;> simp_all
  have htext : builtinText date word = none := by
    unfold builtinText
    split <;> simp_all
  rw [wordPair, hcanonical, hdispatch, htext]
  rfl

/-- A cast that is a built-in word in some case is its own name. -/
theorem castName_of_builtin (h : Text.lower cast ∈ builtinCasts.flatten) : castName cast = cast := by
  have hwords : ∀ word ∈ builtinCasts.flatten, word.toList.all isWordPart = true := by decide
  -- every letter of the cast is a letter of the word, up to its case
  refine castName_of_word (fun c hc => ?_)
  have hlower : c.toLower ∈ (Text.lower cast).toList := by
    rw [Text.toList_lower]
    exact List.mem_map_of_mem hc
  rw [← PhpDoc.isWordPart_toLower]
  exact List.all_eq_true.1 (hwords _ h) _ hlower

/-- **What decides about a column, and which casts decide the same.**  A date is decided by nothing but whether it is
nullable, and a column with a cast not by its stored type.  Blanks around a cast and parameters behind it change
nothing; nor does the case of a built-in cast, nor another of its synonyms, whatever classes are known.  Built-in are
exactly the listed names: any other cast is the class of its name, where that is known. -/
theorem typePair_precedence (date : String) :
    (∀ (f g : ColumnFacts) (known known' : String → Bool), f.isDate = true → g.isDate = true →
      f.nullable = g.nullable → typePair date f known = typePair date g known') ∧
    (∀ (f : ColumnFacts) (known : String → Bool) (storedType : String), f.isDate = false → f.cast.isSome = true →
      typePair date { f with storedType } known = typePair date f known) ∧
    (∀ (f : ColumnFacts) (known : String → Bool) (name before after : String), ':' ∉ name.toList →
      Text.isAllBlank before = true → Text.isAllBlank after = true →
      typePair date { f with cast := some (before ++ name ++ after) } known =
        typePair date { f with cast := some name } known ∧
      ∀ params, typePair date { f with cast := some (before ++ name ++ after ++ ":" ++ params) } known =
        typePair date { f with cast := some name } known) ∧
    (∀ group ∈ builtinCasts, ∀ cast cast' : String, Text.lower cast ∈ group → Text.lower cast' ∈ group →
      ∀ (f : ColumnFacts) (known known' : String → Bool),
        typePair date { f with cast := some cast } known = typePair date { f with cast := some cast' } known') ∧
    ∀ (f : ColumnFacts) (known : String → Bool) (cast : String), f.isDate = false →
      Text.lower (castName cast) ∉ builtinCasts.flatten →
      typePair date { f with cast := some cast } known = .both (.textual (classText known (castName cast))) := by
  refine ⟨fun f g known known' hf hg hnullable => ?_, fun f known storedType hdate hcast => ?_,
    fun f known name before after hcolon hbefore hafter => ?_,
    fun group hgroup cast cast' hcast hcast' f known known' => ?_, fun f known cast hdate hcast => ?_⟩
  · rw [typePair, typePair, if_pos hf, if_pos hg, ofDate, ofDate, nullSuffix_congr hnullable]
  · obtain ⟨cast, hcast⟩ := Option.isSome_iff_exists.1 hcast
    have hstored : ofCast date cast { f with storedType } known = ofCast date cast f known := by
      rw [ofCast_eq, ofCast_eq, dispatch_congr (f := { f with storedType }) (g := f) rfl rfl]
    rw [typePair_of_cast (f := { f with storedType }) hcast, typePair_of_cast hcast, hstored, hdate]
    rfl
  · obtain ⟨hspaced, hparams⟩ := castName_spaced hcolon hbefore hafter
    have hsame : ∀ {cast}, castName cast = castName name → ofCast date cast f known = ofCast date name f known :=
      fun h => by rw [ofCast_eq, ofCast_eq, h]
    exact ⟨typePair_cast_congr (hsame hspaced), fun params => typePair_cast_congr (hsame (hparams params))⟩
  · have hflatten : ∀ {word}, word ∈ group → word ∈ builtinCasts.flatten := fun h =>
      List.mem_flatten.2 ⟨group, hgroup, h⟩
    obtain ⟨pair, hpair⟩ := exists_wordPair date f group hgroup
    have hsame : ofCast date cast f known = ofCast date cast' f known' := by
      rw [ofCast_eq_wordPair, ofCast_eq_wordPair, castName_of_builtin (hflatten hcast),
        castName_of_builtin (hflatten hcast'), hpair _ hcast, hpair _ hcast', Option.getD_some, Option.getD_some]
    exact typePair_cast_congr hsame
  · rw [typePair_of_cast rfl, hdate, ofCast_eq_wordPair, wordPair_eq_none hcast]
    rfl

/-- A stored type without a decision of its own, cast to a class, to numbers and to what nobody knows. -/
theorem typePair_precedence_price :
    let date := "\\App\\Moment|\\Carbon\\Carbon"
    let price : ColumnFacts := { storedType := "json", nullable := true, options := [], cast := none, isDate := false }
    let classes (name : String) : Bool := name == "App\\Price"
    let decided (cast : String) : TypePair := typePair date { price with cast := some cast } classes
    typePair date { price with isDate := true } classes =
      typePair date { price with isDate := true, storedType := "enum", options := ["low"], cast := some "int" }
        (fun _ => false) ∧
    typePair date { price with storedType := "int", cast := some "Object" } classes = decided "Object" ∧
    (':' ∉ "App\\Price".toList ∧ Text.isAllBlank "\t" = true ∧ Text.isAllBlank " " = true) ∧
    decided "\tApp\\Price :EUR" = decided "App\\Price" ∧
    (["int", "integer", "timestamp"] ∈ builtinCasts ∧ Text.lower "TimeStamp" ∈ ["int", "integer", "timestamp"] ∧
      Text.lower "INT" ∈ ["int", "integer", "timestamp"]) ∧
    decided "TimeStamp" = decided "INT" ∧
    Text.lower (castName "app\\price:EUR") ∉ builtinCasts.flatten ∧
    decided "app\\price:EUR" = .both (.textual "mixed") := by
  intro date price classes decided
  obtain ⟨hdates, hstored, hspaced, hbuiltin, hclass⟩ := typePair_precedence date
  have hcolon : ':' ∉ "App\\Price".toList := by decide
  have htab : Text.isAllBlank "\t" = true := by decide
  have hspace : Text.isAllBlank " " = true := by decide
  have htext : "\t" ++ "App\\Price" ++ " " ++ ":" ++ "EUR" = "\tApp\\Price :EUR" := by decide
  have hgroup : ["int", "integer", "timestamp"] ∈ builtinCasts := by decide
  have hmixedCase : Text.lower "TimeStamp" ∈ ["int", "integer", "timestamp"] := by decide
  have hupperCase : Text.lower "INT" ∈ ["int", "integer", "timestamp"] := by decide
  have hunknown : Text.lower (castName "app\\price:EUR") ∉ builtinCasts.flatten := by decide
  have hmixed : classText classes (castName "app\\price:EUR") = "mixed" := by decide
  have hparams := (hspaced price classes "App\\Price" "\t" " " hcolon htab hspace).2 "EUR"
  rw [htext] at hparams
  refine ⟨hdates _ _ _ _ rfl rfl rfl, hstored { price with cast := some "Object" } classes "int" rfl rfl,
    ⟨hcolon, htab, hspace⟩, hparams, ⟨hgroup, hmixedCase, hupperCase⟩,
    hbuiltin _ hgroup _ _ hmixedCase hupperCase price classes classes, hunknown, ?_⟩
  rw [← hmixed]
  exact hclass price classes _ rfl hunknown

end Decision
end DynamicMembers
