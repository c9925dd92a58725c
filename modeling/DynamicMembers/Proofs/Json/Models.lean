import DynamicMembers.Proofs.Json.Text
import DynamicMembers.Proofs.Json.Types
/-!
# The JSON form of the models — what is written is read back

A record is written with all its fields under their own names, so each is found and none is left to a default.  Lists
and maps come back in their order.  The nesting of the whole is all that is asked of a model (`decodeText_write`).
-/
namespace DynamicMembers
namespace Json

/-! ## Records -/

theorem knownMembers_map {names : List String} : ∀ {l : List (String × Json)}, (∀ m ∈ l, m.1 ∈ names) →
    (l.map Prod.fst).Nodup → knownMembers names (l.map fun m => (some m.1, m.2)) = some l
  | [], _, _ => rfl
  | (k, v) :: l, hnames, hnodup => by
    rw [List.map_cons, List.nodup_cons] at hnodup
    have hl : knownMembers names (l.map fun m => (some m.1, m.2)) = some l :=
      knownMembers_map (fun m hm => hnames m (List.mem_cons_of_mem _ hm)) hnodup.2
    have hknown : k ∈ names := hnames (k, v) List.mem_cons_self
    have hnew : l.any (·.1 == k) = false := by
      rw [List.any_eq_false]
      intro m hm hk
      exact hnodup.1 (List.mem_map.2 ⟨m, hm, by simpa using hk⟩)
    simp [knownMembers, hl, hknown, hnew]

theorem enter_of_lt {b : Nat} (h : 1 < b) : enter b = some (b - 1) := by
  obtain ⟨n, rfl⟩ : ∃ n, b = n + 2 := ⟨b - 2, by omega⟩
  rfl

theorem enter_obj {b : Nat} {l : List (String × Json)} (h : (obj l).depth < b) : enter b = some (b - 1) := by
  rw [obj, depth] at h
  exact enter_of_lt (by omega)

theorem enter_array {b : Nat} {l : List Json} (h : (array l).depth < b) : enter b = some (b - 1) := by
  rw [depth] at h
  exact enter_of_lt (by omega)

/-- **A record that is written with its own fields has them**, inside the nesting of the record. -/
theorem fieldsOf_obj {names : List String} {l : List (String × Json)} {b : Nat} (hnames : ∀ m ∈ l, m.1 ∈ names)
    (hnodup : (l.map Prod.fst).Nodup) (hb : (obj l).depth < b) : fieldsOf names b (obj l) = some (b - 1, l) := by
  simp [obj, fieldsOf, enter_obj hb, knownMembers_map hnames hnodup]

end Json

namespace Json.Decoder

variable {α : Type} {d : Decoder α} {f : α → Json} {b : Nat}

@[simp] theorem text_str (s : String) : text b (str s) = some s := rfl

@[simp] theorem flag_bool (value : Bool) : flag b (.bool value) = some value := rfl

theorem mapM_map {β γ δ : Type} {g : β → γ} {h : γ → Option δ} {k : β → δ} : ∀ {l : List β},
    (∀ x ∈ l, h (g x) = some (k x)) → (l.map g).mapM h = some (l.map k)
  | [], _ => rfl
  | x :: l, hl => by
    have ih := mapM_map (l := l) fun y hy => hl y (List.mem_cons_of_mem x hy)
    rw [List.map_cons, List.mapM_cons, hl x List.mem_cons_self, ih]
    rfl

/-- A list is read back, when its members are. -/
theorem list_array {l : List α} (hb : (array (l.map f)).depth < b)
    (hd : ∀ x ∈ l, (f x).depth < b - 1 → d (b - 1) (f x) = some x) : list d b (array (l.map f)) = some l := by
  have hmembers : (l.map f).mapM (d (b - 1)) = some (l.map id) :=
    mapM_map fun x hx => hd x hx (depth_of_item hb (List.mem_map_of_mem hx))
  simpa [list, enter_array hb] using hmembers

theorem list_texts {l : List String} (hb : (array (l.map str)).depth < b) :
    list text b (array (l.map str)) = some l := list_array hb fun _ _ _ => rfl

/-- A map is read back, its keys in their order, when its values are. -/
theorem map_obj {m : OrderedMap String α} (hb : (obj (m.entries.map fun e => (e.1, f e.2))).depth < b)
    (hd : ∀ e ∈ m.entries, (f e.2).depth < b - 1 → d (b - 1) (f e.2) = some e.2) :
    map d b (obj (m.entries.map fun e => (e.1, f e.2))) = some m := by
  have hentry (e : String × α) (he : e ∈ m.entries) :
      (some e.1).bind (fun k => (d (b - 1) (f e.2)).bind fun v => some (k, v)) = some (id e) := by
    simp [hd e he (depth_of_member hb (List.mem_map_of_mem he))]
  simp only [map, obj, List.map_map, Function.comp_def, enter_obj hb, Option.bind_eq_bind, Option.bind_some]
  refine (congrArg (Option.bind · _) (mapM_map hentry)).trans ?_
  rw [List.map_id]
  exact congrArg some (OrderedMap.ofList_entries m)

theorem map_texts {m : OrderedMap String String} (hb : (obj (m.entries.map fun e => (e.1, str e.2))).depth < b) :
    map text b (obj (m.entries.map fun e => (e.1, str e.2))) = some m := map_obj hb fun _ _ _ => rfl

theorem nullable_text (s : Option String) : nullable text b (Record.optionalText s) = some s := by cases s <;> rfl

end Json.Decoder

open Json (Decoder)

/-! ## Types, methods and classes -/

theorem PhpType.ofJson_toJson {t : PhpType} {b : Nat} (h : t.toJson.depth < b) : ofJson b t.toJson = some t :=
  ofJsonAt_of_isForm t (isForm_toJson t) h

theorem TypeExpr.ofJson_toJson (e : TypeExpr) {b : Nat} (h : e.toJson.depth < b) : ofJson b e.toJson = some e := by
  cases e with
  | resolved t =>
    have henter : Json.enter b = some (b - 1) := Json.enter_obj h
    have htagged : Json.tagged [("Resolved", false), ("Textual", true)] .asItComes (b - 1) (resolved t).toJson =
        some (false, some ⟨t.toJson, .asItComes⟩) := Json.tagged_carrying rfl
    have hmember : t.toJson.depth < b - 1 := Json.depth_of_member h (m := (Json.contentName, t.toJson)) (by simp)
    have htype := PhpType.ofJsonAt_of_isForm t (m := .asItComes) (PhpType.isForm_toJson t) hmember
    simp [ofJson, henter, htagged, htype]
  | textual s =>
    have henter : Json.enter b = some (b - 1) := Json.enter_obj h
    have htagged : Json.tagged [("Resolved", false), ("Textual", true)] .asItComes (b - 1) (textual s).toJson =
        some (true, some ⟨.str s, .asItComes⟩) := Json.tagged_carrying rfl
    simp [ofJson, henter, htagged, Json.content]

theorem Parameter.ofJson_toJson {p : Parameter} {b : Nat} (h : p.toJson.depth < b) : ofJson b p.toJson = some p := by
  have hfields : Json.fieldsOf ["name", "type_ref", "is_optional", "is_variadic"] b p.toJson = some (b - 1, _) :=
    Json.fieldsOf_obj (by simp) (by simp) h
  have htype : PhpType.ofJson (b - 1) p.type.toJson = some p.type :=
    PhpType.ofJson_toJson (Json.depth_of_member h (m := ("type_ref", _)) (by simp))
  simp [ofJson, hfields, Json.required, Json.optional, List.lookup_cons, htype]

theorem Visibility.choice_word (v : Visibility) (b : Nat) :
    Decoder.choice Visibility.words b (.str v.word) = some v := by cases v <;> rfl

theorem ClassKind.choice_word (k : ClassKind) (b : Nat) :
    Decoder.choice ClassKind.words b (.str k.word) = some k := by cases k <;> rfl

theorem Method.ofJson_toJson {m : Method} {b : Nat} (h : m.toJson.depth < b) : ofJson b m.toJson = some m := by
  have hfields : Json.fieldsOf ["name", "declaring_class", "visibility", "is_static", "parameters", "return_type"] b
      m.toJson = some (b - 1, _) := Json.fieldsOf_obj (by simp) (by simp) h
  have hparameters : Decoder.list Parameter.ofJson (b - 1) (.array (m.parameters.map Parameter.toJson)) =
      some m.parameters := Decoder.list_array (Json.depth_of_member h (m := ("parameters", _)) (by simp))
    fun _ _ => Parameter.ofJson_toJson
  have htype : PhpType.ofJson (b - 1) m.returnType.toJson = some m.returnType :=
    PhpType.ofJson_toJson (Json.depth_of_member h (m := ("return_type", _)) (by simp))
  simp [ofJson, hfields, Json.required, Json.optional, List.lookup_cons, Visibility.choice_word, hparameters, htype]

theorem Record.ofJson_toJson {r : Record} {b : Nat} (h : r.toJson.depth < b) : ofJson b r.toJson = some r := by
  have hfields : Json.fieldsOf ["table", "casts", "dates", "timestamps"] b r.toJson = some (b - 1, _) :=
    Json.fieldsOf_obj (by simp) (by simp) h
  have hcasts : Decoder.map Decoder.text (b - 1) (.obj (r.casts.entries.map fun e => (e.1, .str e.2))) =
      some r.casts := Decoder.map_texts (Json.depth_of_member h (m := ("casts", _)) (by simp [Json.obj]))
  have hdates : Decoder.list Decoder.text (b - 1) (.array (r.dates.map .str)) = some r.dates :=
    Decoder.list_texts (Json.depth_of_member h (m := ("dates", _)) (by simp))
  simp [ofJson, hfields, Json.optional, List.lookup_cons, Decoder.nullable_text, hcasts, hdates]

theorem ClassInfo.ofJson_toJson {c : ClassInfo} {b : Nat} (h : c.toJson.depth < b) : ofJson b c.toJson = some c := by
  have hfields : Json.fieldsOf ["name", "kind", "parent", "interfaces", "is_abstract", "methods", "mixins", "record"] b
      c.toJson = some (b - 1, _) := Json.fieldsOf_obj (by simp) (by simp) h
  have hinterfaces : Decoder.list Decoder.text (b - 1) (.array (c.interfaces.map .str)) = some c.interfaces :=
    Decoder.list_texts (Json.depth_of_member h (m := ("interfaces", _)) (by simp))
  have hmethods : Decoder.map Method.ofJson (b - 1) (.obj (c.methods.entries.map fun e => (e.1, e.2.toJson))) =
      some c.methods := Decoder.map_obj (Json.depth_of_member h (m := ("methods", _)) (by simp [Json.obj]))
    fun _ _ => Method.ofJson_toJson
  have hmixins : Decoder.list Decoder.text (b - 1) (.array (c.mixins.map .str)) = some c.mixins :=
    Decoder.list_texts (Json.depth_of_member h (m := ("mixins", _)) (by simp))
  rw [ofJson, hfields]
  simp only [Json.required, Json.optional, Option.pure_def, Option.bind_eq_bind, Option.bind_some, List.lookup_cons,
    BEq.rfl, Decoder.text_str, String.reduceBEq, ClassKind.choice_word, Decoder.nullable_text, hinterfaces,
    Decoder.flag_bool, hmethods, hmixins]
  refine Option.bind_eq_some_iff.2 ⟨c.record, ?_, rfl⟩
  have hmember := Json.depth_of_member h (m := ("record", _)) (List.mem_of_getElem? (i := 7) rfl)
  cases hr : c.record with
  | none => rfl
  | some r =>
    rw [hr] at hmember
    exact congrArg (Option.map some) (Record.ofJson_toJson hmember)

namespace Json

theorem decodeText_of_decoded {α : Type} {d : Decoder α} {j : Json} {x : α} (h : d nestingLimit j = some x) :
    decodeText d (write j) = .ok x := by
  rw [decodeText, ofText?_write, Option.bind_some, h]

/-- Every value whose form nests within the limit is read back from its text. -/
def ReadsBack {α : Type} (toJson : α → Json) (d : Decoder α) : Prop :=
  ∀ x, (toJson x).depth < nestingLimit → decodeText d (write (toJson x)) = .ok x

/-- **What is written of a model is read back as that model.**  A type is read the same however it is spelled, with a
kind before what it carries or behind it at every depth, and so are any two objects that have the same kind and content
in the two orders: as the same type, or as none. -/
theorem decodeText_write :
    ReadsBack PhpType.toJson PhpType.ofJson ∧
    ReadsBack TypeExpr.toJson TypeExpr.ofJson ∧
    ReadsBack Method.toJson Method.ofJson ∧
    ReadsBack ClassInfo.toJson ClassInfo.ofJson ∧
    (∀ (t : PhpType) (j : Json), t.IsForm j → j.depth < nestingLimit → decodeText PhpType.ofJson (write j) = .ok t) ∧
    ∀ (l l' : List (Option String × Json)) (kind content : Json),
      knownMembers [tagName, contentName] l = some [(contentName, content), (tagName, kind)] →
      knownMembers [tagName, contentName] l' = some [(tagName, kind), (contentName, content)] →
      content.isReadable (nestingLimit - 1) = true → content.hollowFree = true →
      decodeText PhpType.ofJson (write (.object l)) = decodeText PhpType.ofJson (write (.object l')) := by
  refine ⟨fun t h => ?_, fun e h => ?_, fun m h => ?_, fun c h => ?_, fun t j hform h => ?_, ?_⟩
  · exact decodeText_of_decoded (PhpType.ofJson_toJson h)
  · exact decodeText_of_decoded (TypeExpr.ofJson_toJson e h)
  · exact decodeText_of_decoded (Method.ofJson_toJson h)
  · exact decodeText_of_decoded (ClassInfo.ofJson_toJson h)
  · exact decodeText_of_decoded (PhpType.ofJsonAt_of_isForm t hform h)
  · intro l l' kind content hl hl' hread hfree
    rw [decodeText, decodeText, ofText?_write, ofText?_write, Option.bind_some, Option.bind_some, PhpType.ofJson,
      PhpType.ofJsonAt_of_swapped hl hl' hread hfree]

/-- A method that returns the least integer, with a parameter of a type that is not normal. -/
def firstTag : Method where
  name := "first"
  declaringClass := "App\\Tags"
  visibility := .prot
  isStatic := true
  parameters := [{ name := "with", type := .union [.stringLiteral "\"\n", .union [.null, .null]], isVariadic := true }]
  returnType := .intLiteral (-9223372036854775808)

def tags : ClassInfo where
  name := "App\\Tags"
  kind := .trait
  interfaces := ["Countable"]
  methods := .ofList [("first", firstTag)]
  record := some { casts := .ofList [("b", "int"), ("a", "bool")], timestamps := false }

def tagType : PhpType := .union [.named "Tag", .union [.null]]

/-- The type, its members before its kind. -/
def tagForm : Json :=
  obj [("data", .array [PhpType.toJson (.named "Tag"), PhpType.toJson (.union [.null])]), ("kind", str "Union")]

/-- What a union of one class carries, that class spelled with its kind last. -/
def tagMembers : Json := .array [obj [("data", str "Tag"), ("kind", str "Class")]]

/-- A union with its members before its kind, and something else in front. -/
def membersFirst : Json := obj [("note", .null), ("data", tagMembers), ("kind", str "Union")]

/-- The same union with its kind first, and something else at the end. -/
def kindFirst : Json := obj [("kind", str "Union"), ("data", tagMembers), ("more", .array [.bool true])]

theorem decodeText_write_tags :
    decodeText PhpType.ofJson (write tagType.toJson) = .ok tagType ∧
    decodeText TypeExpr.ofJson (write (TypeExpr.resolved tagType).toJson) = .ok (.resolved tagType) ∧
    decodeText Method.ofJson (write firstTag.toJson) = .ok firstTag ∧
    decodeText ClassInfo.ofJson (write tags.toJson) = .ok tags ∧
    write tagForm = "\x7b\"data\":[\x7b\"kind\":\"Class\",\"data\":\"Tag\"\x7d," ++
      "\x7b\"kind\":\"Union\",\"data\":[\x7b\"kind\":\"Null\"\x7d]\x7d],\"kind\":\"Union\"\x7d" ∧
    decodeText PhpType.ofJson (write tagForm) = .ok tagType ∧
    decodeText PhpType.ofJson (write membersFirst) = decodeText PhpType.ofJson (write kindFirst) ∧
    decodeText PhpType.ofJson (write membersFirst) = .ok (.union [.named "Tag"]) := by
  obtain ⟨htype, hexpr, hmethod, hclass, hform, hswapped⟩ := decodeText_write
  have hspelled : tagType.IsForm tagForm :=
    ⟨_, PhpType.areForms_toJsonList [.named "Tag", .union [.null]], Or.inr rfl⟩
  have hsame : decodeText PhpType.ofJson (write membersFirst) = decodeText PhpType.ofJson (write kindFirst) :=
    hswapped _ _ _ _ rfl rfl (by decide) (by decide)
  have hkind : decodeText PhpType.ofJson (write kindFirst) = .ok (.union [.named "Tag"]) :=
    decodeText_of_decoded rfl
  exact ⟨htype tagType (by decide), hexpr (.resolved tagType) (by decide), hmethod firstTag (by decide),
    hclass tags (by decide), by decide, hform tagType tagForm hspelled (by decide), hsame, hsame.trans hkind⟩

end Json
end DynamicMembers
