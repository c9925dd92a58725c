import DynamicMembers.Json.Models
import DynamicMembers.Proofs.Text.Integer
/-!
# Types in JSON — one reading, whichever way an object is spelled

A type is an object of its kind and what it carries, and the two may stand in either order, in the type itself and in
every type inside it.  What comes before its kind is read in full before it is known what it is for; every spelling of
a type can be, so all of them are read as that type while they nest no deeper than is allowed (`ofJsonAt_of_isForm`).
-/
namespace DynamicMembers
namespace Json

/-! ## Nesting -/

mutual

/-- How many arrays and objects stand around the innermost part of a value. -/
def depth : Json → Nat
  | array l => itemsDepth l + 1
  | object l => membersDepth l + 1
  | _ => 0

def itemsDepth : List Json → Nat
  | [] => 0
  | v :: l => max v.depth (itemsDepth l)

def membersDepth : List (Option String × Json) → Nat
  | [] => 0
  | (_, v) :: l => max v.depth (membersDepth l)

end

theorem itemsDepth_lt {b : Nat} : ∀ {l : List Json}, itemsDepth l < b → ∀ v ∈ l, v.depth < b
  | [], _, _, hm => absurd hm List.not_mem_nil
  | w :: l, h, v, hm => by
    rw [itemsDepth, Nat.max_lt] at h
    rcases List.mem_cons.1 hm with rfl | hm
    · exact h.1
    · exact itemsDepth_lt h.2 v hm

theorem membersDepth_lt {b : Nat} : ∀ {l : List (Option String × Json)}, membersDepth l < b → ∀ m ∈ l, m.2.depth < b
  | [], _, _, hm => absurd hm List.not_mem_nil
  | (k, w) :: l, h, m, hm => by
    rw [membersDepth, Nat.max_lt] at h
    rcases List.mem_cons.1 hm with rfl | hm
    · exact h.1
    · exact membersDepth_lt h.2 m hm

/-- The part of a value within an array or an object may nest one less than the whole. -/
theorem depth_of_member {b : Nat} {l : List (String × Json)} (h : (obj l).depth < b) {m : String × Json} (hm : m ∈ l) :
    m.2.depth < b - 1 := by
  rw [obj, depth] at h
  exact membersDepth_lt (Nat.lt_sub_of_add_lt h) (some m.1, m.2) (List.mem_map_of_mem hm)

theorem depth_of_item {b : Nat} {l : List Json} (h : (array l).depth < b) {v : Json} (hm : v ∈ l) :
    v.depth < b - 1 := by
  rw [depth] at h
  exact itemsDepth_lt (Nat.lt_sub_of_add_lt h) v hm

/-! ## Tagged values -/

/-- An object of a kind and what it carries, in either order. -/
def Spells (kind : String) (content j : Json) : Prop :=
  j = obj [(tagName, str kind), (contentName, content)] ∨ j = obj [(contentName, content), (tagName, str kind)]

theorem Spells.depth {kind : String} {content j : Json} (h : Spells kind content j) : j.depth = content.depth + 1 := by
  rcases h with rfl | rfl <;> simp [obj, str, Json.depth, membersDepth]

theorem kindOf_str {α : Type} {kinds : List (String × α)} {now : Moment} {b : Nat} (kind : String) :
    kindOf kinds now b (str kind) = kinds.lookup kind := by cases now <;> rfl

theorem tagged_carrying {α : Type} {kinds : List (String × α)} {now : Moment} {b : Nat} {kind : String} {a : α}
    {content : Json} (hkind : kinds.lookup kind = some a) :
    tagged kinds now b (PhpType.carryingJson kind content) = some (a, some ⟨content, now⟩) := by
  simp [PhpType.carryingJson, obj, tagged, knownMembers, tagName, contentName, kindOf_str, hkind]

/-- **In either order a kind comes with what it carries**, which may have been held back. -/
theorem tagged_of_spells {α : Type} {kinds : List (String × α)} {now : Moment} {b : Nat} {kind : String} {a : α}
    {content j : Json} (hkind : kinds.lookup kind = some a) (hcontent : isReadable b content = true)
    (h : Spells kind content j) : ∃ moment, tagged kinds now b j = some (a, some ⟨content, moment⟩) := by
  rcases h with rfl | rfl
  · exact ⟨now, tagged_carrying hkind⟩
  · refine ⟨.heldBack, ?_⟩
    simp [obj, tagged, knownMembers, tagName, contentName, kindOf_str, hkind, hcontent]

theorem tagged_plain {α : Type} {kinds : List (String × α)} {now : Moment} {b : Nat} {kind : String} {a : α}
    (hkind : kinds.lookup kind = some a) : tagged kinds now b (PhpType.plainJson kind) = some (a, none) := by
  simp [PhpType.plainJson, obj, tagged, knownMembers, tagName, contentName, kindOf_str, hkind]

theorem Spells.isReadable {kind : String} {content j : Json} {b : Nat} (h : Spells kind content j)
    (hcontent : isReadable (b - 1) content = true) (hb : 2 ≤ b) : isReadable b j = true := by
  rcases h with rfl | rfl <;> simp [obj, str, Json.isReadable, membersReadable, hcontent, hb]

theorem isFiniteInt_toInt (n : Int64) : isFiniteInt n.toInt = true := by
  have hword : n.toInt.natAbs ≤ 2 ^ 63 := by
    have hmin := n.minValue_le_toInt
    have hmax := n.toInt_le
    have hbounds : Int64.minValue.toInt = -2 ^ 63 ∧ Int64.maxValue.toInt = 2 ^ 63 - 1 := by decide
    omega
  have hrange : 2 ^ 63 < overflow := by decide +kernel
  exact decide_eq_true (Nat.lt_of_le_of_lt hword hrange)

end Json

open Json (Spells Decoder)

/-! ## The spellings of a type -/

namespace PhpType

/-- An object of a kind that carries nothing: alone, or with null. -/
def IsPlainForm (kind : String) (j : Json) : Prop := j = plainJson kind ∨ Spells kind .null j

mutual

/-- A value spells a type, with kinds before what they carry or behind it. -/
def IsForm : PhpType → Json → Prop
  | mixed, j => IsPlainForm "Mixed" j
  | null, j => IsPlainForm "Null" j
  | bool, j => IsPlainForm "Bool" j
  | int, j => IsPlainForm "Int" j
  | float, j => IsPlainForm "Float" j
  | string, j => IsPlainForm "String" j
  | array, j => IsPlainForm "Array" j
  | object, j => IsPlainForm "Object" j
  | boolLiteral b, j => Spells "ConstantBool" (.bool b) j
  | intLiteral n, j => Spells "ConstantInt" (.integer n.toInt) j
  | stringLiteral s, j => Spells "ConstantString" (.str s) j
  | named name, j => Spells "Class" (.str name) j
  | union l, j => ∃ items, AreForms l items ∧ Spells "Union" (.array items) j

def AreForms : List PhpType → List Json → Prop
  | [], items => items = []
  | t :: l, items => ∃ j js, items = j :: js ∧ t.IsForm j ∧ AreForms l js

end

mutual

/-- What is written for a type spells it. -/
theorem isForm_toJson : ∀ t : PhpType, t.IsForm t.toJson
  | mixed | null | bool | int | float | string | array | object => Or.inl rfl
  | boolLiteral _ | intLiteral _ | stringLiteral _ | named _ => Or.inl rfl
  | union l => ⟨toJsonList l, areForms_toJsonList l, Or.inl rfl⟩

theorem areForms_toJsonList : ∀ l : List PhpType, AreForms l (toJsonList l)
  | [] => rfl
  | t :: l => ⟨t.toJson, toJsonList l, rfl, isForm_toJson t, areForms_toJsonList l⟩

end

theorem isReadable_of_isPlainForm {kind : String} {j : Json} {b : Nat} (h : IsPlainForm kind j) (hb : j.depth < b) :
    j.isReadable b = true := by
  rcases h with rfl | h
  · have hdepth : (plainJson kind).depth = 1 := rfl
    simp [plainJson, Json.obj, Json.str, Json.isReadable, Json.membersReadable]
    omega
  · have hdepth := h.depth
    exact h.isReadable rfl (by omega)

mutual

/-- **Every spelling of a type can be read in full**, so it may be held back. -/
theorem isReadable_of_isForm : ∀ (t : PhpType) {j : Json} {b : Nat}, t.IsForm j → j.depth < b →
    j.isReadable b = true
  | mixed, _, _, h, hb | null, _, _, h, hb | bool, _, _, h, hb | int, _, _, h, hb | float, _, _, h, hb
  | string, _, _, h, hb | array, _, _, h, hb | object, _, _, h, hb => isReadable_of_isPlainForm h hb
  | boolLiteral _, _, _, h, hb | stringLiteral _, _, _, h, hb | named _, _, _, h, hb => by
    have hdepth := h.depth
    exact h.isReadable rfl (by omega)
  | intLiteral n, _, _, h, hb => by
    have hdepth := h.depth
    exact h.isReadable (Json.isFiniteInt_toInt n) (by omega)
  | union l, _, b, ⟨items, hitems, h⟩, hb => by
    have hdepth : Json.itemsDepth items + 1 + 1 < b := h.depth ▸ hb
    have hreadable := areReadable_of_areForms l (b := b - 1 - 1) hitems (by omega)
    refine h.isReadable ?_ (by omega)
    simp [Json.isReadable, hreadable]
    omega

theorem areReadable_of_areForms : ∀ (l : List PhpType) {items : List Json} {b : Nat}, AreForms l items →
    Json.itemsDepth items < b → Json.areReadable b items = true
  | [], _, _, rfl, _ => rfl
  | t :: l, _, b, ⟨j, js, rfl, h, hl⟩, hb => by
    rw [Json.itemsDepth, Nat.max_lt] at hb
    rw [Json.areReadable, isReadable_of_isForm t h hb.1, areReadable_of_areForms l hl hb.2]
    rfl

end

/-! ## Reading them -/

/-- A spelled kind, with the nesting it takes counted off. -/
theorem tagged_of_form {kind : String} {k : TypeKind} {content j : Json} {b : Nat} (now : Json.Moment)
    (hkind : TypeKind.words.lookup kind = some k) (h : Spells kind content j) (hb : j.depth < b)
    (hcontent : content.isReadable (b - 1) = true) :
    ∃ n moment, b = n + 2 ∧ Json.tagged TypeKind.words now (n + 1) j = some (k, some ⟨content, moment⟩) := by
  have hdepth := h.depth
  obtain ⟨n, rfl⟩ : ∃ n, b = n + 2 := ⟨b - 2, by omega⟩
  obtain ⟨moment, htagged⟩ := Json.tagged_of_spells hkind hcontent h
  exact ⟨n, moment, rfl, htagged⟩

theorem ofJsonAt_of_isPlainForm {kind : String} {t : PhpType} {now : Json.Moment} {j : Json} {b : Nat}
    (hkind : TypeKind.words.lookup kind = some (.plain t)) (h : IsPlainForm kind j) (hb : j.depth < b) :
    ofJsonAt now b j = some t := by
  rcases h with rfl | h
  · have hdepth : (plainJson kind).depth = 1 := rfl
    obtain ⟨n, rfl⟩ : ∃ n, b = n + 2 := ⟨b - 2, by omega⟩
    simp [ofJsonAt, Json.tagged_plain hkind, Json.noContent]
  · obtain ⟨n, moment, rfl, htagged⟩ := tagged_of_form now hkind h hb rfl
    simp [ofJsonAt, htagged, Json.noContent]

mutual

/-- **A spelling of a type is read as that type**, in either order at every depth. -/
theorem ofJsonAt_of_isForm : ∀ (t : PhpType) {m : Json.Moment} {j : Json} {b : Nat}, t.IsForm j → j.depth < b →
    ofJsonAt m b j = some t
  | mixed, _, _, _, h, hb | null, _, _, _, h, hb | bool, _, _, _, h, hb | int, _, _, _, h, hb
  | float, _, _, _, h, hb | string, _, _, _, h, hb | array, _, _, _, h, hb | object, _, _, _, h, hb =>
    ofJsonAt_of_isPlainForm rfl h hb
  | boolLiteral _, now, _, _, h, hb => by
    obtain ⟨n, moment, rfl, htagged⟩ := tagged_of_form now rfl h hb rfl
    simp [ofJsonAt, htagged, Json.content, Decoder.flag]
  | intLiteral w, now, _, _, h, hb => by
    obtain ⟨n, moment, rfl, htagged⟩ := tagged_of_form now rfl h hb (Json.isFiniteInt_toInt w)
    simp [ofJsonAt, htagged, Json.content, Decoder.int64, Text.toInt64_toInt, Except.toOption]
  | stringLiteral _, now, _, _, h, hb => by
    obtain ⟨n, moment, rfl, htagged⟩ := tagged_of_form now rfl h hb rfl
    simp [ofJsonAt, htagged, Json.content, Decoder.text, Json.str]
  | named _, now, _, _, h, hb => by
    obtain ⟨n, moment, rfl, htagged⟩ := tagged_of_form now rfl h hb rfl
    simp [ofJsonAt, htagged, Json.content, Decoder.text, Json.str]
  | union l, now, _, b, ⟨items, hitems, h⟩, hb => by
    have hdepth : Json.itemsDepth items + 1 + 1 < b := h.depth ▸ hb
    have hreadable : (Json.array items).isReadable (b - 1) = true := by
      have hall := areReadable_of_areForms l (b := b - 1 - 1) hitems (by omega)
      simp only [Json.isReadable, hall, Bool.and_true, decide_eq_true_eq]
      omega
    obtain ⟨n, moment, rfl, htagged⟩ := tagged_of_form now rfl h hb hreadable
    have hmembers := mapM_of_areForms l (m := moment) (b := n) hitems (by omega)
    simp [ofJsonAt, htagged, hmembers]
    omega

theorem mapM_of_areForms : ∀ (l : List PhpType) {m : Json.Moment} {items : List Json} {b : Nat}, AreForms l items →
    Json.itemsDepth items < b → items.mapM (ofJsonAt m b) = some l
  | [], _, _, _, rfl, _ => rfl
  | t :: l, now, _, b, ⟨j, js, rfl, h, hl⟩, hb => by
    rw [Json.itemsDepth, Nat.max_lt] at hb
    rw [List.mapM_cons, ofJsonAt_of_isForm t h hb.1, mapM_of_areForms l hl hb.2]
    rfl

end

end PhpType

/-! ## Any two objects of a kind and its content

What is held back may name a kind by an object whose only member holds an empty object; as it comes it may not.  In a
value without such objects it makes no difference when it is read. -/

namespace Json

mutual

/-- No object in a value has an empty object as its only member. -/
def hollowFree : Json → Bool
  | array l => itemsHollowFree l
  | object [(_, object [])] => false
  | object l => membersHollowFree l
  | _ => true

def itemsHollowFree : List Json → Bool
  | [] => true
  | v :: l => v.hollowFree && itemsHollowFree l

def membersHollowFree : List (Option String × Json) → Bool
  | [] => true
  | (_, v) :: l => v.hollowFree && membersHollowFree l

end

theorem hollowFree_of_mem : ∀ {l : List Json}, itemsHollowFree l = true → ∀ v ∈ l, v.hollowFree = true
  | [], _, _, hm => absurd hm List.not_mem_nil
  | w :: l, h, v, hm => by
    rw [itemsHollowFree, Bool.and_eq_true] at h
    rcases List.mem_cons.1 hm with rfl | hm
    · exact h.1
    · exact hollowFree_of_mem h.2 v hm

theorem hollowFree_of_member : ∀ {l : List (Option String × Json)}, membersHollowFree l = true →
    ∀ m ∈ l, m.2.hollowFree = true
  | [], _, _, hm => absurd hm List.not_mem_nil
  | (k, w) :: l, h, m, hm => by
    rw [membersHollowFree, Bool.and_eq_true] at h
    rcases List.mem_cons.1 hm with rfl | hm
    · exact h.1
    · exact hollowFree_of_member h.2 m hm

theorem membersHollowFree_of_object {l : List (Option String × Json)} (h : (object l).hollowFree = true) :
    membersHollowFree l = true := by
  rw [hollowFree.eq_def] at h
  split at h
  · contradiction
  · contradiction
  · rename_i heq
    cases heq
    exact h
  · rename_i hobject
    exact absurd rfl (hobject l)

/-- The known members of an object are members of it. -/
theorem mem_of_knownMembers {names : List String} : ∀ {l : List (Option String × Json)} {r : List (String × Json)},
    knownMembers names l = some r → ∀ m ∈ r, (some m.1, m.2) ∈ l
  | [], _, h, m, hm => by
    cases h
    cases hm
  | (none, _) :: _, _, h, _, _ => by cases h
  | (some k, v) :: l, r, h, m, hm => by
    rw [knownMembers] at h
    obtain ⟨rest, hrest, h⟩ := Option.bind_eq_some_iff.1 h
    have ih := mem_of_knownMembers hrest m
    split at h
    · split at h
      · cases h
      · cases h
        rcases List.mem_cons.1 hm with rfl | hm
        · exact List.mem_cons_self
        · exact List.mem_cons_of_mem _ (ih hm)
    · cases h
      exact List.mem_cons_of_mem _ (ih hm)

theorem kindOf_moment {α : Type} (kinds : List (String × α)) (now now' : Moment) (b : Nat) {k : Json}
    (h : k.hollowFree = true) : kindOf kinds now b k = kindOf kinds now' b k := by
  have hplain : ∀ now, kindOf kinds now b k = Decoder.choice kinds b k := by
    intro now
    rw [kindOf.eq_def]
    split
    · contradiction
    · rfl
  rw [hplain, hplain]

/-- Two readings of what a kind carries differ in when it is read at most, which makes no difference to the value. -/
inductive Content.Agree : Option Content → Option Content → Prop
  | none : Agree none none
  | some {v : Json} (now now' : Moment) (h : v.hollowFree = true) : Agree (some ⟨v, now⟩) (some ⟨v, now'⟩)

/-- **A value without hollow objects is tagged alike** whenever it is read. -/
theorem tagged_moment {α : Type} (kinds : List (String × α)) (now now' : Moment) (b : Nat) {v : Json}
    (h : v.hollowFree = true) :
    Option.Rel (fun x y => x.1 = y.1 ∧ Content.Agree x.2 y.2) (tagged kinds now b v) (tagged kinds now' b v) := by
  have hpair {k : Json} {c c' : Option Content} (hk : k.hollowFree = true) (hc : Content.Agree c c') :
      Option.Rel (fun x y => x.1 = y.1 ∧ Content.Agree x.2 y.2)
        ((kindOf kinds now b k).bind fun a => some (a, c)) ((kindOf kinds now' b k).bind fun a => some (a, c')) := by
    rw [kindOf_moment kinds now now' b hk]
    cases kindOf kinds now' b k with
    | none => exact .none
    | some a => exact .some ⟨rfl, hc⟩
  cases v with
  | object l =>
    have hmembers := hollowFree_of_member (membersHollowFree_of_object h)
    simp only [tagged, bind]
    cases hknown : knownMembers [tagName, contentName] l with
    | none => exact .none
    | some r =>
      have hfree : ∀ m ∈ r, m.2.hollowFree = true := fun m hm => hmembers _ (mem_of_knownMembers hknown m hm)
      match r, hfree with
      | [], _ => exact .none
      | [(k, v)], hfree =>
        have hv : v.hollowFree = true := hfree (k, v) (by simp)
        by_cases hk : k = tagName
        · simpa [hk] using hpair hv .none
        · simp [hk]
      | [(k, v), (n, w)], hfree =>
        have hv : v.hollowFree = true := hfree (k, v) (by simp)
        have hw : w.hollowFree = true := hfree (n, w) (by simp)
        by_cases hk : k = tagName
        · simpa [hk] using hpair hv (.some now now' hw)
        · by_cases hread : isReadable b v = true
          · simpa [hk, hread] using hpair hw (.some .heldBack .heldBack hv)
          · simp [hk, hread]
      | _ :: _ :: _ :: _, _ => exact .none
  | array l =>
    match l, h with
    | [], _ => exact .none
    | [_], _ => exact .none
    | [v, w], h =>
      have hv : v.hollowFree = true := hollowFree_of_mem h v (by simp)
      have hw : w.hollowFree = true := hollowFree_of_mem h w (by simp)
      exact hpair hv (.some now now' hw)
    | _ :: _ :: _ :: _, _ => exact .none
  | _ => exact .none

end Json

namespace PhpType

open Json (Content)

theorem mapM_congr {α β : Type} {f g : α → Option β} : ∀ {l : List α}, (∀ a ∈ l, f a = g a) → l.mapM f = l.mapM g
  | [], _ => rfl
  | a :: l, h => by
    rw [List.mapM_cons, List.mapM_cons, h a List.mem_cons_self,
      mapM_congr fun c hc => h c (List.mem_cons_of_mem a hc)]

/-- The type of a kind with what it carries, inside the nesting that the two take. -/
def carried (b : Nat) : TypeKind × Option Content → Option PhpType
  | (.plain t, content) => (Json.noContent content).map fun _ => t
  | (.boolLiteral, content) => (Json.content Decoder.flag b content).map boolLiteral
  | (.intLiteral, content) => (Json.content Decoder.int64 b content).map intLiteral
  | (.stringLiteral, content) => (Json.content Decoder.text b content).map stringLiteral
  | (.named, content) => (Json.content Decoder.text b content).map named
  | (.union, some ⟨.array l, moment⟩) => if b = 0 then none else (l.mapM (ofJsonAt moment b)).map union
  | (.union, _) => none

theorem ofJsonAt_eq_carried (now : Json.Moment) (b : Nat) (v : Json) :
    ofJsonAt now (b + 2) v = (Json.tagged TypeKind.words now (b + 1) v).bind (carried b) := by
  rw [ofJsonAt]
  congr 1
  funext ⟨kind, content⟩
  cases kind <;> first | rfl | skip
  cases content with
  | none => rfl
  | some c => obtain ⟨v, moment⟩ := c; cases v <;> rfl

/-- What a kind carries makes the same type whenever it is read, if the types in it do. -/
theorem carried_agree {b : Nat} (ih : ∀ (now now' : Json.Moment) {v : Json}, v.hollowFree = true →
    ofJsonAt now b v = ofJsonAt now' b v) (kind : TypeKind) {c c' : Option Content} (h : Content.Agree c c') :
    carried b (kind, c) = carried b (kind, c') := by
  cases h with
  | none => rfl
  | @some v now now' hv =>
    cases kind with
    | union =>
      cases v with
      | array l =>
        have hitems : l.mapM (ofJsonAt now b) = l.mapM (ofJsonAt now' b) :=
          mapM_congr fun w hw => ih now now' (Json.hollowFree_of_mem hv w hw)
        rw [carried, carried, hitems]
      | _ => rfl
    | plain t => cases v <;> rfl
    | _ => rfl

/-- **A value without hollow objects is the same type whenever it is read.** -/
theorem ofJsonAt_moment : ∀ (b : Nat) (now now' : Json.Moment) {v : Json}, v.hollowFree = true →
    ofJsonAt now b v = ofJsonAt now' b v
  | 0, _, _, _, _ => rfl
  | 1, _, _, _, _ => rfl
  | b + 2, now, now', v, h => by
    rw [ofJsonAt_eq_carried, ofJsonAt_eq_carried]
    have htagged := Json.tagged_moment TypeKind.words now now' (b + 1) h
    generalize Json.tagged TypeKind.words now (b + 1) v = x at htagged
    generalize Json.tagged TypeKind.words now' (b + 1) v = y at htagged
    cases htagged with
    | none => rfl
    | @some x y h =>
      obtain ⟨kind, c⟩ := x
      obtain ⟨kind', c'⟩ := y
      obtain ⟨hkind, hcontent⟩ := h
      obtain rfl : kind = kind' := hkind
      exact carried_agree (ofJsonAt_moment b) kind hcontent

/-- **Content before its kind is read as it is behind it**, whatever it is and whatever else the two objects hold, when
it can be read in full and holds no hollow objects. -/
theorem ofJsonAt_of_swapped {l l' : List (Option String × Json)} {k v : Json} {b : Nat}
    (hl : Json.knownMembers [Json.tagName, Json.contentName] l = some [(Json.contentName, v), (Json.tagName, k)])
    (hl' : Json.knownMembers [Json.tagName, Json.contentName] l' = some [(Json.tagName, k), (Json.contentName, v)])
    (hread : v.isReadable (b - 1) = true) (hfree : v.hollowFree = true) (now : Json.Moment) :
    ofJsonAt now b (.object l) = ofJsonAt now b (.object l') := by
  match b, hread with
  | 0, _ => rfl
  | 1, _ => rfl
  | b + 2, hread =>
    have hread : v.isReadable (b + 1) = true := hread
    have hname : Json.contentName ≠ Json.tagName := by decide
    have hbefore : Json.tagged TypeKind.words now (b + 1) (.object l) =
        (Json.kindOf TypeKind.words now (b + 1) k).bind fun kind => some (kind, some ⟨v, .heldBack⟩) := by
      simp [Json.tagged, hl, hname, hread]
    have hbehind : Json.tagged TypeKind.words now (b + 1) (.object l') =
        (Json.kindOf TypeKind.words now (b + 1) k).bind fun kind => some (kind, some ⟨v, now⟩) := by
      simp [Json.tagged, hl']
    rw [ofJsonAt_eq_carried, ofJsonAt_eq_carried, hbefore, hbehind]
    cases Json.kindOf TypeKind.words now (b + 1) k with
    | none => rfl
    | some kind => exact carried_agree (ofJsonAt_moment b) kind (.some .heldBack now hfree)

end PhpType
end DynamicMembers
