import DynamicMembers.Json.Reader
import DynamicMembers.OrderedMap
/-!
# Decoding — what a JSON value is asked to be

A decoder is given how deep the value may still nest.  A record is read from an object, whose unknown members are
skipped and whose known members occur at most once, or from an array that lists its fields in order.  Nothing is
converted: a field is of the form it is asked for, or the decoding fails.
-/
namespace DynamicMembers
namespace Json

/-- A decoder, given the nesting still allowed. -/
abbrev Decoder (α : Type) := Nat → Json → Option α

def nestingLimit : Nat := 128

def enter : Nat → Option Nat
  | 0 => none
  | 1 => none
  | n + 2 => some (n + 1)

mutual

/-- Every part of a value can be read, not only skipped. -/
def isReadable : Nat → Json → Bool
  | _, null => true
  | _, bool _ => true
  | _, integer n => isFiniteInt n
  | _, real finite => finite
  | _, string s => s.isSome
  | b, array l => 2 ≤ b && areReadable (b - 1) l
  | b, object l => 2 ≤ b && membersReadable (b - 1) l

def areReadable : Nat → List Json → Bool
  | _, [] => true
  | b, v :: l => isReadable b v && areReadable b l

def membersReadable : Nat → List (Option String × Json) → Bool
  | _, [] => true
  | b, (k, v) :: l => k.isSome && isReadable b v && membersReadable b l

end

namespace Decoder

variable {α : Type}

def text : Decoder String
  | _, Json.string s => s
  | _, _ => none

def flag : Decoder Bool
  | _, Json.bool b => some b
  | _, _ => none

def int64 : Decoder Int64
  | _, integer n => (Text.toInt64 n).toOption
  | _, _ => none

def nat64 : Decoder Nat
  | _, integer n => if 0 ≤ n ∧ n.toNat < UInt64.size then some n.toNat else none
  | _, _ => none

def nullable (d : Decoder α) : Decoder (Option α)
  | _, Json.null => some none
  | b, v => (d b v).map some

def list (d : Decoder α) : Decoder (List α)
  | b, Json.array l => do
    let b ← enter b
    l.mapM (d b)
  | _, _ => none

/-- The members of an object as a map: the last value of a repeated key, in its first place. -/
def map (d : Decoder α) : Decoder (OrderedMap String α)
  | b, Json.object l => do
    let b ← enter b
    let entries ← l.mapM fun (k, v) => do pure (← k, ← d b v)
    pure (OrderedMap.ofList entries)
  | _, _ => none

/-- One of several words, alone or as the only member of an object, with null. -/
def choice (words : List (String × α)) : Decoder α
  | _, Json.string (some s) => words.lookup s
  | b, Json.object [(some s, Json.null)] => do
    let _ ← enter b
    words.lookup s
  | _, _ => none

end Decoder

/-! ## Records -/

/-- The known members among the members of an object; none when a key has no text or a known one is repeated. -/
def knownMembers (names : List String) : List (Option String × Json) → Option (List (String × Json))
  | [] => some []
  | (none, _) :: _ => none
  | (some k, v) :: l => do
    let rest ← knownMembers names l
    if k ∈ names then
      if rest.any (·.1 == k) then none else some ((k, v) :: rest)
    else some rest

/-- The fields of a record that are given, and the nesting allowed inside it. -/
def fieldsOf (names : List String) : Decoder (Nat × List (String × Json))
  | b, object l => do
    let b ← enter b
    pure (b, ← knownMembers names l)
  | b, array l => do
    let b ← enter b
    if names.length < l.length then none else pure (b, names.zip l)
  | _, _ => none

/-- A field that must be given. -/
def required {α : Type} (d : Decoder α) (r : Nat × List (String × Json)) (name : String) : Option α :=
  (r.2.lookup name).bind (d r.1)

/-- A field with a value for when it is not given. -/
def optional {α : Type} (d : Decoder α) (r : Nat × List (String × Json)) (name : String) (default : α) : Option α :=
  match r.2.lookup name with
  | none => some default
  | some v => d r.1 v

/-! ## Tagged values -/

def tagName : String := "kind"

def contentName : String := "data"

/-- When a value is read: as it comes, or only after it was held back in full for a kind that came later. -/
inductive Moment where
  | asItComes
  | heldBack
  deriving DecidableEq, Repr

/-- The kind that a value names.  Beside the forms of a choice, a value held back may be an object whose only member
holds an empty object. -/
def kindOf {α : Type} (kinds : List (String × α)) : Moment → Decoder α
  | .heldBack, _, object [(some s, object [])] => kinds.lookup s
  | _, b, v => Decoder.choice kinds b v

/-- What a kind carries, and when that is read. -/
structure Content where
  value : Json
  moment : Moment

/-- The kind of a tagged value and what it carries, inside the value's own nesting.  Content that comes before the kind
is read in full before it is known what it is for. -/
def tagged {α : Type} (kinds : List (String × α)) (now : Moment) (b : Nat) : Json → Option (α × Option Content)
  | object l => do
    match ← knownMembers [tagName, contentName] l with
    | [(k, v)] => if k = tagName then pure (← kindOf kinds now b v, none) else none
    | [(k, v), (_, w)] =>
      if k = tagName then pure (← kindOf kinds now b v, some ⟨w, now⟩)
      else if isReadable b v then pure (← kindOf kinds now b w, some ⟨v, .heldBack⟩)
      else none
    | _ => none
  | array [v, w] => do pure (← kindOf kinds now b v, some ⟨w, now⟩)
  | _ => none

/-- What a kind carries that carries nothing: null, or no content at all. -/
def noContent : Option Content → Option Unit
  | none => some ()
  | some ⟨null, _⟩ => some ()
  | some _ => none

/-- What a kind carries, decoded. -/
def content {α : Type} (d : Decoder α) (b : Nat) (c : Option Content) : Option α := c.bind fun c => d b c.value

end Json
end DynamicMembers
