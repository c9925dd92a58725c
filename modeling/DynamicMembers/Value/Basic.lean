/-!
# Types of values — what a property or a method result may hold

A `PhpType` is a scalar, a literal, a named class or a union of types.  The constructors allow any nesting; the unions
that the library builds itself are normalised (`DynamicMembers.Value.Union`).
-/
namespace DynamicMembers

/-- The type of a PHP value. -/
inductive PhpType where
  | mixed
  | null
  | bool
  | int
  | float
  | string
  | array
  | object
  | boolLiteral (value : Bool)
  | intLiteral (value : Int64)
  | stringLiteral (value : String)
  /-- A class, by the name it is written with. -/
  | named (name : String)
  | union (members : List PhpType)
  deriving Repr

namespace PhpType

instance : Inhabited PhpType := ⟨mixed⟩

mutual

/-- Structural equality, as a test. -/
def same : PhpType → PhpType → Bool
  | mixed, mixed => true
  | null, null => true
  | bool, bool => true
  | int, int => true
  | float, float => true
  | string, string => true
  | array, array => true
  | object, object => true
  | boolLiteral a, boolLiteral b => a == b
  | intLiteral a, intLiteral b => a == b
  | stringLiteral a, stringLiteral b => a == b
  | named a, named b => a == b
  | union l, union m => sameAll l m
  | _, _ => false

/-- Structural equality of two lists of types, as a test. -/
def sameAll : List PhpType → List PhpType → Bool
  | [], [] => true
  | t :: l, u :: m => same t u && sameAll l m
  | _, _ => false

end

mutual

theorem same_iff : ∀ t u : PhpType, same t u = true ↔ t = u
  | mixed, u | null, u | bool, u | int, u | float, u | string, u | array, u | object, u => by
    cases u <;> simp [same]
  | boolLiteral a, u | intLiteral a, u | stringLiteral a, u | named a, u => by cases u <;> simp [same]
  | union l, u => by
    cases u with
    | union m => simpa [same] using sameAll_iff l m
    | _ => simp [same]

theorem sameAll_iff : ∀ l m : List PhpType, sameAll l m = true ↔ l = m
  | [], [] => by simp [sameAll]
  | [], _ :: _ => by simp [sameAll]
  | _ :: _, [] => by simp [sameAll]
  | t :: l, u :: m => by
    simp only [sameAll, Bool.and_eq_true, List.cons.injEq]
    rw [same_iff t u, sameAll_iff l m]

end

instance : DecidableEq PhpType := fun t u => decidable_of_iff _ (same_iff t u)

end PhpType
end DynamicMembers
