import DynamicMembers.Value.Basic
import DynamicMembers.Name
/-!
# Unions — members in order of first occurrence, `mixed` absorbing the rest

`union` opens nested unions one level deep, keeps the first of equal members, and collapses to a single member or to
`mixed`.  `Normalized` says which types need no further normalisation: all that are not unions, and the unions of two
or more different members none of which is a union or `mixed`.
-/
namespace DynamicMembers
namespace PhpType

/-- The alternatives of a type: the members of a union, else the type alone. -/
def members : PhpType → List PhpType
  | union l => l
  | t => [t]

/-- The types of a list in order of first occurrence, each once. -/
def distinct : List PhpType → List PhpType
  | [] => []
  | t :: l => t :: (distinct l).filter (· ≠ t)

/-- The type whose alternatives are given: `mixed` when there is none, the alternative itself when there is one. -/
def ofMembers : List PhpType → PhpType
  | [] => mixed
  | [t] => t
  | l => union l

/-- The union of types, normalised. -/
def unionOf (types : List PhpType) : PhpType :=
  let parts := types.flatMap members
  if mixed ∈ parts then mixed else ofMembers (distinct parts)

/-- The type with `null` among its alternatives. -/
def nullable (t : PhpType) : PhpType := unionOf [t, null]

/-- The type admits `null`. -/
def isNullable : PhpType → Bool
  | null => true
  | mixed => true
  | union l => null ∈ l
  | _ => false

/-- A class type, by the name without its leading separators. -/
def ofClass (name : String) : PhpType := named (Name.bare name)

def isUnion : PhpType → Bool
  | union _ => true
  | _ => false

/-- A type in normal form: no union, or a union of two or more different members, none a union or `mixed`. -/
def Normalized (t : PhpType) : Prop :=
  match t with
  | union l => 2 ≤ l.length ∧ l.Nodup ∧ ∀ m ∈ l, m ≠ mixed ∧ m.isUnion = false
  | _ => True

end PhpType
end DynamicMembers
