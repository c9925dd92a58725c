/-!
# JSON values — as they are written, before anything is asked of them

A value that is skipped is held to the grammar alone, so the tree keeps what a later reading may still refuse: an
integer of any size, a number beyond the range of floating point, and a string with an unpaired surrogate, which has no
text.  Members of an object keep their order and their repetitions.
-/
namespace DynamicMembers

/-- A JSON value. -/
inductive Json where
  | null
  | bool (value : Bool)
  /-- A number written without fraction and exponent, other than minus zero. -/
  | integer (value : Int)
  /-- Any other number, and whether it is within the range of floating point. -/
  | real (finite : Bool)
  /-- A string; there is no text when an escape stands for half a surrogate pair. -/
  | string (text : Option String)
  | array (items : List Json)
  | object (members : List (Option String × Json))
  deriving Repr

namespace Json

instance : Inhabited Json := ⟨null⟩

def str (s : String) : Json := string (some s)

def obj (members : List (String × Json)) : Json := object (members.map fun m => (some m.1, m.2))

end Json
end DynamicMembers
