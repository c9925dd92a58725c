import DynamicMembers.Text.Characters
/-!
# Names — when two spellings denote the same class or method

A class name may carry leading separators, and ASCII case never matters.  The key of a name is what remains, so two
spellings denote the same class exactly when their keys are equal.
-/
namespace DynamicMembers
namespace Name

def separator : Char := '\\'

/-- A class name without its leading separators, all of them. -/
def bare (name : String) : String := String.ofList (name.toList.dropWhile (· == separator))

/-- A fully qualified class name: one leading separator. -/
def qualified (name : String) : String := "\\" ++ bare name

end Name

/-- What is left of a class name when its spelling is forgotten. -/
structure ClassKey where
  text : String
  deriving DecidableEq, Repr

namespace Name

def classKey (name : String) : ClassKey := ⟨Text.lower (bare name)⟩

/-- The key under which a method is declared: its name in lower case. -/
def methodKey (name : String) : String := Text.lower name

def sameClass (a b : String) : Bool := classKey a = classKey b

/-- The last segment of a qualified class name. -/
def baseName (name : String) : String :=
  String.ofList ((bare name).toList.reverse.takeWhile (· != separator)).reverse

theorem sameClass_iff {a b : String} : sameClass a b = true ↔ classKey a = classKey b := by
  simp [sameClass]

end Name
end DynamicMembers
