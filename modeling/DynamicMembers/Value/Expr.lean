import DynamicMembers.Value.PhpDoc
import DynamicMembers.Value.Printer
/-!
# Type expressions — types that are known, and types still in writing

A written type is resolved only when it is asked for, by whichever resolver the host uses.
-/
namespace DynamicMembers

/-- A type, or the text of one. -/
inductive TypeExpr where
  | resolved (type : PhpType)
  | textual (text : String)
  deriving DecidableEq, Repr

namespace TypeExpr

def isResolved : TypeExpr → Bool
  | resolved _ => true
  | textual _ => false

def asText : TypeExpr → Option String
  | resolved _ => none
  | textual s => some s

/-- The type, reading its text if need be. -/
def resolve (types : TypeResolver) : TypeExpr → Answer PhpType
  | resolved t => .ok t
  | textual s => types s

/-- The type, and the expression with the type in place of its text; a text that is refused stays. -/
def settle (types : TypeResolver) (e : TypeExpr) : Answer PhpType × TypeExpr :=
  match e.resolve types with
  | .ok t => (.ok t, resolved t)
  | .error err => (.error err, e)

def text : TypeExpr → String
  | resolved t => t.text
  | textual s => s

end TypeExpr
end DynamicMembers
