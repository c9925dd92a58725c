import DynamicMembers.Text.Characters
import DynamicMembers.Text.Integer
import DynamicMembers.Text.LetterTable
import DynamicMembers.Text.Split
/-!
# Log directives — the texts that select what is reported

A selection is a list of directives between commas, empty ones counting for nothing.  A directive names a target, a
span in brackets with fields in braces, and a level after an equals sign, each of them optional.
-/
namespace DynamicMembers
namespace Log

/-- How far a directive has been read. -/
inductive Stage where
  | start
  | target
  | span
  /-- Inside the braces, and whether anything stands there yet. -/
  | field (given : Bool)
  | afterFields
  | afterSpan
  deriving DecidableEq, Repr

def levels : List String := ["error", "warn", "info", "debug", "trace", "off"]

/-- A number of a level, with an optional plus sign. -/
def isLevelNumber : List Char → Bool
  | '+' :: cs => (Text.readNat 10 cs).any (· ≤ 5)
  | cs => (Text.readNat 10 cs).any (· ≤ 5)

/-- A level: a word in any case, a number from zero to five, or nothing. -/
def isLevel (cs : List Char) : Bool :=
  cs.isEmpty || Text.lower (String.ofList cs) ∈ levels || isLevelNumber cs

/-- The rest of a directive is in order, from a stage on. -/
def restOk : Stage → List Char → Bool
  | .start, [] => false
  | .start, c :: cs =>
    if c = '[' then restOk .span cs
    else if c = '-' || c = ':' || c = '_' || Text.isAlphanumeric c then restOk .target cs
    else false
  | .target, [] => true
  | .target, c :: cs => if c = '=' then isLevel cs else if c = '[' then restOk .span cs else restOk .target cs
  | .span, [] => false
  | .span, c :: cs =>
    if c = ']' then restOk .afterSpan cs else if c = '\x7b' then restOk (.field false) cs else restOk .span cs
  | .field _, [] => false
  | .field given, c :: cs => if c = '\x7d' then given && restOk .afterFields cs else restOk (.field true) cs
  | .afterFields, [] => false
  | .afterFields, c :: cs => c = ']' && restOk .afterSpan cs
  | .afterSpan, [] => true
  | .afterSpan, c :: cs => c = '=' && isLevel cs

/-- A selection every directive of which is in order. -/
def isSelection (s : String) : Bool :=
  (Text.split ',' s.toList).all fun piece => piece.isEmpty || restOk .start piece

end Log
end DynamicMembers
