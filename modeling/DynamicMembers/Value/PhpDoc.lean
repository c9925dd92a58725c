import DynamicMembers.Error
import DynamicMembers.Text.Characters
import DynamicMembers.Text.Split
import DynamicMembers.Value.Union
/-!
# Type annotations — reading a type from the text of a doc comment

A text is cut at the bars that stand outside quotes and brackets; each piece is a keyword, a literal, a class name, a
`?T`, a `T[]` or a generic whose arguments do not matter.  `resolve` is the union of the pieces.
-/
namespace DynamicMembers

abbrev TypeResolver := String → Answer PhpType

namespace PhpDoc

/-! ## Cutting at top-level bars -/

/-- Where a scan stands: how many brackets are open, and inside which quote, if any. -/
inductive Scan where
  | plain (depth : Nat)
  | quoted (depth : Nat) (quote : Char) (escaped : Bool)
  deriving DecidableEq, Repr

def Scan.depth : Scan → Nat
  | plain d => d
  | quoted d _ _ => d

/-- The scan after one more character; a bracket that closes nothing stops it. -/
def Scan.step : Scan → Char → Option Scan
  | plain d, c =>
    if c = '\'' ∨ c = '"' then some (quoted d c false)
    else if c = '<' ∨ c = '(' then some (plain (d + 1))
    else if c = '>' ∨ c = ')' then
      match d with
      | 0 => none
      | d + 1 => some (plain d)
    else some (plain d)
  | quoted d q true, _ => some (quoted d q false)
  | quoted d q false, c =>
    if c = '\\' then some (quoted d q true)
    else if c = q then some (plain d)
    else some (quoted d q false)

/-- The pieces of a text between its top-level bars, from a scan on; `none` when brackets do not balance. -/
def pieces : Scan → List Char → Option (List (List Char))
  | s, [] => if s.depth = 0 then some [[]] else none
  | s, c :: cs =>
    if s = .plain 0 ∧ c = '|' then (pieces s cs).map ([] :: ·)
    else match s.step c with
      | none => none
      | some s' => (pieces s' cs).map (Text.onHead c)

/-! ## Words -/

def isWordStart (c : Char) : Bool := c.isAlpha || c == '_'

def isWordPart (c : Char) : Bool := c.isAlphanum || c == '_'

def isWord : List Char → Bool
  | [] => false
  | c :: cs => isWordStart c && cs.all isWordPart

/-- Segments with separators between them and at most one in front. -/
def isClassName : List Char → Bool
  | '\\' :: cs => (Text.split '\\' cs).all isWord
  | cs => (Text.split '\\' cs).all isWord

/-- Decimal digits, at least one, with an optional minus sign. -/
def isInteger : List Char → Bool
  | '-' :: cs => !cs.isEmpty && cs.all Char.isDigit
  | cs => !cs.isEmpty && cs.all Char.isDigit

def keyword (atom : List Char) : Option PhpType :=
  match Text.lower (String.ofList atom) with
  | "mixed" => some .mixed
  | "null" | "void" => some .null
  | "bool" | "boolean" => some .bool
  | "true" => some (.boolLiteral true)
  | "false" => some (.boolLiteral false)
  | "int" | "integer" | "positive-int" | "negative-int" => some .int
  | "float" | "double" | "real" => some .float
  | "string" | "non-empty-string" | "numeric-string" | "class-string" => some .string
  | "array" | "list" | "iterable" | "non-empty-array" => some .array
  | "object" => some .object
  | _ => none

/-- What stands between the quotes of a literal, unescaped; `none` at a quote that is not escaped. -/
def unescape (quote : Char) : List Char → Option (List Char)
  | [] => some []
  | ['\\'] => none
  | '\\' :: c :: cs =>
    if c = quote ∨ c = '\\' then (unescape quote cs).map (c :: ·)
    else (unescape quote cs).map ('\\' :: c :: ·)
  | c :: cs => if c = quote then none else (unescape quote cs).map (c :: ·)

def beforeClosing (quote : Char) (cs : List Char) : Option (List Char) :=
  if cs.getLast? = some quote then some cs.dropLast else none

/-- The text of a literal, given what follows its opening quote. -/
def literal (quote : Char) (afterOpening : List Char) : Option (List Char) :=
  (beforeClosing quote afterOpening).bind (unescape quote)

def integer (atom : List Char) : Except TypeFault PhpType :=
  match Text.readInt 10 atom with
  | none => .error (.unexpectedToken (String.ofList atom))
  | some n =>
    match Text.toInt64 n with
    | .ok w => .ok (.intLiteral w)
    | .error fault => .error (.integerOutOfRange fault)

def beforeBrackets (cs : List Char) : Option (List Char) :=
  match cs.reverse with
  | ']' :: '[' :: r => some r.reverse
  | _ => none

def nameOf (atom : List Char) : Except TypeFault PhpType :=
  match keyword atom with
  | some t => .ok t
  | none =>
    if isClassName atom then .ok (.ofClass (String.ofList atom))
    else .error (.unexpectedToken (String.ofList atom))

/-! ## Pieces and texts -/

theorem length_trim_le (cs : List Char) : (Text.trim cs).length ≤ cs.length := by
  have h1 := (List.dropWhile_suffix (p := Text.isBlank) (l := cs)).length_le
  have h2 := (List.dropWhile_suffix (p := Text.isBlank) (l := (cs.dropWhile Text.isBlank).reverse)).length_le
  simp only [Text.trim, Text.trimEnd, List.length_reverse] at *
  omega

theorem length_beforeBrackets {cs r : List Char} (h : beforeBrackets cs = some r) : r.length < cs.length := by
  unfold beforeBrackets at h
  split at h
  · rename_i s hs
    have hl := congrArg List.length hs
    simp only [List.length_reverse, List.length_cons] at hl
    cases h
    simp only [List.length_reverse]
    omega
  · cases h

theorem length_takeWhile_lt {p : Char → Bool} {c : Char} (hc : p c = false) :
    ∀ {cs : List Char}, c ∈ cs → (cs.takeWhile p).length < cs.length
  | d :: cs, hm => by
    rcases List.mem_cons.1 hm with h | h
    · subst h
      simp [List.takeWhile, hc]
    · by_cases hd : p d = true
      · have := length_takeWhile_lt hc h
        simp [List.takeWhile, hd]
        omega
      · simp [List.takeWhile, hd]

def atom (cs : List Char) : Except TypeFault PhpType :=
  match _h : Text.trim cs with
  | [] => .error .emptyMember
  | '?' :: inner => (atom inner).map .nullable
  | c :: r =>
    if c = '\'' ∨ c = '"' then
      match literal c r with
      | some s => .ok (.stringLiteral (String.ofList s))
      | none => .error (.unterminatedLiteral (String.ofList (c :: r)))
    else if isInteger (c :: r) then integer (c :: r)
    else
      match _hb : beforeBrackets (c :: r) with
      | some element => (atom element).map (fun _ => .array)
      | none =>
        if _ho : '<' ∈ c :: r then
          if (c :: r).getLast? = some '>' then atom ((c :: r).takeWhile (· != '<'))
          else .error (.unbalancedGeneric (String.ofList (c :: r)))
        else nameOf (c :: r)
  termination_by cs.length
  decreasing_by
    · have := length_trim_le cs
      rw [_h, List.length_cons] at this
      omega
    · have := length_trim_le cs
      have := length_beforeBrackets _hb
      rw [_h] at *
      omega
    · have := length_trim_le cs
      have := length_takeWhile_lt (p := (· != '<')) (by decide) _ho
      rw [_h] at *
      omega

/-- The type that a text denotes, the first faulty piece deciding the error. -/
def read (cs : List Char) : Except TypeFault PhpType :=
  match pieces (.plain 0) cs with
  | none => .error .unbalancedBrackets
  | some ps => (ps.mapM atom).map .unionOf

def resolve : TypeResolver := fun text =>
  match read text.toList with
  | .ok t => .ok t
  | .error fault => .error (.unresolvedType text fault)

end PhpDoc
end DynamicMembers
