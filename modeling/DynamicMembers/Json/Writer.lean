import DynamicMembers.Json.Reader
/-!
# Writing JSON — the compact form

Nothing stands between the parts of a value.  In a string only the quote, the backslash and control characters are
escaped.  What a tree does not keep, the digits of a number with a fraction and the halves of an unpaired surrogate, is
written as some text of the same value.
-/
namespace DynamicMembers
namespace Json

/-! ## Strings -/

/-- A character as it is written inside a string. -/
def escape : Char → List Char
  | '"' => ['\\', '"']
  | '\\' => ['\\', '\\']
  | '\x08' => ['\\', 'b']
  | '\x0c' => ['\\', 'f']
  | '\n' => ['\\', 'n']
  | '\r' => ['\\', 'r']
  | '\t' => ['\\', 't']
  | c =>
    if c.toNat < 0x20 then ['\\', 'u', '0', '0', Nat.digitChar (c.toNat / 16), Nat.digitChar (c.toNat % 16)]
    else [c]

def writeText : Option String → List Char
  | some s => '"' :: (s.toList.flatMap escape ++ ['"'])
  | none => ['"', '\\', 'u', 'd', '8', '0', '0', '"']

/-! ## Values -/

mutual

def writeChars : Json → List Char
  | null => ['n', 'u', 'l', 'l']
  | bool true => ['t', 'r', 'u', 'e']
  | bool false => ['f', 'a', 'l', 's', 'e']
  | integer n => Text.writeInt n
  | real true => ['0', '.', '0']
  | real false => ['1', 'e', '9', '9', '9']
  | string s => writeText s
  | array l => '[' :: (writeItems l ++ [']'])
  | object l => '\x7b' :: (writeFields l ++ ['\x7d'])

def writeItems : List Json → List Char
  | [] => []
  | [v] => writeChars v
  | v :: l => writeChars v ++ ',' :: writeItems l

def writeFields : List (Option String × Json) → List Char
  | [] => []
  | [(k, v)] => writeText k ++ ':' :: writeChars v
  | (k, v) :: l => writeText k ++ ':' :: (writeChars v ++ ',' :: writeFields l)

end

def write (j : Json) : String := String.ofList (writeChars j)

example : write (obj [("kind", str "Class"), ("data", str "A\\B")]) =
    "\x7b\"kind\":\"Class\",\"data\":\"A\\\\B\"\x7d" := by
  decide

end Json
end DynamicMembers
