import DynamicMembers.Value.Basic
import DynamicMembers.Text.Integer
/-!
# Types as text — the spelling that type annotations use

String literals stand in single quotes with a backslash before each quote and backslash, classes carry one leading
separator, and the members of a union are joined by bars.
-/
namespace DynamicMembers
namespace PhpType

def escape : List Char → List Char
  | [] => []
  | c :: cs => if c = '\\' ∨ c = '\'' then '\\' :: c :: escape cs else c :: escape cs

mutual

def chars : PhpType → List Char
  | mixed => "mixed".toList
  | null => "null".toList
  | bool => "bool".toList
  | int => "int".toList
  | float => "float".toList
  | string => "string".toList
  | array => "array".toList
  | object => "object".toList
  | boolLiteral true => "true".toList
  | boolLiteral false => "false".toList
  | intLiteral n => Text.writeInt n.toInt
  | stringLiteral s => '\'' :: (escape s.toList ++ ['\''])
  | named name => '\\' :: name.toList
  | union l => joined l

def joined : List PhpType → List Char
  | [] => []
  | [t] => chars t
  | t :: l => chars t ++ '|' :: joined l

end

def text (t : PhpType) : String := String.ofList t.chars

end PhpType
end DynamicMembers
