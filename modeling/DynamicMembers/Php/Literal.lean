import DynamicMembers.Text.Integer
/-!
# Literals — the values of strings and integers as PHP writes them

A string may carry a `b` in front of its quotes.  In single quotes a backslash counts only before a quote or another
backslash; in double quotes it makes the escapes below, and any other pair is kept as it stands.  An integer is
hexadecimal or binary after `0x` and `0b`, and decimal otherwise.
-/
namespace DynamicMembers
namespace Php
namespace Literal

def withoutMark : List Char → List Char
  | 'b' :: cs => cs
  | 'B' :: cs => cs
  | cs => cs

def between (quote : Char) : List Char → Option (List Char)
  | [] => none
  | c :: cs => if c = quote ∧ cs.getLast? = some quote then some cs.dropLast else none

/-- What single quotes enclose, unescaped. -/
def unescapeSingle : List Char → List Char
  | [] => []
  | '\\' :: '\\' :: cs => '\\' :: unescapeSingle cs
  | '\\' :: '\'' :: cs => '\'' :: unescapeSingle cs
  | c :: cs => c :: unescapeSingle cs

/-- What double quotes enclose, unescaped. -/
def unescapeDouble : List Char → List Char
  | [] => []
  | '\\' :: 'n' :: cs => '\n' :: unescapeDouble cs
  | '\\' :: 't' :: cs => '\t' :: unescapeDouble cs
  | '\\' :: 'r' :: cs => '\r' :: unescapeDouble cs
  | '\\' :: '"' :: cs => '"' :: unescapeDouble cs
  | '\\' :: '\\' :: cs => '\\' :: unescapeDouble cs
  | '\\' :: '$' :: cs => '$' :: unescapeDouble cs
  | '\\' :: c :: cs => '\\' :: c :: unescapeDouble cs
  | c :: cs => c :: unescapeDouble cs

def single (raw : List Char) : Option (List Char) := (between '\'' (withoutMark raw)).map unescapeSingle

def double (raw : List Char) : Option (List Char) := (between '"' (withoutMark raw)).map unescapeDouble

/-- The number that the digits of an integer literal write, in the radix that its start names. -/
def magnitude : List Char → Option Nat
  | '0' :: 'x' :: cs => Text.readNat 16 cs
  | '0' :: 'b' :: cs => Text.readNat 2 cs
  | cs => Text.readNat 10 cs

/-- The value of an integer literal, when it has a 64-bit one; underscores between its digits count for nothing. -/
def integer (raw : List Char) : Option Int64 := do
  let n ← magnitude ((raw.filter (· != '_')).map Char.toLower)
  (Text.toInt64 n).toOption

end Literal
end Php
end DynamicMembers
