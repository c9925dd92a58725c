import DynamicMembers.Text.Characters
/-!
# Tokens — the words and signs of PHP code

A token knows the gap before it: blanks, comments, and whatever stands outside the code.  A statement may end where a
gap leaves the code.
-/
namespace DynamicMembers
namespace Php

/-- What stands between two tokens. -/
structure Gap where
  text : List Char := []
  /-- The number of comments, up to where the gap leaves the code if it does. -/
  comments : Nat := 0
  /-- The gap leaves the code. -/
  leaves : Bool := false
  deriving DecidableEq, Repr

inductive TokenKind where
  /-- A keyword or one segment of a name. -/
  | word
  /-- A variable with its sigil. -/
  | var
  | integer
  /-- A string in single quotes. -/
  | single
  /-- A string in double quotes that interpolates nothing. -/
  | double
  /-- Any other literal, whose value is not read. -/
  | literal
  | sign
  /-- The end of the source. -/
  | finish
  deriving DecidableEq, Repr

structure Token where
  gap : Gap
  kind : TokenKind
  text : List Char
  deriving DecidableEq, Repr

namespace Token

/-- The end of a source, where nothing stands. -/
def done : Token := ⟨{}, .finish, []⟩

instance : Inhabited Token := ⟨done⟩

def isSign (t : Token) (s : String) : Bool := t.kind = .sign && t.text = s.toList

/-- A word in lower case; keywords ignore ASCII case. -/
def keyword? (t : Token) : Option String :=
  if t.kind = .word then some (Text.lower (String.ofList t.text)) else none

def isKeyword (t : Token) (w : String) : Bool := t.keyword? = some w

def opens (t : Token) : Bool := t.isSign "(" || t.isSign "[" || t.isSign "\x7b" || t.isSign "#["

def closes (t : Token) : Bool := t.isSign ")" || t.isSign "]" || t.isSign "\x7d"

/-- The source from the first of some tokens to the last, without the gap before the first. -/
def spanText : List Token → List Char
  | [] => []
  | t :: ts => t.text ++ ts.flatMap (fun u => u.gap.text ++ u.text)

end Token
end Php
end DynamicMembers
