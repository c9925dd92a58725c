import DynamicMembers.Php.Token
/-!
# Lexing — the tokens of a source

Code stands between tags; what stands outside them belongs to the gaps.  A line comment ends with its line or where the
code ends.  Strings are taken whole, interpolated code in them included.
-/
namespace DynamicMembers
namespace Php

/-! ## Characters -/

def isSpace (c : Char) : Bool :=
  c == ' ' || (0x9 ≤ c.toNat && c.toNat ≤ 0xd) || c.toNat == 0xa0 || c.toNat == 0x200b || c.toNat == 0x2060 ||
  c.toNat == 0xfeff

def isNewline (c : Char) : Bool := c == '\n' || c == '\r'

/-- A character that starts a name: an ASCII letter, an underscore or any letter or sign outside ASCII. -/
def isNameStart (c : Char) : Bool := c.isAlpha || c == '_' || (0x80 ≤ c.toNat && !isSpace c)

def isNamePart (c : Char) : Bool := isNameStart c || c.isDigit

def isDigitPart (c : Char) : Bool := c.isDigit || c == '_'

/-! ## Gaps -/

namespace Gap

def after (cs : List Char) (r : Gap × List Char) : Gap × List Char := ({ r.1 with text := cs ++ r.1.text }, r.2)

def afterComment (cs : List Char) (r : Gap × List Char) : Gap × List Char :=
  ({ r.1 with text := cs ++ r.1.text, comments := r.1.comments + 1 }, r.2)

def afterCode (r : Gap × List Char) : Gap × List Char :=
  ({ text := '?' :: '>' :: r.1.text, comments := 0, leaves := true }, r.2)

def isLanguage (cs : List Char) : Bool := cs.map Char.toLower = "php".toList

mutual

/-- The gap that code goes on with, and what follows it. -/
def inCode : List Char → Gap × List Char
  | '/' :: '/' :: cs => afterComment ['/', '/'] (inLine cs)
  | '/' :: '*' :: cs => afterComment ['/', '*'] (inBlock cs)
  | '#' :: '[' :: cs => ({}, '#' :: '[' :: cs)
  | '#' :: cs => afterComment ['#'] (inLine cs)
  | '?' :: '>' :: cs => afterCode (outside cs)
  | c :: cs => if isSpace c then after [c] (inCode cs) else ({}, c :: cs)
  | [] => ({}, [])

def inLine : List Char → Gap × List Char
  | '?' :: '>' :: cs => afterCode (outside cs)
  | '?' :: c :: cs => after ['?', c] (if isNewline c then inCode cs else inLine cs)
  | c :: cs => after [c] (if isNewline c then inCode cs else inLine cs)
  | [] => ({}, [])

def inBlock : List Char → Gap × List Char
  | '*' :: '/' :: cs => after ['*', '/'] (inCode cs)
  | c :: cs => after [c] (inBlock cs)
  | [] => ({}, [])

/-- What stands outside the code, up to the next opening tag and on. -/
def outside : List Char → Gap × List Char
  | '<' :: '?' :: '=' :: cs => after ['<', '?', '='] (inCode cs)
  | '<' :: '?' :: a :: b :: c :: cs =>
    if isLanguage [a, b, c] then after ['<', '?', a, b, c] (inCode cs)
    else after ['<', '?'] (inCode (a :: b :: c :: cs))
  | '<' :: '?' :: cs => after ['<', '?'] (inCode cs)
  | c :: cs => after [c] (outside cs)
  | [] => ({}, [])

end

end Gap

/-! ## Strings -/

def taking (cs : List Char) (r : List Char × List Char) : List Char × List Char := (cs ++ r.1, r.2)

/-- A string up to its closing quote, given what follows the opening one. -/
def upToQuote (quote : Char) : List Char → List Char × List Char
  | '\\' :: c :: cs => taking ['\\', c] (upToQuote quote cs)
  | c :: cs => if c = quote then ([c], cs) else taking [c] (upToQuote quote cs)
  | [] => ([], [])

/-- Where a scan of an interpolating string stands. -/
inductive Inside where
  | text
  /-- In code between braces: how many are open, and the quote of the string that the scan is in there. -/
  | code (depth : Nat) (quote : Option Char)
  deriving DecidableEq, Repr

/-- A string up to its closing quote, and whether anything is interpolated in it. -/
structure Interpolated where
  interpolates : Bool
  taken : List Char
  rest : List Char

namespace Interpolated

def after (cs : List Char) (s : Interpolated) : Interpolated := { s with taken := cs ++ s.taken }

def noted (s : Interpolated) : Interpolated := { s with interpolates := true }

def inCode (depth : Nat) (c : Char) : Inside :=
  if c = '\x7b' then .code (depth + 1) none
  else if c = '\x7d' then (if depth ≤ 1 then .text else .code (depth - 1) none)
  else if c = '"' ∨ c = '\'' then .code depth (some c)
  else .code depth none

def read (quote : Char) : Inside → List Char → Interpolated
  | _, [] => ⟨false, [], []⟩
  | .text, '\\' :: c :: cs => after ['\\', c] (read quote .text cs)
  | .text, '\x7b' :: '$' :: cs => after ['\x7b', '$'] (read quote (.code 1 none) cs).noted
  | .text, '$' :: '\x7b' :: cs => after ['$', '\x7b'] (read quote (.code 1 none) cs).noted
  | .text, '$' :: c :: cs =>
    if isNameStart c then after ['$', c] (read quote .text cs).noted else after ['$'] (read quote .text (c :: cs))
  | .text, c :: cs => if c = quote then ⟨false, [c], cs⟩ else after [c] (read quote .text cs)
  | .code d none, c :: cs => after [c] (read quote (inCode d c) cs)
  | .code d (some q), '\\' :: c :: cs => after ['\\', c] (read quote (.code d (some q)) cs)
  | .code d (some q), c :: cs => after [c] (read quote (.code d (if c = q then none else some q)) cs)

end Interpolated

/-! ## Heredocs -/

/-- The name that closes a heredoc, and the rest of its first line. -/
def heredocName (cs : List Char) : Option (List Char × List Char) :=
  let cs := cs.dropWhile (fun c => c == ' ' || c == '\t')
  let quote := cs.head?.filter (fun c => c == '"' || c == '\'')
  let cs := if quote.isSome then cs.drop 1 else cs
  let name := cs.takeWhile isNamePart
  let cs := cs.dropWhile isNamePart
  if name.head?.any isNameStart then
    match quote with
    | none => some (name, cs)
    | some q => if cs.head? = some q then some (name, cs.drop 1) else none
  else none

def closesHeredoc (name line : List Char) : Bool :=
  let line := line.dropWhile isSpace
  name.isPrefixOf line && !((line.drop name.length).head?.any isNamePart)

/-- A heredoc up to its closing name, from inside a line or from the start of one. -/
def upToName (name : List Char) : Bool → List Char → List Char × List Char
  | _, [] => ([], [])
  | atStart, c :: cs =>
    if atStart && closesHeredoc name (c :: cs) then
      let length := ((c :: cs).takeWhile isSpace).length + name.length
      ((c :: cs).take length, (c :: cs).drop length)
    else taking [c] (upToName name (isNewline c) cs)

/-! ## Tokens -/

def exponent? : List Char → Option (List Char × List Char)
  | e :: cs =>
    if e = 'e' ∨ e = 'E' then
      let sign := (cs.head?.filter (fun c => c == '+' || c == '-')).toList
      let digits := cs.drop sign.length
      if digits.head?.any Char.isDigit then
        some (e :: sign ++ digits.takeWhile isDigitPart, digits.dropWhile isDigitPart)
      else none
    else none
  | [] => none

/-- A number in front of its exponent, if it has one. -/
def withExponent (kind : TokenKind) (taken rest : List Char) : TokenKind × List Char × List Char :=
  match exponent? rest with
  | some (e, rest) => (.literal, taken ++ e, rest)
  | none => (kind, taken, rest)

/-- A number: an integer of some radix, or anything with a point or an exponent. -/
def number (cs : List Char) : TokenKind × List Char × List Char :=
  match cs with
  | '0' :: c :: r =>
    if c.toLower ∈ ['x', 'b', 'o'] then (.integer, '0' :: c :: r.takeWhile isNamePart, r.dropWhile isNamePart)
    else decimalNumber cs
  | _ => decimalNumber cs
where
  decimalNumber (cs : List Char) : TokenKind × List Char × List Char :=
    let digits := cs.takeWhile isDigitPart
    match cs.dropWhile isDigitPart with
    | '.' :: r => withExponent .literal (digits ++ '.' :: r.takeWhile isDigitPart) (r.dropWhile isDigitPart)
    | r => withExponent .integer digits r

/-- The signs of more than one character, longer ones first. -/
def signs : List (List Char) :=
  ["<<=", ">>=", "===", "!==", "<=>", "**=", "??=", "...", "?->",
   "->", "=>", "::", "++", "--", "==", "!=", "<>", "<=", ">=", "&&", "||", "??", "+=", "-=", "*=", "/=", ".=", "%=",
   "&=", "|=", "^=", "<<", ">>", "**", "|>", "#["].map String.toList

/-- A sign, the longest that stands there. -/
def sign (c : Char) (cs : List Char) : TokenKind × List Char × List Char :=
  match signs.find? (·.isPrefixOf (c :: cs)) with
  | some s => (.sign, s, (c :: cs).drop s.length)
  | none => (.sign, [c], cs)

/-- A string that may interpolate, given what stands before its text. -/
def interpolating (kind : TokenKind) (mark : List Char) (quote : Char) (cs : List Char) :
    TokenKind × List Char × List Char :=
  let s := Interpolated.read quote .text cs
  (if s.interpolates then .literal else kind, mark ++ s.taken, s.rest)

/-- A heredoc, or the signs that it would start with. -/
def heredoc (mark : List Char) (cs : List Char) : Option (TokenKind × List Char × List Char) :=
  (heredocName cs).map fun (name, rest) =>
    let opening := cs.take (cs.length - rest.length)
    let (taken, rest) := upToName name false rest
    (.literal, mark ++ opening ++ taken, rest)

def word (cs : List Char) : TokenKind × List Char × List Char :=
  (.word, cs.takeWhile isNamePart, cs.dropWhile isNamePart)

/-- The token that starts with a character, and what follows it. -/
def scan (c : Char) (cs : List Char) : TokenKind × List Char × List Char :=
  if c = '$' then
    if cs.head?.any isNameStart then (.var, '$' :: cs.takeWhile isNamePart, cs.dropWhile isNamePart)
    else (.sign, ['$'], cs)
  else if c = '\'' then
    let (taken, rest) := upToQuote c cs
    (.single, c :: taken, rest)
  else if c = '"' then interpolating .double [c] c cs
  else if c = '\x60' then interpolating .literal [c] c cs
  else if c.isDigit || (c == '.' && cs.head?.any Char.isDigit) then number (c :: cs)
  else if c = '<' ∧ cs.take 2 = ['<', '<'] then (heredoc [c, '<', '<'] (cs.drop 2)).getD (sign c cs)
  else if c = 'b' ∨ c = 'B' then
    match cs with
    | '\'' :: r =>
      let (taken, rest) := upToQuote '\'' r
      (.single, c :: '\'' :: taken, rest)
    | '"' :: r => interpolating .double [c, '"'] '"' r
    | '<' :: '<' :: '<' :: r => (heredoc [c, '<', '<', '<'] r).getD (word (c :: cs))
    | _ => word (c :: cs)
  else if isNameStart c then word (c :: cs)
  else sign c cs

namespace Token

/-- The tokens after a gap, at most as many as there are steps. -/
def after : Nat → Gap × List Char → List Token
  | n + 1, (gap, c :: cs) =>
    let (kind, text, rest) := scan c cs
    ⟨gap, kind, text⟩ :: after n (Gap.inCode rest)
  | _, (gap, _) => [⟨gap, .finish, []⟩]

/-- The tokens of a source, the last of them its end.  Each takes a character, which bounds their number. -/
def ofSource (cs : List Char) : List Token := after cs.length (Gap.outside cs)

end Token
end Php
end DynamicMembers
