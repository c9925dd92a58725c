import DynamicMembers.Php.Lexer
import DynamicMembers.Php.Syntax
/-!
# Parsing — the syntax tree of a source

Expressions are read as far as their outermost form matters: operands with their calls are read in full, and one that
stands under an operator, a cast or an assignment is `other` as a whole.  A statement that cannot be read is skipped to
its end, so that every source has a tree.  Every function spends one step of its budget on each call of another; a
budget in proportion to the tokens always suffices (`program`).
-/
namespace DynamicMembers
namespace Php

/-- A reader of tokens, which may fail. -/
abbrev Parser := StateT (List Token) Option

namespace Parser

/-! ## Single tokens -/

/-- The next token but a number of others. -/
def peekAt (n : Nat) : Parser Token := do return ((← get)[n]?).getD .done

def peek : Parser Token := peekAt 0

/-- The next token, unless the code is left before it, where a statement ends. -/
def peekInside : Parser Token := do
  let t ← peek
  return if t.gap.leaves then .done else t

/-- Takes a token; the end of the source stays. -/
def advance : Parser Token := do
  let t ← peek
  if t.kind != .finish then modify List.tail
  return t

/-- Takes a sign if it stands next. -/
def accept (s : String) : Parser Bool := do
  let found := (← peek).isSign s
  if found then let _ ← advance
  return found

/-- Takes a sign that must stand next. -/
def expect (s : String) : Parser Unit := do guard (← accept s)

/-- Takes a word, whatever it is. -/
def anyWord : Parser String := do
  let t ← peek
  guard (t.kind = .word)
  let _ ← advance
  return String.ofList t.text

def spanFrom (start : List Token) : Parser String := do
  return String.ofList (Token.spanText (start.take (start.length - (← get).length)))

def commentsBefore {α : Type} (comment : α) : Parser (List α) := do
  return List.replicate (← peek).gap.comments comment

/-! ## Passing over tokens -/

/-- The tokens from the first on at which to stop, groups being passed over whole; the end of the group that the tokens
stand in stops too. -/
def tokensFrom (stop : Token → Bool) : Nat → List Token → List Token
  | _, [] => []
  | depth, t :: ts =>
    if t.kind = .finish then t :: ts
    else if depth = 0 && stop t then t :: ts
    else if t.opens then tokensFrom stop (depth + 1) ts
    else if t.closes then (if depth = 0 then t :: ts else tokensFrom stop (depth - 1) ts)
    else tokensFrom stop depth ts

def passTo (stop : Token → Bool) : Parser Unit := modify (tokensFrom stop 0)

def passToSign (signs : List String) : Parser Unit := passTo (fun t => signs.any t.isSign)

def passGroup : Parser Unit := do
  guard (← peek).opens
  let _ ← advance
  passTo (fun _ => false)
  let _ ← advance

def endsStatement (t : Token) : Bool := t.gap.leaves || t.isSign ";" || t.kind = .finish

def passStatement : Parser Unit := do
  passTo endsStatement
  let _ ← accept ";"

def semicolon : Parser Unit := do
  guard (endsStatement (← peek))
  let _ ← accept ";"

def afterSegments : List Token → List Token
  | s :: w :: ts => if s.isSign "\\" && w.kind = .word then afterSegments ts else s :: w :: ts
  | ts => ts

/-- A name of one or more segments, as it is written. -/
def name : Parser String := do
  let start ← get
  if !(← peek).isSign "\\" then
    let _ ← anyWord
  modify afterSegments
  guard ((← get).length < start.length)
  spanFrom start

def computedVariable : Nat → Parser Unit
  | 0 => failure
  | n + 1 => do
    if ← accept "$" then computedVariable n
    else if (← peek).kind = .var then
      let _ ← advance
    else passGroup

/-- The name of a member, unless it is computed. -/
def memberName : Parser (Option String) := do
  let t ← peek
  if t.kind = .word then some <$> anyWord
  else
    computedVariable (← get).length
    return none

def passAttributes : Nat → Parser Unit
  | 0 => failure
  | n + 1 => do
    if (← peek).isSign "#[" then
      passGroup
      passAttributes n

def passModifiers : Nat → Parser Unit
  | 0 => failure
  | n + 1 => do
    if (← peek).keyword?.any (["abstract", "final", "readonly"].contains ·) then
      let _ ← advance
      passModifiers n

/-- Passes over the members that lead from a computed class to the one that is meant. -/
def passReference : Nat → Parser Unit
  | 0 => failure
  | n + 1 => do
    let t ← peekInside
    if t.isSign "->" || t.isSign "?->" || t.isSign "::" then
      let _ ← advance
      let _ ← memberName
      passReference n
    else if t.isSign "[" then
      passGroup
      passReference n

def params : Nat → Parser (List Param)
  | 0 => failure
  | n + 1 => do
    let comments ← commentsBefore Param.comment
    if ← accept ")" then return comments
    passTo (fun t => t.kind = .var)
    let v ← peek
    guard (v.kind = .var)
    passToSign [","]
    let _ ← accept ","
    return comments ++ .named (String.ofList v.text) :: (← params n)

def atClause : Parser Bool := do
  let start ← get
  let t ← advance
  if t.isKeyword "elseif" then passGroup
  let found := (t.isKeyword "else" || t.isKeyword "elseif") && !(← peek).isSign ":"
  set start
  return found

/-! ## What tokens tell -/

def prefixSigns : List String := ["!", "~", "+", "-", "++", "--", "@", "&"]

def prefixWords : List String := ["print", "clone", "include", "include_once", "require", "require_once", "throw"]

def infixSigns : List String :=
  ["=", "+=", "-=", "*=", "/=", ".=", "%=", "**=", "??=", "&=", "|=", "^=", "<<=", ">>=", "??", "||", "&&", "|", "^",
   "&", "==", "!=", "<>", "===", "!==", "<=>", "<", ">", "<=", ">=", "<<", ">>", "+", "-", ".", "*", "/", "%", "**",
   "|>"]

def infixWords : List String := ["and", "or", "xor", "instanceof"]

def castTypes : List String :=
  ["array", "binary", "bool", "boolean", "double", "float", "int", "integer", "object", "real", "string", "unset"]

def droppedWords : List String :=
  ["use", "const", "echo", "global", "unset", "goto", "break", "continue", "exit"]

/-- Statements of which nothing is kept, with a head in parentheses and a body. -/
def bodyWords : List String := ["while", "for", "foreach", "switch", "declare"]

def endWords : List String :=
  ["else", "elseif", "endif", "endwhile", "endfor", "endforeach", "endswitch", "enddeclare"]

def isOneOf (t : Token) (ws : List String) : Bool := t.keyword?.any (ws.contains ·)

/-! ## The grammar -/

mutual

def expression : Nat → Parser Expr
  | 0 => failure
  | n + 1 => do
    let t ← peek
    let u ← peekAt 1
    if prefixSigns.any t.isSign || (isOneOf t prefixWords && !u.isSign "::") then
      let _ ← advance
      let _ ← expression n
      return .other
    else if t.isSign "(" && isOneOf u castTypes && (← peekAt 2).isSign ")" then
      let _ ← advance
      let _ ← advance
      let _ ← advance
      let _ ← expression n
      return .other
    else if t.isKeyword "yield" then
      let _ ← advance
      if (← peek).isKeyword "from" then
        let _ ← advance
      let v ← peek
      if endsStatement v || v.closes || v.isSign "," then return .other
      let _ ← expression n
      if ← accept "=>" then
        let _ ← expression n
      return .other
    else
      operators n (← operand n)

def operators : Nat → Expr → Parser Expr
  | 0, _ => failure
  | n + 1, e => do
    let t ← peekInside
    if infixSigns.any t.isSign || isOneOf t infixWords then
      let _ ← advance
      let _ ← expression n
      return .other
    else if t.isSign "?" then
      let _ ← advance
      if !(← accept ":") then
        let _ ← expression n
        expect ":"
      let _ ← expression n
      return .other
    else return e

def operand : Nat → Parser Expr
  | 0 => failure
  | n + 1 => do
    let start ← get
    let t ← peek
    let u ← peekAt 1
    match t.kind with
    | .var =>
      let _ ← advance
      calls n start (.var (String.ofList t.text))
    | .integer =>
      let _ ← advance
      calls n start (.integer (String.ofList t.text))
    | .single =>
      let _ ← advance
      calls n start (.single (String.ofList t.text))
    | .double =>
      let _ ← advance
      calls n start (.double (String.ofList t.text))
    | .literal =>
      let _ ← advance
      calls n start .other
    | .word =>
      if isOneOf t ["true", "false", "null"] && !(u.isSign "(" || u.isSign "::" || u.isSign "\\") then
        let _ ← advance
        calls n start (if t.isKeyword "null" then .null else .bool (t.isKeyword "true"))
      else if t.isKeyword "array" && u.isSign "(" then
        let _ ← advance
        let _ ← advance
        calls n start (.array (← items n ")"))
      else if t.isKeyword "static" && isOneOf u ["function", "fn"] then
        let _ ← advance
        operand n
      else if t.isKeyword "function" then calls n start (← closure n)
      else if t.isKeyword "fn" && (u.isSign "(" || u.isSign "&") then arrow n
      else if t.isKeyword "new" then calls n start (← creation n)
      else if t.isKeyword "match" && u.isSign "(" then
        let _ ← advance
        passGroup
        if (← peekInside).isSign "\x7b" then passGroup
        calls n start .other
      else
        let _ ← name
        calls n start .other
    | .sign =>
      if t.isSign "\\" then
        let _ ← name
        calls n start .other
      else if t.isSign "$" then
        computedVariable start.length
        calls n start .other
      else if t.isSign "(" then
        let _ ← advance
        let commented := 0 < (← peek).gap.comments
        let inner ← expression n
        expect ")"
        calls n start (.paren commented inner)
      else if t.isSign "[" then
        let _ ← advance
        calls n start (.array (← items n "]"))
      else if t.isSign "#[" then
        passGroup
        operand n
      else failure
    | .finish => failure

/-- The calls on an operand, given the tokens from its start on. -/
def calls : Nat → List Token → Expr → Parser Expr
  | 0, _, _ => failure
  | n + 1, start, e => do
    let t ← peekInside
    if t.isSign "->" || t.isSign "?->" then
      let _ ← advance
      let method ← memberName
      if (← peekInside).isSign "(" then
        let _ ← advance
        calls n start (.memberCall e method (← items n ")"))
      else calls n start .other
    else if t.isSign "::" then
      let scope ← spanFrom start
      let _ ← advance
      let isVariable := !((← peek).kind = .word || (← peek).isSign "\x7b")
      let method ← memberName
      if (← peekInside).isSign "(" then
        let _ ← advance
        calls n start (.scopedCall scope method (← items n ")"))
      else if isVariable then calls n start .other
      else calls n start (.classConstant (← spanFrom start))
    else if t.isSign "(" then
      let _ ← advance
      let _ ← items n ")"
      calls n start .other
    else if t.isSign "[" then
      passGroup
      calls n start .other
    else if t.isSign "++" || t.isSign "--" then
      let _ ← advance
      calls n start .other
    else return e

/-- Arguments or elements up to a closing sign; an empty place holds nothing. -/
def items : Nat → String → Parser (List Item)
  | 0, _ => failure
  | n + 1, close => do
    let comments ← commentsBefore Item.comment
    if ← accept close then return comments
    else if ← accept "," then return comments ++ (← items n close)
    else if ← accept "..." then
      if (← peek).isSign close then return comments ++ (← items n close)
      let _ ← expression n
      return comments ++ .value .other :: (← items n close)
    else
      let e ← item n
      return comments ++ .value e :: (← items n close)

def item : Nat → Parser Expr
  | 0 => failure
  | n + 1 => do
    if (← peek).kind = .word && (← peekAt 1).isSign ":" then
      let _ ← advance
      let _ ← advance
    let e ← expression n
    if ← accept "=>" then expression n else return e

def closure : Nat → Parser Expr
  | 0 => failure
  | n + 1 => do
    let _ ← advance
    let _ ← accept "&"
    expect "("
    let ps ← params n
    if (← peek).isKeyword "use" then
      let _ ← advance
      passGroup
    if ← accept ":" then passToSign ["\x7b"]
    return .closure ps (← body n)

def arrow : Nat → Parser Expr
  | 0 => failure
  | n + 1 => do
    let _ ← advance
    let _ ← accept "&"
    expect "("
    let ps ← params n
    if ← accept ":" then passToSign ["=>"]
    expect "=>"
    return .arrow ps (← expression n)

def creation : Nat → Parser Expr
  | 0 => failure
  | n + 1 => do
    let _ ← advance
    passAttributes n
    passModifiers n
    let t ← peek
    if t.isKeyword "class" then
      let _ ← advance
      if (← peek).isSign "(" then passGroup
      return .newAnonymous (← classBody n)
    let mut cls := none
    if t.kind = .word || t.isSign "\\" then
      let isRelative := t.isKeyword "namespace" && (← peekAt 1).isSign "\\"
      let text ← name
      if !isRelative && !(← peekInside).isSign "::" then cls := some text
    else if t.isSign "(" then passGroup
    else computedVariable n
    passReference n
    if (← peekInside).isSign "(" then passGroup
    return .new cls

def body : Nat → Parser (List Stmt)
  | 0 => failure
  | n + 1 => do
    expect "\x7b"
    let ss ← statements n
    expect "\x7d"
    return ss

/-- The members of a class, from its head on. -/
def classBody : Nat → Parser (List Member)
  | 0 => failure
  | n + 1 => do
    passToSign ["\x7b"]
    expect "\x7b"
    let ms ← members n
    expect "\x7d"
    return ms

def members : Nat → Parser (List Member)
  | 0 => failure
  | n + 1 => do
    let comments ← commentsBefore Member.comment
    let t ← peek
    if t.kind = .finish || t.isSign "\x7d" then return comments
    let m ← member n
    return comments ++ m :: (← members n)

def member : Nat → Parser Member
  | 0 => failure
  | n + 1 => do
    passAttributes n
    if !isOneOf (← peek) ["const", "use", "case"] then
      passTo (fun t => t.isKeyword "function" || [";", "\x7b", "="].any t.isSign)
    if (← peek).isKeyword "function" then
      let _ ← advance
      let _ ← accept "&"
      let method ← anyWord
      passGroup
      passToSign ["\x7b", ";"]
      if ← accept ";" then return .method method []
      return .method method (← body n)
    else
      passToSign ["\x7b", ";"]
      if !(← accept ";") then passGroup
      return .other

def statements : Nat → Parser (List Stmt)
  | 0 => failure
  | n + 1 => do
    let comments ← commentsBefore Stmt.comment
    let t ← peek
    if t.kind = .finish || t.isSign "\x7d" || isOneOf t endWords then return comments
    let s ← statement n false <|> skipped
    return comments ++ s :: (← statements n)
where
  /-- A statement that cannot be read. -/
  skipped : Parser Stmt := do
    let _ ← advance
    passStatement
    return .other

/-- A statement, given whether a conditional around it may still take a clause. -/
def statement : Nat → Bool → Parser Stmt
  | 0, _ => failure
  | n + 1, awaited => do
    let t ← peek
    let u ← peekAt 1
    if t.isSign "\x7b" then .block <$> body n
    else if t.isSign ";" then
      let _ ← advance
      return .other
    else if t.isSign "#[" then
      passGroup
      statement n awaited
    else if t.kind = .word && u.isSign ":" then
      let _ ← advance
      let _ ← advance
      return .other
    else if u.isSign "::" then effect n
    else if t.isKeyword "if" then conditional n awaited
    else if t.isKeyword "return" then
      let _ ← advance
      let v ← peek
      let commented := 0 < v.gap.comments
      if endsStatement v then
        semicolon
        return .ret commented none
      let e ← expression n
      semicolon
      return .ret commented (some e)
    else if t.isKeyword "namespace" && !u.isSign "\\" then
      let _ ← advance
      let text ← if u.isSign "\x7b" then pure none else some <$> name
      if (← peek).isSign "\x7b" then return .namespaced text (← body n)
      semicolon
      return .namespaced text []
    else if t.isKeyword "class" || isOneOf t ["abstract", "final", "readonly"] then
      passModifiers n
      guard ((← peek).isKeyword "class")
      let _ ← advance
      let text ← anyWord
      return .classDecl text (← classBody n)
    else if isOneOf t ["interface", "trait", "enum"] && u.kind = .word then declaration
    else if t.isKeyword "function" && (u.kind = .word || (u.isSign "&" && (← peekAt 2).kind = .word)) then declaration
    else if isOneOf t bodyWords && u.isSign "(" then
      let _ ← advance
      passGroup
      if ← accept ":" then
        let _ ← statements n
        let _ ← advance
        semicolon
      else
        let _ ← statement n awaited
      return .other
    else if t.isKeyword "do" then
      let _ ← advance
      let _ ← statement n false
      let _ ← advance
      passGroup
      semicolon
      return .other
    else if t.isKeyword "try" then
      let _ ← advance
      let _ ← body n
      handlers n
      return .other
    else if t.isKeyword "case" then
      let _ ← advance
      let _ ← expression n
      if !(← accept ":") then semicolon
      return .other
    else if isOneOf t droppedWords || (t.isKeyword "static" && u.kind = .var) then
      let _ ← advance
      passStatement
      return .other
    else effect n
where
  /-- The declaration of a function or type whose body is not kept. -/
  declaration : Parser Stmt := do
    passToSign ["\x7b"]
    passGroup
    return .other

def effect : Nat → Parser Stmt
  | 0 => failure
  | n + 1 => do
    let e ← expression n
    semicolon
    return .expression e

/-- What follows the body of a `try`. -/
def handlers : Nat → Parser Unit
  | 0 => failure
  | n + 1 => do
    let t ← peek
    if t.isKeyword "catch" then
      let _ ← advance
      passGroup
      let _ ← body n
      handlers n
    else if t.isKeyword "finally" then
      let _ ← advance
      let _ ← body n

/-- A conditional, given whether one around it may still take a clause.  With colons its bodies reach up to the next
clause, and the last up to the closing word. -/
def conditional : Nat → Bool → Parser Stmt
  | 0, _ => failure
  | n + 1, awaited => do
    let _ ← advance
    passGroup
    if ← accept ":" then
      let first ← statements n
      let cs ← colonClauses n
      guard ((← peek).isKeyword "endif")
      let _ ← advance
      semicolon
      return .conditional first cs
    let first ← branch n true
    if awaited then return .conditional first (← innerClauses n)
    return .conditional first (← clauses n false)

/-- The body of a clause: statements between braces, or one statement. -/
def branch : Nat → Bool → Parser (List Stmt)
  | 0, _ => failure
  | n + 1, awaited => do
    if (← peek).isSign "\x7b" then body n
    else return [← statement n awaited]

/-- The clauses of a conditional inside another.  A clause belongs to the outermost conditional that can take it, so
the inner one takes clauses only when another one follows that the outer one could not take after them. -/
def innerClauses : Nat → Parser (List Clause)
  | 0 => failure
  | n + 1 => do
    let start ← get
    let cs ← clauses n true
    if cs.any isLast && (← atClause) then return cs
    set start
    return []
where
  /-- No clause of the same conditional follows this one. -/
  isLast : Clause → Bool
    | .otherwise _ => true
    | _ => false

/-- The clauses of a conditional without colons, given whether one around it may take a clause after them. -/
def clauses : Nat → Bool → Parser (List Clause)
  | 0, _ => failure
  | n + 1, awaited => do
    if !(← atClause) then return []
    let comments ← commentsBefore Clause.comment
    if (← advance).isKeyword "elseif" then
      passGroup
      let b ← branch n true
      return comments ++ .elseIf b :: (← clauses n awaited)
    else
      let b ← branch n awaited
      return comments ++ [.otherwise b]

def colonClauses : Nat → Parser (List Clause)
  | 0 => failure
  | n + 1 => do
    let comments ← commentsBefore Clause.comment
    let t ← peek
    if t.isKeyword "elseif" then
      let _ ← advance
      passGroup
      expect ":"
      let b ← statements n
      return comments ++ .elseIf b :: (← colonClauses n)
    else if t.isKeyword "else" then
      let _ ← advance
      expect ":"
      let b ← statements n
      return comments ++ [.otherwise b]
    else return []

end

/-- Statements up to the end of the source; what closes a list that was never opened is passed over. -/
def whole (budget : Nat) : Nat → Parser (List Stmt)
  | 0 => return []
  | n + 1 => do
    let ss ← statements budget
    if (← peek).kind = .finish then return ss
    let _ ← advance
    return ss ++ (← whole budget n)

end Parser

/-- The statements of a source.  No call nests deeper than ten times for each token. -/
def program (source : String) : List Stmt :=
  let tokens := Token.ofSource source.toList
  match (Parser.whole (10 * (tokens.length + 1)) (tokens.length + 1)).run tokens with
  | some (ss, _) => ss
  | none => []

end Php
end DynamicMembers
