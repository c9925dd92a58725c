import DynamicMembers.Json.Basic
import DynamicMembers.Text.Integer
/-!
# Reading JSON — the strict grammar, with nothing before or after the value

Numbers have no leading zeros or plus signs, strings hold no raw control characters, and no comma follows the last item.
-/
namespace DynamicMembers
namespace Json

def isGap (c : Char) : Bool := c == ' ' || c == '\n' || c == '\t' || c == '\r'

def skipGaps (cs : List Char) : List Char := cs.dropWhile isGap

/-! ## Strings -/

def hex4 (a b c d : Char) : Option Nat := Text.readNat 16 [a, b, c, d]

def escaped : Char → Option Char
  | '"' => some '"'
  | '\\' => some '\\'
  | '/' => some '/'
  | 'b' => some '\x08'
  | 'f' => some '\x0c'
  | 'n' => some '\n'
  | 'r' => some '\r'
  | 't' => some '\t'
  | _ => none

/-- The code units of a string up to its closing quote, and what follows it; escapes may stand for half a pair. -/
def units : List Char → Option (List Nat × List Char)
  | [] => none
  | '"' :: r => some ([], r)
  | '\\' :: 'u' :: a :: b :: c :: d :: r => do
    let n ← hex4 a b c d
    let (us, rest) ← units r
    pure (n :: us, rest)
  | '\\' :: c :: r => do
    let e ← escaped c
    let (us, rest) ← units r
    pure (e.toNat :: us, rest)
  | c :: r =>
    if c.toNat < 0x20 ∨ c = '\\' then none
    else do
      let (us, rest) ← units r
      pure (c.toNat :: us, rest)

def isHighSurrogate (n : Nat) : Bool := 0xd800 ≤ n && n ≤ 0xdbff

def isLowSurrogate (n : Nat) : Bool := 0xdc00 ≤ n && n ≤ 0xdfff

/-- The characters of code units; none when a surrogate is unpaired. -/
def pairUp : List Nat → Option (List Char)
  | [] => some []
  | [n] => if isHighSurrogate n || isLowSurrogate n then none else some [Char.ofNat n]
  | n :: m :: r =>
    if isHighSurrogate n then
      if isLowSurrogate m then
        (pairUp r).map (Char.ofNat (0x10000 + (n - 0xd800) * 0x400 + (m - 0xdc00)) :: ·)
      else none
    else if isLowSurrogate n then none
    else (pairUp (m :: r)).map (Char.ofNat n :: ·)

/-- The text of a string after its opening quote, and what follows it. -/
def text (cs : List Char) : Option (Option String × List Char) :=
  (units cs).map fun (us, rest) => ((pairUp us).map String.ofList, rest)

/-! ## Numbers -/

/-- The digits at the front, and what follows them. -/
def digits (cs : List Char) : List Char × List Char := (cs.takeWhile Char.isDigit, cs.dropWhile Char.isDigit)

/-- The digits of a fraction, if there is one. -/
def fraction : List Char → Option (List Char × List Char)
  | '.' :: cs =>
    match digits cs with
    | ([], _) => none
    | found => some found
  | cs => some ([], cs)

/-- The value of an exponent, if there is one. -/
def exponent : List Char → Option (Option Int × List Char)
  | c :: cs =>
    if c = 'e' ∨ c = 'E' then
      let (sign, body) := match cs with
        | '-' :: r => (-1, r)
        | '+' :: r => (1, r)
        | r => ((1 : Int), r)
      match digits body with
      | ([], _) => none
      | (ds, rest) => some (some (sign * (Nat.ofDigitChars 10 ds 0 : Int)), rest)
    else some (none, c :: cs)
  | [] => some (none, [])

/-- The least number that rounds to a value beyond the range of floating point. -/
def overflow : Nat := Nat.pow 2 1024 - Nat.pow 2 970

/-- A decimal with the given digits and power of ten is within the range of floating point. -/
def isFinite (ds : List Char) (power : Int) : Bool :=
  let m := Nat.ofDigitChars 10 ds 0
  if m = 0 then true
  else if 400 < power then false
  else if power < -400 - (ds.length : Int) then true
  else if 0 ≤ power then m * Nat.pow 10 power.toNat < overflow
  else m < overflow * Nat.pow 10 (-power).toNat

def isFiniteInt (n : Int) : Bool := n.natAbs < overflow

def unsignedNumber (negative : Bool) (cs : List Char) : Option (Json × List Char) := do
  let (whole, r) := digits cs
  if whole.isEmpty || (whole.head? == some '0' && 1 < whole.length) then none
  else
    let (part, r) ← fraction r
    let (power, r) ← exponent r
    let value : Int := Nat.ofDigitChars 10 whole 0
    if part.isEmpty && power.isNone && !(negative && value == 0) then
      pure (integer (if negative then -value else value), r)
    else pure (real (isFinite (whole ++ part) (power.getD 0 - part.length)), r)

def number : List Char → Option (Json × List Char)
  | '-' :: cs => unsignedNumber true cs
  | cs => unsignedNumber false cs

/-! ## Values -/

mutual

/-- A value and what follows it, of a nesting within the given bound. -/
def value : Nat → List Char → Option (Json × List Char)
  | 0, _ => none
  | n + 1, cs =>
    match cs with
    | 'n' :: 'u' :: 'l' :: 'l' :: r => some (null, r)
    | 't' :: 'r' :: 'u' :: 'e' :: r => some (bool true, r)
    | 'f' :: 'a' :: 'l' :: 's' :: 'e' :: r => some (bool false, r)
    | '"' :: r => (text r).map fun (s, rest) => (string s, rest)
    | '[' :: r =>
      match skipGaps r with
      | ']' :: rest => some (array [], rest)
      | r => (items n r).map fun (l, rest) => (array l, rest)
    | '\x7b' :: r =>
      match skipGaps r with
      | '\x7d' :: rest => some (object [], rest)
      | r => (fields n r).map fun (l, rest) => (object l, rest)
    | cs => number cs

def items : Nat → List Char → Option (List Json × List Char)
  | 0, _ => none
  | n + 1, cs => do
    let (v, r) ← value n (skipGaps cs)
    match skipGaps r with
    | ']' :: rest => pure ([v], rest)
    | ',' :: r =>
      let (vs, rest) ← items n r
      pure (v :: vs, rest)
    | _ => none

def fields : Nat → List Char → Option (List (Option String × Json) × List Char)
  | 0, _ => none
  | n + 1, cs =>
    match skipGaps cs with
    | '"' :: r => do
      let (k, r) ← text r
      match skipGaps r with
      | ':' :: r =>
        let (v, r) ← value n (skipGaps r)
        match skipGaps r with
        | '\x7d' :: rest => pure ([(k, v)], rest)
        | ',' :: r =>
          let (vs, rest) ← fields n r
          pure ((k, v) :: vs, rest)
        | _ => none
      | _ => none
    | _ => none

end

/-- The value that a text writes.  Every step of the reading takes a character, so its length bounds the nesting. -/
def ofText? (s : String) : Option Json :=
  let cs := s.toList
  match value (cs.length + 1) (skipGaps cs) with
  | some (v, rest) => if (skipGaps rest).isEmpty then some v else none
  | none => none

end Json
end DynamicMembers
