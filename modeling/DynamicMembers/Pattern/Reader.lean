import DynamicMembers.Pattern.Sets
import DynamicMembers.Text.Integer
/-!
# Reading patterns — the notation of regular expressions

Literals and their escapes, `.`, anchors and word boundaries, classes with ranges, nesting and set operations, groups
with names or flags, alternatives and repetitions.  Flags hold for what follows them in their group; with `x` among them
blanks and comments count for nothing.  Without `u` all sets are sets of ASCII, and what would go beyond it is refused.
No bound is set on the size of a pattern.
-/
namespace DynamicMembers
namespace Pattern

/-- What is switched on at a place of a pattern. -/
structure Flags where
  ignoreCase : Bool := false
  multiLine : Bool := false
  dotAll : Bool := false
  crlf : Bool := false
  verbose : Bool := false
  unicode : Bool := true

namespace Flags

/-- Switches a flag by its letter.  What a repetition prefers is a flag too, but does not matter to matching. -/
def set (on : Bool) (f : Flags) : Char → Option Flags
  | 'i' => some { f with ignoreCase := on }
  | 'm' => some { f with multiLine := on }
  | 's' => some { f with dotAll := on }
  | 'R' => some { f with crlf := on }
  | 'x' => some { f with verbose := on }
  | 'u' => some { f with unicode := on }
  | 'U' => some f
  | _ => none

/-- The flags after letters that switch some on and, behind a hyphen, some off; no letter may stand twice. -/
def change (f : Flags) (letters : List Char) : Option Flags := do
  guard (decide letters.Nodup && letters.getLast? != some '-')
  let on ← (letters.takeWhile (· != '-')).foldlM (set true) f
  ((letters.dropWhile (· != '-')).drop 1).foldlM (set false) on

/-- A set as it is to be matched, with or without regard to case. -/
def fold (f : Flags) (s : CharSet) : CharSet :=
  if f.ignoreCase then (if f.unicode then .folded s else .both (.folded s) .ascii) else s

def negateIf (f : Flags) (negated : Bool) (s : CharSet) : Option CharSet :=
  if negated then (if f.unicode then some (.outside s) else none) else some s

def literal (f : Flags) (c : Char) : CharSet :=
  if f.unicode || c.toNat < 0x80 then f.fold (.only c) else .only c

/-- Any character, but no end of a line unless a flag allows it. -/
def dot (f : Flags) : Option CharSet :=
  if f.unicode then
    some (if f.dotAll then .any else .outside (if f.crlf then .either (.only '\r') (.only '\n') else .only '\n'))
  else none

end Flags

/-- Where the reading of a pattern stands. -/
structure Reading where
  rest : List Char
  flags : Flags := {}
  /-- The names of the groups so far. -/
  names : List (List Char) := []

abbrev Reader := StateT Reading Option

namespace Reader

/-! ## Characters -/

def peek : Reader (Option Char) := do return (← get).rest.head?

def next : Reader Char := do
  match (← get).rest with
  | [] => failure
  | c :: cs =>
    modify fun r => { r with rest := cs }
    return c

/-- Takes a text if it stands next. -/
def accept (s : String) : Reader Bool := do
  let found := s.toList.isPrefixOf (← get).rest
  if found then modify fun r => { r with rest := r.rest.drop s.toList.length }
  return found

/-- Takes a text that must stand next. -/
def expect (s : String) : Reader Unit := do guard (← accept s)

/-- Takes characters as long as they pass a test. -/
def takeWhile (p : Char → Bool) : Reader (List Char) := do
  let taken := (← get).rest.takeWhile p
  modify fun r => { r with rest := r.rest.dropWhile p }
  return taken

/-- What follows blanks and comments, from inside a comment or outside. -/
def afterBlanks : Bool → List Char → List Char
  | _, [] => []
  | true, c :: cs => afterBlanks (c != '\n') cs
  | false, c :: cs =>
    if Text.isBlank c then afterBlanks false cs else if c = '#' then afterBlanks true cs else c :: cs

/-- Passes over blanks and comments where they count for nothing. -/
def blanks : Reader Unit :=
  modify fun r => if r.flags.verbose then { r with rest := afterBlanks false r.rest } else r

/-- The characters up to a closing brace, which is taken too. -/
def upToBrace : Nat → Reader (List Char)
  | 0 => failure
  | n + 1 => do
    blanks
    let c ← next
    if c = '\x7d' then return [] else return c :: (← upToBrace n)

/-- What braces hold whose opening one has been taken. -/
def braced : Reader (List Char) := do upToBrace ((← get).rest.length + 1)

/-! ## Escapes -/

def charOf (digits : List Char) : Option Char := do
  let n ← Text.readNat 16 digits
  guard (n < 0xd800 || (0xdfff < n && n < 0x110000))
  return Char.ofNat n

def hexDigits : Nat → Reader (List Char)
  | 0 => return []
  | n + 1 => do
    let c ← next
    blanks
    return c :: (← hexDigits n)

/-- A character by its number, in braces or with as many digits as the letter of the escape says. -/
def numbered (letter : Char) : Reader Char := do
  blanks
  if ← accept "\x7b" then charOf (← braced)
  else
    let c ← charOf (← hexDigits (if letter = 'x' then 2 else if letter = 'u' then 4 else 8))
    -- two digits write a byte, which is no character of its own outside ASCII
    guard (letter != 'x' || (← get).flags.unicode || c.toNat < 0x80)
    return c

def property (negated : Bool) : Reader CharSet := do
  blanks
  let f := (← get).flags
  guard f.unicode
  let name ← if ← accept "\x7b" then braced else
    let c ← next
    guard (c != '\\')
    pure [c]
  let (outside, s) ← CharSet.ofProperty? name
  f.negateIf (negated != outside) (f.fold s)

def wordEdges : List (String × WordEdge) :=
  [("start", .start), ("end", .stop), ("start-half", .startHalf), ("end-half", .stopHalf)]

/-- The edge that `\b` asks for: one named in braces, unless these are the bounds of a repetition, else any. -/
def wordEdge : Reader WordEdge := do
  let r ← get
  match r.rest with
  | '\x7b' :: inside =>
    let inside := if r.flags.verbose then afterBlanks false inside else inside
    if inside.head?.all (fun c => c.isAlpha || c == '-') then
      let _ ← next
      wordEdges.lookup (String.ofList (← braced))
    else return .boundary
  | _ => return .boundary

/-- What an escape stands for. -/
inductive Escape where
  | char (c : Char)
  | set (s : CharSet)
  | edge (e : Edge)

/-- Control characters by their letters. -/
def controls : List (Char × Char) :=
  [('a', '\x07'), ('f', '\x0c'), ('t', '\t'), ('n', '\n'), ('r', '\r'), ('v', '\x0b')]

/-- An escape whose backslash has been taken: a set, an edge or a character by its letter, or punctuation itself. -/
def escape : Reader Escape := do
  let c ← next
  let f := (← get).flags
  if c ∈ ['x', 'u', 'U'] then return .char (← numbered c)
  if c ∈ ['p', 'P'] then return .set (← property (c = 'P'))
  if c ∈ ['d', 's', 'w', 'D', 'S', 'W'] then
    return .set (← f.negateIf c.isUpper (← CharSet.ofLetter? f.unicode c.toLower))
  if c = 'b' then return .edge (.word (← wordEdge) (!f.unicode))
  match c with
  | 'A' => return .edge .start
  | 'z' => return .edge .stop
  | 'B' => return .edge (.word .inner (!f.unicode))
  | '<' => return .edge (.word .start (!f.unicode))
  | '>' => return .edge (.word .stop (!f.unicode))
  | _ =>
    match controls.lookup c with
    | some d => return .char d
    | none =>
      guard (c.toNat < 0x80 && !c.isAlphanum)
      return .char c

/-! ## Classes -/

/-- A member of a class, as a character where it is one. -/
def member : Reader (Option Char × CharSet) := do
  let c ← next
  let f := (← get).flags
  match ← if c = '\\' then escape else pure (.char c) with
  | .char c =>
    guard (f.unicode || c.toNat < 0x80)
    return (some c, .only c)
  | .set s => return (none, s)
  | .edge _ => failure

/-- A member of a class or a range of them. -/
def range : Reader CharSet := do
  let (first, s) ← member
  blanks
  let r ← get
  match r.rest with
  | '-' :: behind =>
    let behind := if r.flags.verbose then afterBlanks false behind else behind
    if behind.head?.any (fun c => c == ']' || c == '-') then return s
    else
      let _ ← next
      blanks
      let (last, _) ← member
      match first, last with
      | some a, some b =>
        guard (a ≤ b)
        return .between a b
      | _, _ => failure
  | _ => return s

/-- A class by its name between colons, with what follows it; whether it is negated. -/
def namedClass : List Char → Option ((Bool × CharSet) × List Char)
  | '[' :: ':' :: cs =>
    let negated := cs.head? = some '^'
    let cs := if negated then cs.drop 1 else cs
    match CharSet.asciiClass? (String.ofList (cs.takeWhile (· != ':'))), cs.dropWhile (· != ':') with
    | some s, ':' :: ']' :: rest => some ((negated, s), rest)
    | _, _ => none
  | _ => none

def hyphens : Nat → Reader Bool
  | 0 => failure
  | n + 1 => do
    if ← accept "-" then
      blanks
      let _ ← hyphens n
      return true
    else return false

/-- The front of a class, where hyphens stand for themselves and, failing these, a closing bracket does. -/
def front (n : Nat) : Reader CharSet := do
  if ← hyphens n then return .only '-'
  if ← accept "]" then
    blanks
    return .only ']'
  return .none

mutual

/-- A class whose opening bracket has been taken. -/
def bracket : Nat → Reader CharSet
  | 0 => failure
  | n + 1 => do
    blanks
    let negated ← accept "^"
    blanks
    let s ← operands n id (← front n)
    let f := (← get).flags
    f.negateIf negated (f.fold s)

/-- The members of a class up to its end: those read so far, to which the operation that stands in front of them, if
any, is still to be applied, and those that follow. -/
def operands : Nat → (CharSet → CharSet) → CharSet → Reader CharSet
  | 0, _, _ => failure
  | n + 1, apply, s => do
    blanks
    let f := (← get).flags
    let whole := f.fold (apply s)
    if ← accept "]" then return apply s
    else if ← accept "&&" then operands n (fun t => .both whole (f.fold t)) .none
    else if ← accept "--" then operands n (fun t => .without whole (f.fold t)) .none
    else if ← accept "~~" then
      operands n (fun t => .either (.without whole (f.fold t)) (.without (f.fold t) whole)) .none
    else
      match namedClass (← get).rest with
      | some ((negated, t), rest) =>
        modify fun r => { r with rest }
        operands n apply (.either s (← f.negateIf negated (f.fold t)))
      | none =>
        if ← accept "[" then
          let t ← bracket n
          operands n apply (.either s t)
        else
          let t ← range
          operands n apply (.either s t)

end

/-! ## Repetitions -/

def digits : Nat → Reader (List Char)
  | 0 => return []
  | n + 1 => do
    if (← peek).any Char.isDigit then
      let c ← next
      blanks
      return c :: (← digits n)
    else return []

/-- A count of 32 bits, with blanks around it. -/
def count : Reader Nat := do
  let _ ← takeWhile Text.isBlank
  let n ← Text.readNat 10 (← digits (← get).rest.length)
  let _ ← takeWhile Text.isBlank
  guard (n < 0x100000000)
  return n

/-- The bounds of a repetition whose opening brace has been taken. -/
def bounds : Reader (Nat × Option Nat) := do
  blanks
  let least ← count
  let most ← if ← accept "," then
      blanks
      if (← peek) = some '\x7d' then pure none else some <$> count
    else pure (some least)
  expect "\x7d"
  guard (most.all (least ≤ ·))
  blanks
  return (least, most)

/-- A pattern with the repetitions behind it; which of several matches they prefer does not matter. -/
def repeated : Nat → Pattern → Reader Pattern
  | 0, _ => failure
  | n + 1, p => do
    blanks
    let again (p : Pattern) : Reader Pattern := do
      let _ ← accept "?"
      repeated n p
    if ← accept "*" then again (.rep p 0 none)
    else if ← accept "+" then again (.rep p 1 none)
    else if ← accept "?" then again (.rep p 0 (some 1))
    else if ← accept "\x7b" then
      let (least, most) ← bounds
      again (.rep p least most)
    else return p

/-! ## Groups -/

def isNameChar (c : Char) : Bool := c == '_' || c == '.' || c == '[' || c == ']' || Text.isAlphanumeric c

/-- A character that a name may begin with: an underscore or anything alphabetic. -/
def isNameFront (c : Char) : Bool :=
  c == '_' || (Text.isAlphanumeric c && !Text.Category.decimalDigit.has c && !Text.Category.otherNumber.has c)

/-- The name of a group up to its closing mark, new among the names. -/
def name : Reader Unit := do
  let name ← takeWhile (· != '>')
  expect ">"
  guard (name.head?.any isNameFront && name.all isNameChar && !(← get).names.contains name)
  modify fun r => { r with names := name :: r.names }

/-- What a group opens with, its bracket included; false when it only changes flags for what follows it. -/
def opening : Reader Bool := do
  expect "("
  blanks
  if ← accept "?P<" then
    name
    return true
  else if ← accept "?<" then
    name
    return true
  else if ← accept "?" then
    let letters ← takeWhile fun c => c != ':' && c != ')'
    let flags ← (← get).flags.change letters
    modify fun r => { r with flags }
    let grouped := (← next) == ':'
    guard (grouped || !letters.isEmpty)
    return grouped
  else return true

/-! ## Patterns -/

/-- One item: a class, an anchor, an escape or a character. -/
def item (n : Nat) : Reader Pattern := do
  let c ← next
  let f := (← get).flags
  match c with
  | '[' => return .one (← bracket n)
  | '.' => return .one (← f.dot)
  | '^' => return .edge (if f.multiLine then .lineStart f.crlf else .start)
  | '$' => return .edge (if f.multiLine then .lineStop f.crlf else .stop)
  | '\\' =>
    match ← escape with
    | .char c => return .one (f.literal c)
    | .set s => return .one s
    | .edge e => return .edge e
  | _ =>
    guard (c ∉ ['*', '+', '?', '\x7b'])
    return .one (f.literal c)

mutual

def alternatives : Nat → Reader Pattern
  | 0 => failure
  | n + 1 => do
    let p ← sequence n
    if ← accept "|" then return .alt p (← alternatives n) else return p

/-- Items up to a bar or the end of the group. -/
def sequence : Nat → Reader Pattern
  | 0 => failure
  | n + 1 => do
    blanks
    match ← peek with
    | none | some '|' | some ')' => return .nothing
    | some '(' =>
      match ← group n with
      | none => sequence n
      | some p => return .seq (← repeated n p) (← sequence n)
    | some _ => return .seq (← repeated n (← item n)) (← sequence n)

/-- A group, with the flags as they were behind it; nothing where only flags are changed. -/
def group : Nat → Reader (Option Pattern)
  | 0 => failure
  | n + 1 => do
    let outer := (← get).flags
    if ← opening then
      let p ← alternatives n
      expect ")"
      modify fun r => { r with flags := outer }
      return some p
    else return none

end

end Reader

/-- The pattern that a text writes.  Every few steps of the reading take a character, which bounds their number. -/
def ofText? (s : String) : Option Pattern :=
  let cs := s.toList
  match (Reader.alternatives (4 * cs.length + 8)).run { rest := cs } with
  | some (p, ⟨[], _, _⟩) => some p
  | _ => none

end Pattern
end DynamicMembers
