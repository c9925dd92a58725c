import DynamicMembers.Text.CaseTable
import DynamicMembers.Text.CategoryTable
import DynamicMembers.Text.Characters
import DynamicMembers.Text.LetterTable
/-!
# Patterns — regular expressions over file names

A pattern is read as a step from a set of positions in a text to the set of positions where it may end.  A text matches
when some position leads somewhere, so a match may start and end anywhere unless the pattern is anchored.
-/
namespace DynamicMembers

/-! ## Characters -/

/-- A set of characters. -/
inductive CharSet where
  | none
  | between (first last : Char)
  | digit
  | space
  | word
  | category (k : Text.Category)
  | either (s t : CharSet)
  | both (s t : CharSet)
  | outside (s : CharSet)
  /-- The characters that differ from one of the set in case at most. -/
  | folded (s : CharSet)
  deriving DecidableEq, Repr

namespace CharSet

open Text (Category)

/-- The categories whose characters all belong to words. -/
def wordCategories : List Category :=
  [.uppercase, .lowercase, .titlecase, .modifierLetter, .otherLetter, .nonspacingMark, .spacingMark, .enclosingMark,
   .decimalDigit, .letterNumber, .connector]

/-- A character of a word: a letter, a mark, a digit, what connects words, or an invisible joiner. -/
def isWordChar (c : Char) : Bool :=
  if c.toNat < 0x80 then c.isAlphanum || c == '_'
  else wordCategories.any (·.has c) || (Text.isAlphanumeric c && !Category.otherNumber.has c) || c.toNat == 0x200c ||
    c.toNat == 0x200d

def has : CharSet → Char → Bool
  | none, _ => false
  | between a b, c => a ≤ c && c ≤ b
  | digit, c => if c.toNat < 0x80 then c.isDigit else Category.decimalDigit.has c
  | space, c => Text.isBlank c
  | word, c => isWordChar c
  | category k, c => k.has c
  | either s t, c => s.has c || t.has c
  | both s t, c => s.has c && t.has c
  | outside s, c => !s.has c
  | folded s, c => (Text.caseVariants c).any s.has

def any : CharSet := outside none

def only (c : Char) : CharSet := between c c

def without (s t : CharSet) : CharSet := both s (outside t)

def ofRanges (ranges : List (Char × Char)) : CharSet := ranges.foldr (fun r s => either (between r.1 r.2) s) none

def ofCategories (ks : List Category) : CharSet := ks.foldr (fun k s => either (category k) s) none

def ascii : CharSet := between '\x00' '\x7f'

end CharSet

/-! ## Positions -/

/-- What is asked of the characters on the two sides of a position: which of them belong to words. -/
inductive WordEdge where
  | boundary
  | inner
  | start
  | stop
  | startHalf
  | stopHalf
  deriving DecidableEq, Repr

def WordEdge.holds (before after : Bool) : WordEdge → Bool
  | boundary => before != after
  | inner => before == after
  | start => !before && after
  | stop => before && !after
  | startHalf => !before
  | stopHalf => !after

/-- A test on a position.  Where lines may end in a carriage return, that and a line feed behind it are one end. -/
inductive Edge where
  | start
  | stop
  | lineStart (crlf : Bool)
  | lineStop (crlf : Bool)
  | word (edge : WordEdge) (asciiOnly : Bool)
  deriving DecidableEq, Repr

/-- The test, given the characters in front of the position and behind it. -/
def Edge.holds (before after : Option Char) : Edge → Bool
  | start => before.isNone
  | stop => after.isNone
  | lineStart false => before.all (· == '\n')
  | lineStart true => before.all fun b => b == '\n' || (b == '\r' && after != some '\n')
  | lineStop false => after.all (· == '\n')
  | lineStop true => after.all fun a => a == '\r' || (a == '\n' && before != some '\r')
  | word e asciiOnly =>
    let inWord (c : Char) := CharSet.isWordChar c && (!asciiOnly || c.toNat < 0x80)
    e.holds (before.any inWord) (after.any inWord)

/-! ## Patterns -/

/-- A regular expression. -/
inductive Pattern where
  | nothing
  | one (set : CharSet)
  | edge (test : Edge)
  | seq (first second : Pattern)
  | alt (first second : Pattern)
  /-- A pattern repeated at least `least` times, and at most `most` times when that is given. -/
  | rep (body : Pattern) (least : Nat) (most : Option Nat)
  deriving DecidableEq, Repr

namespace Pattern

def iterate (f : List Nat → List Nat) : Nat → List Nat → List Nat
  | 0, s => s
  | n + 1, s => iterate f n (f s)

/-- The positions that a step reaches when it is made at most a number of times. -/
def reach (f : List Nat → List Nat) : Nat → List Nat → List Nat
  | 0, s => s
  | n + 1, s => reach f n (s ++ f s).eraseDups

def charBefore (text : Array Char) : Nat → Option Char
  | 0 => none
  | i + 1 => text[i]?

/-- The positions where the pattern may end when it starts at one of the given positions. -/
def step (text : Array Char) : Pattern → List Nat → List Nat
  | nothing, s => s
  | one t, s => s.filterMap fun i => (text[i]?).bind fun c => if t.has c then some (i + 1) else none
  | edge e, s => s.filter fun i => e.holds (charBefore text i) text[i]?
  | seq a b, s => step text b (step text a s)
  | alt a b, s => (step text a s ++ step text b s).eraseDups
  | rep a least most, s =>
    let more := match most with
      | some m => m - least
      | none => text.size + 1
    reach (step text a) more (iterate (step text a) least s)

def isMatch (p : Pattern) (s : String) : Bool :=
  let text := s.toList.toArray
  !(p.step text (List.range (text.size + 1))).isEmpty

end Pattern
end DynamicMembers
