import DynamicMembers.Text.CaseTable
import DynamicMembers.Text.LetterTable
import DynamicMembers.Text.Split
/-!
# Words — splitting a name into words, and the two cases that conventions use

A word ends at an underscore, hyphen or space, where a small letter meets a capital, where letters meet digits, and
before the last of several capitals when a small letter follows it.  `snake` joins the words in lower case with
underscores; `pascal` joins them with nothing, each with a capital.
-/
namespace DynamicMembers
namespace Text

/-- A character that stands between words and belongs to none. -/
def isWordGap (c : Char) : Bool := c == '_' || c == '-' || c == ' '

/-- A letter that is the capital of a different small letter. -/
def isCapital (c : Char) : Bool := toUpper c ≠ toLower c && toUpper c = [c]

/-- A letter that is the small letter of a different capital. -/
def isSmall (c : Char) : Bool := toUpper c ≠ toLower c && toLower c = [c]

/-- A word ends between two neighbouring characters, whatever follows. -/
def endsBetween (a b : Char) : Bool :=
  (isSmall a && isCapital b) || ((isSmall a || isCapital a) && b.isDigit) || (a.isDigit && (isSmall b || isCapital b))

/-- A word ends after a character, given what follows it. -/
def endsAfter (a : Char) : List Char → Bool
  | [] => false
  | [b] => endsBetween a b
  | b :: c :: _ => endsBetween a b || (isCapital a && isCapital b && isSmall c)

/-- The words of a name; neighbouring gaps have an empty word between them. -/
def words : List Char → List (List Char)
  | [] => [[]]
  | c :: cs =>
    if isWordGap c then [] :: words cs
    else if endsAfter c cs then [c] :: words cs
    else onHead c (words cs)

/-! ## Lower case of words -/

/-- A sigma is final when a cased letter stands before it and none after it, other marks being skipped. -/
def startsCased (cs : List Char) : Bool :=
  match cs.dropWhile (inRanges caseIgnorableRanges) with
  | [] => false
  | c :: _ => inRanges casedRanges c

/-- The small letter of a character in its word, given what stands before it, nearest first, and after it. -/
def lowerIn (before : List Char) (c : Char) (after : List Char) : List Char :=
  if c = 'Σ' then (if startsCased before && !startsCased after then ['ς'] else ['σ']) else toLower c

/-- A word in lower case, given what stands before it. -/
def lowerFrom (before : List Char) : List Char → List Char
  | [] => []
  | c :: cs => lowerIn before c cs ++ lowerFrom (c :: before) cs

/-- A word in lower case. -/
def lowerWord (w : List Char) : List Char := lowerFrom [] w

/-- A word with a capital, the rest in lower case. -/
def capitalWord : List Char → List Char
  | [] => []
  | c :: cs => toUpper c ++ lowerWord cs

/-- The words of a name in lower case with underscores between them. -/
def snake (name : List Char) : List Char := join '_' ((words name).map lowerWord)

/-- The words of a name with a capital each, without gaps. -/
def pascal (name : List Char) : List Char := (words name).flatMap capitalWord

end Text
end DynamicMembers
