import DynamicMembers.Text.Characters
import DynamicMembers.Text.Words
/-!
# Plurals — the plural of an English noun, as table names use it

The last capitalised part of a name decides: uncountable nouns stay, irregular ones have their own plural, and the
rest end in `ies`, `es` or `s`.
-/
namespace DynamicMembers
namespace Text

/-- Nouns without a plural form. -/
def uncountable : List String :=
  ["audio", "equipment", "feedback", "fish", "information", "metadata", "money", "news", "series", "sheep", "species"]

/-- Nouns with a plural of their own. -/
def irregular : List (String × String) :=
  [("analysis", "analyses"), ("child", "children"), ("criterion", "criteria"), ("datum", "data"), ("foot", "feet"),
   ("goose", "geese"), ("half", "halves"), ("knife", "knives"), ("leaf", "leaves"), ("life", "lives"), ("man", "men"),
   ("medium", "media"), ("mouse", "mice"), ("ox", "oxen"), ("person", "people"), ("tooth", "teeth"),
   ("wife", "wives"), ("woman", "women")]

/-- The part of a word before its last ASCII capital, and the part from there on; without a capital, all of it. -/
def lastPart (word : List Char) : List Char × List Char :=
  let small := (word.reverse.takeWhile (fun c => !c.isUpper)).reverse
  if small.length = word.length then ([], word)
  else (word.take (word.length - small.length - 1), word.drop (word.length - small.length - 1))

/-- Endings of nouns whose plural ends in `es`. -/
def sibilants : List String := ["s", "x", "z", "ch", "sh"]

def isVowel (c : Char) : Bool := c ∈ ['a', 'e', 'i', 'o', 'u']

/-- The word before a final `y` that follows something other than a vowel. -/
def yStem (word : List Char) : Option (List Char) :=
  match word.reverse with
  | y :: c :: r => if y.toLower = 'y' ∧ isVowel c.toLower = false then some (c :: r).reverse else none
  | _ => none

/-- The plural by ending. -/
def regularPlural (word : List Char) : List Char :=
  match yStem word with
  | some stem => stem ++ "ies".toList
  | none =>
    if sibilants.any (fun s => s.toList.isSuffixOf (word.map Char.toLower)) then word ++ "es".toList
    else word ++ "s".toList

/-- The plural of a name. -/
def plural (word : List Char) : List Char :=
  let (front, last) := lastPart word
  let key := String.ofList (last.map Char.toLower)
  if key ∈ uncountable then word
  else
    match irregular.lookup key with
    | some p => front ++ (if last.head?.any Char.isUpper then pascal p.toList else p.toList)
    | none => regularPlural word

end Text
end DynamicMembers
