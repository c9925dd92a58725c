import DynamicMembers.Pattern.Basic
/-!
# Named sets — the sets of characters that a pattern may name

A set is named by its letter behind a backslash, by a word between colons in a class, or as a general category of
Unicode, whose names count without case, spaces, hyphens and underscores.  Scripts, ages and the other properties of
characters are not among the sets that can be named here.
-/
namespace DynamicMembers
namespace CharSet

open Text (Category)

/-! ## Classes by letter and by word -/

/-- The classes of ASCII that a word between colons names. -/
def asciiClasses : List (String × List (Char × Char)) :=
  [("alnum", [('0', '9'), ('A', 'Z'), ('a', 'z')]), ("alpha", [('A', 'Z'), ('a', 'z')]), ("ascii", [('\x00', '\x7f')]),
   ("blank", [('\t', '\t'), (' ', ' ')]), ("cntrl", [('\x00', '\x1f'), ('\x7f', '\x7f')]), ("digit", [('0', '9')]),
   ("graph", [('!', '~')]), ("lower", [('a', 'z')]), ("print", [(' ', '~')]),
   ("punct", [('!', '/'), (':', '@'), ('[', '\x60'), ('\x7b', '~')]), ("space", [('\t', '\r'), (' ', ' ')]),
   ("upper", [('A', 'Z')]), ("word", [('0', '9'), ('A', 'Z'), ('_', '_'), ('a', 'z')]),
   ("xdigit", [('0', '9'), ('A', 'F'), ('a', 'f')])]

def asciiClass? (word : String) : Option CharSet := (asciiClasses.lookup word).map ofRanges

/-- The sets that a small letter names, over all characters or those of ASCII only. -/
def ofLetter? (unicode : Bool) : Char → Option CharSet
  | 'd' => if unicode then some digit else asciiClass? "digit"
  | 's' => if unicode then some space else asciiClass? "space"
  | 'w' => if unicode then some word else asciiClass? "word"
  | _ => Option.none

/-! ## General categories -/

def marks : List Category := [.nonspacingMark, .spacingMark, .enclosingMark]

def numbers : List Category := [.decimalDigit, .letterNumber, .otherNumber]

def punctuation : List Category :=
  [.connector, .dash, .opening, .closing, .initialQuote, .finalQuote, .otherPunctuation]

def symbols : List Category := [.math, .currency, .modifierSymbol, .otherSymbol]

def separators : List Category := [.space, .line, .paragraph]

def cased : List Category := [.uppercase, .lowercase, .titlecase]

def letters : List Category := cased ++ [.modifierLetter, .otherLetter]

def others : List Category := [.control, .format, .privateUse]

def assigned : CharSet := ofCategories (letters ++ marks ++ numbers ++ punctuation ++ symbols ++ separators ++ others)

/-- The general categories and their groups, each under all of its names. -/
def categoriesByName : List (List String × List Category) :=
  [(["l", "letter"], letters), (["lc", "casedletter"], cased), (["lu", "uppercaseletter"], [.uppercase]),
   (["ll", "lowercaseletter"], [.lowercase]), (["lt", "titlecaseletter"], [.titlecase]),
   (["lm", "modifierletter"], [.modifierLetter]), (["lo", "otherletter"], [.otherLetter]),
   (["m", "mark", "combiningmark"], marks), (["mn", "nonspacingmark"], [.nonspacingMark]),
   (["mc", "spacingmark"], [.spacingMark]), (["me", "enclosingmark"], [.enclosingMark]), (["n", "number"], numbers),
   (["nd", "decimalnumber", "digit"], [.decimalDigit]), (["nl", "letternumber"], [.letterNumber]),
   (["no", "othernumber"], [.otherNumber]), (["p", "punctuation", "punct"], punctuation),
   (["pc", "connectorpunctuation"], [.connector]), (["pd", "dashpunctuation"], [.dash]),
   (["ps", "openpunctuation"], [.opening]), (["pe", "closepunctuation"], [.closing]),
   (["pi", "initialpunctuation"], [.initialQuote]), (["pf", "finalpunctuation"], [.finalQuote]),
   (["po", "otherpunctuation"], [.otherPunctuation]), (["s", "symbol"], symbols), (["sm", "mathsymbol"], [.math]),
   (["sc", "currencysymbol"], [.currency]), (["sk", "modifiersymbol"], [.modifierSymbol]),
   (["so", "othersymbol"], [.otherSymbol]), (["z", "separator"], separators), (["zs", "spaceseparator"], [.space]),
   (["zl", "lineseparator"], [.line]), (["zp", "paragraphseparator"], [.paragraph]),
   (["cc", "control", "cntrl"], [.control]), (["cf", "format"], [.format]), (["co", "privateuse"], [.privateUse])]

/-- A name without what does not count in it: its case, separators, letters outside ASCII, and `is` at its front, but
for a name that would be left with `c` alone. -/
def plainName (name : List Char) : String :=
  let marked := (name.take 2).map Char.toLower = ['i', 's']
  let cs := if marked then name.drop 2 else name
  let plain := (cs.filter fun c => c.toNat < 0x80 && c != ' ' && c != '_' && c != '-').map Char.toLower
  if marked ∧ plain = ['c'] then "isc" else String.ofList plain

def ofCategoryName? (plain : String) : Option CharSet :=
  match plain with
  | "any" => some any
  | "ascii" => some ascii
  | "assigned" => some assigned
  | "cn" | "unassigned" => some (outside assigned)
  | "c" | "other" => some (either (ofCategories others) (outside assigned))
  | _ => (categoriesByName.find? (·.1.contains plain)).map fun e => ofCategories e.2

/-- What stands in front of a mark and behind it, at the first place where it stands. -/
def cutAt (mark : List Char) : List Char → Option (List Char × List Char)
  | [] => Option.none
  | c :: cs =>
    if mark.isPrefixOf (c :: cs) then some ([], (c :: cs).drop mark.length)
    else (cutAt mark cs).map fun (before, behind) => (c :: before, behind)

/-- The set of a property, and whether the name asks for what lies outside it. -/
def ofProperty? (name : List Char) : Option (Bool × CharSet) :=
  let byValue (negated : Bool) : List Char × List Char → Option (Bool × CharSet) := fun (property, value) =>
    if plainName property ∈ ["gc", "generalcategory"] then (ofCategoryName? (plainName value)).map (negated, ·)
    else Option.none
  match cutAt ['!', '='] name, cutAt [':'] name, cutAt ['='] name with
  | some parts, _, _ => byValue true parts
  | _, some parts, _ => byValue false parts
  | _, _, some parts => byValue false parts
  | _, _, _ =>
    if plainName name ∈ ["whitespace", "wspace", "space"] then some (false, space)
    else (ofCategoryName? (plainName name)).map (false, ·)

end CharSet
end DynamicMembers
