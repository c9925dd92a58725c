import DynamicMembers.Error
import DynamicMembers.OrderedMap
import DynamicMembers.Text.Split
/-!
# File trees — files, directories and links below one root directory

A tree is a map from places to what stands there, a place being the list of names that leads to it from the root
through directories alone.  A path may lead through links; a link names its target from the root of the tree.  An
absolute path leads out of it.
-/
namespace DynamicMembers

/-! ## Paths -/

namespace Path

def isAbsolute (p : String) : Bool := p.toList.head? == some '/'

/-- A path under another; an absolute path stands for itself, and a separator is put between only where none is. -/
def join (root p : String) : String :=
  if isAbsolute p then p
  else if root.toList.getLast?.any (· != '/') then root ++ "/" ++ p
  else root ++ p

def isStay (w : List Char) : Bool := w.isEmpty || w == ['.']

/-- The names on a path; empty ones and dots for the directory itself count for nothing. -/
def components (p : String) : List String :=
  ((Text.split '/' p.toList).filter (!isStay ·)).map String.ofList

def ofNames (names : List String) : String := "/".intercalate names

def spelled (p : String) : String :=
  if isAbsolute p then p else String.ofList (Text.join '/' ((Text.split '/' p.toList).dropWhile isStay))

/-- The path of something below a directory, spelled as the directory is. -/
def under (root : String) : List String → String
  | [] => spelled root
  | names => join (spelled root) (ofNames names)

end Path

/-! ## Trees -/

namespace Files

/-- What stands at a place. -/
inductive Entry where
  /-- A file with its text, when its bytes are text. -/
  | file (text : Option String)
  /-- A link, with the path of its target. -/
  | link (target : String)
  | directory
  deriving DecidableEq, Repr

abbrev Place := List String

/-- All that stands below the root. -/
structure Tree where
  entries : OrderedMap Place Entry := ∅

/-- Where a path leads. -/
inductive Target where
  | found (place : Place)
  /-- Nothing stands there; the place is where a file written to the path would stand. -/
  | missing (place : Place)
  deriving DecidableEq, Repr

/-- How far a path leads through directories. -/
inductive Stride where
  | arrived (target : Target)
  /-- A link stands on the way, and the path goes on from the root by these names. -/
  | led (names : List String)
  deriving DecidableEq, Repr

namespace Tree

instance : Inhabited Tree := ⟨{}⟩

/-- What stands at a place; the root is a directory. -/
def at? (t : Tree) (p : Place) : Option Entry := if p.isEmpty then some .directory else t.entries.get? p

def namesIn (t : Tree) (p : Place) : List String :=
  t.entries.keys.filterMap fun q => if q.dropLast = p then q.getLast? else none

/-! ## Following paths -/

/-- Follows names from a directory up to the first link. -/
def stride (t : Tree) : Place → List String → Except FileFault Stride
  | here, [] => .ok (.arrived (.found here))
  | here, name :: names =>
    if name = ".." then stride t here.dropLast names
    else
      match t.at? (here ++ [name]) with
      | none => .ok (.arrived (.missing (here ++ name :: names)))
      | some .directory => stride t (here ++ [name]) names
      | some (.link target) =>
        if Path.isAbsolute target then .error .notFound else .ok (.led (Path.components target ++ names))
      | some (.file _) => if names.isEmpty then .ok (.arrived (.found (here ++ [name]))) else .error .notDirectory

def linkLimit : Nat := 40

/-- Follows names from the root, through at most a number of links. -/
def follow (t : Tree) : Nat → List String → Except FileFault Target
  | links, names => do
    match ← t.stride [] names with
    | .arrived target => pure target
    | .led names =>
      match links with
      | 0 => throw .tooManyLinks
      | n + 1 => follow t n names

/-- Where a path leads.  An absolute path leads out of the tree, where nothing stands. -/
def target (t : Tree) (path : String) : Except FileFault Target :=
  if Path.isAbsolute path then .error .notFound else t.follow linkLimit (Path.components path)

def locate (t : Tree) (path : String) : Except FileFault Place := do
  match ← t.target path with
  | .found place => pure place
  | .missing _ => throw .notFound

def entry (t : Tree) (path : String) : Except FileFault Entry := do
  match t.at? (← t.locate path) with
  | some e => pure e
  | none => throw .notFound

def isDirectory (t : Tree) (path : String) : Bool :=
  match t.entry path with
  | .ok .directory => true
  | _ => false

def isFile (t : Tree) (path : String) : Bool :=
  match t.entry path with
  | .ok (.file _) => true
  | _ => false

def textAt (t : Tree) (p : Place) : Except FileFault String :=
  match t.at? p with
  | some (.file (some text)) => .ok text
  | some (.file none) => .error .invalidText
  | some .directory => .error .isDirectory
  | _ => .error .notFound

def read (t : Tree) (path : String) : Except FileFault String := do t.textAt (← t.locate path)

/-! ## Changing a tree -/

/-- Makes every directory on the way to a place, the place itself included. -/
def makeDirectories (t : Tree) (p : Place) : Tree :=
  (List.range p.length).foldl (fun t n =>
    let q := p.take (n + 1)
    if (t.at? q).isSome then t else ⟨t.entries.insert q .directory⟩) t

/-- Puts something at a place, with the directories that lead there. -/
def put (t : Tree) (p : Place) (e : Entry) : Tree :=
  ⟨(t.makeDirectories p.dropLast).entries.insert p e⟩

/-- The place where a new entry of a path stands: the directory is followed through links, the last name is not. -/
def placeFor (t : Tree) (path : String) : Except FileFault Place := do
  let names := Path.components path
  match names.getLast? with
  | none => throw .isDirectory
  | some name =>
    match ← t.follow linkLimit names.dropLast with
    | .found place => pure (place ++ [name])
    | .missing place => pure (place ++ [name])

/-- Writes a file, replacing the one that the path leads to. -/
def write (t : Tree) (path : String) (text : Option String) : Except FileFault Tree := do
  match ← t.target path with
  | .missing place => pure (t.put place (.file text))
  | .found place => if t.at? place = some .directory then throw .isDirectory else pure (t.put place (.file text))

def makeDirectory (t : Tree) (path : String) : Except FileFault Tree := do
  match ← t.target path with
  | .found _ => pure t
  | .missing place => pure (t.makeDirectories place)

def link (t : Tree) (path target : String) : Except FileFault Tree := do
  pure (t.put (← t.placeFor path) (.link target))

/-- Removes what stands at a path, and all that stands below it; a link is removed and not followed. -/
def remove (t : Tree) (path : String) : Except FileFault Tree := do
  let place ← t.placeFor path
  if (t.at? place).isSome then
    pure ⟨(t.entries.keys.filter (place.isPrefixOf ·)).foldl (fun m q => m.erase q) t.entries⟩
  else throw .notFound

end Tree

def answer {α : Type} : Except FileFault α → Answer α
  | .ok a => .ok a
  | .error fault => .error (.file fault)

end Files
end DynamicMembers
