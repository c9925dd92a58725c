import DynamicMembers.Files.Tree
/-!
# Walks — all files below a path, links followed

A walk ends with the first fault on its way: a link that leads nowhere, or a link to a directory that the walk is
inside.  Files are listed by name, and those of one name by the path that leads to them.
-/
namespace DynamicMembers
namespace Files

/-- A file that a walk came upon. -/
structure Found where
  /-- The names that led to it, from the start of the walk; none when the walk started at the file itself. -/
  below : List String
  /-- Its file name. -/
  name : String
  place : Place
  deriving DecidableEq, Repr

namespace Tree

/-- The files below a directory, given the directories that the walk is inside and how many it may still enter. -/
def filesBelow (t : Tree) : Nat → List Place → Place → List String → Except FileFault (List Found)
  | 0, _, _, _ => .error .directoryLoop
  | n + 1, inside, here, below => do
    let lists ← (t.namesIn here).mapM fun name => do
      let place := here ++ [name]
      match t.at? place with
      | some (.file _) => pure [⟨below ++ [name], name, place⟩]
      | some .directory => filesBelow t n (here :: inside) place (below ++ [name])
      | some (.link target) =>
        let place ← t.locate target
        match t.at? place with
        | some .directory =>
          if place ∈ here :: inside then throw .directoryLoop
          else filesBelow t n (here :: inside) place (below ++ [name])
        | _ => pure [⟨below ++ [name], name, place⟩]
      | none => pure []
    pure lists.flatten

/-- A walk enters a directory again only through a link to another one, so it is never inside more than this many. -/
def depthLimit (t : Tree) : Nat := (t.entries.size + 2) * (t.entries.size + 2)

/-- The files that a path leads to, itself or below it. -/
def filesUnder (t : Tree) (path : String) : Except FileFault (List Found) := do
  let place ← t.locate path
  match t.at? place with
  | some .directory => t.filesBelow t.depthLimit [] place []
  | _ => pure [⟨[], (Path.components path).getLast?.getD "", place⟩]

end Tree

namespace Found

/-- Lists of names by the first names that differ, the shorter one first when there are none. -/
def namesBefore : List String → List String → Bool
  | [], _ => true
  | _ :: _, [] => false
  | m :: ms, n :: ns => if m = n then namesBefore ms ns else decide (m ≤ n)

/-- Files go by name, and those of one name by the names that led to them. -/
def before (a b : Found) : Bool :=
  if a.name = b.name then namesBefore a.below b.below else decide (a.name ≤ b.name)

def sort (files : List Found) : List Found := files.mergeSort before

end Found
end Files
end DynamicMembers
