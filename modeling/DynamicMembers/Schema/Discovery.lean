import DynamicMembers.Files.Walk
import DynamicMembers.Pattern.Reader
import DynamicMembers.Schema.Fold
/-!
# Discovery — the schema that the migrations in a file tree build

The migrations are the files below a directory whose names match a pattern, in the order of their names.  A directory
that is not there holds no migrations; any fault on the way there, in reading or in parsing, is the fault of the whole.
-/
namespace DynamicMembers
namespace Schema

open Code (Stmt)
open Files (Found Tree)

abbrev MigrationParser := String → Answer (List Stmt)

def filePattern (text : String) : Answer Pattern :=
  match Pattern.ofText? text with
  | some p => .ok p
  | none => .error (.settings .invalidFilePattern)

/-- The migrations among files, in the order in which they are folded. -/
def migrationsAmong (pattern : Pattern) (files : List Found) : List Found :=
  Found.sort (files.filter (pattern.isMatch ·.name))

def discover (tree : Tree) (root : String) (pattern : Pattern) : Answer (List Found) :=
  (Files.answer (tree.filesUnder root)).map (migrationsAmong pattern)

def readMigration (tree : Tree) (parse : MigrationParser) (file : Found) : Answer (List Stmt) := do
  parse (← Files.answer (tree.textAt file.place))

def load (tree : Tree) (root : String) (pattern : Pattern) (parse : MigrationParser) : Answer Registry :=
  if tree.isDirectory root then do
    let files ← discover tree root pattern
    let migrations ← files.mapM (readMigration tree parse)
    pure (State.ofMigrations migrations).registry
  else pure ∅

end Schema
end DynamicMembers
