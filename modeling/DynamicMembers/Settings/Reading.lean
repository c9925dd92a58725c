import DynamicMembers.Files.Tree
import DynamicMembers.Json.Models
import DynamicMembers.Json.Reader
import DynamicMembers.Log.Directive
import DynamicMembers.Text.Characters
/-!
# Reading settings — from their text, or from the file of a project

Settings are refused for the first of their faults: no base class, no depth, a level that selects nothing.  A project
without a settings file has the standard settings.
-/
namespace DynamicMembers

/-- The surroundings that an analysis runs in. -/
structure Host where
  /-- The name of the tool that the analysis is part of. -/
  product : String
  /-- The home directory, when there is one. -/
  home : Option String := none
  deriving DecidableEq, Repr

namespace Host

def settingsFile (h : Host) : String := h.product ++ ".json"

/-- Where log files go when the settings do not say. -/
def logDirectory (h : Host) : String := Path.join (Path.join (h.home.getD ".") ("." ++ h.product)) "logs"

end Host

def LogSettings.directoryOn (s : LogSettings) (h : Host) : String := s.directory.getD h.logDirectory

namespace Settings

/-- The first fault of settings. -/
def fault? (s : Settings) : Option SettingsFault :=
  if Text.isAllBlank s.modelClass then some .emptyModelClass
  else if s.methods.maxDepth = 0 then some .zeroDepth
  else if Log.isSelection s.logging.level then none
  else some (.invalidLogLevel s.logging.level)

def ofText (text : String) : Answer Settings := do
  let s ← Json.decodeText Settings.ofJson text
  match s.fault? with
  | none => pure s
  | some fault => throw (.settings fault)

/-- The settings of a project: those of the settings file at its root, or the standard ones. -/
def ofProject (h : Host) (tree : Files.Tree) (root : String) : Answer Settings :=
  let path := Path.join root h.settingsFile
  if tree.isFile path then do ofText (← Files.answer (tree.read path)) else pure {}

def migrationsDirectory (s : Settings) (root : String) : String := Path.join root s.migrationsPath

end Settings
end DynamicMembers
