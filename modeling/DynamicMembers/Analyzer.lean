import DynamicMembers.Method.Answers
import DynamicMembers.Php.Lowering
import DynamicMembers.Property.Resolver
import DynamicMembers.Schema.Discovery
import DynamicMembers.Settings.Reading
/-!
# The analyzer — properties and methods of one project

An analyzer answers from the classes and settings it was built for and from the migrations that stand in the file tree
when the schema is loaded.  What it remembers is a value of its own, and invalidating forgets all of it.
-/
namespace DynamicMembers

/-- Reads migrations written in PHP. -/
def Php.migrationParser : Schema.MigrationParser := fun source => .ok (statements source)

/-- How the questions about a project are answered. -/
structure Analyzer where
  properties : PropertyRules
  methods : MethodResolver
  /-- The directory of the migrations. -/
  migrations : String
  /-- The pattern of their names. -/
  pattern : Pattern

/-- What an analyzer remembers. -/
structure AnalyzerMemory where
  properties : PropertyState := {}
  methods : MethodMemory := ∅

namespace AnalyzerMemory

instance : Inhabited AnalyzerMemory := ⟨{}⟩

/-- Forgets the schema and every answer. -/
def invalidate (m : AnalyzerMemory) : AnalyzerMemory := { properties := m.properties.rebuild }

end AnalyzerMemory

namespace Analyzer

/-- The analyzer of a project, which is refused only for its pattern. -/
def build (root : String) (settings : Settings) (index : ClassIndex) : Answer Analyzer := do
  let pattern ← Schema.filePattern settings.filePattern
  pure {
    properties := .ofSettings index settings
    methods := .standard index settings.methods PhpDoc.resolve
    migrations := settings.migrationsDirectory root
    pattern }

def source (a : Analyzer) (tree : Files.Tree) : SchemaSource := fun _ =>
  Schema.load tree a.migrations a.pattern Php.migrationParser

/-- The schema, loaded now unless it is remembered. -/
def schema (a : Analyzer) (tree : Files.Tree) (m : AnalyzerMemory) : Answer Schema.Registry × AnalyzerMemory :=
  let (answer, s) := m.properties.schema (a.source tree)
  (answer, { m with properties := s })

def lookupProperty (a : Analyzer) (tree : Files.Tree) (m : AnalyzerMemory) (c : ClassInfo) (property : String) :
    Answer PropertyLookup × AnalyzerMemory :=
  let (answer, s) := a.properties.lookup (a.source tree) m.properties c property
  (answer, { m with properties := s })

def hasProperty (a : Analyzer) (tree : Files.Tree) (m : AnalyzerMemory) (c : ClassInfo) (property : String) :
    Answer Bool × AnalyzerMemory :=
  let (answer, s) := a.properties.hasProperty (a.source tree) m.properties c property
  (answer, { m with properties := s })

def getProperty (a : Analyzer) (tree : Files.Tree) (m : AnalyzerMemory) (c : ClassInfo) (property : String) :
    Answer ModelProperty × AnalyzerMemory :=
  let (answer, s) := a.properties.getProperty (a.source tree) m.properties c property
  (answer, { m with properties := s })

def resolveMethod (a : Analyzer) (m : AnalyzerMemory) (c : ClassInfo) (method : String) :
    Answer (Option MethodResolution) × AnalyzerMemory :=
  let (answer, s) := a.methods.resolve m.methods c method
  (answer, { m with methods := s })

def hasMethod (a : Analyzer) (m : AnalyzerMemory) (c : ClassInfo) (method : String) : Answer Bool × AnalyzerMemory :=
  let (answer, s) := a.methods.hasMethod m.methods c method
  (answer, { m with methods := s })

def getMethod (a : Analyzer) (m : AnalyzerMemory) (c : ClassInfo) (method : String) :
    Answer MethodReflection × AnalyzerMemory :=
  let (answer, s) := a.methods.getMethod m.methods c method
  (answer, { m with methods := s })

end Analyzer
end DynamicMembers
