import DynamicMembers.Class.Method
import DynamicMembers.OrderedMap
/-!
# Settings — what an analysis is told besides the classes

Every setting has a default, so that no settings at all are valid settings.
-/
namespace DynamicMembers

/-- A method registered at run time. -/
structure MacroDefinition where
  name : String
  /-- The result type in writing, read when the macro is matched. -/
  returnType : String := "mixed"
  parameters : List Parameter := []
  isStatic : Bool := false
  deriving DecidableEq, Repr

def MacroDefinition.toMethod (d : MacroDefinition) (declaringClass : String) (returnType : PhpType) : Method :=
  { name := d.name, declaringClass, isStatic := d.isStatic, parameters := d.parameters, returnType }

/-- How methods are resolved. -/
structure MethodSettings where
  /-- Classes whose methods may always be called statically. -/
  statics : List String := ["Illuminate\\Database\\Eloquent\\Model"]
  facadeClass : String := "Illuminate\\Support\\Facades\\Facade"
  /-- The class behind each facade. -/
  facades : OrderedMap String String := ∅
  managerClass : String := "Illuminate\\Support\\Manager"
  /-- The default driver of each manager. -/
  managers : OrderedMap String String := ∅
  /-- The classes bound to each contract. -/
  bindings : OrderedMap String (List String) := ∅
  /-- The macros registered on each class. -/
  macros : OrderedMap String (List MacroDefinition) := ∅
  /-- The longest chain of delegations that one query follows. -/
  maxDepth : Nat := 16
  deriving DecidableEq

/-- How the analysis reports what it does. -/
structure LogSettings where
  /-- Where log files go, when not to the usual place. -/
  directory : Option String := none
  level : String := "info"
  deriving DecidableEq, Repr

/-- All settings of an analysis. -/
structure Settings where
  /-- The directory that is searched for migrations. -/
  migrationsPath : String := "database/migrations"
  /-- The pattern that the file name of a migration matches. -/
  filePattern : String := "(?i)\\.php$"
  /-- The base class of storage records. -/
  modelClass : String := "Illuminate\\Database\\Eloquent\\Model"
  /-- The class of dates. -/
  dateClass : String := "Illuminate\\Support\\Carbon"
  methods : MethodSettings := {}
  logging : LogSettings := {}
  deriving DecidableEq

namespace OrderedMap

/-- The entry of a class in a map whose keys are class names: the first whose key denotes that class. -/
def forClass {α : Type} (m : OrderedMap String α) (cls : String) : Option α :=
  (m.entries.find? (fun e => Name.sameClass e.1 cls)).map Prod.snd

/-- The entry of a class is the same under every spelling of its name. -/
theorem forClass_congr {α : Type} {m : OrderedMap String α} {a b : String} (h : Name.classKey a = Name.classKey b) :
    m.forClass a = m.forClass b := by
  simp only [forClass, Name.sameClass, h]

end OrderedMap
end DynamicMembers
