import DynamicMembers.Class.Method
import DynamicMembers.OrderedMap
/-!
# Classes — descriptors of classes, interfaces and traits

The declared methods are keyed by their names in lower case, in order of declaration.  The builders strip leading
separators from the names they are given; a descriptor taken over from elsewhere keeps its names as they are.

The record of a class names its table or leaves it to convention, declares casts and further dates, and usually
maintains the two timestamps.
-/
namespace DynamicMembers

/-! ## Storage records -/

/-- The storage side of a record class. -/
structure Record where
  /-- The table, when it is not the conventional one. -/
  table : Option String := none
  /-- Attribute casts, by property. -/
  casts : OrderedMap String String := ∅
  /-- Date attributes besides the timestamps. -/
  dates : List String := []
  /-- The record maintains its creation and update times. -/
  timestamps : Bool := true
  deriving DecidableEq

namespace Record

def timestampFields : List String := ["created_at", "updated_at"]

def castFor (r : Record) (property : String) : Option String := r.casts.get? property

/-- Adds a field at the end unless it is there already. -/
def addField (fields : List String) (field : String) : List String :=
  if field ∈ fields then fields else fields ++ [field]

/-- The date attributes: the timestamps first, then the declared dates, each once. -/
def dateFields (r : Record) : List String :=
  r.dates.foldl addField (if r.timestamps then timestampFields else [])

def isDate (r : Record) (property : String) : Bool := property ∈ r.dateFields

end Record

/-! ## Descriptors -/

inductive ClassKind where
  | cls
  | interface
  | trait
  deriving DecidableEq, Repr

/-- What is known of one class. -/
structure ClassInfo where
  name : String
  kind : ClassKind := .cls
  parent : Option String := none
  interfaces : List String := []
  isAbstract : Bool := false
  /-- The methods declared here, by key. -/
  methods : OrderedMap String Method := ∅
  /-- The classes whose methods are mixed in by annotation. -/
  mixins : List String := []
  record : Option Record := none
  deriving DecidableEq

namespace ClassInfo

def ofName (name : String) : ClassInfo := { name := Name.bare name }

def interfaceOfName (name : String) : ClassInfo := { ofName name with kind := .interface }

def extending (c : ClassInfo) (parent : String) : ClassInfo := { c with parent := some (Name.bare parent) }

def implementing (c : ClassInfo) (interface : String) : ClassInfo :=
  { c with interfaces := c.interfaces ++ [Name.bare interface] }

def mixing (c : ClassInfo) (mixin : String) : ClassInfo := { c with mixins := c.mixins ++ [Name.bare mixin] }

/-- Declares a method here, replacing one of the same key in its place. -/
def declaring (c : ClassInfo) (m : Method) : ClassInfo :=
  { c with methods := c.methods.insert (Name.methodKey m.name) { m with declaringClass := c.name } }

def isInterface (c : ClassInfo) : Bool := c.kind = .interface

def declaredMethod (c : ClassInfo) (name : String) : Option Method := c.methods.get? (Name.methodKey name)

/-- The direct supertypes: the parent first, then the interfaces. -/
def supertypes (c : ClassInfo) : List String := c.parent.toList ++ c.interfaces

def key (c : ClassInfo) : ClassKey := Name.classKey c.name

end ClassInfo
end DynamicMembers
