import DynamicMembers.Class.Basic
import DynamicMembers.Error
/-!
# Class indexes — the classes that an analysis knows, one for each class key
-/
namespace DynamicMembers

/-- The registered classes; each stands under the key of its own name. -/
structure ClassIndex where
  classes : OrderedMap ClassKey ClassInfo := ∅
  key_eq : ∀ k c, classes.get? k = some c → c.key = k := by intro k c h; cases h

namespace ClassIndex

def empty : ClassIndex := {}

instance : EmptyCollection ClassIndex := ⟨empty⟩

instance : Inhabited ClassIndex := ⟨empty⟩

/-- Registers a class, replacing the one of the same key. -/
def insert (x : ClassIndex) (c : ClassInfo) : ClassIndex where
  classes := x.classes.insert c.key c
  key_eq := by
    intro k d h
    rw [OrderedMap.get?_insert] at h
    split at h
    · cases h; assumption
    · exact x.key_eq k d h

def ofList (classes : List ClassInfo) : ClassIndex := classes.foldl insert ∅

def size (x : ClassIndex) : Nat := x.classes.size

def isEmpty (x : ClassIndex) : Bool := x.classes.isEmpty

/-- The descriptor of a class, under any spelling of its name. -/
def find? (x : ClassIndex) (name : String) : Option ClassInfo := x.classes.get? (Name.classKey name)

def knows (x : ClassIndex) (name : String) : Bool := (x.find? name).isSome

def get (x : ClassIndex) (name : String) : Answer ClassInfo :=
  match x.find? name with
  | some c => .ok c
  | none => .error (.classNotFound name)

theorem key_of_find? {x : ClassIndex} {name : String} {c : ClassInfo} (h : x.find? name = some c) :
    c.key = Name.classKey name := x.key_eq _ _ h

end ClassIndex
end DynamicMembers
