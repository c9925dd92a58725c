import DynamicMembers.Class.Index
/-!
# Hierarchies — the ancestors of a class, nearest first

The walk is breadth first over parents and interfaces and meets every class once, so it ends on cyclic hierarchies too.
A supertype that is not registered is still an ancestor, but leads nowhere.  Since each registered class is opened at
most once, as many openings as there are registered classes are enough.
-/
namespace DynamicMembers

/-- A walk under way: the keys met, the classes still to open, and the ancestors in the order met. -/
structure Walk where
  met : List ClassKey
  queue : List ClassInfo
  found : List String

namespace Walk

/-- Meets one supertype: it counts once, and is queued when it is registered. -/
def meet (x : ClassIndex) (w : Walk) (supertype : String) : Walk :=
  let k := Name.classKey supertype
  if k ∈ w.met then w
  else { met := k :: w.met, queue := w.queue ++ (x.find? supertype).toList, found := w.found ++ [supertype] }

/-- Opens the first class of the queue: its supertypes are met in order. -/
def advance (x : ClassIndex) (w : Walk) : Walk :=
  match w.queue with
  | [] => w
  | c :: queue => c.supertypes.foldl (meet x) { w with queue := queue }

def run (x : ClassIndex) : Nat → Walk → Walk
  | 0, w => w
  | n + 1, w => run x n (advance x w)

/-- The walk from a class: the class itself counts as met. -/
def start (x : ClassIndex) (name : String) : Walk :=
  { met := [Name.classKey name], queue := (x.find? name).toList, found := [] }

end Walk

namespace ClassIndex

/-- The ancestors of a class, breadth first, without the class itself. -/
def ancestors (x : ClassIndex) (name : String) : List String :=
  (Walk.run x x.size (Walk.start x name)).found

def isSubclass (x : ClassIndex) (cls ancestor : String) : Bool :=
  (x.ancestors cls).any (Name.sameClass · ancestor)

/-- The method that a class declares or inherits: its own first, then that of the nearest ancestor. -/
def nativeMethod (x : ClassIndex) (c : ClassInfo) (method : String) : Option Method :=
  match c.declaredMethod method with
  | some m => some m
  | none => (x.ancestors c.name).findSome? (fun a => (x.find? a).bind (·.declaredMethod method))

def hasNativeMethod (x : ClassIndex) (c : ClassInfo) (method : String) : Bool := (x.nativeMethod c method).isSome

end ClassIndex
end DynamicMembers
