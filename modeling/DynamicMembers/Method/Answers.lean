import DynamicMembers.Method.Strategy
/-!
# Method answers — queries with their answers remembered

An answer is remembered for its class and method, a failure is not.
-/
namespace DynamicMembers

/-- The answer to one method query. -/
structure MethodResolution where
  method : MethodReflection
  /-- The method may be called statically on the class asked. -/
  staticAllowed : Bool
  deriving DecidableEq, Repr

/-- How method queries are answered. -/
structure MethodResolver where
  context : QueryContext
  pipeline : Pipeline

/-- The answers remembered so far, by class and method. -/
abbrev MethodMemory := OrderedMap (ClassKey × String) (Option MethodResolution)

namespace MethodResolver

def standard (index : ClassIndex) (settings : MethodSettings) (types : TypeResolver) : MethodResolver :=
  ⟨⟨index, settings⟩, .standard types⟩

def resolutionOf (q : Query) : Option MethodResolution := q.held.map (⟨·, q.staticAllowed⟩)

/-- The answer to a query, found afresh. -/
def compute (r : MethodResolver) (c : ClassInfo) (method : String) : Answer (Option MethodResolution) :=
  let (result, q) := (r.pipeline.send r.context).runOn (Query.start c method)
  result.map (fun _ => resolutionOf q)

/-- The answer to a query, remembered or found, and what is remembered afterwards. -/
def resolve (r : MethodResolver) (memory : MethodMemory) (c : ClassInfo) (method : String) :
    Answer (Option MethodResolution) × MethodMemory :=
  let key := (c.key, Name.methodKey method)
  match memory.get? key with
  | some answer => (.ok answer, memory)
  | none =>
    match r.compute c method with
    | .ok answer => (.ok answer, memory.insert key answer)
    | .error e => (.error e, memory)

def hasMethod (r : MethodResolver) (memory : MethodMemory) (c : ClassInfo) (method : String) :
    Answer Bool × MethodMemory :=
  let (answer, memory) := r.resolve memory c method
  (answer.map Option.isSome, memory)

/-- The method of a class, which is an error when there is none. -/
def getMethod (r : MethodResolver) (memory : MethodMemory) (c : ClassInfo) (method : String) :
    Answer MethodReflection × MethodMemory :=
  let (answer, memory) := r.resolve memory c method
  (match answer with
    | .ok (some resolution) => .ok resolution.method
    | .ok none => .error (.invalidState (.methodNotResolvable c.name method))
    | .error e => .error e, memory)

end MethodResolver
end DynamicMembers
