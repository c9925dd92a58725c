import DynamicMembers.Method.Query
import DynamicMembers.Value.PhpDoc
/-!
# Strategies — the ways in which a class comes by a method

A strategy settles a query or passes it on, and may hand it to other classes.  Strategies are put in a sequence with
`orElse`; that grouping does not matter is a fact about all strategies.
-/
namespace DynamicMembers

/-- The way to hand a query to a class, with a hint that static calls are allowed. -/
abbrev Delegation := String → Bool → QueryM Bool

/-- A way to come by a method, given the way to hand the query on. -/
structure Strategy where
  name : String
  handle : QueryContext → Delegation → QueryM Flow

namespace Strategy

/-- Tries a second action when the first passes. -/
def firstOf (a b : QueryM Flow) : QueryM Flow := do
  match ← a with
  | .handled => pure .handled
  | .pass => b

/-- Tries a second strategy when the first passes. -/
def orElse (a b : Strategy) : Strategy where
  name := "OrElse"
  handle x send := firstOf (a.handle x send) (b.handle x send)

/-- Tries actions in order until one settles the query. -/
def firstOfAll : List (QueryM Flow) → QueryM Flow
  | [] => pure .pass
  | a :: as => firstOf a (firstOfAll as)

/-- Hands the query to a class when it is known. -/
def delegate (x : QueryContext) (send : Delegation) (target : String) (hint : Bool) : QueryM Flow :=
  if x.index.knows target then Flow.ofFound <$> send target hint else pure .pass

/-- The class itself and its ancestors. -/
def selfClass : Strategy where
  name := "SelfClass"
  handle x _ := do
    let q ← get
    Flow.ofFound <$> Query.searchOn x q.target.name

/-- The macro that a query finds: on the class first, then on its ancestors in order. -/
def findMacro (x : QueryContext) (q : Query) : Option (String × MacroDefinition) :=
  (q.target.name :: x.index.ancestors q.target.name).findSome? fun owner =>
    (x.settings.macros.forClass owner).bind fun definitions =>
      (definitions.find? (fun d => Name.methodKey d.name = Name.methodKey q.methodName)).map (owner, ·)

/-- Methods registered at run time; they are dispatched statically too. -/
def macros (types : TypeResolver) : Strategy where
  name := "Macros"
  handle x _ := do
    let q ← get
    match findMacro x q with
    | none => pure .pass
    | some (owner, d) =>
      match types d.returnType with
      | .error e => throw e
      | .ok t =>
        set ((q.hold (.added (d.toMethod owner t))).allowStatic true)
        pure .handled

/-- An interface answers with the methods of the classes bound to it. -/
def contracts : Strategy where
  name := "Contracts"
  handle x send := do
    let q ← get
    if q.target.isInterface then
      firstOfAll (((x.settings.bindings.forClass q.target.name).getD []).map (delegate x send · false))
    else pure .pass

/-- A facade forwards static calls to the class behind it. -/
def facades : Strategy where
  name := "Facades"
  handle x send := do
    let q ← get
    if x.index.isSubclass q.target.name x.settings.facadeClass then
      match x.settings.facades.forClass q.target.name with
      | some root => delegate x send root true
      | none => pure .pass
    else pure .pass

/-- A manager forwards unknown calls to its default driver. -/
def managers : Strategy where
  name := "Managers"
  handle x send := do
    let q ← get
    if x.index.isSubclass q.target.name x.settings.managerClass then
      match x.settings.managers.forClass q.target.name with
      | some driver => delegate x send driver false
      | none => pure .pass
    else pure .pass

/-- The classes that are mixed in by annotation. -/
def mixins : Strategy where
  name := "Mixins"
  handle x send := do
    let q ← get
    firstOfAll (q.target.mixins.map (delegate x send · false))

/-- Every way in which a class hands a query to another: contracts, facades, managers, then mixins. -/
def delegation : Strategy := ((contracts.orElse facades).orElse managers).orElse mixins

end Strategy

/-- Strategies in the order in which they are tried. -/
structure Pipeline where
  strategies : List Strategy

namespace Pipeline

/-- The class itself, its macros, then every way to delegate. -/
def standard (types : TypeResolver) : Pipeline := ⟨[.selfClass, .macros types, .delegation]⟩

def size (p : Pipeline) : Nat := p.strategies.length

def isEmpty (p : Pipeline) : Bool := p.strategies.isEmpty

/-- Runs the strategies in order, given the way to hand the query on. -/
def handle (p : Pipeline) (x : QueryContext) (send : Delegation) : QueryM Flow :=
  Strategy.firstOfAll (p.strategies.map (fun s => s.handle x send))

/-- A run of the pipeline that allows a number of nested delegations. -/
def runWithin (p : Pipeline) (x : QueryContext) : Nat → QueryM Flow
  | 0 => p.handle x (fun _ _ => pure false)
  | n + 1 => p.handle x (Query.sendTo x (runWithin p x n))

/-- A run of the pipeline.  Each nested delegation visits one more registered class, so their number bounds the
nesting. -/
def send (p : Pipeline) (x : QueryContext) : QueryM Flow := p.runWithin x (x.index.size + 1)

/-- Hands a query to a class and through the whole pipeline. -/
def sendTo (p : Pipeline) (x : QueryContext) : Delegation := Query.sendTo x (p.send x)

end Pipeline
end DynamicMembers
