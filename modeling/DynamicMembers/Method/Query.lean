import DynamicMembers.Class.Hierarchy
import DynamicMembers.Settings
/-!
# Queries — one search for a method, handed from class to class

A query is bound to a class and a method name.  Handing it to another class forks a query bound to that class; what the
fork finds is merged back and the binding of the outer query never changes.  Every class is searched at most once in
one query, so a query ends however classes delegate to each other.
-/
namespace DynamicMembers

/-- A search for a method. -/
structure Query where
  /-- The class that is searched. -/
  target : ClassInfo
  methodName : String
  /-- The method found so far. -/
  held : Option MethodReflection := none
  /-- The method may be called statically on the class first asked; once allowed, it stays so. -/
  staticAllowed : Bool := false
  /-- The number of delegations that led here. -/
  depth : Nat := 0
  /-- The classes that this search has been sent through. -/
  visited : List ClassKey
  deriving DecidableEq

/-- What a query is asked against. -/
structure QueryContext where
  index : ClassIndex
  settings : MethodSettings

/-- Whether a strategy settled the query. -/
inductive Flow where
  | pass
  | handled
  deriving DecidableEq, Repr

/-- A settled query is handled. -/
def Flow.ofFound (found : Bool) : Flow := if found then .handled else .pass

/-- An action on a query; the query it leaves is kept even when it fails. -/
abbrev QueryM := ExceptT InferenceError (StateM Query)

/-- Runs an action on a query. -/
def QueryM.runOn {α : Type} (act : QueryM α) (q : Query) : Answer α × Query := (ExceptT.run act).run q

/-- An action given by what it answers and what it leaves. -/
def QueryM.ofFunction {α : Type} (f : Query → Answer α × Query) : QueryM α := ExceptT.mk (fun q => f q)

namespace Query

/-- The query that asks a class for a method. -/
def start (target : ClassInfo) (methodName : String) : Query :=
  { target, methodName, visited := [target.key] }

/-- The method that the query holds, when it is asked for. -/
def reflection (q : Query) : Answer MethodReflection :=
  match q.held with
  | some m => .ok m
  | none => .error (.invalidState (.noMethodFound q.target.name q.methodName))

/-- Allows static calls, or leaves the permission as it is. -/
def allowStatic (q : Query) (allowed : Bool) : Query := { q with staticAllowed := q.staticAllowed || allowed }

def hold (q : Query) (m : MethodReflection) : Query := { q with held := some m }

/-- The method that a class declares or inherits, looked up under the query's method name. -/
def searchOn (x : QueryContext) (cls : String) : QueryM Bool :=
  .ofFunction fun q =>
    match x.index.get cls with
    | .error e => (.error e, q)
    | .ok c =>
      match x.index.nativeMethod c q.methodName with
      | some m => (.ok true, q.hold (.native m))
      | none => (.ok false, q)

/-- The query forked for another class, its permission taken over. -/
def fork (q : Query) (target : ClassInfo) : Query :=
  { target, methodName := q.methodName, staticAllowed := q.staticAllowed, depth := q.depth + 1,
    visited := target.key :: q.visited }

/-- Takes back what a fork found: its permission counts only when it found a method. -/
def merge (q : Query) (forked : Query) : Query :=
  match forked.held with
  | some m => { q with held := some m, staticAllowed := q.staticAllowed || forked.staticAllowed }
  | none => q

/-- The query with the method it holds made static, and whether it holds one. -/
def settle (q : Query) : Bool × Query :=
  match q.held with
  | some m => (true, q.hold m.forwarded)
  | none => (false, q)

end Query

namespace MethodSettings

/-- The methods of a class may always be called statically. -/
def alwaysStatic (s : MethodSettings) (index : ClassIndex) (cls : String) : Bool :=
  s.statics.any fun entry => Name.sameClass entry cls || index.isSubclass cls entry

end MethodSettings

namespace Query

/-- Hands the query to a class, given the way to run the fork; a method found so is reported as static. -/
def sendTo (x : QueryContext) (run : QueryM Flow) (target : String) (hint : Bool) : QueryM Bool :=
  .ofFunction fun q =>
    if x.settings.maxDepth ≤ q.depth then (.ok false, q)
    else
      match x.index.get target with
      | .error e => (.error e, q)
      | .ok c =>
        if c.key ∈ q.visited then (.ok false, q)
        else
          let asked := q.allowStatic (hint || (!q.staticAllowed && x.settings.alwaysStatic x.index c.name))
          let (result, forked) := run.runOn (asked.fork c)
          let back := { asked with visited := forked.visited }
          match result with
          | .error e => (.error e, back)
          | .ok _ =>
            let (found, settled) := (back.merge forked).settle
            (.ok found, settled)

end Query
end DynamicMembers
