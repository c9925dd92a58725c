import DynamicMembers.Value.Union
/-!
# Methods — what a declaration says, and what a query answers with

A query answers with a declared method, with a macro registered at run time, or with a declared method decorated so
that it may be called statically.
-/
namespace DynamicMembers

/-- Who may call a method. -/
inductive Visibility where
  | pub
  | prot
  | priv
  deriving DecidableEq, Repr

/-- A parameter of a method. -/
structure Parameter where
  name : String
  type : PhpType := .mixed
  isOptional : Bool := false
  isVariadic : Bool := false
  deriving DecidableEq, Repr

/-- A method as it is declared. -/
structure Method where
  name : String
  /-- The class that declares it, which need not be the class it was looked up on. -/
  declaringClass : String
  visibility : Visibility := .pub
  isStatic : Bool := false
  parameters : List Parameter := []
  returnType : PhpType := .mixed
  deriving DecidableEq, Repr

/-- A method as a query reports it. -/
inductive MethodReflection where
  | native (method : Method)
  | added (method : Method)
  /-- The same method, reporting itself as static. -/
  | staticForwarding (inner : MethodReflection)
  deriving DecidableEq, Repr

namespace MethodReflection

/-- The declaration under every decoration. -/
def method : MethodReflection → Method
  | native m => m
  | added m => m
  | staticForwarding inner => inner.method

def name (r : MethodReflection) : String := r.method.name

def declaringClass (r : MethodReflection) : String := r.method.declaringClass

def visibility (r : MethodReflection) : Visibility := r.method.visibility

def isPublic (r : MethodReflection) : Bool := r.visibility = .pub

/-- A decorated method is static whatever its declaration says. -/
def isStatic : MethodReflection → Bool
  | staticForwarding _ => true
  | r => r.method.isStatic

def parameters (r : MethodReflection) : List Parameter := r.method.parameters

def returnType (r : MethodReflection) : PhpType := r.method.returnType

def isNative : MethodReflection → Bool
  | native _ => true
  | _ => false

/-- Decorates a declared method to be static; macros and decorated methods stay as they are. -/
def forwarded : MethodReflection → MethodReflection
  | native m => staticForwarding (native m)
  | r => r

def inner : MethodReflection → Option MethodReflection
  | staticForwarding r => some r
  | _ => none

/-- Forwarding a second time changes nothing. -/
@[simp] theorem forwarded_forwarded (r : MethodReflection) : r.forwarded.forwarded = r.forwarded := by
  cases r <;> rfl

@[simp] theorem isNative_forwarded (r : MethodReflection) : r.forwarded.isNative = false := by
  cases r <;> rfl

end MethodReflection
end DynamicMembers
