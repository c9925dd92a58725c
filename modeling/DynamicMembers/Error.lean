import DynamicMembers.Text.Integer
/-!
# Errors — the causes for which a query has no answer

Each constructor is one cause; `message` is the only place that words it.
-/
namespace DynamicMembers

/-- Why a text denotes no type. -/
inductive TypeFault where
  | unbalancedBrackets
  | emptyMember
  | unterminatedLiteral (atom : String)
  | integerOutOfRange (fault : Text.RangeFault)
  | unbalancedGeneric (atom : String)
  | unexpectedToken (atom : String)
  /-- A host's own resolver turned the text down. -/
  | refused (reason : String)
  deriving DecidableEq, Repr

/-- A query whose result was asked for but never produced. -/
inductive StateFault where
  | propertyNotResolved (cls property : String)
  | methodNotResolvable (cls method : String)
  | noMethodFound (cls method : String)
  deriving DecidableEq, Repr

/-- Why settings are refused. -/
inductive SettingsFault where
  | emptyModelClass
  | zeroDepth
  | invalidLogLevel (level : String)
  | invalidFilePattern
  deriving DecidableEq, Repr

/-- Why the file tree could not be read. -/
inductive FileFault where
  | notFound
  | notDirectory
  | isDirectory
  | tooManyLinks
  | directoryLoop
  | invalidText
  deriving DecidableEq, Repr

/-- The causes for which a query has no answer. -/
inductive InferenceError where
  | invalidState (fault : StateFault)
  | unresolvedType (text : String) (fault : TypeFault)
  | classNotFound (name : String)
  | parsing (reason : String)
  | settings (fault : SettingsFault)
  | file (fault : FileFault)
  | json
  deriving DecidableEq, Repr

/-- An answer, or the cause for which there is none. -/
abbrev Answer (α : Type) := Except InferenceError α

def TypeFault.message : TypeFault → String
  | unbalancedBrackets => "unbalanced brackets"
  | emptyMember => "empty type in union"
  | unterminatedLiteral atom => "unterminated literal " ++ atom
  | integerOutOfRange .tooLarge => "number too large to fit in target type"
  | integerOutOfRange .tooSmall => "number too small to fit in target type"
  | unbalancedGeneric atom => "unbalanced generic " ++ atom
  | unexpectedToken atom => "unexpected token " ++ atom
  | refused reason => reason

def StateFault.message : StateFault → String
  | propertyNotResolved cls property => "property " ++ cls ++ "::$" ++ property ++ " was not resolved by has_property"
  | methodNotResolvable cls method => "method " ++ cls ++ "::" ++ method ++ " is not resolvable"
  | noMethodFound cls method => "no method reflection for " ++ cls ++ "::" ++ method

def SettingsFault.message : SettingsFault → String
  | emptyModelClass => "model_class must not be empty"
  | zeroDepth => "methods.max_depth must be at least 1"
  | invalidLogLevel level => "logging.level \x60" ++ level ++ "\x60"
  | invalidFilePattern => "invalid migration file pattern"

def FileFault.message : FileFault → String
  | notFound => "No such file or directory (os error 2)"
  | notDirectory => "Not a directory (os error 20)"
  | isDirectory => "Is a directory (os error 21)"
  | tooManyLinks => "Too many levels of symbolic links (os error 40)"
  | directoryLoop => "directory loop detected"
  | invalidText => "stream did not contain valid UTF-8"

def InferenceError.message : InferenceError → String
  | invalidState fault => "Invalid state: " ++ fault.message
  | unresolvedType text fault => "Unresolved type \x60" ++ text ++ "\x60: " ++ fault.message
  | classNotFound name => "Class not found: " ++ name
  | parsing reason => "Parsing error: " ++ reason
  | settings fault => "Configuration error: " ++ fault.message
  | file fault => "I/O error: " ++ fault.message
  | json => "JSON serialization/deserialization error"

end DynamicMembers
