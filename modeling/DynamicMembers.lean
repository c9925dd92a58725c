import DynamicMembers.Analyzer
import DynamicMembers.Class.Basic
import DynamicMembers.Class.Hierarchy
import DynamicMembers.Class.Index
import DynamicMembers.Class.Method
import DynamicMembers.Code.Basic
import DynamicMembers.Error
import DynamicMembers.Files.Tree
import DynamicMembers.Files.Walk
import DynamicMembers.Json.Basic
import DynamicMembers.Json.Decode
import DynamicMembers.Json.Models
import DynamicMembers.Json.Reader
import DynamicMembers.Json.Writer
import DynamicMembers.Log.Directive
import DynamicMembers.Method.Answers
import DynamicMembers.Method.Query
import DynamicMembers.Method.Strategy
import DynamicMembers.Name
import DynamicMembers.OrderedMap
import DynamicMembers.Pattern.Basic
import DynamicMembers.Pattern.Reader
import DynamicMembers.Pattern.Sets
import DynamicMembers.Php.Lexer
import DynamicMembers.Php.Literal
import DynamicMembers.Php.Lowering
import DynamicMembers.Php.Parser
import DynamicMembers.Php.Syntax
import DynamicMembers.Php.Token
import DynamicMembers.Proofs.Analyzer.Invalidation
import DynamicMembers.Proofs.Class.Ancestors
import DynamicMembers.Proofs.Class.Inheritance
import DynamicMembers.Proofs.Code.Chains
import DynamicMembers.Proofs.Delegation.Answers
import DynamicMembers.Proofs.Delegation.Frame
import DynamicMembers.Proofs.Delegation.Trail
import DynamicMembers.Proofs.Json.Models
import DynamicMembers.Proofs.Method.Found
import DynamicMembers.Proofs.Method.Grouping
import DynamicMembers.Proofs.Method.Macros
import DynamicMembers.Proofs.Method.Memory
import DynamicMembers.Proofs.Method.Pruning
import DynamicMembers.Proofs.Method.Questions
import DynamicMembers.Proofs.Method.Respelling
import DynamicMembers.Proofs.Pattern.Default
import DynamicMembers.Proofs.Php.Comments
import DynamicMembers.Proofs.Php.Integers
import DynamicMembers.Proofs.Php.Strings
import DynamicMembers.Proofs.Php.WellFormed
import DynamicMembers.Proofs.Property.Accessors
import DynamicMembers.Proofs.Property.Freshness
import DynamicMembers.Proofs.Property.History
import DynamicMembers.Proofs.Property.Loading
import DynamicMembers.Proofs.Property.Nullability
import DynamicMembers.Proofs.Property.Precedence
import DynamicMembers.Proofs.Property.Readable
import DynamicMembers.Proofs.Property.Tables
import DynamicMembers.Proofs.Schema.Chains
import DynamicMembers.Proofs.Schema.Counterparts
import DynamicMembers.Proofs.Schema.Creation
import DynamicMembers.Proofs.Schema.Dangling
import DynamicMembers.Proofs.Schema.Flattening
import DynamicMembers.Proofs.Schema.Irrelevance
import DynamicMembers.Proofs.Schema.Layout
import DynamicMembers.Proofs.Schema.Locality
import DynamicMembers.Proofs.Schema.Renaming
import DynamicMembers.Proofs.Schema.WellFormed
import DynamicMembers.Proofs.Text.Plurals
import DynamicMembers.Proofs.Value.Matching
import DynamicMembers.Proofs.Value.RoundTrip
import DynamicMembers.Property.Decision
import DynamicMembers.Property.Resolver
import DynamicMembers.Schema.Blueprint
import DynamicMembers.Schema.Call
import DynamicMembers.Schema.Column
import DynamicMembers.Schema.Discovery
import DynamicMembers.Schema.Edit
import DynamicMembers.Schema.Fold
import DynamicMembers.Settings
import DynamicMembers.Settings.Reading
import DynamicMembers.Text.CaseTable
import DynamicMembers.Text.CategoryTable
import DynamicMembers.Text.Characters
import DynamicMembers.Text.Integer
import DynamicMembers.Text.LetterTable
import DynamicMembers.Text.Plural
import DynamicMembers.Text.Split
import DynamicMembers.Text.Words
import DynamicMembers.Value.Basic
import DynamicMembers.Value.Expr
import DynamicMembers.Value.PhpDoc
import DynamicMembers.Value.Printer
import DynamicMembers.Value.Union
