import GraphPattern.CharSet.Basic
import GraphPattern.CharSet.Utf8
import GraphPattern.Config.Basic
import GraphPattern.Config.File
import GraphPattern.Constraint.Evaluator
import GraphPattern.Constraint.Operators
import GraphPattern.Constraint.Value
import GraphPattern.Iri.Address
import GraphPattern.Iri.Character
import GraphPattern.Iri.Reference
import GraphPattern.Iri.Resolve
import GraphPattern.Join.Backend
import GraphPattern.Join.Machine
import GraphPattern.Join.Progress
import GraphPattern.Join.Rank
import GraphPattern.Join.Run
import GraphPattern.Join.Solution
import GraphPattern.Join.View
import GraphPattern.Number.Binary64
import GraphPattern.Number.Double
import GraphPattern.Number.Integer
import GraphPattern.Number.Shortest
import GraphPattern.OrderedMap
import GraphPattern.Proofs.Constraint.Agreement
import GraphPattern.Proofs.Constraint.Arithmetic
import GraphPattern.Proofs.Constraint.Cache
import GraphPattern.Proofs.Constraint.Calls
import GraphPattern.Proofs.Constraint.Comparison
import GraphPattern.Proofs.Constraint.Constant
import GraphPattern.Proofs.Constraint.Error
import GraphPattern.Proofs.Constraint.Reading
import GraphPattern.Proofs.Constraint.TextForm
import GraphPattern.Proofs.Constraint.Value
import GraphPattern.Proofs.Distinct
import GraphPattern.Proofs.Iri.Visible
import GraphPattern.Proofs.Join.Answers
import GraphPattern.Proofs.Join.BindingStack
import GraphPattern.Proofs.Join.Bindings
import GraphPattern.Proofs.Join.Course
import GraphPattern.Proofs.Join.CursorLog
import GraphPattern.Proofs.Join.Discipline
import GraphPattern.Proofs.Join.Disturbance
import GraphPattern.Proofs.Join.Matching
import GraphPattern.Proofs.Join.NestedLoop
import GraphPattern.Proofs.Join.Refinement
import GraphPattern.Proofs.Join.Renumbering
import GraphPattern.Proofs.Join.Simulation
import GraphPattern.Proofs.Join.Substitution
import GraphPattern.Proofs.Join.Termination
import GraphPattern.Proofs.Number.Integer
import GraphPattern.Proofs.OrderedMap
import GraphPattern.Proofs.Query.Assignment
import GraphPattern.Proofs.Query.Binding
import GraphPattern.Proofs.Query.Calls
import GraphPattern.Proofs.Query.Compile
import GraphPattern.Proofs.Query.Compiled
import GraphPattern.Proofs.Query.Components
import GraphPattern.Proofs.Query.Consistency
import GraphPattern.Proofs.Query.Failure
import GraphPattern.Proofs.Query.Filter
import GraphPattern.Proofs.Query.Greedy
import GraphPattern.Proofs.Query.History
import GraphPattern.Proofs.Query.Hooks
import GraphPattern.Proofs.Query.Idempotence
import GraphPattern.Proofs.Query.Independence
import GraphPattern.Proofs.Query.Labels
import GraphPattern.Proofs.Query.Ledger
import GraphPattern.Proofs.Query.Meaning
import GraphPattern.Proofs.Query.Names
import GraphPattern.Proofs.Query.Pass
import GraphPattern.Proofs.Query.Replanning
import GraphPattern.Proofs.Query.Resolution
import GraphPattern.Proofs.Query.Reuse
import GraphPattern.Proofs.Query.Shadowing
import GraphPattern.Proofs.Query.Table
import GraphPattern.Proofs.Query.Traversal
import GraphPattern.Proofs.Rdf.Namespaces
import GraphPattern.Proofs.Rdf.Term
import GraphPattern.Proofs.Rdf.Written
import GraphPattern.Proofs.Registry
import GraphPattern.Proofs.Registry.Lookup
import GraphPattern.Proofs.Result.Columns
import GraphPattern.Proofs.Result.Json
import GraphPattern.Proofs.Result.Tsv
import GraphPattern.Proofs.Store.Graph
import GraphPattern.Proofs.Store.History
import GraphPattern.Proofs.Store.Index
import GraphPattern.Proofs.Store.Refinement
import GraphPattern.Proofs.Store.Scope
import GraphPattern.Proofs.Store.Select
import GraphPattern.Query.Assignment
import GraphPattern.Query.Error
import GraphPattern.Query.Expression
import GraphPattern.Query.Language
import GraphPattern.Query.Lifecycle
import GraphPattern.Query.Operation
import GraphPattern.Query.Pass
import GraphPattern.Query.Pattern
import GraphPattern.Query.Planner
import GraphPattern.Query.Resolver
import GraphPattern.Query.State
import GraphPattern.Query.VariableTable
import GraphPattern.Rdf.LanguageTag
import GraphPattern.Rdf.Namespaces
import GraphPattern.Rdf.Term
import GraphPattern.Rdf.Triple
import GraphPattern.Rdf.Written
import GraphPattern.Regex.Assertion
import GraphPattern.Regex.Basic
import GraphPattern.Regex.Bracketed
import GraphPattern.Regex.Footprint
import GraphPattern.Regex.Layout
import GraphPattern.Regex.Parser
import GraphPattern.Regex.Search
import GraphPattern.Regex.Token
import GraphPattern.Registry
import GraphPattern.Result.Json
import GraphPattern.Result.Table
import GraphPattern.Store.Basic
import GraphPattern.Store.Source
import GraphPattern.Text
import GraphPattern.Unicode.AgeTable
import GraphPattern.Unicode.BreakTable
import GraphPattern.Unicode.CasingTable
import GraphPattern.Unicode.CategoryTable
import GraphPattern.Unicode.Folding
import GraphPattern.Unicode.IdentifierTable
import GraphPattern.Unicode.Property
import GraphPattern.Unicode.PropertyTable
import GraphPattern.Unicode.Runs
import GraphPattern.Unicode.ScriptExtensionTable
import GraphPattern.Unicode.ScriptTable
import GraphPattern.Yaml.Node
import GraphPattern.Yaml.Place
import GraphPattern.Yaml.Scalar
import GraphPattern.Yaml.Token
