import RelMap.Code
import RelMap.Configuration
import RelMap.Dialect
import RelMap.Engine
import RelMap.Evaluation.Cache
import RelMap.Evaluation.Direct
import RelMap.Evaluation.Operators
import RelMap.Evaluation.Program
import RelMap.Expr.Basic
import RelMap.Expr.Shape
import RelMap.Fault
import RelMap.Filter.Clause
import RelMap.Filter.Compile
import RelMap.Filter.Condition
import RelMap.Filter.Parameters
import RelMap.Filter.Pattern
import RelMap.Graph.Description
import RelMap.Graph.IdentityCache
import RelMap.Graph.Materialize
import RelMap.Graph.Store
import RelMap.Hash
import RelMap.Include.Chain
import RelMap.Include.Plan
import RelMap.Include.PlanCache
import RelMap.Include.Row
import RelMap.Include.Tree
import RelMap.Json.Decode
import RelMap.Json.Numeral
import RelMap.Json.Reader
import RelMap.Json.Value
import RelMap.Mapping.Basic
import RelMap.Mapping.Document
import RelMap.Mapping.Registry
import RelMap.Number.Binary
import RelMap.Number.Shortest
import RelMap.Proofs.Code
import RelMap.Proofs.Engine
import RelMap.Proofs.Evaluation.Cache
import RelMap.Proofs.Evaluation.Comparisons
import RelMap.Proofs.Evaluation.Connectives
import RelMap.Proofs.Evaluation.Contents
import RelMap.Proofs.Evaluation.Conversions
import RelMap.Proofs.Evaluation.Decoding
import RelMap.Proofs.Evaluation.Integers
import RelMap.Proofs.Evaluation.Operators
import RelMap.Proofs.Evaluation.Program
import RelMap.Proofs.Evaluation.Refinement
import RelMap.Proofs.Evaluation.Values
import RelMap.Proofs.Evaluation.Widths
import RelMap.Proofs.Except
import RelMap.Proofs.Expr.Captures
import RelMap.Proofs.Expr.Parts
import RelMap.Proofs.Expr.Shape
import RelMap.Proofs.Expr.ShapeCode
import RelMap.Proofs.Filter.Agreement
import RelMap.Proofs.Filter.Binding
import RelMap.Proofs.Filter.BoundValues
import RelMap.Proofs.Filter.CapturedValues
import RelMap.Proofs.Filter.Compile
import RelMap.Proofs.Filter.Dialects
import RelMap.Proofs.Filter.FoldedPatterns
import RelMap.Proofs.Filter.Grouping
import RelMap.Proofs.Filter.Marks
import RelMap.Proofs.Filter.Meaning
import RelMap.Proofs.Filter.Membership
import RelMap.Proofs.Filter.NestedLists
import RelMap.Proofs.Filter.Noting
import RelMap.Proofs.Filter.NullTests
import RelMap.Proofs.Filter.Patterns
import RelMap.Proofs.Filter.Pieces
import RelMap.Proofs.Filter.Reading
import RelMap.Proofs.Filter.Resemblance
import RelMap.Proofs.Filter.Screening
import RelMap.Proofs.Filter.Shorthand
import RelMap.Proofs.Filter.Translatable
import RelMap.Proofs.Filter.Writing
import RelMap.Proofs.Graph.Accounting
import RelMap.Proofs.Graph.Blocking
import RelMap.Proofs.Graph.EagerLoading
import RelMap.Proofs.Graph.IdentityCache
import RelMap.Proofs.Graph.Joined
import RelMap.Proofs.Graph.Keyed
import RelMap.Proofs.Graph.Materialize
import RelMap.Proofs.Graph.Outcome
import RelMap.Proofs.Graph.Recency
import RelMap.Proofs.Graph.Rows
import RelMap.Proofs.Graph.Run
import RelMap.Proofs.Graph.Sizing
import RelMap.Proofs.Graph.Store
import RelMap.Proofs.Graph.Trace
import RelMap.Proofs.Graph.Tracks
import RelMap.Proofs.History
import RelMap.Proofs.Include.Address
import RelMap.Proofs.Include.Chains
import RelMap.Proofs.Include.Columns
import RelMap.Proofs.Include.Insertion
import RelMap.Proofs.Include.Join
import RelMap.Proofs.Include.Layout
import RelMap.Proofs.Include.Marks
import RelMap.Proofs.Include.Paths
import RelMap.Proofs.Include.Places
import RelMap.Proofs.Include.Plan
import RelMap.Proofs.Include.PlanCache
import RelMap.Proofs.Include.PlanHistory
import RelMap.Proofs.Include.Planning
import RelMap.Proofs.Include.Ranges
import RelMap.Proofs.Include.Reordering
import RelMap.Proofs.Include.Resolve
import RelMap.Proofs.Include.Structure
import RelMap.Proofs.Include.Tree
import RelMap.Proofs.Lists
import RelMap.Proofs.Mapping.Building
import RelMap.Proofs.Mapping.Navigations
import RelMap.Proofs.Mapping.Rules
import RelMap.Proofs.Mapping.Slots
import RelMap.Proofs.Number.Denotation
import RelMap.Proofs.Number.Widening
import RelMap.Proofs.Sql.Grammar
import RelMap.Proofs.Sql.Reader
import RelMap.Proofs.Sql.Token
import RelMap.Proofs.Statement
import RelMap.Proofs.Text.Case
import RelMap.Proofs.Text.Marks
import RelMap.Proofs.Text.Part
import RelMap.Proofs.Text.Quoted
import RelMap.Proofs.Value.Keys
import RelMap.Statistics
import RelMap.Text.Blank
import RelMap.Text.Case
import RelMap.Text.CaseTable
import RelMap.Text.Part
import RelMap.Text.PrintableTable
import RelMap.Text.Quoted
import RelMap.Value.Basic
import RelMap.Value.Description
