import ParamSql.Aggregate
import ParamSql.Binary64.Basic
import ParamSql.Binary64.Reading
import ParamSql.Binary64.Rounding
import ParamSql.Binary64.Shortest
import ParamSql.Condition.Basic
import ParamSql.Condition.Operator
import ParamSql.Database
import ParamSql.Dialect.Basic
import ParamSql.Dialect.Detection
import ParamSql.Dialect.Function
import ParamSql.Document.Basic
import ParamSql.Emission.Basic
import ParamSql.Emission.Paging
import ParamSql.Emission.Query
import ParamSql.Emission.Statement
import ParamSql.Entity.Mapping
import ParamSql.Entity.Serialized
import ParamSql.Error
import ParamSql.Execution.Row
import ParamSql.Execution.Script
import ParamSql.Execution.Statement
import ParamSql.KeyedList
import ParamSql.Parameter
import ParamSql.Predicate.Basic
import ParamSql.Predicate.Meaning
import ParamSql.Predicate.Vocabulary
import ParamSql.Proofs.Agreement
import ParamSql.Proofs.Binary64.Exact
import ParamSql.Proofs.Binary64.Integers
import ParamSql.Proofs.Binding.Alignment
import ParamSql.Proofs.Binding.Embedding
import ParamSql.Proofs.Binding.Independence
import ParamSql.Proofs.Binding.Uniqueness
import ParamSql.Proofs.Columns.Output
import ParamSql.Proofs.Columns.Query
import ParamSql.Proofs.Columns.Reading
import ParamSql.Proofs.Condition.Constructed
import ParamSql.Proofs.Condition.Flatness
import ParamSql.Proofs.Condition.Grouping
import ParamSql.Proofs.Condition.Readability
import ParamSql.Proofs.Condition.Reader
import ParamSql.Proofs.Document.Filling
import ParamSql.Proofs.Document.Related
import ParamSql.Proofs.Emission.Fragment
import ParamSql.Proofs.Emission.Page
import ParamSql.Proofs.Emission.Statement
import ParamSql.Proofs.Execution.Calls
import ParamSql.Proofs.KeyedList
import ParamSql.Proofs.Layout.Clauses
import ParamSql.Proofs.Layout.Condition
import ParamSql.Proofs.Layout.Fragment
import ParamSql.Proofs.Layout.Groups
import ParamSql.Proofs.Layout.Parentheses
import ParamSql.Proofs.Layout.Query
import ParamSql.Proofs.Layout.Statement
import ParamSql.Proofs.Meaning.Condition
import ParamSql.Proofs.Meaning.Count
import ParamSql.Proofs.Meaning.Derived
import ParamSql.Proofs.Meaning.Filter
import ParamSql.Proofs.Meaning.PastEnd
import ParamSql.Proofs.Meaning.Predicate
import ParamSql.Proofs.Meaning.Truth
import ParamSql.Proofs.Paging.Contents
import ParamSql.Proofs.Paging.Numbers
import ParamSql.Proofs.Paging.OuterNames
import ParamSql.Proofs.Paging.Parameters
import ParamSql.Proofs.Paging.Plan
import ParamSql.Proofs.Paging.Reversal
import ParamSql.Proofs.Paging.Rows
import ParamSql.Proofs.Paging.Sorting
import ParamSql.Proofs.Paging.Success
import ParamSql.Proofs.Paging.Windows
import ParamSql.Proofs.Predicate.Constants
import ParamSql.Proofs.Predicate.Grammar
import ParamSql.Proofs.Predicate.Translation
import ParamSql.Proofs.Predicate.Wildcards
import ParamSql.Proofs.Query.Correspondence
import ParamSql.Proofs.Query.Nodes
import ParamSql.Proofs.Query.Sameness
import ParamSql.Proofs.Rendering.Assignments
import ParamSql.Proofs.Rendering.EqualStatements
import ParamSql.Proofs.Rendering.Joins
import ParamSql.Proofs.Rendering.NestedDialects
import ParamSql.Proofs.Rendering.Offences
import ParamSql.Proofs.Rendering.Pieces
import ParamSql.Proofs.Rendering.Related
import ParamSql.Proofs.Select.Building
import ParamSql.Proofs.Select.SourceName
import ParamSql.Proofs.Settings.References
import ParamSql.Proofs.Statement.Assignments
import ParamSql.Proofs.Statement.Entity
import ParamSql.Proofs.Statement.Filtering
import ParamSql.Proofs.Statement.Integers
import ParamSql.Proofs.Statement.Root
import ParamSql.Proofs.Text.Digits
import ParamSql.Proofs.Timestamp.RoundTrip
import ParamSql.Proofs.Value.RowCount
import ParamSql.Query.Basic
import ParamSql.Query.Equality
import ParamSql.Query.Field
import ParamSql.Query.Pagination
import ParamSql.Rendering.Clauses
import ParamSql.Rendering.Fragment
import ParamSql.Rendering.Paging
import ParamSql.Rendering.Query
import ParamSql.Select.Builder
import ParamSql.Select.Derived
import ParamSql.Select.Filter
import ParamSql.Settings.Basic
import ParamSql.Settings.Expansion
import ParamSql.Settings.FileTree
import ParamSql.Settings.Loading
import ParamSql.Statement.Assignment
import ParamSql.Statement.Command
import ParamSql.Statement.Delete
import ParamSql.Statement.Insert
import ParamSql.Statement.Kind
import ParamSql.Statement.Update
import ParamSql.Text.Blank
import ParamSql.Text.Case
import ParamSql.Text.CodePoints
import ParamSql.Text.Letter
import ParamSql.Text.Pattern
import ParamSql.Timestamp.Basic
import ParamSql.Timestamp.Layout
import ParamSql.Timestamp.Spelling
import ParamSql.Timestamp.Text
import ParamSql.Token
import ParamSql.Toml.Basic
import ParamSql.Toml.Reader
import ParamSql.Toml.Scalar
import ParamSql.Toml.Tree
import ParamSql.Value.Basic
import ParamSql.Value.Conversion
