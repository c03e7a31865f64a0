import RecordQuery.Assoc
import RecordQuery.Binary64.Basic
import RecordQuery.Binary64.Digits
import RecordQuery.Binary64.Elementary
import RecordQuery.Binary64.Numeral
import RecordQuery.CommandLine.Invocation
import RecordQuery.CommandLine.Run
import RecordQuery.Expression
import RecordQuery.Find
import RecordQuery.Instant.Basic
import RecordQuery.Instant.Reader
import RecordQuery.Instant.Writer
import RecordQuery.Json.Basic
import RecordQuery.Json.Fields
import RecordQuery.Json.Reader
import RecordQuery.Json.Syntax
import RecordQuery.Json.Writer
import RecordQuery.Main
import RecordQuery.Order
import RecordQuery.Path
import RecordQuery.Pattern.Builtin
import RecordQuery.Pattern.Engine
import RecordQuery.Pattern.Expansion
import RecordQuery.Pattern.Registry
import RecordQuery.Predicate.Builtin
import RecordQuery.Predicate.Comparison
import RecordQuery.Predicate.Kind
import RecordQuery.Predicate.Logic
import RecordQuery.Predicate.Membership
import RecordQuery.Predicate.Numeric
import RecordQuery.Predicate.Textual
import RecordQuery.Proofs.Assoc
import RecordQuery.Proofs.Binary32.Comparison
import RecordQuery.Proofs.Binary64.Comparison
import RecordQuery.Proofs.Binary64.Equality
import RecordQuery.Proofs.Binary64.Integer
import RecordQuery.Proofs.Binary64.Parts
import RecordQuery.Proofs.Binary64.Rational
import RecordQuery.Proofs.Binary64.Rounding
import RecordQuery.Proofs.Binary64.Sum
import RecordQuery.Proofs.Binary64.TotalOrder
import RecordQuery.Proofs.Expression.Grammar
import RecordQuery.Proofs.Expression.Spelling
import RecordQuery.Proofs.Find
import RecordQuery.Proofs.Instant.Calendar
import RecordQuery.Proofs.Instant.Fields
import RecordQuery.Proofs.Instant.Rendering
import RecordQuery.Proofs.Order
import RecordQuery.Proofs.Pattern.Builtins
import RecordQuery.Proofs.Pattern.Combination
import RecordQuery.Proofs.Pattern.Commuting
import RecordQuery.Proofs.Pattern.Concatenation
import RecordQuery.Proofs.Pattern.Confined
import RecordQuery.Proofs.Pattern.Conjunction
import RecordQuery.Proofs.Pattern.Deferred
import RecordQuery.Proofs.Pattern.Expansion
import RecordQuery.Proofs.Pattern.Frames
import RecordQuery.Proofs.Pattern.Kept
import RecordQuery.Proofs.Pattern.Lasting
import RecordQuery.Proofs.Pattern.Leaves
import RecordQuery.Proofs.Pattern.Lookup
import RecordQuery.Proofs.Pattern.Missing
import RecordQuery.Proofs.Pattern.Nesting
import RecordQuery.Proofs.Pattern.Overlap
import RecordQuery.Proofs.Pattern.Replay
import RecordQuery.Proofs.Pattern.Satisfaction
import RecordQuery.Proofs.Pattern.Step
import RecordQuery.Proofs.Pattern.Update
import RecordQuery.Proofs.Pattern.WellFormed
import RecordQuery.Proofs.Predicate.Forms
import RecordQuery.Proofs.Predicate.Prime
import RecordQuery.Proofs.Regex.Cache
import RecordQuery.Proofs.Selector.Clauses
import RecordQuery.Proofs.Selector.Closure
import RecordQuery.Proofs.Selector.Conditions
import RecordQuery.Proofs.Selector.Meaning
import RecordQuery.Proofs.Selector.NormalForm
import RecordQuery.Proofs.Selector.Purity
import RecordQuery.Proofs.Selector.Restatement
import RecordQuery.Proofs.Session.History
import RecordQuery.Proofs.Session.Lineage
import RecordQuery.Proofs.Similarity.Accumulation
import RecordQuery.Proofs.Similarity.Composition
import RecordQuery.Proofs.Similarity.Decoding
import RecordQuery.Proofs.Similarity.Hangul
import RecordQuery.Proofs.Similarity.Hits
import RecordQuery.Proofs.Similarity.Naming
import RecordQuery.Proofs.Similarity.Numeral
import RecordQuery.Proofs.Similarity.Ranking
import RecordQuery.Proofs.Similarity.Scanning
import RecordQuery.Proofs.Similarity.Search
import RecordQuery.Proofs.Similarity.Spacing
import RecordQuery.Proofs.Similarity.Spoken
import RecordQuery.Proofs.Similarity.Token
import RecordQuery.Proofs.Similarity.Vowels
import RecordQuery.Proofs.Sorting.Criteria
import RecordQuery.Proofs.Sorting.Loose
import RecordQuery.Proofs.Sorting.Natural
import RecordQuery.Proofs.Sorting.Stability
import RecordQuery.Proofs.Sorting.Strict
import RecordQuery.Proofs.Text.Case
import RecordQuery.Proofs.Text.Form
import RecordQuery.Proofs.Text.Positional
import RecordQuery.Proofs.Text.Search
import RecordQuery.Proofs.Text.Soundex
import RecordQuery.Proofs.Transform.Arrays
import RecordQuery.Proofs.Transform.Dates
import RecordQuery.Proofs.Transform.Filled
import RecordQuery.Proofs.Transform.Groups
import RecordQuery.Proofs.Transform.Nested
import RecordQuery.Proofs.Transform.Radix
import RecordQuery.Proofs.Transform.Sets
import RecordQuery.Proofs.Transform.Slices
import RecordQuery.Proofs.Transform.Splitting
import RecordQuery.Proofs.Transform.Statistics
import RecordQuery.Proofs.Transform.Template
import RecordQuery.Proofs.Transform.Words
import RecordQuery.Proofs.Value.Equality
import RecordQuery.Proofs.Value.Filled
import RecordQuery.Proofs.Value.Json
import RecordQuery.Proofs.Value.Ordering
import RecordQuery.Proofs.Value.Parts
import RecordQuery.Proofs.Value.Similar
import RecordQuery.Regex.Basic
import RecordQuery.Regex.Cache
import RecordQuery.Regex.CharClass
import RecordQuery.Regex.Cursor
import RecordQuery.Regex.Program
import RecordQuery.Regex.Reader
import RecordQuery.Regex.Replacement
import RecordQuery.Regex.Room
import RecordQuery.Selector
import RecordQuery.Session
import RecordQuery.Settings
import RecordQuery.Similarity.Embedding
import RecordQuery.Similarity.Encoder
import RecordQuery.Similarity.Numeral
import RecordQuery.Similarity.Retrieval
import RecordQuery.Similarity.Romanization
import RecordQuery.Similarity.Syllable
import RecordQuery.Similarity.Token
import RecordQuery.Sorting
import RecordQuery.Text.Address
import RecordQuery.Text.BreakTable
import RecordQuery.Text.Case
import RecordQuery.Text.CaseTable
import RecordQuery.Text.CategoryTable
import RecordQuery.Text.CharSet
import RecordQuery.Text.Form
import RecordQuery.Text.Name
import RecordQuery.Text.NameTable
import RecordQuery.Text.PropertyTable
import RecordQuery.Text.Ranges
import RecordQuery.Text.RecentTable
import RecordQuery.Text.ScriptTable
import RecordQuery.Text.Search
import RecordQuery.Text.Soundex
import RecordQuery.Transform.Aggregate
import RecordQuery.Transform.Builtin
import RecordQuery.Transform.Items
import RecordQuery.Transform.Numeric
import RecordQuery.Transform.Options
import RecordQuery.Transform.Reflective
import RecordQuery.Transform.Template
import RecordQuery.Transform.Textual
import RecordQuery.Value.Basic
import RecordQuery.Value.Conversion
import RecordQuery.Value.Equality
import RecordQuery.Value.Items
import RecordQuery.Value.Json
import RecordQuery.Value.Order
import RecordQuery.Value.Text
