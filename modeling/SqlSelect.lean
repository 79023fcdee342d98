import SqlSelect.Config.Reader
import SqlSelect.Registry.Statement
import SqlSelect.UniqueList.Exchange
import SqlSelect.Value.Exchange
import SqlSelect.Proofs.Rendering.Fragments
import SqlSelect.Proofs.Rendering.Writer
import SqlSelect.Proofs.Rendering.Statement
import SqlSelect.Proofs.Rendering.BoundData
import SqlSelect.Proofs.Rendering.Modes
import SqlSelect.Criteria.Step
import SqlSelect.Proofs.Building.Registration
import SqlSelect.Proofs.Building.Steps
import SqlSelect.Proofs.Building.FromClause
import SqlSelect.Proofs.Building.JoinChain
import SqlSelect.Proofs.Meaning.Grammar
import SqlSelect.Proofs.Meaning.WhereClause
import SqlSelect.Proofs.Meaning.RawCondition
import SqlSelect.Proofs.Paging.Templates
import SqlSelect.Proofs.Paging.Window
import SqlSelect.Proofs.Paging.Bounds
import SqlSelect.Proofs.Literals.Values
import SqlSelect.Proofs.Literals.Operand
import SqlSelect.Proofs.Literals.Comparison
import SqlSelect.Proofs.Rendering.Faults
import SqlSelect.Proofs.Rendering.Aliases
import SqlSelect.Registry.Call
import SqlSelect.Proofs.Registry.History
import SqlSelect.Proofs.Registry.Configured
import SqlSelect.Proofs.Rendering.Comparisons
import SqlSelect.Proofs.Rendering.LetterCase
import SqlSelect.Proofs.Rendering.QuotedNames
import SqlSelect.Proofs.Rendering.AliasSpelling
import SqlSelect.Proofs.Trimming
import SqlSelect.Proofs.Registry.DialectKeys
import SqlSelect.Proofs.Registry.Merged
import SqlSelect.Proofs.Rendering.ResultNames
import SqlSelect.Proofs.Paging.RowNumbers
import SqlSelect.Proofs.Rendering.SettledNames
import SqlSelect.Proofs.Patterns.Matching
import SqlSelect.Proofs.Patterns.Translation
import SqlSelect.Proofs.Patterns.Equality
import SqlSelect.Proofs.Meaning.Flattened
import SqlSelect.Proofs.Meaning.Predicates
import SqlSelect.Proofs.Meaning.Membership
import SqlSelect.Proofs.Building.Operands
import SqlSelect.Proofs.Rendering.Guarded
import SqlSelect.Proofs.Paging.Pages
import SqlSelect.Proofs.Columns.QuotedText
import SqlSelect.Proofs.Columns.Qualifiers
import SqlSelect.Proofs.Building.Acceptance
import SqlSelect.Proofs.Columns.Arithmetic
import SqlSelect.Proofs.Columns.Matching
import SqlSelect.Proofs.Columns.Paths
import SqlSelect.Proofs.Rendering.NameReader
import SqlSelect.Proofs.Literals.Chronology
import SqlSelect.Proofs.Registry.UrlSchemes
import SqlSelect.Proofs.UniqueLists
