import Audience.CommandLine.Folder
import Audience.Compiler.Generator
import Audience.Main
import Audience.Proofs.Mapping.Cache
import Audience.Proofs.Mapping.Standing
import Audience.Proofs.Mapping.Sharing
import Audience.Proofs.Text.CodePoint
import Audience.Proofs.Text.Words
import Audience.Proofs.Text.Fold
import Audience.Proofs.Text.Title
import Audience.Proofs.Mapping.Standardize
import Audience.Proofs.Criteria.Normal
import Audience.Proofs.Sql.Pieces
import Audience.Proofs.Sql.Lexeme
import Audience.Proofs.Sql.Parser
import Audience.Proofs.Stored.Columns
import Audience.Proofs.Sql.Line
import Audience.Proofs.Sql.Layout
import Audience.Proofs.Sql.Reading
import Audience.Proofs.Sql.Subquery
import Audience.Proofs.Sql.Renderer
import Audience.Proofs.Sql.ReadBack
import Audience.Proofs.Criteria.Registered
import Audience.Proofs.Number.Integer
import Audience.Proofs.Stored.Compiled
import Audience.Proofs.Stored.Described
import Audience.Proofs.Compiler.Sharing
import Audience.Proofs.Criteria.Passes
import Audience.Proofs.Number.Rounding
import Audience.Proofs.Number.Plain
import Audience.Proofs.Stored.Dates
import Audience.Proofs.Criteria.Compiled
import Audience.Proofs.Sentence.Synonyms
import Audience.Proofs.Compiler.Sentences
import Audience.Proofs.Stored.Alike
import Audience.Proofs.Sql.Neutral
import Audience.Proofs.Sql.Placeholders
import Audience.Proofs.Stored.Meaning
import Audience.Proofs.Sql.Joins
import Audience.Proofs.Stored.Scoped
import Audience.Proofs.Json.Token
import Audience.Proofs.Json.Layout
import Audience.Proofs.Json.Sorting
import Audience.Proofs.Json.Record
import Audience.Proofs.Json.Reread
import Audience.Proofs.Json.Fields
import Audience.Proofs.Stored.RoundTrip
import Audience.Proofs.Criteria.Draft
import Audience.Proofs.Criteria.Lenient
import Audience.Proofs.Criteria.Shapes
import Audience.Proofs.Criteria.RoundTrip
import Audience.Proofs.Mapping.Interchange
import Audience.Proofs.Mapping.Keys
import Audience.Proofs.Stored.Numbering
import Audience.Proofs.Mapping.Session
import Audience.Proofs.Criteria.Members
import Audience.Proofs.Stored.Bound
import Audience.Proofs.Compiler.Amounts
import Audience.Proofs.Compiler.Values
import Audience.Proofs.Compiler.Replies
import Audience.Proofs.Sql.Like
import Audience.Proofs.Stored.DateOrder
import Audience.Proofs.Criteria.Ages
import Audience.Proofs.Criteria.Valid
import Audience.Proofs.Number.Order
import Audience.Proofs.Mapping.Fuzzy
import Audience.Proofs.Sentence.Replacement
import Audience.Proofs.Sentence.Matching
import Audience.Proofs.Sentence.Composed
import Audience.Proofs.Sentence.Place
import Audience.Proofs.Sentence.Windows
import Audience.Proofs.Mapping.Capacity
import Audience.Proofs.Number.Overflow
import Audience.Proofs.Number.Numeral
import Audience.Proofs.Criteria.Counts
