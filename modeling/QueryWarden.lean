import QueryWarden.Bytes.Base64
import QueryWarden.Bytes.Utf8
import QueryWarden.Configuration.Coercion
import QueryWarden.Configuration.CommandLine
import QueryWarden.Configuration.Fault
import QueryWarden.Configuration.Load
import QueryWarden.Configuration.Reading
import QueryWarden.Configuration.Settings
import QueryWarden.Configuration.Tree
import QueryWarden.Connections.Cipher
import QueryWarden.Connections.Connection
import QueryWarden.Connections.Redaction
import QueryWarden.Connections.Registry
import QueryWarden.Crypto.Aes
import QueryWarden.Crypto.Gcm
import QueryWarden.Crypto.Sha256
import QueryWarden.Crypto.SipHash
import QueryWarden.Database.AdoString
import QueryWarden.Database.Catalogue
import QueryWarden.Database.Failure
import QueryWarden.Database.QueryResult
import QueryWarden.Decimal.Literal
import QueryWarden.Decimal.Positional
import QueryWarden.Decimal.Shortest
import QueryWarden.Embedded.Query
import QueryWarden.Embedded.Table
import QueryWarden.Generation.Answer
import QueryWarden.Generation.Endpoint
import QueryWarden.Generation.Failure
import QueryWarden.Generation.Prompt
import QueryWarden.Generation.Proposal
import QueryWarden.Generation.Recovery
import QueryWarden.History.Record
import QueryWarden.History.Store
import QueryWarden.Json.Decoder
import QueryWarden.Json.Fault
import QueryWarden.Json.Reader
import QueryWarden.Json.Scan
import QueryWarden.Json.Value
import QueryWarden.Main
import QueryWarden.Net.Ipv6
import QueryWarden.Net.Network
import QueryWarden.Net.Percent
import QueryWarden.Net.Url
import QueryWarden.Proofs.Bytes.Utf8
import QueryWarden.Proofs.Generation.Reports
import QueryWarden.Proofs.History.Sequence
import QueryWarden.Proofs.Service.Log
import QueryWarden.Proofs.Service.Proposals
import QueryWarden.Proofs.Sql.Rules
import QueryWarden.Proofs.Sql.SelectInto
import QueryWarden.Proofs.Text.Occurrence
import QueryWarden.Proofs.Text.Trimming
import QueryWarden.Schema.Cache
import QueryWarden.Schema.CacheKey
import QueryWarden.Schema.Document
import QueryWarden.Schema.Relevance
import QueryWarden.Schema.Snapshot
import QueryWarden.Service.Failure
import QueryWarden.Service.Operation
import QueryWarden.Service.Queries
import QueryWarden.Service.State
import QueryWarden.Sql.Adaptation
import QueryWarden.Sql.Dialect
import QueryWarden.Sql.Validator
import QueryWarden.Targets.CachedSchema
import QueryWarden.Targets.Cell
import QueryWarden.Targets.CellValue
import QueryWarden.Targets.Engine
import QueryWarden.Targets.Server
import QueryWarden.Targets.Session
import QueryWarden.Targets.Source
import QueryWarden.Text.CharClass
import QueryWarden.Text.DigitTable
import QueryWarden.Text.EscapedTable
import QueryWarden.Text.Integer
import QueryWarden.Text.Lowercase
import QueryWarden.Text.LowercaseTable
import QueryWarden.Text.Numeral
import QueryWarden.Text.Order
import QueryWarden.Text.Pattern
import QueryWarden.Text.Quoted
import QueryWarden.Text.Trim
import QueryWarden.Text.Uppercase
import QueryWarden.Text.UppercaseTable
import QueryWarden.Text.WordTable
import QueryWarden.Time.Calendar
import QueryWarden.Time.Span
import QueryWarden.Time.Timestamp
import QueryWarden.Toml.Document
import QueryWarden.Toml.Scalar
import QueryWarden.Toml.Text
import QueryWarden.Toml.Tree
import QueryWarden.Toml.Value
import QueryWarden.Web.Body
import QueryWarden.Web.ContentType
import QueryWarden.Web.Request
import QueryWarden.Web.Response
import QueryWarden.Web.Route
import QueryWarden.Web.Router
import QueryWarden.Proofs.Bytes.Base64
import QueryWarden.Proofs.Crypto.Gcm
import QueryWarden.Proofs.Connections.Sealing
import QueryWarden.Proofs.Connections.Redaction
import QueryWarden.Proofs.Text.Numerals
import QueryWarden.Proofs.Time.Calendar
import QueryWarden.Proofs.Time.Timestamp
import QueryWarden.Proofs.Connections.Entries
import QueryWarden.Proofs.Connections.Refinement
import QueryWarden.Proofs.Sql.Skeleton
import QueryWarden.Proofs.Database.Introspection
import QueryWarden.Proofs.Connections.Changes
import QueryWarden.Proofs.Schema.CacheKey
import QueryWarden.Proofs.Schema.Cache
import QueryWarden.Proofs.Service.Schemas
import QueryWarden.Proofs.Json.Layout
import QueryWarden.Proofs.Json.Reading
import QueryWarden.Proofs.Generation.Recovery
import QueryWarden.Proofs.Schema.TimedMap
import QueryWarden.Proofs.Connections.Usability
import QueryWarden.Proofs.Database.Results
import QueryWarden.Proofs.Time.Chronology
import QueryWarden.Proofs.History.Listing
import QueryWarden.Proofs.Connections.Failures
import QueryWarden.Proofs.Schema.Overlaps
import QueryWarden.Proofs.Connections.Overlaps
import QueryWarden.Proofs.Json.Grammar
import QueryWarden.Proofs.Json.Skipping
import QueryWarden.Proofs.Json.Records
import QueryWarden.Proofs.Json.Forms
import QueryWarden.Proofs.Schema.Document
import QueryWarden.Proofs.Text.Readers
import QueryWarden.Proofs.Text.Splitting
import QueryWarden.Proofs.Sql.Constructs
import QueryWarden.Proofs.Sql.BannedCalls
import QueryWarden.Proofs.Sql.LiteralContents
import QueryWarden.Proofs.Sql.Insensitivity
import QueryWarden.Proofs.Sql.Concatenation
import QueryWarden.Proofs.Generation.Spellings
import QueryWarden.Proofs.Schema.Relevance
import QueryWarden.Proofs.Sql.DateParts
import QueryWarden.Proofs.Web.Limits
import QueryWarden.Proofs.Database.Columns
import QueryWarden.Proofs.Schema.Refresh
import QueryWarden.Proofs.Json.ListedTexts
import QueryWarden.Proofs.Json.LineBreaks
import QueryWarden.Proofs.Generation.LineBreaks
import QueryWarden.Proofs.Schema.Forgetting
import QueryWarden.Proofs.Text.Words
import QueryWarden.Proofs.Sql.Renames
import QueryWarden.Proofs.Configuration.Merging
import QueryWarden.Proofs.Configuration.Reading
import QueryWarden.Proofs.Configuration.Variables
import QueryWarden.Proofs.Configuration.Precedence
