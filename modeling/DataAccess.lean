import DataAccess.Access.Adapter
import DataAccess.Access.Backend
import DataAccess.Access.Deadline
import DataAccess.Access.Engine
import DataAccess.Access.Factory
import DataAccess.Access.Manager
import DataAccess.Access.Migrator
import DataAccess.Access.Notice
import DataAccess.Access.Probe
import DataAccess.Access.Transaction
import DataAccess.Calendar.Timestamp
import DataAccess.Config.Error
import DataAccess.Config.Raw
import DataAccess.Config.Serial
import DataAccess.Config.Settings
import DataAccess.Config.Source
import DataAccess.Config.Typed
import DataAccess.Digest.Sha256
import DataAccess.Dsn.Keywords
import DataAccess.Dsn.Mysql
import DataAccess.Dsn.Postgres
import DataAccess.Dsn.Sqlite
import DataAccess.Duration.Basic
import DataAccess.Duration.Grammar
import DataAccess.Duration.Seconds
import DataAccess.Environment.Basic
import DataAccess.Environment.File
import DataAccess.Environment.Guard
import DataAccess.Error
import DataAccess.Json.Basic
import DataAccess.Json.Reader
import DataAccess.Migration
import DataAccess.Number.Binary64
import DataAccess.Number.Decimal
import DataAccess.Number.Hex
import DataAccess.Number.Layout
import DataAccess.Number.Rounding
import DataAccess.Number.Shortest
import DataAccess.Number.Word
import DataAccess.Observation.Event
import DataAccess.Observation.Plugin
import DataAccess.Proofs.Calendar.Days
import DataAccess.Proofs.Calendar.Timestamp
import DataAccess.Proofs.Concurrent.Calls
import DataAccess.Proofs.Concurrent.Lifecycle
import DataAccess.Proofs.Concurrent.Program
import DataAccess.Proofs.Config.Contract
import DataAccess.Proofs.Dsn.Refusal
import DataAccess.Proofs.Engine.Executor
import DataAccess.Proofs.Engine.Store
import DataAccess.Proofs.Factory.Build
import DataAccess.Proofs.Migration.Apply
import DataAccess.Proofs.Migration.Deployers
import DataAccess.Proofs.Migration.Fresh
import DataAccess.Proofs.Migration.History
import DataAccess.Proofs.Migration.Ledger
import DataAccess.Proofs.Migration.Order
import DataAccess.Proofs.Migration.Prefix
import DataAccess.Proofs.Migration.Remainder
import DataAccess.Proofs.Migration.Reversal
import DataAccess.Proofs.Migration.Rollback
import DataAccess.Proofs.Migration.Steps
import DataAccess.Proofs.Migration.Undoing
import DataAccess.Proofs.Number.Digits
import DataAccess.Proofs.Number.Order
import DataAccess.Proofs.Query.Clauses
import DataAccess.Proofs.Query.Reading
import DataAccess.Proofs.Query.ReadsBack
import DataAccess.Proofs.Query.Tokens
import DataAccess.Proofs.Transaction.Atomicity
import DataAccess.Proofs.Transaction.Body
import DataAccess.Server.Charset
import DataAccess.Server.Options
import DataAccess.Sql.Dialect
import DataAccess.Sql.Query
import DataAccess.Sql.Record
import DataAccess.Sql.Schema
import DataAccess.Sql.Session
import DataAccess.Sql.Statement
import DataAccess.Sql.Value
import DataAccess.Sqlite.Cell
import DataAccess.Sqlite.Change
import DataAccess.Sqlite.Connection
import DataAccess.Sqlite.Definition
import DataAccess.Sqlite.Evaluation
import DataAccess.Sqlite.Opening
import DataAccess.Sqlite.Reader
import DataAccess.Sqlite.Selection
import DataAccess.Sqlite.Syntax
import DataAccess.Sqlite.Table
import DataAccess.Sqlite.Token
import DataAccess.Text.Alphabetic
import DataAccess.Text.Blank
import DataAccess.Text.Numeric
import DataAccess.Text.Quoted
import DataAccess.Text.Uppercase
import DataAccess.Text.Utf8
import DataAccess.Url.Address
import DataAccess.Url.Basic
import DataAccess.Url.Form
import DataAccess.Url.Host
import DataAccess.Url.Location
import DataAccess.Url.Path
import DataAccess.Url.Percent
import DataAccess.Proofs.Duration.Whole
import DataAccess.Proofs.Json.Path
import DataAccess.Proofs.Config.Locations
import DataAccess.Proofs.Config.Reading
import DataAccess.Proofs.Config.Agreement
import DataAccess.Proofs.Config.Shape
import DataAccess.Proofs.Config.RoundTrip
import DataAccess.Proofs.Observation.Recording
import DataAccess.Proofs.Observation.Operations
import DataAccess.Proofs.Observation.Runs
import DataAccess.Proofs.Observation.Outline
import DataAccess.Proofs.Observation.Secrecy
import DataAccess.Proofs.Factory.Agreement
import DataAccess.Proofs.Engine.Logged
import DataAccess.Proofs.Schema.Catalog
import DataAccess.Proofs.Schema.Plan
import DataAccess.Proofs.Schema.Converges
import DataAccess.Proofs.Schema.Contents
import DataAccess.Proofs.Schema.Additive
import DataAccess.Proofs.Environment.Guard
import DataAccess.Proofs.Dsn.Keywords
import DataAccess.Proofs.Url.Percent
import DataAccess.Proofs.Url.Address
import DataAccess.Proofs.Url.Path
import DataAccess.Proofs.Url.WellFormed
import DataAccess.Proofs.Url.ReadsBack
import DataAccess.Proofs.Dsn.Host
import DataAccess.Proofs.Transaction.Conduct
import DataAccess.Proofs.Transaction.Release
import DataAccess.Proofs.Text.Utf8
import DataAccess.Proofs.Number.Word
import DataAccess.Proofs.Url.Parts
import DataAccess.Proofs.Dsn.Classic
import DataAccess.Proofs.Dsn.Account
import DataAccess.Proofs.Dsn.Order
import DataAccess.Proofs.Text.Trim
import DataAccess.Proofs.Dsn.Parameters
import DataAccess.Proofs.Dsn.Files
import DataAccess.Proofs.Dsn.Reread
import DataAccess.Proofs.Migration.Changes
import DataAccess.Proofs.Migration.AllOrNothing
import DataAccess.Proofs.Schema.Lexemes
import DataAccess.Proofs.Schema.Declarations
import DataAccess.Proofs.Schema.Definitions
import DataAccess.Proofs.Config.Overrides
import DataAccess.Proofs.Config.Strict
import DataAccess.Proofs.Config.Placed
import DataAccess.Proofs.Statement.FirstWord
import DataAccess.Proofs.Number.Nearest
import DataAccess.Proofs.Duration.ReadsBack
import DataAccess.Proofs.Duration.Grammar
import DataAccess.Duration.Scan
import DataAccess.Proofs.Duration.Scan
import DataAccess.Proofs.Duration.Terms
import DataAccess.Proofs.Config.Seconds
import DataAccess.Number.Literal
import DataAccess.Proofs.Json.Members
import DataAccess.Proofs.Config.Faults
import DataAccess.Proofs.Config.Counts
import DataAccess.Proofs.Record.Views
import DataAccess.Proofs.Query.Identifiers
import DataAccess.Proofs.Query.Names
import DataAccess.Proofs.Schema.Names
