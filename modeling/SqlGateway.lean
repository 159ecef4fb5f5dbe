import SqlGateway.Config.Database
import SqlGateway.Config.Pool
import SqlGateway.Config.Settings
import SqlGateway.Dialect.Basic
import SqlGateway.Dialect.Fragment
import SqlGateway.Dialect.Registry
import SqlGateway.Dialect.Render
import SqlGateway.Driver.Basic
import SqlGateway.Driver.Client
import SqlGateway.Driver.Registry
import SqlGateway.Executor.Host
import SqlGateway.Executor.Result
import SqlGateway.Executor.Runner
import SqlGateway.Executor.Transaction
import SqlGateway.Failure
import SqlGateway.Failure.Assemble
import SqlGateway.Interchange.Document
import SqlGateway.Interchange.Failures
import SqlGateway.Interchange.Objects
import SqlGateway.Interchange.Queries
import SqlGateway.Interchange.Records
import SqlGateway.Interchange.Results
import SqlGateway.Logging.Context
import SqlGateway.Logging.Json
import SqlGateway.Logging.Library
import SqlGateway.Logging.Record
import SqlGateway.Mapping.Descriptor
import SqlGateway.Mapping.Record
import SqlGateway.Notice
import SqlGateway.Number.Binary64
import SqlGateway.Number.Decimal
import SqlGateway.Number.Fixed
import SqlGateway.Number.FloatText
import SqlGateway.Number.Ratio
import SqlGateway.Number.Shortest
import SqlGateway.Pool.Basic
import SqlGateway.Pool.Desk
import SqlGateway.Pool.Operation
import SqlGateway.Query.Column
import SqlGateway.Query.Condition
import SqlGateway.Query.Equal
import SqlGateway.Query.Issue
import SqlGateway.Query.Placeholder
import SqlGateway.Query.Statement
import SqlGateway.Rehearsal.Database
import SqlGateway.Rehearsal.DriverScript
import SqlGateway.Rehearsal.EngineScript
import SqlGateway.Rehearsal.Field
import SqlGateway.Rehearsal.Logging
import SqlGateway.Rehearsal.PoolFields
import SqlGateway.Rehearsal.PoolScript
import SqlGateway.Rehearsal.Settings
import SqlGateway.Rehearsal.VariableFile
import SqlGateway.Rehearsal.World
import SqlGateway.Repository.Basic
import SqlGateway.Repository.Statements
import SqlGateway.Telemetry
import SqlGateway.Text.Blank
import SqlGateway.Text.Case
import SqlGateway.Text.Digit
import SqlGateway.Text.Hex
import SqlGateway.Text.Printable
import SqlGateway.Text.Quoted
import SqlGateway.Text.Utf8
import SqlGateway.Text.WordEnd
import SqlGateway.Time.Calendar
import SqlGateway.Time.Iso8601
import SqlGateway.Time.Seconds
import SqlGateway.Url.Address
import SqlGateway.Url.Percent
import SqlGateway.Url.Split
import SqlGateway.Value.Basic
import SqlGateway.Value.Codec
import SqlGateway.Value.Convert
import SqlGateway.Value.Refusal
import SqlGateway.Value.Shown
import SqlGateway.Value.Uuid
import SqlGateway.Value.Whole
import SqlGateway.Proofs.Pool.Floor
import SqlGateway.Proofs.Pool.Ownership
import SqlGateway.Proofs.Executor.Journal
import SqlGateway.Proofs.Executor.TransactionLife
import SqlGateway.Proofs.Executor.Tenancy
import SqlGateway.Proofs.Executor.AllOrNothing
import SqlGateway.Proofs.Value.RoundTrip
import SqlGateway.Proofs.Dialect.Placeholders
import SqlGateway.Proofs.Query.Quotation
import SqlGateway.Proofs.Dialect.Percent
import SqlGateway.Proofs.Dialect.Grouping
import SqlGateway.Proofs.Pool.Shutdown
import SqlGateway.Proofs.Dialect.Shape
import SqlGateway.Proofs.Dialect.Tokens
import SqlGateway.Proofs.Pool.Returns
import SqlGateway.Proofs.Executor.Calls
import SqlGateway.Proofs.Executor.Health
import SqlGateway.Proofs.Executor.Sending
import SqlGateway.Proofs.Executor.Blindness
import SqlGateway.Proofs.Pool.Wakeups
import SqlGateway.Proofs.Dialect.Refusals
import SqlGateway.Proofs.Mapping.RecordRoundTrip
import SqlGateway.Proofs.Dialect.Identifiers
import SqlGateway.Proofs.Number.LargestDouble
import SqlGateway.Proofs.Value.Breakdowns
import SqlGateway.Proofs.Number.Numeral
import SqlGateway.Proofs.Value.Exact
import SqlGateway.Proofs.Pool.Checkout
import SqlGateway.Proofs.Executor.Vigil
import SqlGateway.Proofs.Executor.Interrupts
import SqlGateway.Proofs.Repository.Inserts
import SqlGateway.Proofs.Repository.Keyed
import SqlGateway.Proofs.Executor.Causes
import SqlGateway.Proofs.Driver.Connecting
import SqlGateway.Proofs.Driver.Cursors
import SqlGateway.Proofs.Pool.Sweep
import SqlGateway.Proofs.Executor.Holding
import SqlGateway.Proofs.Config.Rereading
import SqlGateway.Proofs.Dialect.Registration
import SqlGateway.Proofs.Telemetry.Delivery
import SqlGateway.Proofs.Logging.Redaction
import SqlGateway.Proofs.Logging.Scopes
import SqlGateway.Proofs.Executor.RowsByName
import SqlGateway.Proofs.Executor.Layout
import SqlGateway.Proofs.Pool.Row
import SqlGateway.Proofs.Pool.Warmth
import SqlGateway.Proofs.Failure.Context
