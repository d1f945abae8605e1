import Orchestra.Audit
import Orchestra.Audit.Database
import Orchestra.Calendar
import Orchestra.Capability.Builtin
import Orchestra.Capability.Error
import Orchestra.Capability.Handler
import Orchestra.Capability.Registry
import Orchestra.Capability.Scripted
import Orchestra.Catalog
import Orchestra.Catalog.Directory
import Orchestra.Cli
import Orchestra.Database.Addition
import Orchestra.Database.FreeList
import Orchestra.Database.Growth
import Orchestra.Database.Image
import Orchestra.Database.Journal
import Orchestra.Database.Location
import Orchestra.Database.Log
import Orchestra.Database.Node
import Orchestra.Database.Opening
import Orchestra.Database.PageMap
import Orchestra.Database.Provision
import Orchestra.Database.Row
import Orchestra.Database.Schema
import Orchestra.Dict
import Orchestra.File.Host
import Orchestra.File.Name
import Orchestra.File.Tree
import Orchestra.Flag.Bucket
import Orchestra.Flag.Config
import Orchestra.Flag.Gate
import Orchestra.Json.Basic
import Orchestra.Json.Document
import Orchestra.Json.Reader
import Orchestra.Json.Record
import Orchestra.Json.Text
import Orchestra.Main
import Orchestra.Number.Decimal
import Orchestra.Number.Double
import Orchestra.Number.Extended
import Orchestra.Number.Literal
import Orchestra.Number.Value
import Orchestra.Outputs
import Orchestra.Path
import Orchestra.Pattern.Basic
import Orchestra.Pattern.Printing
import Orchestra.Pattern.Reading
import Orchestra.Proofs.Act
import Orchestra.Proofs.Attempt
import Orchestra.Proofs.Choice
import Orchestra.Proofs.Containment
import Orchestra.Proofs.Course
import Orchestra.Proofs.Descent
import Orchestra.Proofs.Offer
import Orchestra.Proofs.Outcome
import Orchestra.Proofs.Reader
import Orchestra.Proofs.Recursion
import Orchestra.Proofs.Replay
import Orchestra.Proofs.Serving
import Orchestra.Proofs.Verdict
import Orchestra.Room
import Orchestra.Run.Envelope
import Orchestra.Run.Event
import Orchestra.Run.Loop
import Orchestra.Run.Request
import Orchestra.Run.Runner
import Orchestra.Run.Session
import Orchestra.Run.Step
import Orchestra.Settings.Basic
import Orchestra.Settings.Layer
import Orchestra.Settings.Loading
import Orchestra.Settings.Reading
import Orchestra.Settings.Value
import Orchestra.Sha256
import Orchestra.Sql.Create
import Orchestra.Sql.Declaration
import Orchestra.Sql.Expr
import Orchestra.Sql.Function
import Orchestra.Sql.Operator
import Orchestra.Sql.Query
import Orchestra.Sql.Reader
import Orchestra.Sql.Scope
import Orchestra.Sql.Table
import Orchestra.Sql.Token
import Orchestra.State
import Orchestra.Telemetry
import Orchestra.Template.Placeholder
import Orchestra.Template.Resolve
import Orchestra.Text
import Orchestra.Toml.Moment
import Orchestra.Toml.Quoted
import Orchestra.Toml.Reader
import Orchestra.Toml.Scalar
import Orchestra.Toml.Table
import Orchestra.Toml.Value
import Orchestra.Utf8
import Orchestra.Proofs.Check
import Orchestra.Proofs.Stream
import Orchestra.Proofs.Speech
import Orchestra.Proofs.Telling
import Orchestra.Proofs.Played
import Orchestra.Proofs.Protocol
import Orchestra.Proofs.Agreement
import Orchestra.Proofs.Departure
import Orchestra.Proofs.TextProtocol
import Orchestra.Proofs.Accord
import Orchestra.Proofs.Steady
import Orchestra.Proofs.Routing
import Orchestra.Proofs.Invocation
import Orchestra.Proofs.Accounting
import Orchestra.Proofs.Encapsulation
import Orchestra.Proofs.Tally
import Orchestra.Proofs.Isolation
import Orchestra.Proofs.Turn
import Orchestra.Proofs.Stickiness
import Orchestra.Proofs.Placeholder
import Orchestra.Proofs.Substitution
import Orchestra.Proofs.Spelling
import Orchestra.Proofs.PatternSpelling
import Orchestra.Proofs.Bookkeeping
import Orchestra.Proofs.Canonical
import Orchestra.Proofs.RoundTrip
import Orchestra.Proofs.Rollout
import Orchestra.Proofs.Snapshot
import Orchestra.Proofs.Retention
import Orchestra.Proofs.AuditStores
import Orchestra.Proofs.Mention
import Orchestra.Proofs.Unresolved
import Orchestra.Proofs.Shadowing
import Orchestra.Proofs.DeclaredKeys
import Orchestra.Proofs.PanelResolution
import Orchestra.Proofs.DataPath
import Orchestra.Proofs.FlagLookup
import Orchestra.Proofs.Registration
import Orchestra.Proofs.CapabilityStreams
import Orchestra.Proofs.PathComposition
import Orchestra.Proofs.CallLog
import Orchestra.Proofs.FileFormat
import Orchestra.Proofs.PatternFiles
import Orchestra.Proofs.CatalogLoading
