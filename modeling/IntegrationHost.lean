import IntegrationHost.Adapter.Definition
import IntegrationHost.Adapter.Live
import IntegrationHost.Attempt
import IntegrationHost.Cli.Arguments
import IntegrationHost.Cli.Manual
import IntegrationHost.Cli.Run
import IntegrationHost.Config.Environment
import IntegrationHost.Config.Error
import IntegrationHost.Config.Location
import IntegrationHost.Config.Marshaller
import IntegrationHost.Config.PreProcessor
import IntegrationHost.Config.Settings
import IntegrationHost.Config.Sources
import IntegrationHost.Config.Template
import IntegrationHost.Config.Transport
import IntegrationHost.Config.Value
import IntegrationHost.Config.VersionControl
import IntegrationHost.Descriptor
import IntegrationHost.Double
import IntegrationHost.Error
import IntegrationHost.ExternalError
import IntegrationHost.Files
import IntegrationHost.Host
import IntegrationHost.Json.Access
import IntegrationHost.Json.Basic
import IntegrationHost.Json.Numeral
import IntegrationHost.Json.Printer
import IntegrationHost.Json.Reader
import IntegrationHost.Json.Record
import IntegrationHost.Json.Token
import IntegrationHost.Lifecycle.Command
import IntegrationHost.Lifecycle.Error
import IntegrationHost.Lifecycle.Managed
import IntegrationHost.Lifecycle.Members
import IntegrationHost.Lifecycle.State
import IntegrationHost.Main
import IntegrationHost.Management.ObjectName
import IntegrationHost.Management.Operation
import IntegrationHost.Management.Server
import IntegrationHost.Message
import IntegrationHost.OnceFlag
import IntegrationHost.Pool.Basic
import IntegrationHost.Pool.Config
import IntegrationHost.Pool.Error
import IntegrationHost.Pool.Executor
import IntegrationHost.Pool.Guards
import IntegrationHost.Proofs.Adapter.Balance
import IntegrationHost.Proofs.Adapter.Coherence
import IntegrationHost.Proofs.Adapter.Projection
import IntegrationHost.Proofs.Lifecycle.Coherence
import IntegrationHost.Proofs.Lifecycle.Life
import IntegrationHost.Proofs.Lifecycle.Obedience
import IntegrationHost.Proofs.Lifecycle.Projection
import IntegrationHost.Proofs.Lifecycle.Requests
import IntegrationHost.Proofs.Lifecycle.Simulation
import IntegrationHost.Proofs.Management.Server
import IntegrationHost.Proofs.Pool.Accounting
import IntegrationHost.Proofs.Pool.Custody
import IntegrationHost.Proofs.Pool.Exact
import IntegrationHost.Proofs.Pool.Numbered
import IntegrationHost.Proofs.Pool.Projection
import IntegrationHost.Proofs.Pool.Session
import IntegrationHost.Proofs.Pool.Upkeep
import IntegrationHost.Proofs.Registry.Consistency
import IntegrationHost.Proofs.Registry.Ledger
import IntegrationHost.Proofs.Registry.Operations
import IntegrationHost.Proofs.Service.Balance
import IntegrationHost.Proofs.Service.Coherence
import IntegrationHost.Proofs.Service.Enactment
import IntegrationHost.Proofs.Service.Meaning
import IntegrationHost.Proofs.Service.Outcome
import IntegrationHost.Proofs.Service.Projection
import IntegrationHost.Proofs.Service.Recorded
import IntegrationHost.Proofs.Service.Reliability
import IntegrationHost.Proofs.Service.Schedule
import IntegrationHost.Proofs.Service.Stock
import IntegrationHost.Proofs.Service.Tally
import IntegrationHost.Proofs.Text.Dictionary
import IntegrationHost.Proofs.Text.Search
import IntegrationHost.Registry.Admission
import IntegrationHost.Registry.Basic
import IntegrationHost.Registry.Destruction
import IntegrationHost.Registry.Reload
import IntegrationHost.Rehearsal.Actor
import IntegrationHost.Rehearsal.Collaborators
import IntegrationHost.Rehearsal.Draft
import IntegrationHost.Rehearsal.Masks
import IntegrationHost.Rehearsal.Programs
import IntegrationHost.Rehearsal.Shell.Basic
import IntegrationHost.Rehearsal.Shell.Builtin
import IntegrationHost.Rehearsal.Shell.Calculation
import IntegrationHost.Rehearsal.Shell.Condition
import IntegrationHost.Rehearsal.Shell.Expansion
import IntegrationHost.Rehearsal.Shell.Lexeme
import IntegrationHost.Rehearsal.Shell.Printing
import IntegrationHost.Rehearsal.Shell.Reader
import IntegrationHost.Rehearsal.Shell.Run
import IntegrationHost.Rehearsal.Shell.Script
import IntegrationHost.Rehearsal.Stage
import IntegrationHost.Rehearsal.Token
import IntegrationHost.Rehearsal.Tools
import IntegrationHost.Rehearsal.Trace
import IntegrationHost.Report
import IntegrationHost.Service.Behaviour
import IntegrationHost.Service.Chain
import IntegrationHost.Service.Definition
import IntegrationHost.Service.Equality
import IntegrationHost.Service.Error
import IntegrationHost.Service.Live
import IntegrationHost.Service.Simple
import IntegrationHost.Service.SplitJoin
import IntegrationHost.Service.WorkerPool
import IntegrationHost.Text.Blank
import IntegrationHost.Text.Dictionary
import IntegrationHost.Text.Digits
import IntegrationHost.Text.Letters
import IntegrationHost.Text.Lossy
import IntegrationHost.Text.LowerCase
import IntegrationHost.Text.Search
import IntegrationHost.Timestamp
import IntegrationHost.Toml.Document
import IntegrationHost.Toml.Moment
import IntegrationHost.Toml.Number
import IntegrationHost.Toml.Scanner
import IntegrationHost.Toml.Statement
import IntegrationHost.Uuid
import IntegrationHost.Violation
import IntegrationHost.Proofs.Registry.Admission
import IntegrationHost.Proofs.Registry.Moves
import IntegrationHost.Proofs.Registry.Fleet
import IntegrationHost.Proofs.Registry.Serving
import IntegrationHost.Proofs.Registry.Replacement
import IntegrationHost.Proofs.Registry.Race
import IntegrationHost.Proofs.Json.Numeral
import IntegrationHost.Proofs.Json.RoundTrip
import IntegrationHost.Proofs.Json.Record
import IntegrationHost.Proofs.Service.Configuration
import IntegrationHost.Proofs.Adapter.Configuration
import IntegrationHost.Proofs.Violation
import IntegrationHost.Proofs.Adapter.Element
import IntegrationHost.Proofs.Adapter.Validation
import IntegrationHost.Proofs.Lifecycle.Names
import IntegrationHost.Proofs.Adapter.Failure
import IntegrationHost.Proofs.Adapter.Enactment
import IntegrationHost.Proofs.Adapter.Running
import IntegrationHost.Proofs.Registry.Prediction
import IntegrationHost.Proofs.Lifecycle.Discipline
import IntegrationHost.Proofs.Text.Order
import IntegrationHost.Proofs.Management.ObjectName
import IntegrationHost.Proofs.Registry.Strangers
import IntegrationHost.Proofs.Files
import IntegrationHost.Proofs.Adapter.Reading
import IntegrationHost.Proofs.Config.Substitution
import IntegrationHost.Proofs.Config.Preparation
import IntegrationHost.Proofs.Registry.Persistence
import IntegrationHost.Proofs.Lifecycle.Trail
import IntegrationHost.Proofs.Lifecycle.Rollback
import IntegrationHost.Proofs.Service.Holding
import IntegrationHost.Proofs.Adapter.Closure
import IntegrationHost.Proofs.Registry.Traffic
import IntegrationHost.Proofs.Registry.Erasure
import IntegrationHost.Proofs.Lifecycle.Initialisation
import IntegrationHost.Proofs.Adapter.Initialisation
import IntegrationHost.Proofs.Pool.Idle
import IntegrationHost.Proofs.Pool.Refusal
import IntegrationHost.Proofs.Pool.Sufficiency
import IntegrationHost.Proofs.Adapter.Routing
import IntegrationHost.Proofs.Service.Crew
import IntegrationHost.Proofs.Service.Register
import IntegrationHost.Proofs.Service.Positions
import IntegrationHost.Proofs.Service.Warmup
import IntegrationHost.Proofs.Lifecycle.Walks
import IntegrationHost.Proofs.Text.Blank
import IntegrationHost.Proofs.Config.Location
import IntegrationHost.Proofs.Registry.Building
import IntegrationHost.Proofs.Service.Merging
import IntegrationHost.Proofs.Flattening
import IntegrationHost.Proofs.Registry.Bulk
import IntegrationHost.Proofs.Adapter.Rearrangement
