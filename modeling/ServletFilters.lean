import ServletFilters.Chain.Pool
import ServletFilters.CommandLine.Answer
import ServletFilters.Component.Builtin.Servlets
import ServletFilters.Config.Decode
import ServletFilters.Config.Schema
import ServletFilters.Config.Source
import ServletFilters.Config.Validation
import ServletFilters.Container.Client
import ServletFilters.Container.Host
import ServletFilters.Container.Service
import ServletFilters.Data.Dict
import ServletFilters.Exchange.Fields
import ServletFilters.Exchange.Request
import ServletFilters.Exchange.Response
import ServletFilters.Journal.Report
import ServletFilters.Lifecycle.Shutdown
import ServletFilters.Lifecycle.Startup
import ServletFilters.Lifecycle.Supervision
import ServletFilters.Lifecycle.Watcher
import ServletFilters.Main
import ServletFilters.Proofs.Chain.Population
import ServletFilters.Proofs.Chain.ShortCircuit
import ServletFilters.Proofs.Chain.Moves
import ServletFilters.Proofs.Chain.SinglePass
import ServletFilters.Proofs.CommandLine.Resolving
import ServletFilters.Proofs.Component.Accounts
import ServletFilters.Proofs.Component.Advancing
import ServletFilters.Proofs.Component.Evenness
import ServletFilters.Proofs.Component.Lifetimes
import ServletFilters.Proofs.Component.Retirement
import ServletFilters.Proofs.Container.Changes
import ServletFilters.Proofs.Container.Course
import ServletFilters.Proofs.Container.Depth
import ServletFilters.Proofs.Container.Downgrading
import ServletFilters.Proofs.Container.Ending
import ServletFilters.Proofs.Container.Execution
import ServletFilters.Proofs.Container.Failures
import ServletFilters.Proofs.Container.Guarding
import ServletFilters.Proofs.Container.Mediation
import ServletFilters.Proofs.Container.Pipelines
import ServletFilters.Proofs.Container.Pooling
import ServletFilters.Proofs.Container.Recording
import ServletFilters.Proofs.Container.Refusals
import ServletFilters.Proofs.Container.Reloading
import ServletFilters.Proofs.Container.Renewal
import ServletFilters.Proofs.Container.Restoring
import ServletFilters.Proofs.Container.Snapshots
import ServletFilters.Proofs.Container.Visits
import ServletFilters.Proofs.Lifecycle.Watching
import ServletFilters.Proofs.Parallel.Likeness
import ServletFilters.Proofs.Parallel.State
import ServletFilters.Proofs.Registry.Gates
import ServletFilters.Proofs.Routing.Matching
import ServletFilters.Proofs.Routing.Selection
import ServletFilters.Routing.Resolution
import ServletFilters.Script.Class
import ServletFilters.Text.Folding
import ServletFilters.Text.Hidden
import ServletFilters.Text.Numeral
import ServletFilters.Text.Quoted
import ServletFilters.Text.Split
import ServletFilters.Proofs.Container.Idling
import ServletFilters.Proofs.Container.Resuming
import ServletFilters.Proofs.Container.Fatality
import ServletFilters.Proofs.Container.Yielding
import ServletFilters.Proofs.Container.Forwarding
import ServletFilters.Proofs.Container.Passing
import ServletFilters.Proofs.Container.Suspending
import ServletFilters.Proofs.Config.Defects
import ServletFilters.Proofs.Registry.Making
import ServletFilters.Proofs.Registry.Patterns
import ServletFilters.Proofs.Component.Lasting
import ServletFilters.Proofs.Component.Strays
import ServletFilters.Proofs.Container.Routes
import ServletFilters.Proofs.Container.Balancing
import ServletFilters.Proofs.Component.Handling
import ServletFilters.Proofs.Http.Adapting
import ServletFilters.Proofs.Chain.Reuse
import ServletFilters.Proofs.Exchange.HeaderWrites
import ServletFilters.Proofs.Lifecycle.Signalling
import ServletFilters.Proofs.Http.Answering
import ServletFilters.Proofs.Chain.History
import ServletFilters.Proofs.Exchange.Parameters
