import SwitchLab.Bench.Programs
import SwitchLab.Bench.RedisServer
import SwitchLab.Bench.Rounds
import SwitchLab.Bench.World
import SwitchLab.Fixture
import SwitchLab.Options.File
import SwitchLab.Store.Capture
import SwitchLab.Topology.Controller
import SwitchLab.Topology.Document
import SwitchLab.Proofs.AdminStates
import SwitchLab.Proofs.Afterwards
import SwitchLab.Proofs.Asic
import SwitchLab.Proofs.Attaching
import SwitchLab.Proofs.Baseline
import SwitchLab.Proofs.Building
import SwitchLab.Proofs.Capturing
import SwitchLab.Proofs.Choices
import SwitchLab.Proofs.Commands
import SwitchLab.Proofs.Construction
import SwitchLab.Proofs.Containers
import SwitchLab.Proofs.Contract
import SwitchLab.Proofs.Convergence
import SwitchLab.Proofs.Databases
import SwitchLab.Proofs.Defaults
import SwitchLab.Proofs.Directories
import SwitchLab.Proofs.Dismantling
import SwitchLab.Proofs.Events
import SwitchLab.Proofs.Failures
import SwitchLab.Proofs.Families
import SwitchLab.Proofs.Fields
import SwitchLab.Proofs.Globs
import SwitchLab.Proofs.Hashes
import SwitchLab.Proofs.Histories
import SwitchLab.Proofs.Keys
import SwitchLab.Proofs.Leftovers
import SwitchLab.Proofs.Lifecycle
import SwitchLab.Proofs.Links
import SwitchLab.Proofs.Lives
import SwitchLab.Proofs.Operations
import SwitchLab.Proofs.Ordering
import SwitchLab.Proofs.Paths
import SwitchLab.Proofs.Pings
import SwitchLab.Proofs.Polling
import SwitchLab.Proofs.Presence
import SwitchLab.Proofs.Provisioning
import SwitchLab.Proofs.Processes
import SwitchLab.Proofs.Readiness
import SwitchLab.Proofs.Reading
import SwitchLab.Proofs.Reattaching
import SwitchLab.Proofs.Records
import SwitchLab.Proofs.Removal
import SwitchLab.Proofs.Requests
import SwitchLab.Proofs.Rounds
import SwitchLab.Proofs.Rules
import SwitchLab.Proofs.Runs
import SwitchLab.Proofs.Seeding
import SwitchLab.Proofs.Servers
import SwitchLab.Proofs.Serving
import SwitchLab.Proofs.Sessions
import SwitchLab.Proofs.Settings
import SwitchLab.Proofs.Startup
import SwitchLab.Proofs.Statuses
import SwitchLab.Proofs.Subscriptions
import SwitchLab.Proofs.Surroundings
import SwitchLab.Proofs.Teardown
import SwitchLab.Proofs.Texts
import SwitchLab.Proofs.Traces
import SwitchLab.Proofs.TypedRecords
import SwitchLab.Proofs.Unwiring
import SwitchLab.Proofs.Validation
import SwitchLab.Proofs.Verification
import SwitchLab.Proofs.VethNames
import SwitchLab.Proofs.Waiting
import SwitchLab.Proofs.Wiring
import SwitchLab.Proofs.Words
