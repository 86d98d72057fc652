import FleetWatch.Api
import FleetWatch.CommandLine
import FleetWatch.Fleet.Persistence
import FleetWatch.Main
import FleetWatch.Proofs.Family
import FleetWatch.Settings.Load
import FleetWatch.Shutdown
import FleetWatch.Proofs.Rollup
import FleetWatch.Proofs.Recording
import FleetWatch.Proofs.Run
import FleetWatch.Proofs.Deployment
import FleetWatch.Proofs.Consistency
import FleetWatch.Proofs.Rounds
import FleetWatch.Proofs.Healthy
import FleetWatch.Proofs.RunningHealthy
import FleetWatch.Proofs.Agreement
import FleetWatch.Proofs.Alerts
import FleetWatch.Proofs.Unrecognized
import FleetWatch.Proofs.Splitting
import FleetWatch.Proofs.Footprint
import FleetWatch.Proofs.Commutation
import FleetWatch.Proofs.Leftovers
import FleetWatch.Proofs.Forgetting
import FleetWatch.Proofs.Failures
import FleetWatch.Proofs.WellFormed
import FleetWatch.Proofs.Parents
import FleetWatch.Proofs.Persistence
import FleetWatch.Proofs.Authorization
import FleetWatch.Proofs.Coverage
import FleetWatch.Proofs.Counting
import FleetWatch.Proofs.StatusText
import FleetWatch.Proofs.Gauge
import FleetWatch.Proofs.Pieces
import FleetWatch.Proofs.WrittenStatus
import FleetWatch.Proofs.Declarations
import FleetWatch.Proofs.Labels
import FleetWatch.Proofs.Tagging
import FleetWatch.Proofs.Problems
import FleetWatch.Proofs.Repetition
import FleetWatch.Proofs.ShownKeys
import FleetWatch.Proofs.Inspections
