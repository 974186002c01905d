import CloudflareShard.Shard.Checkpoint
import CloudflareShard.Coordinator.Legacy
import CloudflareShard.Gateway.Ownership
import CloudflareShard.DataPlane.Export
import CloudflareShard.DataPlane.Frame
import CloudflareShard.DataPlane.ChecksumSound
import CloudflareShard.Gateway.TxIndexes
import CloudflareShard.Migration.Retry
import CloudflareShard.Async.Moves
import CloudflareShard.ControlPlane.ExactSeals
import CloudflareShard.ControlPlane.Terminal
import CloudflareShard.ControlPlane.FleetExact
import CloudflareShard.Coordinator.Preflight
import CloudflareShard.SqlSafety.Guard
import CloudflareShard.Restore.Envelopes
import CloudflareShard.Catalog.Revocation
import CloudflareShard.Catalog.Routable
import CloudflareShard.Restore.LocalFenceHolds
import CloudflareShard.ControlPlane.Quarantine
import CloudflareShard.ControlPlane.Pages
import CloudflareShard.Coordinator.ForceAbort
import CloudflareShard.Coordinator.Admission
import CloudflareShard.Shard.Idempotency
import CloudflareShard.TableScan.Exact
import CloudflareShard.Contracts.ContentHash
import CloudflareShard.Restore.FleetPlans
import CloudflareShard.Async.Exclusive
import CloudflareShard.Sqlite.Capped
import CloudflareShard.Restore.FleetPreview
import CloudflareShard.Restore.FleetStages
import CloudflareShard.Restore.FleetHandlers
import CloudflareShard.Restore.FleetSound
import CloudflareShard.Restore.FleetSteps
import CloudflareShard.Restore.FleetExecuting
import CloudflareShard.Restore.FleetFinishing
import CloudflareShard.Restore.FleetResponses
import CloudflareShard.Restore.FleetMutations
import CloudflareShard.Restore.FleetRuns
