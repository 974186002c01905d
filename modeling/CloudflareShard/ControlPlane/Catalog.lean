import CloudflareShard.Async.Run
import CloudflareShard.ControlPlane.Journal

/-!
# The storage of the fleet catalog

One `FleetManifestCatalogDO`: which manifest buckets exist, snapshots of them, and the closes that
certify all buckets of a snapshot up to a cutoff.

* `ActiveRow`, `HistoryRow`, `SnapshotRow`, `CloseRow`, `ProgressRow`   the rows;
* `Metadata`, `Store`       the object, with what has happened to it so far;
* `Document`, `CatalogLib`  what the catalog hashes;
* `Catalog`                 its methods, and the statements that several of them share.
-/

namespace FleetCatalog
open Async Contracts

def initialPartitionCount : Nat := 16
def defaultCatalogPageSize : Nat := 64
def maxCatalogPageSize : Nat := 128
def catalogAlarmBatchSize : Nat := 16
def catalogAlarmBaseRetryMs : Nat := 2000
def catalogAlarmMaxRetryMs : Nat := 5 * 60000
def catalogCursorMaxLeaseMs : Nat := 15 * 60 * 1000
def catalogHistoryRetentionMs : Nat := JournalManifest.coordinatorRetentionDays * JournalManifest.dayMs
def manifestRouteRecoveryMs : Nat := 60 * 60 * 1000
def zeroHash : Hash := JournalManifest.zeroHash
def maxSafeInteger : Nat := 2 ^ 53 - 1

/-- a UTC day, counted from 1970 -/
abbrev Day := Nat

/-- comes before every day that a manifest can have -/
def firstEffectiveDay : Day := 0

def dayOf (timestampMs : Nat) : Day := timestampMs / JournalManifest.dayMs

/-! ## rows -/

/-- `reservation_day` and `partition` -/
structure Bucket where
  reservationDay : Day
  partition : Nat
  deriving DecidableEq

/-- the immutable content of an activation -/
structure Entry where
  bucket : Bucket
  partitionCount : Nat
  partitionConfigHash : Hash
  entryHash : Hash
  deriving DecidableEq

structure Metadata where
  fleetId : String
  decisionFloorMs : Nat
  nextEventSequence : Nat
  currentSnapshotGeneration : Nat
  lastSnapshotHash : Hash
  partitionConfigRootHash : Hash
  legacyScannedThroughDay : Option Day
  legacyGridMaterializedThroughDay : Option Day
  reservationRequiredSinceDay : Option Day
  reservationRequiredSinceMs : Option Nat
  /-- `-1` when no legacy record was admitted -/
  legacyAdmittedThroughMs : Int

structure PartitionConfigRow where
  effectiveFromDay : Day
  partitionCount : Nat
  priorHash : Hash
  configHash : Hash

structure Retirement where
  sequence : Nat
  certificateHash : Hash

/-- a row of `active_buckets` -/
structure ActiveRow where
  entry : Entry
  activationSequence : Nat
  activationKey : Hash
  retired : Option Retirement

/-- a row of `catalog_activation_keys` -/
structure ActivationKeyRow where
  activationKey : Hash
  bucket : Bucket
  entryHash : Hash
  createdAtMs : Nat

structure Deactivation where
  sequence : Nat
  atMs : Nat

/-- a row of `catalog_bucket_activation_history` -/
structure HistoryRow where
  activationSequence : Nat
  entry : Entry
  deactivated : Option Deactivation

inductive SnapshotStatus where
  | building
  | complete (snapshotHash : Hash) (completedAtMs : Nat)

structure SnapshotRow where
  generation : Nat
  idempotencyKey : String
  cutoffMs : Nat
  decisionFloorMs : Nat
  fenceSequence : Nat
  partitionConfigRootHash : Hash
  priorSnapshotHash : Hash
  status : SnapshotStatus
  cursorSequence : Nat
  entryCount : Nat
  rollingHash : Hash
  createdAtMs : Nat

/-- a row of `catalog_snapshot_entries` -/
structure SnapshotEntryRow where
  generation : Nat
  activationSequence : Nat
  entry : Entry

inductive CloseStatus where
  | pending
  | complete (fleetRootHash : Hash)

/-- a row of `catalog_close_operations` -/
structure CloseRow where
  closeKey : Hash
  cutoffMs : Nat
  snapshotGeneration : Nat
  snapshotHash : Hash
  status : CloseStatus
  progressCursorSequence : Nat
  completedEntries : Nat
  totalEntries : Nat
  createdAtMs : Nat
  updatedAtMs : Nat

/-- a row of `catalog_close_progress`; it is complete when it has its receipt -/
structure ProgressRow where
  closeKey : Hash
  activationSequence : Nat
  bucket : Bucket
  bucketCloseKey : Hash
  exactReceiptHash : Option Hash

inductive Purpose where
  | snapshotResume
  | cursorGc
  | routeGc
  | historyGc
  deriving DecidableEq

/-- a row of `alarm_schedule` -/
structure AlarmPurpose where
  purpose : Purpose
  fireAtMs : Nat
  generation : Nat
  payloadHash : Hash
  attemptCount : Nat
  deriving DecidableEq

/-- a row of `manifest_route_assignments` -/
structure AssignmentRow where
  assignmentKey : Hash
  txId : TxId
  requestHash : Hash
  reservationHash : Hash
  reservation : ManifestReservation
  deleteAfterMs : Nat

structure EnumerationCursor where
  requestHash : Hash
  catalogCloseKey : Hash
  fleetRootHash : Hash
  catalogGeneration : Nat
  catalogSnapshotHash : Hash
  bucket : Bucket
  localCursor : Option JournalManifest.LocalPageCursor
  deriving DecidableEq

structure EvidencePin where
  bucket : Bucket
  retentionEpoch : Nat
  sealReceiptHash : Hash
  leaseExpiresAtMs : Nat

/-- a row of `catalog_enumeration_cursors` -/
structure CursorRow where
  cursor : EnumerationCursor
  evidence : List EvidencePin
  expiresAtMs : Nat

def SnapshotRow.isBuilding (row : SnapshotRow) : Bool :=
  match row.status with
  | .building => true
  | .complete .. => false

/-- `COALESCE(completed_at_ms, created_at_ms)` -/
def SnapshotRow.settledAtMs (row : SnapshotRow) : Nat :=
  match row.status with
  | .building => row.createdAtMs
  | .complete _ completedAtMs => completedAtMs

def SnapshotRow.snapshotHash (row : SnapshotRow) : Option Hash :=
  match row.status with
  | .building => none
  | .complete snapshotHash _ => some snapshotHash

def CloseRow.isPending (row : CloseRow) : Bool :=
  match row.status with
  | .pending => true
  | .complete _ => false

def CloseRow.fleetRootHash (row : CloseRow) : Option Hash :=
  match row.status with
  | .pending => none
  | .complete fleetRootHash => some fleetRootHash

/-! ## the object -/

/-- an activation or a retirement, at its place in the sequence of the fleet -/
inductive BucketEvent where
  | activated (sequence : Nat) (entry : Entry)
  | retired (sequence : Nat) (bucket : Bucket)

/-- a floor that `activateBucket` has answered, and the newest snapshot there was then -/
structure FloorAnswer where
  bucket : Bucket
  requiredDecisionFloorMs : Nat
  snapshotGeneration : Nat

/-- `now` is what `Date.now()` shows; the last five fields record what has happened -/
structure Store where
  metadata : Option Metadata
  configs : Keyed Day PartitionConfigRow PartitionConfigRow.effectiveFromDay
  active : Keyed Bucket ActiveRow fun row => row.entry.bucket
  activationKeys : Keyed Hash ActivationKeyRow ActivationKeyRow.activationKey
  history : Keyed Nat HistoryRow HistoryRow.activationSequence
  snapshots : Keyed Nat SnapshotRow SnapshotRow.generation
  entries : Keyed (Nat × Nat) SnapshotEntryRow fun row => (row.generation, row.activationSequence)
  closes : Keyed Hash CloseRow CloseRow.closeKey
  progress : Keyed (Hash × Nat) ProgressRow fun row => (row.closeKey, row.activationSequence)
  alarmSchedule : Keyed Purpose AlarmPurpose AlarmPurpose.purpose
  assignments : Keyed Hash AssignmentRow AssignmentRow.assignmentKey
  cursors : Keyed EnumerationCursor CursorRow CursorRow.cursor
  physicalAlarm : Option Nat
  now : Nat
  events : List BucketEvent
  floors : List FloorAnswer
  /-- snapshots as they were created -/
  begun : List SnapshotRow
  admitted : List Nat
  assigned : List TxId

/-- the object after `migrate`, before any request -/
def Store.initial (now : Nat) : Store :=
  { metadata := none, configs := .empty, active := .empty, activationKeys := .empty
    history := .empty, snapshots := .empty, entries := .empty, closes := .empty
    progress := .empty, alarmSchedule := .empty, assignments := .empty, cursors := .empty
    physicalAlarm := none, now, events := [], floors := [], begun := [], admitted := []
    assigned := [] }

/-! ## digests -/

structure SnapshotDocument where
  cutoffMs : Nat
  decisionFloorMs : Nat
  entryCount : Nat
  entryRootHash : Hash
  fenceSequence : Nat
  generation : Nat
  partitionConfigRootHash : Hash
  priorSnapshotHash : Hash

structure FleetRootDocument where
  closeKey : Hash
  cutoffMs : Nat
  snapshotGeneration : Nat
  snapshotHash : Hash
  receipts : List (Nat × Option Hash)

inductive Document where
  | partitionConfig (effectiveFromDay : Day) (partitionCount : Nat) (priorHash : Hash)
  | draft (draft : ManifestRouteDraft)
  | activation (fleetId : String) (bucket : Bucket) (partitionConfigHash : Hash)
      (partitionCount : Nat)
  | legacyActivationKey (fleetId : String) (bucket : Bucket) (partitionConfigHash : Hash)
  | snapshotEntry (entryHash previousHash : Hash)
  | snapshot (snapshot : SnapshotDocument)
  | closeKey (fleetId : String) (cutoffMs : Nat) (partitionConfigRootHash : Hash)
  | bucketClose (cutoffMs snapshotGeneration : Nat) (bucket : Bucket)
  | fleetRoot (root : FleetRootDocument)
  | alarm (purpose : Purpose) (value : Nat)

structure CatalogLib extends ContractLib where
  hash : Document → Hash

/-! ## methods -/

inductive CatalogError where
  /-- `TransactionContractViolation` -/
  | contract (error : TransactionProtocolError)
  | typeError (message : String)
  | error (message : String)

/-- what the platform throws when `.one()` finds nothing -/
def noRow : CatalogError := .error "Expected exactly one result from SQL query, but got no results."

/-- the awaits of a method: digests (those before a close goes on with what it has read), and the
platform's alarm -/
inductive Ask where
  | digest
  | closeKeys (seen : CloseRow)
  | fleetRoot (seen : CloseRow) (receipts : List (Nat × Option Hash))
  | alarm

abbrev Ask.Answer (_ : Ask) : Type := Unit

abbrev Catalog (α : Type) := Prog Store Ask Ask.Answer CatalogError α

def gets {α : Type} (f : Store → α) : Catalog α := .step id fun s => .pure (f s)

/-- statements without an await between them -/
def sync {α : Type} (f : Store → α × Store) : Catalog α :=
  .step (fun s => (f s).2) fun s => .pure (f s).1

/-- `await` of a digest whose value is `hash` -/
def digest (hash : Hash) : Catalog Hash := .call .digest fun _ => .pure hash

def typeError {α : Type} (message : String) : Except CatalogError α := .error (.typeError message)

/-- `await` of another method -/
def awaited {α : Type} (p : Catalog α) : Catalog α := do
  let a ← p
  .pause
  return a

/-- the throw that `condition` guards against -/
def require (condition : Bool) (message : String) : Catalog Unit :=
  if condition then .pure () else .throw (.typeError message)

/-- `.one()` -/
def one {α : Type} : Option α → Except CatalogError α
  | some a => .ok a
  | none => .error noRow

/-- the length of a string in UTF-16 units -/
def utf16Length (text : String) : Nat :=
  (text.toList.map fun c => if c.toNat < 0x10000 then 1 else 2).sum

def assertText (value name : String) : Catalog Unit :=
  require (!value.isEmpty && utf16Length value ≤ 256)
    (name ++ " must be a non-empty string no longer than 256 characters.")

def assertHash (value : Hash) (name : String) : Catalog Unit :=
  require (JournalManifest.isDigest value) (name ++ " must be a lowercase SHA-256 digest.")

/-- the requested page size, or the default -/
def pageSize (value : Option Nat) : Catalog Nat :=
  let selected := value.getD defaultCatalogPageSize
  if selected < 1 ∨ maxCatalogPageSize < selected then
    .throw (.typeError "page_size must be an integer from 1 through 128.")
  else .pure selected

/-- `SELECT * FROM fleet_catalog_metadata` `.one()` -/
def Store.meta (s : Store) : Except CatalogError Metadata := one s.metadata

/-- the configuration that is in effect on a day -/
def Store.configFor (day : Day) (s : Store) : Except CatalogError PartitionConfigRow :=
  one (s.configs.ordered (·.effectiveFromDay ≤ day) PartitionConfigRow.effectiveFromDay).getLast?

def Store.latestConfig (s : Store) : Except CatalogError PartitionConfigRow :=
  one (s.configs.ordered (fun _ => true) PartitionConfigRow.effectiveFromDay).getLast?

/-! ## alarms -/

/-- the upsert of `schedulePurpose` -/
def Store.schedule (row : AlarmPurpose) (s : Store) : Store :=
  match s.alarmSchedule.find row.purpose with
  | some existing =>
    if existing.generation > row.generation then s
    else { s with alarmSchedule := s.alarmSchedule.put row }
  | none => { s with alarmSchedule := s.alarmSchedule.put row }

def schedulePurpose (row : AlarmPurpose) : Catalog Unit :=
  if row.fireAtMs > maxSafeInteger then
    .throw (.typeError "Alarm time and generation must be non-negative safe integers.")
  else .modify (Store.schedule row)

def Store.nextAlarmAt (s : Store) : Option Nat := (s.alarmSchedule.rows.map (·.fireAtMs)).min?

/-- reads the physical alarm, and sets it to the earliest purpose when it differs -/
def armNextAlarm : Catalog Unit := do
  let next ← gets Store.nextAlarmAt
  let current ← gets (·.physicalAlarm)
  Prog.ask .alarm
  if current ≠ next then
    .modify fun s => { s with physicalAlarm := next }
    Prog.ask .alarm
  else return ()

/-- deletes the purpose when it is still as it was read -/
def completePurposeIfCurrent (row : AlarmPurpose) : Catalog Bool :=
  sync fun s =>
    if s.alarmSchedule.find row.purpose = some row then
      (true, { s with alarmSchedule := s.alarmSchedule.erase row.purpose })
    else (false, s)

/-- puts a failed purpose off, when it is still as it was read -/
def reschedulePurposeAfterFailure (row : AlarmPurpose) (fireAtMs attemptCount : Nat) :
    Catalog Bool :=
  sync fun s =>
    if s.alarmSchedule.find row.purpose = some row then
      (true, { s with
        alarmSchedule := s.alarmSchedule.put { row with fireAtMs, attemptCount } })
    else (false, s)

end FleetCatalog
