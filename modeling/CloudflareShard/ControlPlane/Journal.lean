import Mathlib.Data.Prod.Lex
import Mathlib.Data.String.Basic
import Mathlib.Order.WithBot
import CloudflareShard.Contracts.Manifest
import CloudflareShard.Sqlite.Keyed

/-!
# The storage of a manifest bucket

One `JournalManifestDO`: the reservations of the transactions that are routed to it, their terminal
outcomes, and the seals that certify a prefix of its decisions.

* `ReservationRow`, `SealRow`, `ManifestRow`   the rows; a terminal state carries its columns;
* `BucketState`, `Store`                       the object, with what has happened to it so far;
* `Document`, `BucketLib`                      what the bucket hashes and takes from the contracts;
* `Store.quarantine`, `Store.schedule`         statements that several methods share.
-/

namespace JournalManifest
open Contracts

def lifecycleFailureRetryMs : Nat := 5 * 60 * 1000
def manifestCursorLeaseMs : Nat := 15 * 60 * 1000
def heldRetentionRecheckMs : Nat := 24 * 60 * 60 * 1000
def dayMs : Nat := 24 * 60 * 60 * 1000
def coordinatorRetentionDays : Nat := 35
def v2HistoryRetentionMs : Nat := coordinatorRetentionDays * dayMs
def zeroHash : Hash := "0000000000000000000000000000000000000000000000000000000000000000"

/-- `/^[a-f0-9]{64}$/` -/
def isDigest (hash : Hash) : Bool :=
  hash.length == 64 && hash.toList.all fun c => ('a' ≤ c && c ≤ 'f') || ('0' ≤ c && c ≤ '9')

/-! ## requests and receipts -/

structure SealRequest where
  fleetId : String
  route : ManifestRoute
  cutoffMs : Nat
  idempotencyKey : String

structure SealReceiptBody where
  fleetId : String
  route : ManifestRoute
  cutoffMs : Nat
  generation : Nat
  decisionFloorMs : Nat
  sealedThroughMs : Nat
  recordCount : Nat
  maximumDecisionSequence : Option Nat
  recordsDeletedThroughMs : Option Nat
  retentionEpoch : Nat
  recordsRoot : Hash
  conflictResolutionRoot : Hash
  localLegacyCertificateHash : Hash
  priorReceiptHash : Option Hash

structure SealReceipt extends SealReceiptBody where
  receiptHash : Hash

/-- `commit_decided_at_ms`, `decision_sequence` and `tx_id`, in the order of the ledger -/
abbrev MemberKey := ℕ ×ₗ ℕ ×ₗ String

structure LocalPageCursor where
  requestHash : Hash
  retentionEpoch : Nat
  sealGeneration : Nat
  sealReceiptHash : Hash
  last : MemberKey
  deriving DecidableEq

/-- the fields of a page request that its hash covers -/
structure LocalPageIdentity where
  fleetId : String
  route : ManifestRoute
  coverageStartMs : Nat
  cutoffMs : Nat
  sealGeneration : Nat
  sealReceiptHash : Hash
  limit : Nat

structure LocalPageRequest extends LocalPageIdentity where
  expectedRetentionEpoch : Nat
  cursor : Option LocalPageCursor

structure ResolutionAttestation where
  txId : TxId
  resolution : Resolution
  selectedHash : Hash
  evidenceHash : Hash
  actor : String
  reason : String
  coordinatorStateHash : Hash
  priorConflictRoot : Hash
  idempotencyKey : String

/-! ## rows -/

structure PartitionMetadata where
  fleetId : String
  utcDay : Nat
  partition : Nat
  routingKey : String
  deriving DecidableEq

def PartitionMetadata.ofRoute (fleetId : String) (route : ManifestRoute) : PartitionMetadata :=
  { fleetId, utcDay := route.reservationUtcDay, partition := route.partition
    routingKey := route.routingKey }

/-- an empty hash column is `none` -/
structure BucketState where
  partitionConfigHash : Option Hash
  decisionFloorMs : Nat
  sealedThroughMs : Nat
  lastAssignedMs : Nat
  nextDecisionSequence : Nat
  nextSealGeneration : Nat
  recordsDeletedThroughMs : Nat
  retentionEpoch : Nat
  retentionEvidenceRoot : Option Hash
  legacyCertificateHash : Option Hash
  /-- `-1` when there is no legacy record -/
  legacyMaxCommitDecidedAtMs : Option Int
  legacyClosed : Bool
  evidenceRevision : Nat

/-- the columns that the second transaction of `finalize` fills -/
structure PublishedRecord where
  record : ManifestRecordV2
  recordHash : Hash
  retentionDeadlineMs : Nat

inductive ReservationState where
  | reserved
  | finalized (intentHash : Hash) (decidedAtMs sequence : Nat) (published : Option PublishedRecord)
  | cancelled (intentHash : Hash)

inductive QuarantineState where
  | none
  | unresolved
  | resolved
  deriving DecidableEq

structure ReservationRow where
  reservation : ManifestReservation
  reservationHash : Hash
  state : ReservationState
  lifecycleReleased : Bool
  quarantineState : QuarantineState
  conflictRoot : Option Hash
  resolutionAttestationHash : Option Hash
  updatedAtMs : Nat

inductive TransitionKind where
  | reserve
  | finalize
  | cancel
  deriving DecidableEq

/-- a row of `manifest_reservation_conflicts` -/
structure CandidateRow where
  txId : TxId
  candidateHash : Hash
  transitionKind : TransitionKind

/-- a row of `manifest_quarantine_resolutions` -/
structure ResolutionRow where
  idempotencyKey : String
  txId : TxId
  requestHash : Hash
  resolution : Resolution
  attestationHash : Hash

inductive SealMode where
  | advance
  | exactPrefix
  deriving DecidableEq

inductive SealStatus where
  | draining
  | complete (receipt : SealReceipt)
  | quarantined

/-- `cursor` is the last row that the digest covers -/
structure SealRow where
  generation : Nat
  idempotencyKey : String
  cutoffMs : Nat
  mode : SealMode
  status : SealStatus
  cursor : WithBot MemberKey
  digestCount : Nat
  digestRoot : Hash
  evidenceRevision : Nat
  updatedAtMs : Nat

/-- a row of `manifest_records`, the ledger of the predecessor -/
structure ManifestRow where
  record : ManifestRecordV1
  recordHash : Hash
  lifecycleReleased : Bool
  quarantined : Bool

/-- a row of `manifest_conflicts` -/
structure RecordConflictRow where
  txId : TxId
  conflictingRecordHash : Hash
  observedAtMs : Nat

inductive CursorKey where
  /-- `lease:` and the hash of the request -/
  | lease (requestHash : Hash)
  | cursor (cursor : LocalPageCursor)
  deriving DecidableEq

/-- a row of `manifest_page_cursors` -/
structure PageCursorRow where
  key : CursorKey
  requestHash : Hash
  leaseExpiresAtMs : Nat
  coverageStartMs : Nat
  cutoffMs : Nat

inductive Purpose where
  /-- `seal:` and the generation -/
  | sealing (generation : Nat)
  | retention
  deriving DecidableEq

/-- a row of `manifest_alarm_schedule` -/
structure AlarmRow where
  purpose : Purpose
  fireAtMs : Nat
  generation : Nat

namespace ReservationRow

def txId (row : ReservationRow) : TxId := row.reservation.txId

/-- `state = 'FINALIZED' AND commit_decided_at_ms <= cutoff` -/
def finalizedBy (cutoffMs : Nat) (row : ReservationRow) : Bool :=
  match row.state with
  | .finalized _ decidedAtMs _ _ => decidedAtMs ≤ cutoffMs
  | _ => false

/-- `state = 'FINALIZED' AND commit_decided_at_ms BETWEEN start AND cutoff` -/
def finalizedIn (startMs cutoffMs : Nat) (row : ReservationRow) : Bool :=
  match row.state with
  | .finalized _ decidedAtMs _ _ => startMs ≤ decidedAtMs && decidedAtMs ≤ cutoffMs
  | _ => false

/-- `commit_decided_at_ms, decision_sequence, tx_id`; `0` for the rows that have none -/
def key (row : ReservationRow) : MemberKey :=
  match row.state with
  | .finalized _ decidedAtMs sequence _ => toLex (decidedAtMs, toLex (sequence, row.txId))
  | _ => toLex (0, toLex (0, row.txId))

def published (row : ReservationRow) : Option PublishedRecord :=
  match row.state with
  | .finalized _ _ _ published => published
  | _ => none

def recordHash (row : ReservationRow) : Option Hash := row.published.map (·.recordHash)

def terminalIntentHash (row : ReservationRow) : Option Hash :=
  match row.state with
  | .reserved => none
  | .finalized intentHash _ _ _ => some intentHash
  | .cancelled intentHash => some intentHash

def sequence (row : ReservationRow) : Option Nat :=
  match row.state with
  | .finalized _ _ sequence _ => some sequence
  | _ => none

def isFinalized (row : ReservationRow) : Bool :=
  match row.state with
  | .finalized .. => true
  | _ => false

def unresolved (row : ReservationRow) : Bool := row.quarantineState == .unresolved

end ReservationRow

def SealRow.isDraining (row : SealRow) : Bool :=
  match row.status with
  | .draining => true
  | _ => false

def SealRow.isQuarantined (row : SealRow) : Bool :=
  match row.status with
  | .quarantined => true
  | _ => false

def SealRow.receipt (row : SealRow) : Option SealReceipt :=
  match row.status with
  | .complete receipt => some receipt
  | _ => none

/-! ## the object -/

/-- a decision time that `finalize` gave out -/
structure AssignedTime where
  txId : TxId
  decidedAtMs : Nat
  sequence : Nat

/-- a receipt, with the reservations when it was published -/
structure Publication where
  generation : Nat
  receipt : SealReceipt
  reservations : Keyed TxId ReservationRow ReservationRow.txId

/-- an ok answer of `resolveQuarantine`, with the reservation when it was given -/
structure ResolutionAnswer where
  resolution : Resolution
  txId : TxId
  row : Option ReservationRow

/-- a reservation that a sweep has deleted, and the time of the sweep -/
structure SweptRow where
  row : ReservationRow
  sweptAtMs : Nat

/-- `now` is what `Date.now()` shows; the last five fields record what has happened -/
structure Store where
  metadata : Option PartitionMetadata
  bucket : BucketState
  reservations : Keyed TxId ReservationRow ReservationRow.txId
  candidates : Keyed (TxId × Hash) CandidateRow fun row => (row.txId, row.candidateHash)
  resolutions : Keyed String ResolutionRow ResolutionRow.idempotencyKey
  seals : Keyed Nat SealRow SealRow.generation
  records : Keyed TxId ManifestRow fun row => row.record.txId
  recordConflicts : Keyed (TxId × Hash) RecordConflictRow fun row =>
    (row.txId, row.conflictingRecordHash)
  pageCursors : Keyed CursorKey PageCursorRow PageCursorRow.key
  alarmSchedule : Keyed Purpose AlarmRow AlarmRow.purpose
  physicalAlarm : Option Nat
  now : Nat
  assigned : List AssignedTime
  publications : List Publication
  answers : List ResolutionAnswer
  swept : List SweptRow
  inserted : List ManifestRecordV1

def BucketState.initial : BucketState :=
  { partitionConfigHash := none, decisionFloorMs := 0, sealedThroughMs := 0, lastAssignedMs := 0
    nextDecisionSequence := 1, nextSealGeneration := 1, recordsDeletedThroughMs := 0
    retentionEpoch := 0, retentionEvidenceRoot := none, legacyCertificateHash := none
    legacyMaxCommitDecidedAtMs := none, legacyClosed := false, evidenceRevision := 0 }

/-- the object after `migrate`, before any request -/
def Store.initial (now : Nat) : Store :=
  { metadata := none, bucket := .initial, reservations := .empty, candidates := .empty
    resolutions := .empty, seals := .empty, records := .empty, recordConflicts := .empty
    pageCursors := .empty, alarmSchedule := .empty, physicalAlarm := none, now
    assigned := [], publications := [], answers := [], swept := [], inserted := [] }

/-! ## digests and validators -/

structure LegacyRow where
  txId : TxId
  recordHash : Hash
  commitDecidedAt : Nat

structure LegacyCertificate where
  imported : Bool
  recordCount : Nat
  recordsRoot : Hash
  maximumCommitDecidedAtMs : Int

structure RetentionCandidate where
  txId : TxId
  recordHash : Hash
  commitDecidedAtMs : Nat
  deriving DecidableEq

/-- the values a bucket hashes besides those of `Canonical` -/
inductive Document where
  | legacyRows (rows : List LegacyRow)
  | certificate (certificate : LegacyCertificate)
  | conflictRoots (roots : List (Hash × Option Hash))
  | sealReceipt (receipt : SealReceiptBody)
  | retention (priorRoot : Hash) (candidates : List RetentionCandidate)
  | resolutionRequest (request : QuarantineResolutionRequest)
  | resolutionAttestation (attestation : ResolutionAttestation)
  | localPage (request : LocalPageIdentity)

structure BucketLib extends ContractLib where
  hash : Document → Hash
  validateManifestSealRequest : SealRequest → Except TransactionProtocolError Unit
  validateManifestLocalPageRequest : LocalPageRequest → Except TransactionProtocolError Unit
  validatedManifestRegistration : ManifestRegistration → Except TransactionProtocolError Unit

/-- an error as it crosses an RPC -/
def toManifestRpcError (error : TransactionProtocolError) : TransactionProtocolError :=
  { error with details := [] }

def manifestError (code : TransactionErrorCode) (message : String) : TransactionProtocolError :=
  toManifestRpcError (transactionError code message)

/-! ## statements that several methods share -/

namespace Store

/-- the three statements that park a reservation with a conflicting candidate -/
def quarantine (txId : TxId) (candidateHash : Hash) (kind : TransitionKind) (s : Store) : Store :=
  { s with
    reservations := s.reservations.modify txId fun row =>
      { row with
        quarantineState := .unresolved, conflictRoot := some candidateHash, updatedAtMs := s.now }
    bucket := { s.bucket with evidenceRevision := s.bucket.evidenceRevision + 1 }
    candidates := match s.candidates.find (txId, candidateHash) with
      | some _ => s.candidates
      | none => s.candidates.put { txId, candidateHash, transitionKind := kind } }

/-- the upsert of `scheduleAlarmPurpose` -/
def schedule (purpose : Purpose) (fireAtMs generation : Nat) (s : Store) : Store :=
  { s with
    alarmSchedule := s.alarmSchedule.put
      { purpose, generation
        fireAtMs := match s.alarmSchedule.find purpose with
          | some row => min row.fireAtMs fireAtMs
          | none => fireAtMs } }

def unschedule (purpose : Purpose) (s : Store) : Store :=
  { s with alarmSchedule := s.alarmSchedule.erase purpose }

/-- `SELECT MIN(fire_at_ms) FROM manifest_alarm_schedule` -/
def nextFire (s : Store) : Option Nat := (s.alarmSchedule.rows.map (·.fireAtMs)).min?

/-- the physical alarm as `rearmPhysicalAlarm` sets or deletes it -/
def rearm (s : Store) : Store := { s with physicalAlarm := s.nextFire }

/-- the three statements by which a sweep at `now` deletes a reservation -/
def dropReservation (now : Nat) (row : ReservationRow) (s : Store) : Store :=
  { s with
    candidates := s.candidates.deleteWhere (·.txId == row.txId)
    resolutions := s.resolutions.deleteWhere (·.txId == row.txId)
    reservations := s.reservations.erase row.txId
    swept := s.swept ++ [{ row, sweptAtMs := now }] }

/-- the rows a seal with this cutoff covers, in the order of the ledger -/
def members (cutoffMs : Nat) (s : Store) : List ReservationRow :=
  s.reservations.ordered (·.finalizedBy cutoffMs) ReservationRow.key

end Store
end JournalManifest
