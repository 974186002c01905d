import CloudflareShard.Contracts.Transaction

/-!
# Redo envelopes, manifest reservations and the manifest service

The immutable values a coordinator stores and sends, and the answers of the services it calls.
Times are epoch milliseconds; a JSON column is the value it encodes.

* `BeginParticipant`, `redoParticipants`, `RedoEnvelope`   what a transaction does;
* `ManifestReservation`, `ManifestRecordV2`, the intents   its way through the manifest;
* `ContractLib`                                            digests and validators of the contracts;
* `ManifestReserveResult` and the others                   what the control plane answers.
-/

namespace Contracts

abbrev Hash := String
abbrev TxId := String
abbrev ShardId := String

inductive StructuredMutationKind where
  | insert
  | update
  | delete
  | upsert
  deriving DecidableEq

/-- a JSON primitive in a parameter list -/
inductive JsonPrimitive where
  | null
  | bool (b : Bool)
  | int (n : Int)
  | str (s : String)
  deriving DecidableEq

structure BeginIntent where
  sql : String
  params : List JsonPrimitive
  tenantId : String
  table : String
  partitionKey : String
  mirrorTargetShardId : Option ShardId
  vbucket : Option Nat
  op : Option StructuredMutationKind
  deriving DecidableEq

structure BeginParticipant where
  shardId : ShardId
  intents : List BeginIntent
  deriving DecidableEq

structure RedoIntent where
  intentSeq : Nat
  intent : BeginIntent
  deriving DecidableEq

/-- `prepareBookmark` is there in version 2 of the envelope only -/
structure RedoParticipant where
  participantId : ShardId
  epoch : Nat
  intents : List RedoIntent
  prepareBookmark : Option String
  deriving DecidableEq

/-- the two terminal times are missing in the intent that a coordinator freezes -/
structure RedoEnvelope where
  formatVersion : Nat
  txId : TxId
  fleetId : String
  coordinatorId : String
  decisionEpoch : Nat
  operationHash : Hash
  participants : List RedoParticipant
  commitDecidedAt : Option Nat
  retentionDeadline : Option Nat

structure ManifestRoute where
  reservationUtcDay : Nat
  partition : Nat
  routingKey : String
  partitionConfigHash : Hash
  deriving DecidableEq

structure ManifestReservation where
  fleetId : String
  route : ManifestRoute
  txId : TxId
  coordinatorId : String
  operationHash : Hash
  decisionEpoch : Nat
  reservedAt : Nat
  deriving DecidableEq

structure ManifestFinalizeIntent where
  txId : TxId
  reservationHash : Hash
  redoEnvelopeHash : Hash
  operationHash : Hash
  decisionEpoch : Nat
  idempotencyKey : Hash
  deriving DecidableEq

structure ManifestCancelIntent where
  txId : TxId
  reservationHash : Hash
  operationHash : Hash
  decisionEpoch : Nat
  idempotencyKey : Hash
  deriving DecidableEq

structure ManifestRecordV1 where
  fleetId : String
  utcDay : Nat
  partition : Nat
  routingKey : String
  txId : TxId
  coordinatorId : String
  commitDecidedAt : Nat
  decisionEpoch : Nat
  envelopeHash : Hash
  retentionDeadline : Nat

structure ManifestRegistration where
  record : ManifestRecordV1
  recordHash : Hash

structure ManifestRecordV2 where
  fleetId : String
  route : ManifestRoute
  txId : TxId
  coordinatorId : String
  operationHash : Hash
  decisionEpoch : Nat
  reservedAt : Nat
  reservationHash : Hash
  envelopeHash : Hash
  commitDecidedAt : Nat
  commitDecidedAtMs : Nat
  decisionSequence : Nat
  retentionDeadline : Nat

/-! ## requests to the control plane -/

structure ManifestRouteDraft where
  fleetId : String
  txId : TxId
  coordinatorId : String
  operationHash : Hash
  decisionEpoch : Nat

structure ManifestRouteAssignmentRequest where
  draft : ManifestRouteDraft
  idempotencyKey : Hash

structure ManifestReserveRequest where
  reservation : ManifestReservation
  reservationHash : Hash
  deriving DecidableEq

structure ManifestFinalizeRequest extends ManifestReserveRequest where
  intent : ManifestFinalizeIntent
  deriving DecidableEq

structure ManifestCancelRequest extends ManifestReserveRequest where
  intent : ManifestCancelIntent
  deriving DecidableEq

inductive Resolution where
  | finalized
  | cancelled
  deriving DecidableEq

inductive TerminalIntent where
  | finalize (intent : ManifestFinalizeIntent)
  | cancel (intent : ManifestCancelIntent)

/-- the property `redo_envelope_hash`, which a cancel intent does not have -/
def TerminalIntent.redoEnvelopeHash : TerminalIntent → Option Hash
  | .finalize intent => some intent.redoEnvelopeHash
  | .cancel _ => none

structure CoordinatorStateAttestation where
  txId : TxId
  coordinatorId : String
  state : TransactionState
  decision : TransactionDecision
  epoch : Nat
  operationHash : Hash
  reservationHash : Hash
  authorizationSourceHash : Hash

structure QuarantineResolutionRequest extends ManifestReserveRequest where
  resolution : Resolution
  selectedHash : Hash
  evidenceHash : Hash
  actor : String
  reason : String
  terminalIntent : TerminalIntent
  coordinatorState : CoordinatorStateAttestation
  coordinatorStateHash : Hash
  idempotencyKey : String

structure ManifestReleaseRequest where
  fleetId : String
  txId : TxId
  commitDecidedAt : Nat
  recordHash : Hash

structure ManifestV2ReleaseRequest extends ManifestReserveRequest where
  recordHash : Hash
  retentionDeadlineMs : Nat

structure ManifestAdmissionRequest where
  fleetId : String
  txId : TxId
  commitDecidedAt : Nat

/-! ## answers of the control plane -/

inductive ManifestAssignResult where
  | assigned (reservation : ManifestReservation) (reservationHash : Hash)
  | refused (unavailable : Bool) (error : TransactionProtocolError)

inductive ReserveRefusal where
  | rejectedAbsent
  | quarantined
  | unavailable
  deriving DecidableEq

inductive ManifestReserveResult where
  | reserved (reservationHash : Hash)
  | refused (status : ReserveRefusal) (bucketRowMayExist : Bool) (error : TransactionProtocolError)

inductive FinalizeRefusal where
  | quarantined
  | conflict
  | unavailable
  deriving DecidableEq

inductive ManifestFinalizeResult where
  | finalized (record : ManifestRecordV2) (recordHash : Hash)
  | refused (status : FinalizeRefusal) (error : TransactionProtocolError)

inductive CancelRefusal where
  | quarantinedPendingResolution
  | conflict
  | unavailable
  deriving DecidableEq

inductive ManifestCancelResult where
  | cancelled
  | refused (status : CancelRefusal) (error : TransactionProtocolError)

inductive ManifestResolutionResult where
  | resolved (resolution : Resolution) (attestationHash : Hash)
      (record : Option ManifestRecordV2) (recordHash : Option Hash)
  | refused (error : TransactionProtocolError)

inductive RegisterRefusal where
  | quarantined
  | rejected
  | unavailable
  | commitPendingManifest
  deriving DecidableEq

inductive ManifestRegisterResult where
  | registered (recordHash : Hash)
  | refused (status : RegisterRefusal) (error : TransactionProtocolError)

inductive ManifestReleaseResult where
  | released
  | refused (quarantined : Bool) (error : TransactionProtocolError)

inductive ManifestAdmissionResult where
  | ready
  | unavailable (error : TransactionProtocolError)

/-! ## digests and validators -/

/-- the values whose canonical JSON is hashed -/
inductive Canonical where
  | operations (participants : List RedoParticipant)
  | envelope (envelope : RedoEnvelope)
  | reservation (reservation : ManifestReservation)
  | finalizeIntent (intent : ManifestFinalizeIntent)
  | cancelIntent (intent : ManifestCancelIntent)
  | recordV1 (record : ManifestRecordV1)
  | recordV2 (record : ManifestRecordV2)
  | attestation (state : CoordinatorStateAttestation)
  | list (parts : List String)
  | routeDraft (tag : String) (draft : ManifestRouteDraft)

/-- what the coordinator takes from the contracts without looking inside -/
structure ContractLib where
  hashCanonicalJson : Canonical → Hash
  /-- the digest that the predecessor stored next to the participants -/
  sha256Participants : List BeginParticipant → Hash
  manifestReservationRoute : TxId → (reservedAt : Nat) → (partitionConfigHash : Hash) → ManifestRoute
  manifestRoute : TxId → (commitDecidedAt : Nat) → Nat × Nat × String
  validateManifestReservation : ManifestReservation → Except TransactionProtocolError Unit
  validateManifestFinalizeIntent : ManifestFinalizeIntent → Except TransactionProtocolError Unit
  validateManifestCancelIntent : ManifestCancelIntent → Except TransactionProtocolError Unit
  validateManifestRecordV2 : ManifestRecordV2 → Except TransactionProtocolError Unit
  validateRedoEnvelopeStructure : RedoEnvelope → Except TransactionProtocolError Unit
  validateWritableRedoEnvelopeStructure : RedoEnvelope → Except TransactionProtocolError Unit
  validateManifestRegistration :
    ManifestRegistration → RedoEnvelope → Except TransactionProtocolError Unit
  /-- `left.localeCompare(right)` is not positive -/
  localeCompareLe : String → String → Bool

namespace ContractLib
variable (C : ContractLib)

/-- a prepare bookmark is not part of the requested operations -/
def hashParticipantOperations (participants : List RedoParticipant) : Hash :=
  C.hashCanonicalJson (.operations (participants.map ({ · with prepareBookmark := none })))

def hashManifestReservation (reservation : ManifestReservation) :
    Except TransactionProtocolError Hash := do
  C.validateManifestReservation reservation
  let expectedRoute := C.manifestReservationRoute reservation.txId reservation.reservedAt
    reservation.route.partitionConfigHash
  if reservation.route ≠ expectedRoute then
    fail .manifestInvalidRequest
      "Manifest reservation does not match its deterministic frozen route."
  else
    return C.hashCanonicalJson (.reservation reservation)

def hashManifestFinalizeIntent (intent : ManifestFinalizeIntent) :
    Except TransactionProtocolError Hash := do
  C.validateManifestFinalizeIntent intent
  return C.hashCanonicalJson (.finalizeIntent intent)

def hashManifestRecordV2 (record : ManifestRecordV2) : Except TransactionProtocolError Hash := do
  C.validateManifestRecordV2 record
  let expectedReservationHash ← C.hashManifestReservation
    { fleetId := record.fleetId, route := record.route, txId := record.txId
      coordinatorId := record.coordinatorId, operationHash := record.operationHash
      decisionEpoch := record.decisionEpoch, reservedAt := record.reservedAt }
  if record.reservationHash ≠ expectedReservationHash then
    fail .manifestReservationConflict
      "Manifest record reservation_hash does not match its frozen reservation fields."
  else
    return C.hashCanonicalJson (.recordV2 record)

def validateRedoEnvelope (envelope : RedoEnvelope) : Except TransactionProtocolError Unit := do
  C.validateRedoEnvelopeStructure envelope
  if envelope.operationHash ≠ C.hashParticipantOperations envelope.participants then
    fail .txEnvelopeHashMismatch
      "operation_hash does not match the canonical participant operations."
  else
    return ()

/-- the content address of an envelope that the manifest finalized -/
def hashFinalizedRedoEnvelope (envelope : RedoEnvelope) : Hash :=
  C.hashCanonicalJson
    (.envelope { envelope with commitDecidedAt := none, retentionDeadline := none })

def hashRedoEnvelope (envelope : RedoEnvelope) : Hash :=
  if envelope.formatVersion = 2 then C.hashFinalizedRedoEnvelope envelope
  else C.hashCanonicalJson (.envelope envelope)

def createManifestRegistration (envelope : RedoEnvelope) :
    Except TransactionProtocolError ManifestRegistration := do
  C.validateRedoEnvelope envelope
  let commitDecidedAt := envelope.commitDecidedAt.getD 0
  let (utcDay, partition, routingKey) := C.manifestRoute envelope.txId commitDecidedAt
  let record : ManifestRecordV1 :=
    { fleetId := envelope.fleetId, utcDay, partition, routingKey, txId := envelope.txId
      coordinatorId := envelope.coordinatorId, commitDecidedAt
      decisionEpoch := envelope.decisionEpoch, envelopeHash := C.hashRedoEnvelope envelope
      retentionDeadline := envelope.retentionDeadline.getD 0 }
  return { record, recordHash := C.hashCanonicalJson (.recordV1 record) }

/-- participants in the order of the producer, their intents numbered -/
def redoParticipants (participants : List BeginParticipant) (epoch : Nat) : List RedoParticipant :=
  (participants.mergeSort fun a b => C.localeCompareLe a.shardId b.shardId).map fun participant =>
    { participantId := participant.shardId, epoch, prepareBookmark := none
      intents := participant.intents.mapIdx fun intentSeq intent => { intentSeq, intent } }

end ContractLib
end Contracts
