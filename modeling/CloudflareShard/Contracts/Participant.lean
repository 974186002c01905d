import CloudflareShard.Contracts.Manifest

/-!
# Messages and tombstones of a participant

* `ParticipantMessage`, `validateParticipantPhaseMessage`   what a coordinator posts to a shard;
* `ParticipantTombstone`, `validateParticipantTombstone`    a durable decision;
* `validateParticipantMessageAgainstTombstone`              what a tombstone rejects;
* `rowKey`, `indexNameFromSyntheticTable`                   names of rows and of index entries.
-/

namespace Contracts

def participantTombstoneFormatVersion : Nat := 1
def participantTombstoneRetentionMs : Nat := participantTombstoneRetentionDays * dayMs

inductive ParticipantPhase where
  | prepare
  | commit
  | abort
  | status
  | recover
  deriving DecidableEq

def ParticipantPhase.text : ParticipantPhase → String
  | .prepare => "prepare"
  | .commit => "commit"
  | .abort => "abort"
  | .status => "status"
  | .recover => "recover"

inductive ParticipantDecision where
  | abort
  | commit
  deriving DecidableEq

def ParticipantDecision.text : ParticipantDecision → String
  | .abort => "abort"
  | .commit => "commit"

structure ParticipantMessage where
  protocolVersion : Nat
  txId : TxId
  epoch : Nat
  phase : ParticipantPhase
  operationHash : Hash
  deriving DecidableEq

/-- times are epoch milliseconds, as the canonical timestamps of the columns order -/
structure ParticipantTombstone where
  txId : TxId
  protocolVersion : Nat
  formatVersion : Nat
  highestEpoch : Nat
  decision : ParticipantDecision
  operationHash : Hash
  decidedAt : Nat
  retentionDeadline : Nat
  deriving DecidableEq

/-! ## checks -/

def assertNonEmptyString (value field : String) : Except TransactionProtocolError Unit :=
  if value = "" then
    fail .txEnvelopeInvalid (field ++ " must be a non-empty string.") [("field", field)]
  else .ok ()

def maxSafeInteger : Nat := 2 ^ 53 - 1

def assertEpoch (value : Nat) (field : String := "epoch") : Except TransactionProtocolError Unit :=
  if value < 1 ∨ maxSafeInteger < value then
    fail .txEnvelopeInvalid (field ++ " must be a positive safe integer.") [("field", field)]
  else .ok ()

def isSha256Hex (value : String) : Bool :=
  value.toList.length == 64
    && value.toList.all fun c => ('a' ≤ c && c ≤ 'f') || ('0' ≤ c && c ≤ '9')

def assertSha256Hex (value field : String) : Except TransactionProtocolError Unit :=
  if isSha256Hex value then .ok ()
  else
    fail .txEnvelopeInvalid (field ++ " must be a lowercase SHA-256 hexadecimal digest.")
      [("field", field)]

def assertRetentionWindow (decidedAt deadline minimumDays : Nat) :
    Except TransactionProtocolError Unit :=
  if deadline < decidedAt + minimumDays * dayMs then
    fail .txEnvelopeInvalid
      ("retention_deadline must be at least " ++ toString minimumDays
        ++ " days after the decision.")
      [("minimum_days", toString minimumDays)]
  else .ok ()

def validateParticipantPhaseMessage (message : ParticipantMessage) :
    Except TransactionProtocolError Unit := do
  assertWritableProtocolVersion message.protocolVersion
  assertNonEmptyString message.txId "tx_id"
  assertEpoch message.epoch
  assertSha256Hex message.operationHash "operation_hash"

def validateParticipantTombstone (tombstone : ParticipantTombstone) :
    Except TransactionProtocolError Unit := do
  assertReadableProtocolVersion tombstone.protocolVersion
  if tombstone.formatVersion ≠ participantTombstoneFormatVersion then
    fail .txVersionUnsupported
      ("Participant tombstone format " ++ toString tombstone.formatVersion ++ " is unsupported.")
  else
    assertNonEmptyString tombstone.txId "tx_id"
    assertEpoch tombstone.highestEpoch "highest_epoch"
    assertSha256Hex tombstone.operationHash "operation_hash"
    assertRetentionWindow tombstone.decidedAt tombstone.retentionDeadline
      participantTombstoneRetentionDays

def validateParticipantMessageAgainstTombstone (message : ParticipantMessage)
    (tombstone : ParticipantTombstone) : Except TransactionProtocolError Unit := do
  validateParticipantPhaseMessage message
  validateParticipantTombstone tombstone
  let epochs := [("message_epoch", toString message.epoch),
    ("highest_epoch", toString tombstone.highestEpoch)]
  if message.txId ≠ tombstone.txId then
    fail .txIdRequestMismatch "Participant message and tombstone tx_id differ."
  else if message.epoch < tombstone.highestEpoch then
    fail .txEpochStale "Participant message epoch is older than the durable decision tombstone."
      epochs
  else if message.epoch > tombstone.highestEpoch then
    fail .txEpochConflict "A later epoch cannot replace an existing durable decision tombstone."
      epochs
  else if message.operationHash ≠ tombstone.operationHash then
    fail .txEnvelopeHashMismatch
      "Participant message operation_hash conflicts with the durable tombstone."
  else
    let contradictsCommit := tombstone.decision == .commit
      && (message.phase == .prepare || message.phase == .abort)
    let contradictsAbort := tombstone.decision == .abort
      && (message.phase == .prepare || message.phase == .commit)
    if contradictsCommit || contradictsAbort then
      fail .txDecisionConflict
        ("Participant phase " ++ message.phase.text ++ " contradicts durable "
          ++ tombstone.decision.text ++ ".")
    else .ok ()

/-! ## keys -/

/-- the JSON list that names a row -/
structure RowKey where
  tenantId : String
  table : String
  partitionKey : String
  deriving DecidableEq

def rowKey (tenantId table partitionKey : String) : RowKey := { tenantId, table, partitionKey }

def syntheticIndexTablePrefix : String := "__cf_indexes:"

def indexNameFromSyntheticTable (table : String) : Option String :=
  if table.startsWith syntheticIndexTablePrefix then
    some (String.ofList (table.toList.drop syntheticIndexTablePrefix.length))
  else none

end Contracts
