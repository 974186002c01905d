import Mathlib.Data.List.Dedup
import CloudflareShard.Json.Text
import CloudflareShard.Shard.Store

/-!
# A shard as a participant of transactions

* `participantPayload`, `assertMessageCompatible`   who a message is from, and whether it is in time;
* `persistTombstone`, `adoptLegacyPrepared`, `discardUnadoptedLegacy`   the steps on durable rows;
* `handlePrepare`, `handleCommit`, `handleAbort`, `handleTxStatus`, `handleRecover`   the endpoints;
* `sweepStalePendingIntents`                        what the alarm does with intents left behind.
-/

namespace Shard
open Async Contracts

variable {D : Type} (E : Engine D) (H : Digests) (B : Bindings)

def pendingIntentTtlMs : Nat := 5 * 60 * 1000

/-! ## messages -/

/-- the body of a participant request: versioned, or the predecessor's with its transaction only -/
inductive RawMessage where
  | versioned (message : ParticipantMessage)
  | legacy (coordinatorTxId : Option TxId)

structure ParticipantPayload extends ParticipantMessage where
  legacyUnversioned : Bool

def tombstone (txId : TxId) : Sh D (Option ParticipantTombstone) := do
  match ← gets (·.tombstoneOf txId) with
  | none => return none
  | some candidate =>
    liftContract (validateParticipantTombstone candidate)
    return some candidate

def pendingMetadata (txId : TxId) : Sh D (Option PendingIntent) :=
  gets fun s => (s.intentsOf txId).head?

def storedIntentIdentity (txId : TxId) : Sh D (List PendingIntent) := gets (·.intentsOf txId)

def PendingIntent.unadopted (row : PendingIntent) : Bool :=
  row.protocolVersion == 0 && row.operationHash == ""

/-- the hash that is durable, or a digest -/
def legacyOperationHash (legacyTxId : TxId) (phase : ParticipantPhase) (intents : List BeginIntent)
    (durable : Option ParticipantTombstone) (pending : Option PendingIntent) : Sh D Hash := do
  if pending.any PendingIntent.unadopted && (phase == .commit || phase == .abort) then
    .pause
    match durable with
    | some durable => return durable.operationHash
    | none =>
      return H.hashCanonicalJson (.legacyTerminal "legacy-participant-terminal-v1" legacyTxId)
  else
    match durable, pending with
    | some durable, _ => return durable.operationHash
    | none, some pending => return pending.operationHash
    | none, none =>
      .pause
      return H.hashCanonicalJson (.intents intents)

/-- a message of the predecessor gets the identity that is durable -/
def legacyPayload (legacyTxId : TxId) (phase : ParticipantPhase) (intents : List BeginIntent) :
    Sh D ParticipantPayload := do
  let durable ← tombstone legacyTxId
  let pending ← pendingMetadata legacyTxId
  let operationHash ← legacyOperationHash H legacyTxId phase intents durable pending
  return {
    protocolVersion := currentProtocolVersion, txId := legacyTxId
    epoch := ((durable.map (·.highestEpoch)).or (pending.map (·.epoch))).getD 1
    phase, operationHash, legacyUnversioned := true }

def participantPayload (raw : RawMessage) (phase : ParticipantPhase)
    (intents : List BeginIntent := []) : Sh D ParticipantPayload := do
  match raw with
  | .versioned message =>
    liftContract (validateParticipantPhaseMessage message)
    if message.phase ≠ phase then
      contractViolation .txDecisionConflict ("Expected participant phase " ++ phase.text ++ ".")
    else return { message with legacyUnversioned := false }
  | .legacy legacyTxId =>
    let legacyTxId := legacyTxId.getD ""
    if legacyTxId = "" then contractViolation .txEnvelopeInvalid "Missing participant tx_id."
    else legacyPayload H legacyTxId phase intents

def assertMessageCompatible (message : ParticipantPayload) : Sh D Unit := do
  match ← tombstone message.txId with
  | some durable =>
    liftContract (validateParticipantMessageAgainstTombstone message.toParticipantMessage durable)
    if message.phase = .prepare
        ∨ (message.phase = .commit ∧ durable.decision ≠ .commit)
        ∨ (message.phase = .abort ∧ durable.decision ≠ .abort) then
      contractViolation .txDecisionConflict
        ("Participant phase " ++ message.phase.text ++ " contradicts its durable "
          ++ durable.decision.text ++ " decision.")
    else return ()
  | none =>
    match ← pendingMetadata message.txId with
    | none => return ()
    | some pending =>
      let stored ← storedIntentIdentity message.txId
      if message.epoch < pending.epoch then
        contractViolation .txEpochStale "Participant message epoch is stale."
      else if message.epoch > pending.epoch then
        contractViolation .txEpochConflict
          "Participant message epoch conflicts with prepared state."
      else
        let legacyTerminalBridge : Bool := message.legacyUnversioned
          && (message.phase == .commit || message.phase == .abort)
          && stored.all fun row => row.unadopted && row.status == .prepared
        if message.operationHash ≠ pending.operationHash ∧ legacyTerminalBridge = false then
          contractViolation .txEnvelopeHashMismatch
            "Participant operation hash conflicts with prepared state."
        else return ()

/-- the status of the first intent speaks for the transaction -/
def headStatus (intents : List PendingIntent) : Option IntentStatus := intents.head?.map (·.status)

/-! ## durable steps -/

def newTombstone (message : ParticipantMessage) (decision : ParticipantDecision) (decidedAt : Nat) :
    ParticipantTombstone :=
  { txId := message.txId, protocolVersion := currentProtocolVersion
    formatVersion := participantTombstoneFormatVersion, highestEpoch := message.epoch, decision
    operationHash := message.operationHash, decidedAt
    retentionDeadline := decidedAt + participantTombstoneRetentionMs }

def persistTombstone (message : ParticipantMessage) (decision : ParticipantDecision) :
    Sh D ParticipantTombstone := do
  match ← tombstone message.txId with
  | some existing =>
    liftContract (validateParticipantMessageAgainstTombstone message existing)
    if existing.decision ≠ decision then
      contractViolation .txDecisionConflict
        "Participant decision contradicts its durable tombstone."
    else return existing
  | none =>
    let decidedAt ← dateNow
    let record := newTombstone message decision decidedAt
    liftContract (validateParticipantTombstone record)
    mutate fun s => { s with tombstones := s.tombstones ++ [record] }
    return record

/-- the rows and the locks of a transaction are gone -/
def Store.forget (txId : TxId) (s : Store D) : Store D :=
  { s with
    pending := s.pending.filter (·.coordinatorTxId != txId)
    locks := s.locks.filter (·.coordinatorTxId != txId) }

def legacyIntentsSemanticallyMatch (stored : List PendingIntent) (intents : List BeginIntent) :
    Bool :=
  stored.length == intents.length && !stored.isEmpty
    && (stored.zip intents).zipIdx.all fun ((row, intent), index) =>
      row.intentSeq == index && row.status == .prepared
        && row.sql == intent.sql
        && row.params == intent.params
        && row.lockKeys == [rowKey intent.tenantId intent.table intent.partitionKey]
        && row.tenantId == some intent.tenantId
        && row.tableName == some intent.table
        && row.partitionKey == some intent.partitionKey
        && row.vbucket == intent.vbucket
        && row.op == intent.op
        && row.mirrorTargetShardId == intent.mirrorTargetShardId

/-- the columns that a versioned prepare gives to a row of the predecessor -/
def PendingIntent.adopt (message : ParticipantMessage) (row : PendingIntent) : PendingIntent :=
  if row.coordinatorTxId == message.txId && row.unadopted then
    { row with
      protocolVersion := currentProtocolVersion, epoch := message.epoch
      operationHash := message.operationHash }
  else row

def adoptLegacyPrepared (message : ParticipantMessage) (intents : List BeginIntent) : Sh D Nat :=
  mutation fun s =>
    let stored := s.intentsOf message.txId
    let entirelyUnadopted := !stored.isEmpty && stored.all PendingIntent.unadopted
    if !entirelyUnadopted || !legacyIntentsSemanticallyMatch stored intents then
      .error (.contract (transactionError .txEnvelopeHashMismatch
        ("Versioned prepare does not exactly match the unadopted legacy participant "
          ++ "intents.")))
    else .ok (stored.length, { s with pending := s.pending.map (PendingIntent.adopt message) })

def discardUnadoptedLegacy (message : ParticipantMessage) : Sh D Nat := do
  let decidedAt ← dateNow
  let record := newTombstone message .abort decidedAt
  liftContract (validateParticipantTombstone record)
  mutation fun s =>
    let stored := s.intentsOf message.txId
    if stored.isEmpty || !stored.all fun row => row.unadopted && row.status == .prepared then
      .error (.contract (transactionError .txDecisionConflict
        "Legacy pre-decision abort requires only unadopted prepared intents."))
    else .ok (stored.length, ({ s with tombstones := s.tombstones ++ [record] }).forget message.txId)

/-! ## prepare -/

/-- the restore checkpoint of a participant row is taken after the prepare has committed -/
def certifiedPrepareResponse (txId : TxId) (prepared : Nat) (legacyAdopted : Option Bool) :
    Sh D Response := do
  if !B.restoreCoordinator then return json (.prepared prepared legacyAdopted none false)
  else
    let preMarkerBookmark ← getCurrentBookmark .marker
    let recordedAtMs ← dateNow
    mutate fun s =>
      if s.markers.any (·.txId == txId) then s
      else { s with markers := s.markers ++ [{ txId, preMarkerBookmark, recordedAtMs }] }
    -- the second bookmark includes the marker
    let prepareBookmark ← getCurrentBookmark .marker
    return json (.prepared prepared legacyAdopted (some prepareBookmark) true)

def fencedResponse (vbucket : Nat) : Response :=
  json (.failure "VBUCKET_FENCED"
    ("vbucket " ++ toString vbucket ++ " is fenced for migration cutover on this shard.")
    (some ("Retry — the fence lifts when the migration's map flip completes, and the retry "
      ++ "will route to the new shard.")) none) 409

def indexFencedResponse (indexName : String) : Response :=
  json (.failure "INDEX_RING_FENCED"
    ("index " ++ indexName ++ "'s ring is being evacuated off this shard.")
    (some ("Re-resolve the index's current placement ring and write the entry to the "
      ++ "newly-resolved shard.")) none) 409

def lockedResponse (lock : RowLock) (now : Nat) : Response :=
  json (.failure "TX_PARTICIPANT_LOCKED"
    "One or more rows in this transaction are locked by another in-flight transaction."
    (some "Retry with backoff, or check /admin/tx-status.")
    (some (pendingIntentTtlMs + lock.acquiredAt - now))) 409

/-- the first fence that one of the intents runs into -/
def fenceOf (s : Store D) (intents : List BeginIntent) : Option Response :=
  match intents.find? fun intent => intent.vbucket.any s.fencedVbuckets.contains with
  | some intent => some (fencedResponse (intent.vbucket.getD 0))
  | none =>
    match (intents.filterMap fun intent => indexNameFromSyntheticTable intent.table).find?
        s.fencedIndexRings.contains with
    | some indexName => some (indexFencedResponse indexName)
    | none => none

def lockKeyOf (intent : BeginIntent) : RowKey :=
  rowKey intent.tenantId intent.table intent.partitionKey

/-- the first of the keys that another transaction has locked -/
def lockedBy (s : Store D) (txId : TxId) (lockKeys : List RowKey) : Option RowLock :=
  (lockKeys.filterMap s.lockOf).find? (·.coordinatorTxId != txId)

inductive ValidationError where
  | guardMismatch (intent : BeginIntent)
  | sql (message : String)

/-- does an update or a delete of a base row change at least one row -/
def isGuarded (intent : BeginIntent) : Bool :=
  (intent.op == some .update || intent.op == some .delete) && intent.vbucket.isSome

/-- the whole batch on the base tables; the source rolls it back -/
def validateIntents (data : D) : List BeginIntent → Except ValidationError D
  | [] => .ok data
  | intent :: intents =>
    match E.exec intent.sql intent.params data with
    | .error message => .error (.sql message)
    | .ok (data', changed) =>
      if isGuarded intent && changed == 0 then .error (.guardMismatch intent)
      else validateIntents data' intents

def validationResponse : ValidationError → Response
  | .guardMismatch intent =>
    json (.failure "TX_PARTICIPANT_GUARD_MISMATCH"
      ("Row " ++ intent.table ++ ":" ++ intent.partitionKey
        ++ " changed concurrently — its WHERE guard no longer matched any row.")
      (some "Re-read the row's current state and retry with fresh values.") none) 409
  | .sql message =>
    json (.failure "PREPARE_VALIDATION_FAILED" message (some "Check the compiled SQL/params.")
      none) 400

def preparedRow (message : ParticipantMessage) (now : Nat) (intent : BeginIntent) (seq : Nat) :
    PendingIntent :=
  { coordinatorTxId := message.txId, intentSeq := seq, sql := intent.sql, params := intent.params
    status := .prepared, lockKeys := [lockKeyOf intent], preparedAt := now
    tenantId := some intent.tenantId, tableName := some intent.table
    partitionKey := some intent.partitionKey, vbucket := intent.vbucket, op := intent.op
    mirrorTargetShardId := intent.mirrorTargetShardId, protocolVersion := currentProtocolVersion
    epoch := message.epoch, operationHash := message.operationHash }

/-- `INSERT OR IGNORE`: a batch may name a row twice -/
def acquireLock (txId : TxId) (now : Nat) (locks : List RowLock) (lockKey : RowKey) :
    List RowLock :=
  if locks.any (·.lockKey == lockKey) then locks
  else locks ++ [{ lockKey, coordinatorTxId := txId, acquiredAt := now }]

def recordPrepared (message : ParticipantMessage) (intents : List BeginIntent) (s : Store D) :
    Store D :=
  { s with
    locks := (intents.map lockKeyOf).foldl (acquireLock message.txId s.now) s.locks
    pending := s.pending ++ intents.zipIdx.map fun (intent, seq) =>
      preparedRow message s.now intent seq }

/-- a prepare of a transaction that has no row here: no await stands between its checks and its
write -/
def prepareNew (message : ParticipantPayload) (intents : List BeginIntent) : Sh D Response := do
  assertMessageCompatible message
  let s ← .read
  match fenceOf s intents with
  | some response => return response
  | none =>
    match lockedBy s message.txId (intents.map lockKeyOf) with
    | some lock => return lockedResponse lock s.now
    | none =>
      match validateIntents E s.data intents with
      | .error e => return validationResponse e
      | .ok _ =>
        mutate (recordPrepared message.toParticipantMessage intents)
        certifiedPrepareResponse B message.txId intents.length none

def missingFields : Response :=
  json (.failure "MISSING_FIELDS" "Missing coordinatorTxId or intents." (some "Provide both.") none)
    400

def RawMessage.isVersioned : RawMessage → Bool
  | .versioned _ => true
  | .legacy _ => false

def handlePrepare (raw : RawMessage) (intents : Option (List BeginIntent)) : Sh D Response := do
  .pause
  match intents with
  | none | some [] => return missingFields
  | some intents =>
    let message ← participantPayload H raw .prepare intents
    let existing ← storedIntentIdentity message.txId
    if existing.isEmpty then prepareNew E B message intents
    else if existing.all PendingIntent.unadopted then
      if !legacyIntentsSemanticallyMatch existing intents then
        return protocolResponse (transactionError .txEnvelopeHashMismatch
          ("Prepare retry does not match the complete stored legacy participant intent "
            ++ "set."))
      else if raw.isVersioned then
        -- adoption is prepare-only: a commit never blesses an old row
        let adopted ← adoptLegacyPrepared message.toParticipantMessage intents
        certifiedPrepareResponse B message.txId adopted (some true)
      else certifiedPrepareResponse B message.txId existing.length (some false)
    else
      assertMessageCompatible message
      certifiedPrepareResponse B message.txId existing.length none

/-! ## commit -/

def upsertRowOwner (owner : RowOwner) (owners : List RowOwner) : List RowOwner :=
  if owners.any fun o => o.tableName == owner.tableName && o.partitionKey == owner.partitionKey then
    owners.map fun o =>
      if o.tableName = owner.tableName ∧ o.partitionKey = owner.partitionKey then owner else o
  else owners ++ [owner]

def writeOrDeleteProvenance (sql table partitionKey tenantId : String) (vbucket : Nat)
    (s : Store D) : Store D :=
  { s with
    owners :=
      if E.isDeleteStatement sql then
        s.owners.filter fun o => !(o.tableName == table && o.partitionKey == partitionKey)
      else
        upsertRowOwner { tableName := table, partitionKey, tenantId, vbucket, updatedAt := s.now }
          s.owners }

def enqueueMirrorJob (targetShardId : ShardId) (sql : String) (params : List JsonPrimitive)
    (requestId : String) (vbucket : Nat) (tenantId table partitionKey : String)
    (clientRequestId : Option String) (s : Store D) : Store D :=
  { s with
    nextJobId := s.nextJobId + 1
    mirrors := s.mirrors ++
      [{ jobId := s.nextJobId, targetShardId, sql, params, requestId, vbucket, tenantId
         tableName := table, partitionKey, clientRequestId, nextAttemptAt := s.now
         attemptCount := 0 }] }

def reservedRequestIdPrefix : String := "__cf:"

/-- the provenance and the mirror of a committed base row -/
def recordCommittedIntent (coordinatorTxId : TxId) (intent : PendingIntent) (rowsAffected : Nat)
    (s : Store D) : Store D × Bool :=
  match intent.op, intent.vbucket, intent.tableName, intent.partitionKey, intent.tenantId with
  | some _, some vbucket, some table, some partitionKey, some tenantId =>
    if rowsAffected = 0 ∨ table = "" ∨ partitionKey = "" ∨ tenantId = "" then (s, false)
    else
      let s := writeOrDeleteProvenance E intent.sql table partitionKey tenantId vbucket s
      match intent.mirrorTargetShardId with
      | some target =>
        if target = "" then (s, false)
        else
          (enqueueMirrorJob target intent.sql intent.params
            (reservedRequestIdPrefix ++ "mirror:tx:"
              ++ Json.array [Json.quote coordinatorTxId, toString intent.intentSeq])
            vbucket tenantId table partitionKey none s, true)
      | none => (s, false)
  | _, _, _, _, _ => (s, false)

/-- the intents on the base tables, in their order -/
def applyIntents (coordinatorTxId : TxId) :
    List PendingIntent → Store D → Except String (Bool × Store D)
  | [], s => .ok (false, s)
  | intent :: intents, s =>
    match E.exec intent.sql intent.params s.data with
    | .error message => .error message
    | .ok (data, rowsAffected) =>
      let (s, enqueued) := recordCommittedIntent E coordinatorTxId intent rowsAffected { s with data }
      match applyIntents coordinatorTxId intents s with
      | .error message => .error message
      | .ok (enqueued', s) => .ok (enqueued || enqueued', s)

def markCommitted (txId : TxId) (row : PendingIntent) : PendingIntent :=
  if row.coordinatorTxId = txId then { row with status := .committed } else row

/-- the body of the storage transaction of `applyCommittedIntents` -/
def applySync (coordinatorTxId : TxId) (intents : List PendingIntent) (s : Store D) :
    Except ShardError (Bool × Store D) :=
  match applyIntents E coordinatorTxId intents s with
  | .error message => .error (.error message)
  | .ok (enqueuedMirror, s) =>
    .ok (enqueuedMirror,
      { s with
        pending := s.pending.map (markCommitted coordinatorTxId)
        locks := s.locks.filter (·.coordinatorTxId != coordinatorTxId)
        applied := s.applied ++ [coordinatorTxId] })

def applyCommittedIntents (coordinatorTxId : TxId) (intents : List PendingIntent) : Sh D Bool :=
  mutation (applySync E coordinatorTxId intents)

def mirrorSoon (enqueuedMirror : Bool) : Sh D Unit := do
  if enqueuedMirror then scheduleMirrorAlarmSoon else return ()

def handleCommit (raw : RawMessage) : Sh D Response := do
  .pause
  let message ← participantPayload H raw .commit
  assertMessageCompatible message
  let intents ← storedIntentIdentity message.txId
  match headStatus intents with
  | none =>
    match ← tombstone message.txId with
    | some durable =>
      if durable.decision = .commit then return json (.alreadyResolved (some durable.highestEpoch))
      else
        return protocolResponse (transactionError .txDecisionUnavailable
          "Participant has no prepared intent or commit tombstone.")
    | none =>
      return protocolResponse (transactionError .txDecisionUnavailable
        "Participant has no prepared intent or commit tombstone.")
  | some .committed =>
    let _ ← persistTombstone message.toParticipantMessage .commit
    return json (.alreadyResolved none)
  | some .aborted =>
    return protocolResponse (transactionError .txDecisionConflict
      "This participant already aborted the transaction.")
  | some .prepared =>
    let _ ← persistTombstone message.toParticipantMessage .commit
    let enqueuedMirror ← applyCommittedIntents E message.txId intents
    mirrorSoon enqueuedMirror
    return json .ok

/-! ## abort -/

def handleAbort (raw : RawMessage) (legacyPredecisionAbort : Bool) : Sh D Response := do
  .pause
  let message ← participantPayload H raw .abort
  let pending ← storedIntentIdentity message.txId
  let durable ← (if legacyPredecisionAbort then tombstone message.txId else .pure none)
  if legacyPredecisionAbort && durable.isNone && !pending.isEmpty
      && pending.all PendingIntent.unadopted then
    let discarded ← discardUnadoptedLegacy message.toParticipantMessage
    return json (.legacyDiscarded discarded)
  else
    assertMessageCompatible message
    let intents ← storedIntentIdentity message.txId
    if intents.isEmpty then
      match ← tombstone message.txId with
      | some durable =>
        if durable.decision = .abort then
          return json (.alreadyResolved (some durable.highestEpoch))
        else
          let _ ← persistTombstone message.toParticipantMessage .abort
          return json (.alreadyResolved (some message.epoch))
      | none =>
        let _ ← persistTombstone message.toParticipantMessage .abort
        return json (.alreadyResolved (some message.epoch))
    else if intents.any (·.status == .committed) then
      return json (.failure "ALREADY_COMMITTED"
        ("This transaction was already committed on this shard — aborting now would violate "
          ++ "atomicity.") none none) 409
    else
      -- nothing was applied, so only the bookkeeping is undone
      let _ ← persistTombstone message.toParticipantMessage .abort
      mutate (Store.forget message.txId)
      return json .ok

/-! ## status and recovery -/

def decidedStatus : ParticipantDecision → IntentStatus
  | .commit => .committed
  | .abort => .aborted

def handleTxStatus (raw : RawMessage) (asksBookmark : Bool) : Sh D Response := do
  .pause
  let message ← participantPayload H raw .status
  assertMessageCompatible message
  let durable ← tombstone message.txId
  let s ← .read
  let present := if asksBookmark then some (s.markers.any (·.txId == message.txId)) else none
  match (s.intentsOf message.txId).head?, durable with
  | none, some durable =>
    return json (.txStatus (decidedStatus durable.decision) (some durable.decision)
      durable.highestEpoch present)
  | none, none => return json (.txAbsent present)
  | some row, _ =>
    return json (.txStatus row.status (durable.map (·.decision)) message.epoch present)

def handleRecover (raw : RawMessage) (requestedDecision : Option ParticipantDecision) :
    Sh D Response := do
  .pause
  let message ← participantPayload H raw .recover
  assertMessageCompatible message
  let durable ← tombstone message.txId
  match (durable.map (·.decision)).or requestedDecision with
  | none =>
    return protocolResponse (transactionError .txDecisionUnavailable
      "Recovery requires an authoritative durable decision.")
  | some .abort =>
    let _ ← persistTombstone message.toParticipantMessage .abort
    mutate (Store.forget message.txId)
    return json (.recovered .aborted message.epoch)
  | some .commit =>
    let _ ← persistTombstone message.toParticipantMessage .commit
    let intents ← storedIntentIdentity message.txId
    match headStatus intents with
    | none | some .committed => return json (.recovered .committed message.epoch)
    | _ =>
      let enqueuedMirror ← applyCommittedIntents E message.txId intents
      mirrorSoon enqueuedMirror
      return json (.recovered .committed message.epoch)

/-! ## the sweep -/

inductive CoordinatorDecision where
  | committed
  | aborted
  | pending
  | unreachable
  deriving DecidableEq

structure RecoveryDecision where
  decision : CoordinatorDecision
  epoch : Option Nat
  operationHash : Option Hash

/-- the decision that an answer of the coordinator stands for -/
def decisionOf : Except Unit CoordinatorReply → RecoveryDecision
  | .ok (.found status epoch operationHash commitAuthorized) =>
    let operationHash := if isSha256Hex operationHash then some operationHash else none
    if commitAuthorized ∨ status = .committed then
      { decision := .committed, epoch := some epoch, operationHash }
    else if status = .abortDecided ∨ status = .aborting ∨ status = .aborted then
      { decision := .aborted, epoch := some epoch, operationHash }
    else { decision := .pending, epoch := some epoch, operationHash }
  | .ok .discarded => { decision := .aborted, epoch := none, operationHash := none }
  | _ => { decision := .unreachable, epoch := none, operationHash := none }

def queryCoordinatorDecision (coordinatorTxId : TxId) : Sh D RecoveryDecision := do
  return decisionOf (← .call (.coordinatorDecision coordinatorTxId) .pure)

def recoveryMessage (coordinatorTxId : TxId) (recovery : RecoveryDecision)
    (metadata : PendingIntent) : ParticipantMessage :=
  { protocolVersion := currentProtocolVersion, txId := coordinatorTxId
    epoch := recovery.epoch.getD metadata.epoch, phase := .recover
    operationHash := recovery.operationHash.getD metadata.operationHash }

/-- one transaction of the sweep -/
def sweepOne (coordinatorTxId : TxId) : Sh D Unit := do
  let recovery ← queryCoordinatorDecision coordinatorTxId
  match recovery.decision with
  | .committed =>
    match ← pendingMetadata coordinatorTxId with
    | none => return ()
    | some metadata =>
      let _ ← persistTombstone (recoveryMessage coordinatorTxId recovery metadata) .commit
      let intents ← storedIntentIdentity coordinatorTxId
      let enqueuedMirror ← applyCommittedIntents E coordinatorTxId intents
      mirrorSoon enqueuedMirror
  | .aborted =>
    match ← pendingMetadata coordinatorTxId with
    | none => return ()
    | some metadata =>
      let _ ← persistTombstone (recoveryMessage coordinatorTxId recovery metadata) .abort
      mutate (Store.forget coordinatorTxId)
  | _ => return ()

/-- the transactions whose prepared rows are older than the time to live -/
def staleTransactions (s : Store D) : List TxId :=
  ((s.pending.filter fun row =>
    row.status == .prepared && row.preparedAt + pendingIntentTtlMs < s.now).map
      (·.coordinatorTxId)).dedup

def sweepAll : List TxId → Sh D Unit
  | [] => .pure ()
  | txId :: stale => do
    -- what fails is left for the next tick
    (sweepOne E txId).rescue fun _ => .pure ()
    sweepAll stale

def sweepStalePendingIntents : Sh D Unit := do
  let stale ← gets staleTransactions
  sweepAll E stale

end Shard
