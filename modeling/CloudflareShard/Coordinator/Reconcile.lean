import CloudflareShard.Coordinator.Gate

/-!
# Recovery of a coordinator

Every reconciliation starts from a row it once read, awaits other parties, reads the row again and
moves it by compare-and-set.  The functions call each other in a circle; `Knot` holds the three
entries the circle goes through and `knot` ties it, as often as its fuel allows.

* `persistAbortDecision`, `persistCommitDeciding`   the two irreversible decisions;
* `reconcileReservation` .. `reconcileCommitOnce`   one state each;
* `prepare`, `adoptLegacyPredecision`, `resume`     the way from a row to its next step.
-/

namespace Coordinator
open Async Contracts

structure Knot where
  resume : TxRow → Coord Response
  resumeRecoveryOnce : TxRow → Coord Response
  reconcileCommitOnce : TxRow → Coord Response

variable (E : Bindings) (C : ContractLib) (K : Knot)

def txAborted : Response :=
  protocolResponse (transactionError .txAborted "Transaction was aborted.")

/-- `loadTx` after a lost compare-and-set: resume the row that won -/
def resumeLatest (resume : TxRow → Coord Response) (state : TransactionState) : Coord Response := do
  match ← loadTx with
  | some latest => resume latest
  | none => .throw (.casLost state)

/-! ## identities of reservations and requests -/

def contractViolation {α : Type} (code : TransactionErrorCode) (message : String) : Coord α :=
  .throw (.contract (transactionError code message))

def retentionDeadline (decidedAt : Nat) : Nat := decidedAt + coordinatorRetentionDays * dayMs

def coordinatorIdOf (row : TxRow) : String :=
  if row.coordinatorId = "" then row.txId else row.coordinatorId

def routeAssignmentRequest (draft : ManifestRouteDraft) : ManifestRouteAssignmentRequest :=
  { draft, idempotencyKey := C.hashCanonicalJson (.routeDraft "coordinator-manifest-route" draft) }

def validateAssignedReservation (request : ManifestRouteAssignmentRequest)
    (reservation : ManifestReservation) (reservationHash : Hash) : Coord Unit := do
  liftContract (C.validateManifestReservation reservation)
  .pause
  let expectedHash ← liftContract (C.hashManifestReservation reservation)
  if expectedHash ≠ reservationHash
      ∨ reservation.fleetId ≠ request.draft.fleetId
      ∨ reservation.txId ≠ request.draft.txId
      ∨ reservation.coordinatorId ≠ request.draft.coordinatorId
      ∨ reservation.operationHash ≠ request.draft.operationHash
      ∨ reservation.decisionEpoch ≠ request.draft.decisionEpoch then
    contractViolation .manifestReservationConflict
      "Assigned manifest reservation does not match the immutable transaction draft."
  else return ()

def reservationFor (row : TxRow) : Coord ManifestReserveRequest := do
  match row.manifestReservationJson, row.manifestReservationHash with
  | some reservation, some storedHash =>
    liftContract (C.validateManifestReservation reservation)
    .pause
    let reservationHash ← liftContract (C.hashManifestReservation reservation)
    if reservationHash ≠ storedHash
        ∨ reservation.txId ≠ row.txId
        ∨ reservation.fleetId ≠ row.fleetId
        ∨ reservation.coordinatorId ≠ coordinatorIdOf row
        ∨ reservation.operationHash ≠ row.operationHash
        ∨ reservation.decisionEpoch ≠ row.epoch then
      contractViolation .manifestReservationConflict
        "Stored manifest reservation conflicts with the durable coordinator identity."
    else return { reservation, reservationHash }
  | _, _ =>
    contractViolation .txDecisionUnavailable
      "Model-2 transaction is missing its frozen manifest reservation."

def cancelRequestFor (row : TxRow) : Coord ManifestCancelRequest := do
  match row.manifestCancelRequestJson with
  | none =>
    contractViolation .txDecisionUnavailable
      "Aborted model-2 transaction is missing its immutable cancellation request."
  | some request =>
    liftContract (C.validateManifestReservation request.reservation)
    liftContract (C.validateManifestCancelIntent request.intent)
    .pause
    let reservationHash ← liftContract (C.hashManifestReservation request.reservation)
    if reservationHash ≠ request.reservationHash
        ∨ request.intent.reservationHash ≠ reservationHash
        ∨ request.intent.txId ≠ row.txId
        ∨ request.intent.operationHash ≠ row.operationHash
        ∨ request.intent.decisionEpoch ≠ row.epoch then
      contractViolation .manifestTerminalConflict
        "Stored cancellation request conflicts with the durable transaction identity."
    else return request

def finalizeRequestFor (row : TxRow) : Coord ManifestFinalizeRequest := do
  match row.manifestFinalizeRequestJson, row.redoEnvelopeIntentJson with
  | some request, some redoEnvelopeIntent =>
    liftContract (C.validateManifestReservation request.reservation)
    liftContract (C.validateManifestFinalizeIntent request.intent)
    .pause
    let reservationHash ← liftContract (C.hashManifestReservation request.reservation)
    .pause
    let redoEnvelopeHash := C.hashCanonicalJson (.envelope redoEnvelopeIntent)
    if reservationHash ≠ request.reservationHash
        ∨ request.intent.reservationHash ≠ reservationHash
        ∨ request.intent.redoEnvelopeHash ≠ redoEnvelopeHash
        ∨ request.intent.txId ≠ row.txId
        ∨ request.intent.operationHash ≠ row.operationHash
        ∨ request.intent.decisionEpoch ≠ row.epoch then
      contractViolation .manifestTerminalConflict
        "Stored finalization request conflicts with the durable transaction identity."
    else return request
  | _, _ =>
    contractViolation .txDecisionUnavailable
      "Commit-deciding transaction is missing immutable finalization recovery data."

/-- an intent without terminal times gets those of the record -/
def completedEnvelope (intent : RedoEnvelope) (record : ManifestRecordV2) : RedoEnvelope :=
  if intent.commitDecidedAt.isSome && intent.retentionDeadline.isSome then intent
  else
    { intent with
      commitDecidedAt := some record.commitDecidedAt
      retentionDeadline := some record.retentionDeadline }

/-! ## the two decisions -/

/-- columns that `persistAbortDecision` writes -/
def recordAbort (cancelRequest : Option ManifestCancelRequest) (row : TxRow) : TxRow :=
  { row with
    decision := .abort
    manifestCancelRequestJson := cancelRequest.or row.manifestCancelRequestJson }

def abortExpected (row : TxRow) : List TransactionState :=
  if isV2 row then [.manifestReserving, .preparing, .prepared] else [.preparing, .prepared]

def cancelRequestOf (row : TxRow) : Coord (Option ManifestCancelRequest) := do
  if !isV2 row then return none
  else
    let request ← reservationFor C row
    .pause
    let intent : ManifestCancelIntent :=
      { txId := row.txId, reservationHash := request.reservationHash
        operationHash := row.operationHash, decisionEpoch := row.epoch
        idempotencyKey := C.hashCanonicalJson
          (.list ["coordinator-manifest-cancel", request.reservationHash]) }
    liftContract (C.validateManifestCancelIntent intent)
    return some { request with intent }

def persistAbortDecision (row : TxRow) (legacyPredecisionAbort : Bool := false) :
    Coord TxRow := do
  assertRestoreGateOpen E row.fleetId
  ensureAlarmScheduled (← dateNow)
  let now ← dateNow
  let cancelRequest ← cancelRequestOf C row
  tryCas
    (transition (abortExpected row) .abortDecided fun s =>
      (s.updateTx (recordAbort cancelRequest)).queueRecovery
        (if legacyPredecisionAbort then .legacyAbort else .abort) now)
    (fun state => do
      match ← loadTx with
      | some latest =>
        if isAbortDecidedOrLater (← liftContract (stateOf latest)) then return latest
        else .throw (.casLost state)
      | none => .throw (.casLost state))
    .pure

/-- columns of a commit decision in state model 1 -/
def recordCommitV1 (envelope : RedoEnvelope) (registration : ManifestRegistration) (row : TxRow) :
    TxRow :=
  { row with
    decision := .commit, redoEnvelopeJson := some envelope
    manifestRegistrationJson := some registration }

/-- columns of a commit decision in state model 2 -/
def recordCommitV2 (intent : RedoEnvelope) (request : ManifestFinalizeRequest) (row : TxRow) :
    TxRow :=
  { row with
    decision := .commit, redoEnvelopeIntentJson := some intent
    manifestFinalizeRequestJson := some request }

/-- a commit decision that another handler made first is as good -/
def commitDecidedMeanwhile (state : TransactionState) : Coord TxRow := do
  match ← loadTx with
  | some latest =>
    if isCommitDecidedOrLater (← liftContract (stateOf latest)) then return latest
    else .throw (.casLost state)
  | none => .throw (.casLost state)

def envelopeFor (txId : TxId) (fleetId coordinatorId : String)
    (participants : List BeginParticipant) (epoch commitDecidedAt : Nat) : Coord RedoEnvelope := do
  let redoParticipants := C.redoParticipants participants epoch
  .pause
  let envelope : RedoEnvelope :=
    { formatVersion := 1, txId, fleetId, coordinatorId, decisionEpoch := epoch
      operationHash := C.hashParticipantOperations redoParticipants
      participants := redoParticipants, commitDecidedAt := some commitDecidedAt
      retentionDeadline := some (retentionDeadline commitDecidedAt) }
  .pause
  liftContract (C.validateRedoEnvelope envelope)
  return envelope

def hasExactPrepareBookmarks (row : TxRow) (participants : List ParticipantRow) : Bool :=
  participants.length == row.operationJson.length
    && participants.all fun participant => participant.prepareBookmark.any (· ≠ "")

def redoParticipantsV2 (row : TxRow) (participants : List ParticipantRow) :
    Except TransactionProtocolError (List RedoParticipant) :=
  (C.redoParticipants row.operationJson row.epoch).mapM fun participant =>
    match (participants.find? (·.shardId == participant.participantId)).bind
        (·.prepareBookmark) with
    | some bookmark =>
      if bookmark ≠ "" then .ok { participant with prepareBookmark := some bookmark }
      else missing participant.participantId
    | none => missing participant.participantId
where
  missing (participantId : ShardId) : Except TransactionProtocolError RedoParticipant :=
    fail .txEnvelopeInvalid
      ("Participant " ++ participantId ++ " is missing its exact post-prepare bookmark.")

def persistCommitDeciding (row : TxRow) : Coord TxRow := do
  assertRestoreGateOpen E row.fleetId
  ensureAlarmScheduled (← dateNow)
  let request ← reservationFor C row
  let rows ← gets (·.participants)
  let checkpointCertified := hasExactPrepareBookmarks row rows
  let participants ← liftContract
    (if checkpointCertified then redoParticipantsV2 C row rows
      else .ok (C.redoParticipants row.operationJson row.epoch))
  let redoEnvelopeIntent : RedoEnvelope :=
    { formatVersion := if checkpointCertified then 2 else 1, txId := row.txId
      fleetId := row.fleetId, coordinatorId := coordinatorIdOf row, decisionEpoch := row.epoch
      operationHash := row.operationHash, participants, commitDecidedAt := none
      retentionDeadline := none }
  let validationDecisionTime ← dateNow
  liftContract
    (if checkpointCertified then
      C.validateWritableRedoEnvelopeStructure
        { redoEnvelopeIntent with
          commitDecidedAt := some validationDecisionTime
          retentionDeadline := some (retentionDeadline validationDecisionTime) }
      else .ok ())
  .pause
  if C.hashParticipantOperations participants ≠ row.operationHash then
    contractViolation .txEnvelopeHashMismatch
      "Stored transaction participants do not match the durable operation hash."
  else
    let redoEnvelopeHash := C.hashCanonicalJson (.envelope redoEnvelopeIntent)
    .pause
    let intent : ManifestFinalizeIntent :=
      { txId := row.txId, reservationHash := request.reservationHash, redoEnvelopeHash
        operationHash := row.operationHash, decisionEpoch := row.epoch
        idempotencyKey := C.hashCanonicalJson
          (.list ["coordinator-manifest-finalize", request.reservationHash, redoEnvelopeHash]) }
    .pause
    liftContract (C.validateManifestFinalizeIntent intent)
    let now ← dateNow
    tryCas
      (transition [.prepared] .commitDeciding fun s =>
        (s.updateTx (recordCommitV2 redoEnvelopeIntent { request with intent })).queueRecovery
          .finalize now)
      commitDecidedMeanwhile .pure

def persistCommitDecision (row : TxRow) : Coord TxRow := do
  assertRestoreGateOpen E row.fleetId
  if isV2 row then persistCommitDeciding E C row
  else
    ensureAlarmScheduled (← dateNow)
    let commitDecidedAt ← dateNow
    let envelope ← envelopeFor C row.txId row.fleetId (coordinatorIdOf row) row.operationJson
      row.epoch commitDecidedAt
    .pause
    let registration ← liftContract (C.createManifestRegistration envelope)
    let now ← dateNow
    tryCas
      (transition [.prepared] .commitDecided fun s =>
        (s.updateTx (recordCommitV1 envelope registration)).queueRecovery .manifest now)
      commitDecidedMeanwhile .pure

/-! ## abort -/

/-- columns of an abort that has reached every participant -/
def recordAborted (row : TxRow) : TxRow := { row with resultJson := some .aborted }

/-- columns of an abort before any participant was asked -/
def recordRejected (error : TransactionProtocolError) (row : TxRow) : TxRow :=
  { row with
    decision := .abort, lastError := some (.protocol error), resultJson := some .aborted }

/-- columns of a quarantine -/
def recordQuarantine (error : TransactionProtocolError) (row : TxRow) : TxRow :=
  { row with decision := .quarantined, lastError := some (.protocol error) }

def recordError (error : TransactionProtocolError) (row : TxRow) : TxRow :=
  { row with lastError := some (.protocol error) }

def quarantine (expected : List TransactionState) (error : TransactionProtocolError) :
    Coord TxRow :=
  transition expected .quarantined fun s => (s.updateTx (recordQuarantine error)).dropRecovery

/-- the work is parked: its error is kept and its queue row dropped -/
def park (error : TransactionProtocolError) : Coord Unit :=
  .modify fun s => (s.updateTx (recordError error)).dropRecovery

def parked (row : TxRow) (queue : Option QueueRow) : Bool :=
  queue.isNone && match row.lastError with
    | some (.protocol error) =>
      error.code == .manifestQuarantined || error.code == .manifestReservationConflict
    | _ => false

def reconcileCancelOnce (row : TxRow) : Coord Response := do
  let pending := statusResponse .abortedPendingManifestCancel 202
  assertRestoreGateOpen E row.fleetId
  let state ← liftContract (stateOf row)
  if state = .aborted then return txAborted
  else if state ≠ .abortedPendingManifestCancel then K.resumeRecoveryOnce row
  else if parked row (← gets (·.queue)) then return pending
  else
    let request ← cancelRequestFor C row
    -- replaying the reservation makes the cancellation well defined
    let reserve ← reserveManifest E request.toManifestReserveRequest
    let row ← loadTxOrThrow "Missing transaction."
    if (← liftContract (stateOf row)) ≠ .abortedPendingManifestCancel then K.resumeRecoveryOnce row
    else
      match reserve with
      | none | some (.refused .unavailable _ _) =>
        let _ ← reschedule .cancel (some [.abortedPendingManifestCancel])
        return pending
      | some (.refused .quarantined _ error) =>
        park error
        return pending
      | some (.refused .rejectedAbsent false _) =>
        let _ ← transition [.abortedPendingManifestCancel] .aborted fun s =>
          (s.updateTx recordAborted).dropRecovery
        return txAborted
      | _ =>
        let result ← cancelManifest E request
        let row ← loadTxOrThrow "Missing transaction."
        if (← liftContract (stateOf row)) ≠ .abortedPendingManifestCancel then
          K.resumeRecoveryOnce row
        else
          match result with
          | none | some (.refused .unavailable _) =>
            let _ ← reschedule .cancel (some [.abortedPendingManifestCancel])
            return pending
          | some (.refused .quarantinedPendingResolution error) =>
            park error
            return pending
          | some (.refused .conflict error) =>
            let _ ← quarantine [.abortedPendingManifestCancel] error
            return protocolResponse error
          | some .cancelled =>
            let _ ← transition [.abortedPendingManifestCancel] .aborted fun s =>
              (s.updateTx recordAborted).dropRecovery
            return txAborted

def reconcileCancel (row : TxRow) : Coord Response :=
  runRecoveryExclusive (reconcileCancelOnce E C K row)

/-- the row as the messages of a legacy abort name it -/
def legacyMessageRow (row : TxRow) : TxRow :=
  { row with
    protocolVersion := currentProtocolVersion, epoch := 1
    operationHash := C.hashParticipantOperations (C.redoParticipants row.operationJson 1) }

def abortMessages (row messageRow : TxRow) (legacyPredecisionAbort : Bool) :
    List (ShardId × ShardRequest) :=
  row.operationJson.map fun participant =>
    (participant.shardId,
      .abort (participantMessage messageRow .abort) legacyPredecisionAbort)

def isLegacyPredecision (row : TxRow) : Option Bool → Coord Bool
  | some known => .pure known
  | none => do return (← coordinatorIdentity C row) == .legacy

def abortMessageRow (row : TxRow) (legacyPredecisionAbort : Bool) : Coord TxRow := do
  if legacyPredecisionAbort then
    .pause
    return legacyMessageRow C row
  else return row

/-- the abort of a row in `aborting` -/
def sendAborts (current : TxRow) (knownLegacyPredecisionAbort : Option Bool) : Coord Response := do
  let legacyPredecisionAbort ← isLegacyPredecision C current knownLegacyPredecisionAbort
  let messageRow ← abortMessageRow C current legacyPredecisionAbort
  let outcomes ← callShards (abortMessages current messageRow legacyPredecisionAbort)
  if allOk current.operationJson.length outcomes then
    if isV2 current then
      let now ← dateNow
      tryCas
        (transition [.aborting] .abortedPendingManifestCancel fun s =>
          s.queueRecovery .cancel now)
        (resumeLatest K.resume) fun _ => do
          let pending ← loadTxOrThrow "Missing transaction before manifest cancellation."
          reconcileCancel E C K pending
    else
      let _ ← transition [.aborting] .aborted fun s => (s.dropRecovery).updateTx recordAborted
      return txAborted
  else
    let _ ← reschedule (if legacyPredecisionAbort then .legacyAbort else .abort)
    return txAborted

def reconcileAbort (row : TxRow) (knownLegacyPredecisionAbort : Option Bool := none) :
    Coord Response := do
  assertRestoreGateOpen E row.fleetId
  let state ← liftContract (stateOf row)
  if state = .abortDecided then
    tryCas (transition [.abortDecided] .aborting) (resumeLatest K.resume) fun current =>
      sendAborts E C K current knownLegacyPredecisionAbort
  else if state = .aborted then return txAborted
  else if state = .abortedPendingManifestCancel then reconcileCancel E C K row
  else if state ≠ .aborting then
    return protocolResponse (transactionError .txInvalidTransition
      ("Cannot reconcile abort from " ++ state.text ++ "."))
  else sendAborts E C K row knownLegacyPredecisionAbort

/-! ## commit -/

def commitMessages (row : TxRow) : List (ShardId × ShardRequest) :=
  row.operationJson.map fun participant =>
    (participant.shardId, .commit (participantMessage row .commit))

/-- participants whose acknowledgement arrived -/
def acknowledge (row : TxRow) (outcomes : Nat → ShardOutcome) (s : Store) : Store :=
  let acknowledged := (row.operationJson.zipIdx.filter fun p => (outcomes p.2).ok).map (·.1.shardId)
  { s with
    participants := s.participants.map fun participant =>
      if acknowledged.contains participant.shardId then
        { participant with phaseStatus := .committed }
      else participant }

def recordAcknowledgments (row : TxRow) (outcomes : Nat → ShardOutcome)
    (allAcknowledged queueCommitRecovery : Bool) (now : Nat) (s : Store) : Store :=
  let s := acknowledge row outcomes s
  if allAcknowledged then
    (s.queueRecovery .release now).updateTx ({ · with resultJson := some .committed })
  else if queueCommitRecovery then s.queueRecovery .commit now
  else s

def commitSide : List TransactionState :=
  [.manifestRegistered, .committing, .committedPendingAck, .committed]

/-- back into the commit, or out of it when the row has left it -/
def recommit (row : TxRow) : Coord Response := do
  if (← liftContract (stateOf row)) ∈ commitSide then K.reconcileCommitOnce row
  else K.resumeRecoveryOnce row

/-- the state after the acknowledgements, in one transaction with them -/
def saveAcknowledgments (row : TxRow) (outcomes : Nat → ShardOutcome) (allAcknowledged : Bool)
    (latestState : TransactionState) (now : Nat) : Coord Unit :=
  let nextState : TransactionState := if allAcknowledged then .committed else .committedPendingAck
  if latestState = nextState then
    .transact (casTx (fun _ state => state == latestState)
      (recordAcknowledgments row outcomes allAcknowledged false now))
  else do
    let _ ← transition [.committing, .committedPendingAck] nextState
      (recordAcknowledgments row outcomes allAcknowledged true now)
    return ()

def releaseAlarm (allAcknowledged : Bool) : Coord Unit := do
  if allAcknowledged then ensureAlarmScheduled (← dateNow) else return ()

/-- the commit of a row in `committing` or `committed_pending_ack` -/
def sendCommits (current : TxRow) : Coord Response := do
  let outcomes ← callShards (commitMessages current)
  let allAcknowledged := allOk current.operationJson.length outcomes
  releaseAlarm allAcknowledged
  let latest ← loadTxOrThrow "Missing transaction."
  let latestState ← liftContract (stateOf latest)
  if latestState = .committed then return statusResponse .committed
  else if latestState ≠ .committing ∧ latestState ≠ .committedPendingAck then
    K.resumeRecoveryOnce latest
  else
    let now ← dateNow
    tryCas (saveAcknowledgments current outcomes allAcknowledged latestState now)
      (resumeLatest (recommit K)) fun _ => do
      if allAcknowledged then return statusResponse .committed
      else if ← reschedule .commit (some [.committing, .committedPendingAck]) then
        return statusResponse .committedPendingAck 202
      else
        match ← loadTx with
        | some latest => recommit K latest
        | none => return statusResponse .committedPendingAck 202

def reconcileCommitOnce (row : TxRow) : Coord Response := do
  assertRestoreGateOpen E row.fleetId
  let state ← liftContract (stateOf row)
  if state = .manifestRegistered then
    tryCas (transition [.manifestRegistered] .committing) (resumeLatest K.reconcileCommitOnce)
      fun current => sendCommits K current
  else if state = .committed then return statusResponse .committed
  else if state ≠ .committing ∧ state ≠ .committedPendingAck then K.resumeRecoveryOnce row
  else sendCommits K row

def reconcileCommit (row : TxRow) : Coord Response :=
  runRecoveryExclusive (reconcileCommitOnce E K row)

def resumeRecoveryOnce (row : TxRow) : Coord Response := do
  let state ← liftContract (stateOf row)
  if state = .abortedPendingManifestCancel then reconcileCancelOnce E C K row
  else if state ∈ commitSide then reconcileCommitOnce E K row
  else K.resume row

/-! ## finalization -/

/-- columns of a finalized manifest record -/
def recordFinalized (envelope : RedoEnvelope) (record : ManifestRecordV2) (recordHash : Hash)
    (row : TxRow) : TxRow :=
  { row with
    redoEnvelopeJson := some envelope, manifestRecordJson := some record
    manifestRecordHash := some recordHash, commitDecidedAtMs := some record.commitDecidedAtMs
    decisionSequence := some record.decisionSequence }

/-- a decision in the state `decided` waits for the manifest from now on -/
def pendManifest (state decided : TransactionState) : Coord Unit := do
  if state = decided then
    let _ ← transition [decided] .commitPendingManifest
    return ()
  else return ()

def reconcileFinalize (row : TxRow) : Coord Response := do
  assertRestoreGateOpen E row.fleetId
  let state ← liftContract (stateOf row)
  if state ≠ .commitDeciding ∧ state ≠ .commitPendingManifest then K.resume row
  else
    let request ← finalizeRequestFor C row
    let result ← finalizeManifest E request
    let row ← loadTxOrThrow "Missing transaction."
    if (← liftContract (stateOf row)) ≠ state then K.resume row
    else
      match result with
      | none | some (.refused .unavailable _) =>
        tryCas (pendManifest state .commitDeciding) (resumeLatest K.resume) fun _ => do
          let _ ← reschedule .finalize (some [.commitDeciding, .commitPendingManifest])
          return statusResponse .commitPendingManifest 202
      | some (.refused _ error) =>
        let _ ← quarantine [state] error
        return protocolResponse error
      | some (.finalized record recordHash) =>
        liftContract (C.validateManifestRecordV2 record)
        .pause
        let expectedRecordHash ← liftContract (C.hashManifestRecordV2 record)
        if expectedRecordHash ≠ recordHash
            ∨ record.txId ≠ row.txId
            ∨ record.fleetId ≠ row.fleetId
            ∨ record.coordinatorId ≠ coordinatorIdOf row
            ∨ record.operationHash ≠ row.operationHash
            ∨ record.decisionEpoch ≠ row.epoch
            ∨ record.reservationHash ≠ request.reservationHash
            ∨ record.envelopeHash ≠ request.intent.redoEnvelopeHash then
          contractViolation .manifestTerminalConflict
            "Finalized manifest record conflicts with the durable coordinator decision."
        else
          match row.redoEnvelopeIntentJson with
          | none => .throw (.error "Unexpected end of JSON input")
          | some intent =>
            let envelope := completedEnvelope intent record
            .pause
            liftContract (C.validateRedoEnvelope envelope)
            let now ← dateNow
            tryCas
              (transition [state] .manifestRegistered fun s =>
                (s.updateTx (recordFinalized envelope record recordHash)).queueRecovery .commit now)
              (resumeLatest K.resume) fun _ => do
                let registered ← loadTxOrThrow "Missing transaction after manifest finalization."
                reconcileCommit E K registered

/-! ## the bridge from state model 1 -/

/-- columns of a bridge finalization -/
def recordBridgeFinalize (intent : RedoEnvelope) (request : ManifestFinalizeRequest) (row : TxRow) :
    TxRow :=
  { row with
    redoEnvelopeIntentJson := some intent, manifestFinalizeRequestJson := some request }

def reconcileV2BridgeReservation (row : TxRow) : Coord Response := do
  let state ← liftContract (stateOf row)
  if row.stateModelVersion ≠ 2 ∨ state ≠ .commitPendingManifest then
    return protocolResponse (transactionError .txVersionUnsupported
      ("State " ++ state.text ++ " cannot enter the V1-to-V2 bridge."))
  else if row.manifestFinalizeRequestJson.isSome then reconcileFinalize E C K row
  else
    match row.redoEnvelopeJson, row.manifestRegistrationJson with
    | some predecessorEnvelope, some predecessorRegistration =>
      .pause
      liftContract (C.validateRedoEnvelope predecessorEnvelope)
      .pause
      liftContract (C.validateManifestRegistration predecessorRegistration predecessorEnvelope)
      .pause
      if predecessorEnvelope.txId ≠ row.txId
          ∨ predecessorEnvelope.operationHash ≠ row.operationHash
          ∨ predecessorRegistration.record.txId ≠ row.txId
          ∨ predecessorRegistration.record.envelopeHash
            ≠ C.hashCanonicalJson (.envelope predecessorEnvelope) then
        contractViolation .txEnvelopeHashMismatch
          ("V1-to-V2 bridge predecessor artifacts conflict with the durable coordinator "
            ++ "identity.")
      else
        let request ← reservationFor C row
        let reserve ← reserveManifest E request
        let row ← loadTxOrThrow "Missing transaction."
        if (← liftContract (stateOf row)) ≠ .commitPendingManifest ∨ row.stateModelVersion ≠ 2 then
          K.resume row
        else
          match reserve with
          | none | some (.refused .unavailable _ _) =>
            let _ ← reschedule .reserve (some [.commitPendingManifest])
            return statusResponse .commitPendingManifest 202
          | some (.refused _ _ error) =>
            let _ ← quarantine [.commitPendingManifest] error
            return protocolResponse error
          | some (.reserved reservationHash) =>
            if reservationHash ≠ request.reservationHash then
              contractViolation .manifestReservationConflict
                "V1-to-V2 bridge reserve acknowledgement returned a different reservation hash."
            else
              let redoEnvelopeHash := C.hashCanonicalJson (.envelope predecessorEnvelope)
              .pause
              let intent : ManifestFinalizeIntent :=
                { txId := row.txId, reservationHash, redoEnvelopeHash
                  operationHash := row.operationHash, decisionEpoch := row.epoch
                  idempotencyKey := C.hashCanonicalJson
                    (.list ["coordinator-v1-v2-bridge-finalize", reservationHash,
                      redoEnvelopeHash]) }
              .pause
              liftContract (C.validateManifestFinalizeIntent intent)
              let now ← dateNow
              tryCas
                (.transact (casTx
                  (fun current state =>
                    state == .commitPendingManifest && current.stateModelVersion == 2)
                  fun s => (s.updateTx (recordBridgeFinalize predecessorEnvelope
                    { request with intent })).queueRecovery .finalize now))
                (resumeLatest K.resume) fun _ => do
                  let latest ← loadTxOrThrow "Missing transaction after V1-to-V2 bridge reservation."
                  reconcileFinalize E C K latest
    | _, _ =>
      contractViolation .txDecisionUnavailable
        "V1-to-V2 bridge is missing its immutable predecessor decision envelope."

/-- columns of a row that enters state model 2 -/
def recordBridge (request : ManifestRouteAssignmentRequest) (reservation : ManifestReservation)
    (reservationHash : Hash) (row : TxRow) : TxRow :=
  { row with
    stateModelVersion := 2, status := .commitPendingManifest
    manifestRouteAssignmentRequestJson := some request
    manifestReservationJson := some reservation
    manifestReservationHash := some reservationHash }

def beginV2Bridge (row : TxRow) (expectedState : TransactionState) : Coord Response := do
  .pause
  let assignmentRequest := routeAssignmentRequest C
    { fleetId := row.fleetId, txId := row.txId, coordinatorId := coordinatorIdOf row
      operationHash := row.operationHash, decisionEpoch := row.epoch }
  let assignment ← assignManifestRoute E assignmentRequest
  let row ← loadTxOrThrow "Missing transaction."
  if (← liftContract (stateOf row)) ≠ expectedState ∨ row.stateModelVersion ≠ 1 then K.resume row
  else
    match assignment with
    | none | some (.refused true _) =>
      let _ ← reschedule .manifest (some [expectedState])
      return statusResponse .commitPendingManifest 202
    | some (.refused false error) =>
      let _ ← quarantine [expectedState] error
      return protocolResponse error
    | some (.assigned reservation reservationHash) =>
      validateAssignedReservation C assignmentRequest reservation reservationHash
      liftContract (assertTransactionTransition expectedState .commitPendingManifest)
      let now ← dateNow
      tryCas
        (.transact (casTx
          (fun current state => state == expectedState && current.stateModelVersion == 1)
          fun s => (s.updateTx (recordBridge assignmentRequest reservation reservationHash)).queueRecovery
            .reserve now))
        (resumeLatest K.resume) fun _ => do
          let bridged ← loadTxOrThrow "Missing transaction after V1-to-V2 bridge assignment."
          reconcileV2BridgeReservation E C K bridged

/-- the registration is retried later, unless the row has gone on meanwhile -/
def pendingManifest : Coord Response := do
  if ← reschedule .manifest (some [.commitDecided, .commitPendingManifest]) then
    return statusResponse .commitPendingManifest 202
  else
    match ← loadTx with
    | some latest => K.resume latest
    | none => return statusResponse .commitPendingManifest 202

def reconcileManifest (row : TxRow) : Coord Response := do
  assertRestoreGateOpen E row.fleetId
  if isV2 row then reconcileFinalize E C K row
  else
    let state ← liftContract (stateOf row)
    if state ≠ .commitDecided ∧ state ≠ .commitPendingManifest then K.resume row
    else
      match row.manifestRegistrationJson, row.redoEnvelopeJson with
      | some registration, some envelope =>
        .pause
        liftContract (C.validateRedoEnvelope envelope)
        let result ← registerManifest E registration
        let row ← loadTxOrThrow "Missing transaction."
        if (← liftContract (stateOf row)) ≠ state then K.resume row
        else
          match result with
          | none | some (.refused .commitPendingManifest _) | some (.refused .unavailable _) =>
            tryCas (pendManifest state .commitDecided) (resumeLatest K.resume) fun _ =>
              pendingManifest K
          | some (.refused _ error) =>
            if error.code = .v1Closed then beginV2Bridge E C K row state
            else
              tryCas (quarantine [state] error) (resumeLatest K.resume) fun _ =>
                return protocolResponse error
          | some (.registered _) =>
            let now ← dateNow
            tryCas
              (transition [state] .manifestRegistered fun s => s.queueRecovery .commit now)
              (resumeLatest K.resume) fun _ => do
                let registered ← loadTxOrThrow "Missing transaction."
                reconcileCommit E K registered
      | _, _ =>
        return protocolResponse (transactionError .txDecisionUnavailable
          "Committed decision is missing immutable recovery data.")

/-! ## release -/

def reconcileManifestReleaseOnce (row : TxRow) : Coord Unit := do
  assertRestoreGateOpen E row.fleetId
  if (← liftContract (stateOf row)) ≠ .committed then
    contractViolation .txInvalidTransition
      "Manifest retention can be released only after terminal commit."
  else if isV2 row then
    let request ← reservationFor C row
    match row.manifestRecordJson, row.manifestRecordHash with
    | some record, some recordHash =>
      liftContract (C.validateManifestRecordV2 record)
      .pause
      if (← liftContract (C.hashManifestRecordV2 record)) ≠ recordHash then
        contractViolation .manifestTerminalConflict
          "Stored model-2 manifest record hash is invalid."
      else
        released (← releaseManifestV2 E
          { request with recordHash, retentionDeadlineMs := record.retentionDeadline })
    | _, _ =>
      contractViolation .txDecisionUnavailable
        "Committed model-2 transaction is missing its finalized manifest record."
  else
    match row.manifestRegistrationJson with
    | none => .modify Store.dropRecovery
    | some registration =>
      released (← releaseManifestRetention E
        { fleetId := registration.record.fleetId, txId := registration.record.txId
          commitDecidedAt := registration.record.commitDecidedAt
          recordHash := registration.recordHash })
where
  released (result : Option ManifestReleaseResult) : Coord Unit := do
    match result with
    | some .released => .modify Store.dropRecovery
    | some (.refused true error) =>
      .modify (Store.updateTx (recordError error))
      let _ ← reschedule .release
      return ()
    | _ =>
      let _ ← reschedule .release
      return ()

def reconcileManifestRelease (row : TxRow) : Coord Unit :=
  runReleaseExclusive (reconcileManifestReleaseOnce E C row)

/-! ## before the decision -/

def prepareMessages (row : TxRow) : List (ShardId × ShardRequest) :=
  row.operationJson.map fun participant =>
    (participant.shardId, .prepare (participantMessage row .prepare) participant.intents)

structure PrepareOutcome where
  shardId : ShardId
  ok : Bool
  text : String
  prepareBookmark : Option String

/-- a bookmark counts only when the participant certifies it as exact -/
def prepareOutcome (checkpointCertificationRequired : Bool) (shardId : ShardId) :
    ShardOutcome → PrepareOutcome
  | .rejected message => { shardId, ok := false, text := message, prepareBookmark := none }
  | .response ok body =>
    let hasBookmark := body.prepareBookmark.any (· ≠ "")
    let checkpointContradiction :=
      checkpointCertificationRequired && hasBookmark && !body.prepareCheckpointExact
    { shardId, ok := ok && !checkpointContradiction, text := body.text
      prepareBookmark :=
        if hasBookmark && body.prepareCheckpointExact then body.prepareBookmark else none }

/-- participant rows after every participant prepared -/
def recordPrepared (outcomes : List PrepareOutcome) (s : Store) : Store :=
  { s with
    participants := s.participants.map fun participant =>
      match outcomes.find? (·.shardId == participant.shardId) with
      | some outcome =>
        { participant with phaseStatus := .prepared, prepareBookmark := outcome.prepareBookmark }
      | none => participant }

def participantError (message : String) (failed : PrepareOutcome) : Response :=
  json (.participantError (transactionError .txAborted message) failed.shardId failed.text) 409

def prepare (row : TxRow) : Coord Response := do
  let answers ← callShards (prepareMessages row)
  let outcomes := row.operationJson.mapIdx fun i participant =>
    prepareOutcome E.restoreCoordinator participant.shardId (answers i)
  match outcomes.find? (!·.ok) with
  | some failed =>
    let latest ← loadTxOrThrow "Missing transaction."
    if isCommitDecidedOrLater (← liftContract (stateOf latest)) then K.resume latest
    else
      let aborting ← persistAbortDecision E C latest
      let _ ← reconcileAbort E C K aborting
      return participantError
        ("Prepare failed on participant " ++ failed.shardId ++ "; abort is durable.") failed
  | none =>
    let resumeRow : Coord Response := do
      let latest ← loadTxOrThrow "Missing transaction."
      K.resume latest
    tryCas (transition [.preparing] .prepared (recordPrepared outcomes)) (fun _ => resumeRow)
      fun _ => resumeRow

/-- columns of an adopted predecessor -/
def recordAdopted (operationHash : Hash) (row : TxRow) : TxRow :=
  { row with
    status := .prepared, operationHash, protocolVersion := currentProtocolVersion
    stateModelVersion := 1, epoch := 1 }

def adoptParticipants (participants : List BeginParticipant) (operationHash : Hash) (s : Store) :
    Store :=
  let adopted (shardId : ShardId) (bookmark : Option String) : ParticipantRow :=
    { shardId, phaseStatus := .prepared, epoch := 1, operationHash, prepareBookmark := bookmark }
  { s with
    participants := participants.foldl (fun rows participant =>
      if rows.any (·.shardId == participant.shardId) then
        rows.map fun row =>
          if row.shardId = participant.shardId then adopted row.shardId row.prepareBookmark else row
      else rows ++ [adopted participant.shardId none]) s.participants }

def adoptLegacyPredecision (row : TxRow) : Coord Response := do
  let participants := row.operationJson
  if participants = [] ∨ participants.any (·.intents.isEmpty) then
    return protocolResponse (transactionError .txEnvelopeInvalid
      "Legacy prepared transaction is missing its complete participant intent set.")
  else
    .pause
    let operationHash := C.hashParticipantOperations (C.redoParticipants participants 1)
    if (← coordinatorIdentity C row) ≠ .legacy then
      return protocolResponse (transactionError .txIdRequestMismatch
        "Prepared coordinator identity is neither current nor a verified predecessor hash.")
    else
      let provisional : TxRow :=
        { row with
          protocolVersion := currentProtocolVersion, stateModelVersion := 1, epoch := 1
          operationHash }
      let now ← dateNow
      match ← checkManifestAdmission E
          { fleetId := row.fleetId, txId := row.txId, commitDecidedAt := now } with
      | .unavailable error => return protocolResponse error
      | .ready =>
        let answers ← callShards (prepareMessages provisional)
        let outcomes := participants.mapIdx fun i participant =>
          prepareOutcome false participant.shardId (answers i)
        match outcomes.find? (!·.ok) with
        | some failed =>
          let aborting ← persistAbortDecision E C row true
          let _ ← reconcileAbort E C K aborting (some true)
          return participantError
            ("Legacy prepare adoption was rejected by participant " ++ failed.shardId
              ++ "; abort is durable.") failed
        | none =>
          let resumeRow : Coord Response := do
            let adopted ← loadTxOrThrow "Missing transaction after legacy adoption."
            K.resume adopted
          tryCas
            (.transact (casTx
              (fun current state => (state == .preparing || state == .prepared)
                && current.operationHash == row.operationHash)
              fun s => adoptParticipants participants operationHash
                (s.updateTx (recordAdopted operationHash))))
            (fun _ => resumeRow) fun _ => resumeRow

def reconcileReservation (row : TxRow) : Coord Response := do
  assertRestoreGateOpen E row.fleetId
  if (← liftContract (stateOf row)) ≠ .manifestReserving then K.resume row
  else
    let request ← reservationFor C row
    let result ← reserveManifest E request
    let row ← loadTxOrThrow "Missing transaction."
    if (← liftContract (stateOf row)) ≠ .manifestReserving then K.resume row
    else
      match result with
      | none | some (.refused .unavailable _ _) =>
        let _ ← reschedule .reserve (some [.manifestReserving])
        return statusResponse .manifestReserving 202
      | some (.reserved reservationHash) =>
        if reservationHash ≠ request.reservationHash then
          contractViolation .manifestReservationConflict
            "Manifest reserve acknowledgement returned a different reservation hash."
        else
          tryCas (transition [.manifestReserving] .preparing Store.dropRecovery)
            (resumeLatest K.resume) fun _ => do
              let preparing ← loadTxOrThrow "Missing transaction after manifest reservation."
              prepare E C K preparing
      | some (.refused .rejectedAbsent false error) =>
        let _ ← transition [.manifestReserving] .aborted fun s =>
          (s.updateTx (recordRejected error)).dropRecovery
        return protocolResponse (transactionError .txAborted
          "Manifest reservation was rejected before participant prepare.")
      | _ =>
        let aborting ← persistAbortDecision E C row
        reconcileAbort E C K aborting

def discardedByRestoreResponse (discard : Option RestoreDiscard) : Response :=
  json (.discardedByRestore discard) 409

def resume (row : TxRow) : Coord Response := do
  match ← gets (·.discard) with
  | some discard => return discardedByRestoreResponse (some discard)
  | none =>
    match ← liftContract (stateOf row) with
    | .new =>
      return protocolResponse (transactionError .txInvalidTransition
        "A durable transaction row cannot remain new.")
    | .manifestReserving => reconcileReservation E C K row
    | .commitDeciding => reconcileFinalize E C K row
    | .abortedPendingManifestCancel => reconcileCancel E C K row
    | .preparing =>
      if (← coordinatorIdentity C row) = .legacy then adoptLegacyPredecision E C K row
      else prepare E C K row
    | .prepared =>
      match ← coordinatorIdentity C row with
      | .legacy => adoptLegacyPredecision E C K row
      | .invalid =>
        return protocolResponse (transactionError .txIdRequestMismatch
          ("Prepared coordinator hash does not match current or verified predecessor "
            ++ "content."))
      | .current =>
        let decided ← persistCommitDecision E C row
        reconcileManifest E C K decided
    | .abortDecided | .aborting => reconcileAbort E C K row
    | .aborted => return txAborted
    | .commitDecided | .commitPendingManifest =>
      if isV2 row then
        if row.manifestFinalizeRequestJson.isSome then reconcileFinalize E C K row
        else reconcileV2BridgeReservation E C K row
      else reconcileManifest E C K row
    | .manifestRegistered | .committing | .committedPendingAck => reconcileCommit E K row
    | .committed => return statusResponse .committed
    | .quarantined =>
      return protocolResponse (transactionError .txQuarantined
        "Transaction is quarantined for manual inspection.")

/-- the recursive entries, unrolled `fuel` times; a handler that needs more never goes on -/
def knot : Nat → Knot
  | 0 => { resume := fun _ => .stuck, resumeRecoveryOnce := fun _ => .stuck
           reconcileCommitOnce := fun _ => .stuck }
  | fuel + 1 =>
    { resume := resume E C (knot fuel)
      resumeRecoveryOnce := resumeRecoveryOnce E C (knot fuel)
      reconcileCommitOnce := reconcileCommitOnce E (knot fuel) }

end Coordinator
