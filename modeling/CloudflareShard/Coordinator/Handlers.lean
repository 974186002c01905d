import CloudflareShard.Coordinator.Reconcile

/-!
# The endpoints of a coordinator

* `handleBegin`, `handleForceAbort`, `handleResolveManifestQuarantine`   the gated requests;
* `handleRestoreLossPage`, `handleRestoreDiscard`                        the restore endpoints;
* `handleTxStatus`, `handleRedoEnvelope`, `handleStats`                  the reading ones;
* `alarm`, `handle`, `fetch`                                             the entry points;
* `system`                                                               the object as a whole.
-/

namespace Coordinator
open Async Contracts

structure BeginPayload where
  fleetId : Option String
  coordinatorId : Option String
  participants : List BeginParticipant

structure ResolveBody where
  resolution : Resolution
  selectedHash : Hash
  evidenceHash : Hash
  actor : String
  reason : String
  idempotencyKey : String

/-- a request to the object; each names the transaction the object is addressed by -/
inductive Request where
  | begin (payload : BeginPayload)
  | forceAbort
  | resolveManifestQuarantine (body : ResolveBody)
  | txStatus
  | stats
  | redoEnvelope (envelopeHash : Hash)
  | restoreLossPage (restoreId : Option String) (generation : Option Nat) (cutoff through : Nat)
  | restoreDiscard (restoreId : Option String) (generation : Option Nat)

/-- `COORDINATOR_GATE_MUTATING_PATHS` -/
def Request.gated : Request → Bool
  | begin _ | forceAbort | resolveManifestQuarantine _ => true
  | _ => false

variable (E : Bindings) (C : ContractLib) (K : Knot)

/-! ## restore discard -/

def registrationRequiresDiscard (row : TxRow) (cutoff : Nat) : Bool :=
  if row.decision = .abort ∨ row.status = .aborted then false
  else row.commitDecidedAtMs.all (cutoff < ·)

def recoverMessages (row : TxRow) (claim : Option RestoreClaim) : List (ShardId × ShardRequest) :=
  row.operationJson.map fun participant =>
    (participant.shardId, .recoverAbort (participantMessage row .recover) claim)

def abortParticipantsForRestore (row : TxRow) (claim : Option RestoreClaim := none) :
    Coord Unit := do
  let outcomes ← callShards (recoverMessages row claim)
  match row.operationJson.zipIdx.find? fun p => !(outcomes p.2).ok with
  | none => return ()
  | some (participant, i) =>
    match outcomes i with
    | .rejected message => .throw (.error message)
    | .response .. =>
      .throw (.gateDenied
        ("participant " ++ participant.shardId ++ " rejected restore discard cleanup"))

/-- columns of a row that a restore discards -/
def recordDiscard (restoreId : String) (generation : Nat) (row : TxRow) : TxRow :=
  { row with
    status := .quarantined, decision := .quarantined
    lastError := some (.discardedByRestore restoreId generation) }

/-- `none` when another restore has discarded the object before -/
def discardOf (restoreId : String) (generation : Nat) (s : Store) : Option RestoreDiscard :=
  match s.discard with
  | some existing =>
    if existing.restoreId ≠ restoreId ∨ existing.generation ≠ generation then none else some existing
  | none => some { restoreId, generation, discardedAtMs := s.now }

def persistRestoreDiscard (restoreId : String) (generation : Nat) : Coord (Option RestoreDiscard) :=
  .step (fun s =>
    match discardOf restoreId generation s with
    | none => s
    | some discard =>
      { (s.updateTx (recordDiscard restoreId generation)).dropRecovery with
        discard := some discard })
    fun s => .pure (discardOf restoreId generation s)

def discardConflict : Response :=
  json (.failure "RESTORE_DISCARD_CONFLICT"
    "Coordinator was already discarded by a different restore generation.") 409

def abortStoredParticipants (claim : RestoreClaim) : Coord Unit := do
  match ← loadTx with
  | some transaction => abortParticipantsForRestore transaction (some claim)
  | none => return ()

/-- `/restore-discard` once the drain has resolved -/
def discardDrained (restoreId : String) (generation : Nat) : Coord Response := do
  abortStoredParticipants { restoreId, generation }
  match ← persistRestoreDiscard restoreId generation with
  | none => return discardConflict
  | some discard => return json (.discardAck discard)

def handleRestoreDiscard (restoreId : Option String) (generation : Option Nat) :
    Coord Response := do
  .pause
  match ← matchingRestoreFence E restoreId generation with
  | .response response => return response
  | .gate =>
    awaitMutationDrain
    discardDrained (restoreId.getD "") (generation.getD 0)

/-- the content address of the stored envelope -/
def envelopeAddress (row : TxRow) (envelope : RedoEnvelope) : Hash :=
  if isV2 row then C.hashFinalizedRedoEnvelope envelope else C.hashRedoEnvelope envelope

def storedEnvelopeHash (row : TxRow) : Coord (Option Hash) := do
  match row.redoEnvelopeJson with
  | none => return none
  | some envelope =>
    .pause
    liftContract (C.validateRedoEnvelope envelope)
    .pause
    return some (envelopeAddress C row envelope)

/-- `/restore-loss-page` once the drain has resolved -/
def lossPageDrained (cutoff through : Nat) : Coord Response := do
  let closedThrough ← dateNow
  if through < cutoff then
    return json (.message "cutoff/through must be a valid ordered time window.") 400
  else
    match ← loadTx with
    | none => return json (.lossPage closedThrough false [])
    | some row =>
      if row.decision ≠ .abort ∧ row.commitDecidedAtMs.all (cutoff < ·) then
        let envelopeHash ← storedEnvelopeHash C row
        return json (.lossPage closedThrough true
          [{ txId := row.txId, operationHash := row.operationHash, decision := row.decision
             commitDecidedAt := row.commitDecidedAtMs.getD row.createdAt, envelopeHash }])
      else return json (.lossPage closedThrough false [])

def handleRestoreLossPage (restoreId : Option String) (generation : Option Nat)
    (cutoff through : Nat) : Coord Response := do
  .pause
  match ← matchingRestoreFence E restoreId generation with
  | .response response => return response
  | .gate =>
    awaitMutationDrain
    lossPageDrained C cutoff through

/-! ## reading endpoints -/

/-- the candidates a quarantine can be resolved to -/
def quarantineCandidates (row : TxRow) : Coord (List (CandidateKind × Hash)) := do
  let record := row.manifestRecordHash.toList.map (CandidateKind.record, ·)
  match row.manifestFinalizeRequestJson with
  | some request =>
    .pause
    let hash ← liftContract (C.hashManifestFinalizeIntent request.intent)
    cancelCandidate (record ++ [(.finalizeIntent, hash)])
  | none => cancelCandidate record
where
  cancelCandidate (candidates : List (CandidateKind × Hash)) :
      Coord (List (CandidateKind × Hash)) := do
    match row.manifestCancelRequestJson with
    | some request =>
      .pause
      return candidates ++ [(.cancelIntent, C.hashCanonicalJson (.cancelIntent request.intent))]
    | none => return candidates

def handleTxStatus : Coord Response := do
  .pause
  match ← gets (·.discard) with
  | some discard => return json (.txDiscarded discard)
  | none =>
    match ← loadTx with
    | none => return json .txAbsent
    | some row =>
      let state ← liftContract (stateOf row)
      let candidates ← quarantineCandidates C row
      let reply : TxStatusReply :=
        { status := state, decision := row.decision, epoch := row.epoch
          operationHash := row.operationHash
          commitAuthorized := commitSide.contains state
          quarantineCandidates :=
            if state = .quarantined ∨ state = .abortedPendingManifestCancel then candidates else [] }
      .modify fun s => { s with replies := s.replies ++ [reply] }
      return json (.txStatus reply)

def handleRedoEnvelope (envelopeHash : Hash) : Coord Response := do
  .pause
  match (← loadTx).bind fun row => row.redoEnvelopeJson.map (row, ·) with
  | none => return json .txAbsent 404
  | some (row, envelope) =>
    .pause
    liftContract (C.validateRedoEnvelope envelope)
    .pause
    if envelopeAddress C row envelope ≠ envelopeHash then
      return json (.failure "TX_ENVELOPE_HASH_MISMATCH"
        "Requested content address does not match the durable validated envelope.") 409
    else return json (.envelope row.stateModelVersion envelope)

def handleStats : Coord Response := do
  let s ← .read
  return json (.stats (s.transaction.map (·.status))
    (s.queue.map fun queued => (queued.action, queued.attemptCount)))

/-! ## begin -/

/-- the row and the participant rows that `/begin` inserts -/
def insertTx (row : TxRow) (s : Store) : Except CoordinatorError (Unit × Store) :=
  if s.transaction.isSome then .error (.error "UNIQUE constraint failed: transactions.tx_id")
  else if !decide (row.operationJson.map (·.shardId)).Nodup then
    .error (.error "UNIQUE constraint failed: transaction_participants")
  else
    let pending (participant : BeginParticipant) : ParticipantRow :=
      { shardId := participant.shardId, phaseStatus := .pending, epoch := 1
        operationHash := row.operationHash, prepareBookmark := none }
    let s := { s with transaction := some row, participants := row.operationJson.map pending }
    .ok ((), s.queueRecovery .reserve row.createdAt)

def newTxRow (fleetId coordinatorId : String) (participants : List BeginParticipant)
    (operationHash : Hash) (request : ManifestRouteAssignmentRequest)
    (reservation : ManifestReservation) (reservationHash : Hash) (now : Nat) : TxRow :=
  { txId := E.txId, status := .manifestReserving, createdAt := now, operationJson := participants
    operationHash, protocolVersion := currentProtocolVersion, stateModelVersion := 2, epoch := 1
    decision := .undecided, fleetId, coordinatorId, redoEnvelopeJson := none
    manifestRegistrationJson := none, manifestRouteAssignmentRequestJson := some request
    manifestReservationJson := some reservation, manifestReservationHash := some reservationHash
    manifestFinalizeRequestJson := none, manifestCancelRequestJson := none
    redoEnvelopeIntentJson := none, manifestRecordJson := none, manifestRecordHash := none
    commitDecidedAtMs := none, decisionSequence := none, resultJson := none, lastError := none }

def idMismatch (message : String) : Response :=
  protocolResponse (transactionError .txIdRequestMismatch message)

def routeUnavailable : String :=
  "Manifest route assignment is temporarily unavailable before reservation."

/-- the failure that an error answer stands for -/
def failureOf (error : TransactionProtocolError) : DurableObjectFailure :=
  { overloaded := error.overloaded, retryable := error.retryable
    retryAfterMs := error.retryAfterMs, message := error.message }

/-- the answer of `assignManifestRoute`, its rejection included -/
def askRoute (request : ManifestRouteAssignmentRequest) :
    Coord (Option (Except DurableObjectFailure ManifestAssignResult)) :=
  if E.controlPlane then .call (.assignManifestRoute request) fun answer => .pure (some answer)
  else .pure none

/-- `assignManifestRoute` under the admission circuit; the answer of `/begin` when it fails -/
def assignRoute (request : ManifestRouteAssignmentRequest) :
    Coord (Except Response (ManifestReservation × Hash)) := do
  let now ← dateNow
  match ← admissionAttempt now with
  | .opened retryAfterMs => return .error (protocolResponse (circuitOpenError retryAfterMs))
  | attempt =>
    match ← askRoute E request with
    | none =>
      updateCircuit (recordAdmissionFailure now attempt)
      return .error (protocolResponse (transactionError .txManifestUnavailable routeUnavailable))
    | some (.error failure) =>
      updateCircuit (recordAdmissionFailure now attempt)
      return .error (protocolResponse
        (durableObjectUnavailableError failure .txManifestUnavailable routeUnavailable))
    | some (.ok (.refused unavailable error)) =>
      updateCircuit (if error.retryable || error.overloaded then recordAdmissionFailure now attempt
        else recordAdmissionNeutral)
      if error.overloaded || unavailable then
        return .error (protocolResponse (durableObjectUnavailableError (failureOf error)
          .txManifestUnavailable routeUnavailable))
      else return .error (protocolResponse error)
    | some (.ok (.assigned reservation reservationHash)) =>
      updateCircuit recordAdmissionSuccess
      return .ok (reservation, reservationHash)

/-- a retry of `/begin` on a row that is already there -/
def retryBegin (existing : TxRow) (operationHash : Hash) : Coord Response := do
  if (← coordinatorIdentity C existing) = .invalid then
    return idMismatch
      "Stored coordinator hash does not match current or verified predecessor content."
  else if existing.operationHash ≠ operationHash then
    return idMismatch "This txId was already used with different immutable content."
  else K.resume existing

/-- a retry of `/begin` on a row of the predecessor -/
def retryLegacyBegin (existing : TxRow) (participants : List BeginParticipant) :
    Coord Response := do
  let state ← liftContract (stateOf existing)
  let stored := existing.operationJson.mergeSort fun a b => C.localeCompareLe a.shardId b.shardId
  if stored ≠ participants then
    return idMismatch
      "This txId predates immutable request matching and cannot be retried with different content."
  else if state ∈ [.preparing, .prepared, .committed, .aborted] then K.resume existing
  else
    return idMismatch
      ("Predecessor transaction state " ++ state.text ++ " cannot be safely adopted.")

def beginNew (fleetId coordinatorId : String) (participants : List BeginParticipant)
    (operationHash : Hash) : Coord Response := do
  .pause
  let request := routeAssignmentRequest C
    { fleetId, txId := E.txId, coordinatorId, operationHash, decisionEpoch := 1 }
  match ← assignRoute E request with
  | .error response => return response
  | .ok (reservation, reservationHash) =>
    validateAssignedReservation C request reservation reservationHash
    ensureAlarmScheduled (← dateNow)
    let now ← dateNow
    let row := newTxRow E fleetId coordinatorId participants operationHash request reservation
      reservationHash now
    match ← (Prog.transact (insertTx row)).attempt with
    | .error e =>
      match ← loadTx with
      | some concurrent =>
        if concurrent.operationHash = operationHash then K.resume concurrent else .throw e
      | none => .throw e
    | .ok _ =>
      let row ← loadTxOrThrow "Failed to persist transaction."
      reconcileReservation E C K row

/-- the operation hash of an envelope that would be valid now -/
def preflight (fleetId coordinatorId : String) (participants : List BeginParticipant) :
    Coord Hash := do
  let preflightAt ← dateNow
  let envelope ← envelopeFor C E.txId fleetId coordinatorId participants 1 preflightAt
  liftContract (C.validateRedoEnvelopeStructure envelope)
  return envelope.operationHash

/-- `/begin` once the registry has admitted the object -/
def beginRegistered (existing : Option TxRow) (fleetId coordinatorId : String)
    (participants : List BeginParticipant) : Coord Response := do
  match existing with
  | some existing =>
    if (← coordinatorIdentity C existing) = .legacy then
      retryLegacyBegin C K existing participants
    else
      let operationHash ← preflight E C fleetId coordinatorId participants
      retryBegin C K existing operationHash
  | none =>
    let operationHash ← preflight E C fleetId coordinatorId participants
    beginNew E C K fleetId coordinatorId participants operationHash

def nonEmptyOr (value : Option String) (default : String) : String :=
  match value with
  | some text => if text = "" then default else text
  | none => default

def handleBegin (payload : BeginPayload) : Coord Response := do
  .pause
  if payload.participants = [] then
    return json (.failure "MISSING_FIELDS" "Missing txId or participants.") 400
  else
    let participants :=
      payload.participants.mergeSort fun a b => C.localeCompareLe a.shardId b.shardId
    let fleetId := nonEmptyOr payload.fleetId "default"
    let coordinatorId := nonEmptyOr payload.coordinatorId E.txId
    if E.restoreCoordinator && fleetId != E.deploymentFleetId then
      return json (.failure "RESTORE_FLEET_MISMATCH"
        ("Transaction fleet " ++ fleetId ++ " does not match deployment PITR domain "
          ++ E.deploymentFleetId ++ ".")) 409
    else
      let existing ← loadTx
      let registration ← registerPhysicalCoordinator E
        (nonEmptyOr (existing.map (·.fleetId)) fleetId)
        (nonEmptyOr (existing.map (·.coordinatorId)) coordinatorId) (existing.map (·.createdAt))
      match registration, existing with
      | .discardRequired .., none =>
        .throw (.gateDenied
          "coordinator registry returned a discard directive for a new transaction")
      | .discardRequired restoreId generation cutoff, some row =>
        if registrationRequiresDiscard row cutoff then
          abortParticipantsForRestore row
          match ← persistRestoreDiscard restoreId generation with
          | none => return discardConflict
          | some discard => return discardedByRestoreResponse (some discard)
        else beginRegistered E C K existing fleetId coordinatorId participants
      | .registered, _ => beginRegistered E C K existing fleetId coordinatorId participants

/-! ## force-abort -/

/-- a 409 of the abort machinery means the abort is durable -/
def forceAbortResponse (response : Response) : Response :=
  if response.status = 409 then statusResponse .aborted else response

/-- the abort decision, unless the row has it already -/
def abortingRow (row : TxRow) (legacyPredecisionAbort : Bool) : Coord TxRow := do
  if row.status = .abortDecided ∨ row.status = .aborting then return row
  else persistAbortDecision E C row legacyPredecisionAbort

def handleForceAbort : Coord Response := do
  .pause
  match ← loadTx with
  | none => return json (.message "Transaction not found.") 404
  | some row =>
    let state ← liftContract (stateOf row)
    if isCommitDecidedOrLater state then
      return protocolResponse (transactionError .txCommitAlreadyDecided
        "Cannot force-abort after commit is durable.")
    else if state = .quarantined then
      return protocolResponse (transactionError .txQuarantined "Transaction is quarantined.")
    else if state = .aborted then return statusResponse .aborted
    else if state = .abortedPendingManifestCancel then reconcileCancel E C K row
    else
      let identity ← coordinatorIdentity C row
      if identity = .invalid then
        return idMismatch "Cannot force-abort a coordinator whose stored hash is unverifiable."
      else
        let legacyPredecisionAbort := identity == .legacy
        let aborting ← abortingRow E C row legacyPredecisionAbort
        let response ← reconcileAbort E C K aborting (some legacyPredecisionAbort)
        return forceAbortResponse response

/-! ## quarantine resolution -/

/-- the identity a resolution was asked for; `casTx` takes it back only on the same row -/
def sameIdentity (attested : CoordinatorStateAttestation) (current : TxRow)
    (state : TransactionState) : Bool :=
  state == attested.state && current.decision == attested.decision
    && current.epoch == attested.epoch && current.operationHash == attested.operationHash
    && current.manifestReservationHash == some attested.reservationHash

/-- columns of a resolution to a finalized record -/
def recordResolvedCommit (next : TransactionState) (envelope : RedoEnvelope)
    (record : ManifestRecordV2) (recordHash : Hash) (row : TxRow) : TxRow :=
  { recordFinalized envelope record recordHash row with
    status := next, decision := .commit, lastError := none }

/-- columns of a resolution to a cancelled reservation -/
def recordResolvedAbort (next : TransactionState) (row : TxRow) : TxRow :=
  { row with
    status := next, decision := .abort, lastError := none
    resultJson := if next = .aborted then some .aborted else row.resultJson }

/-- the storage transaction of a resolution: `f` is given the state the row was found in -/
def resolveSync (attested : CoordinatorStateAttestation) (sameRequest : TxRow → Bool)
    (next : TransactionState → TransactionState)
    (f : TransactionState → Store → Store) (s : Store) :
    Except CoordinatorError (TransactionState × Store) :=
  match s.transaction with
  | none => .error (.casLost .quarantined)
  | some current =>
    match stateOf current with
    | .error e => .error (.contract e)
    | .ok state =>
      if !(sameIdentity attested current state && sameRequest current) then .error (.casLost state)
      else
        match assertTransactionTransition state (next state) with
        | .error e => .error (.contract e)
        | .ok () => .ok (next state, f (next state) s)

def commitNext (state : TransactionState) : TransactionState :=
  if state ∈ commitSide then state else .manifestRegistered

def abortNext (state : TransactionState) : TransactionState :=
  if state ∈ [TransactionState.abortDecided, .aborting] then state else .aborted

def repairLost (state : TransactionState) : Response :=
  protocolResponse (transactionError .txInvalidTransition
    ("Coordinator state changed to " ++ state.text ++ " during quarantine repair."))

def resolveFinalized (row : TxRow) (attested : CoordinatorStateAttestation)
    (terminalIntent : TerminalIntent) (record : ManifestRecordV2) (recordHash : Hash) :
    Coord Response := do
  liftContract (C.validateManifestRecordV2 record)
  .pause
  let expectedHash ← liftContract (C.hashManifestRecordV2 record)
  if expectedHash ≠ recordHash
      ∨ record.txId ≠ row.txId
      ∨ record.reservationHash ≠ attested.reservationHash
      ∨ some record.envelopeHash ≠ terminalIntent.redoEnvelopeHash then
    return protocolResponse (transactionError .manifestTerminalConflict
      "Resolved record conflicts with coordinator identity.")
  else
    match row.redoEnvelopeIntentJson with
    | none =>
      return protocolResponse (transactionError .txDecisionUnavailable
        "Resolved finalize has no durable redo-envelope intent.")
    | some intent =>
      let envelope := completedEnvelope intent record
      .pause
      liftContract (C.validateRedoEnvelope envelope)
      let now ← dateNow
      tryCas
        (.transact (resolveSync attested
          (fun current => current.manifestFinalizeRequestJson == row.manifestFinalizeRequestJson)
          commitNext fun next s =>
            let s := s.updateTx (recordResolvedCommit next envelope record recordHash)
            if next = .manifestRegistered then s.queueRecovery .commit now else s))
        (fun state => return repairLost state) fun _ => do
          let resolved ← loadTxOrThrow "Missing resolved transaction."
          reconcileCommit E K resolved

def resolveCancelled (row : TxRow) (attested : CoordinatorStateAttestation)
    (attestationHash : Hash) : Coord Response := do
  let now ← dateNow
  let done := json (.status .aborted (some attestationHash))
  tryCas
    (.transact (resolveSync attested
      (fun current => current.manifestCancelRequestJson == row.manifestCancelRequestJson)
      abortNext fun next s =>
        let s := s.updateTx (recordResolvedAbort next)
        if next = .aborted then s.dropRecovery else s.queueRecovery .abort now))
    (fun state => return repairLost state) fun repaired => do
      if repaired = .aborted then return done
      else
        let row ← loadTxOrThrow "Missing repaired transaction."
        let response ← reconcileAbort E C K row
        if response.status ≠ 409 then return response else return done

/-- the terminal intent a resolution is authorized by -/
def terminalIntentOf (resolution : Resolution) (row : TxRow) :
    Except TransactionProtocolError (Except Response TerminalIntent) :=
  match resolution with
  | .finalized =>
    match row.manifestFinalizeRequestJson with
    | none =>
      .ok (.error (protocolResponse (transactionError .txDecisionUnavailable
        "Coordinator has no durable finalize authorization.")))
    | some request =>
      (C.validateManifestFinalizeIntent request.intent).map fun _ => .ok (.finalize request.intent)
  | .cancelled =>
    match row.manifestCancelRequestJson with
    | none =>
      .ok (.error (protocolResponse (transactionError .txDecisionUnavailable
        "Coordinator has no durable cancel authorization.")))
    | some request =>
      (C.validateManifestCancelIntent request.intent).map fun _ => .ok (.cancel request.intent)

def terminalIntentHash : TerminalIntent → Hash
  | .finalize intent => C.hashCanonicalJson (.finalizeIntent intent)
  | .cancel intent => C.hashCanonicalJson (.cancelIntent intent)

def handleResolveManifestQuarantine (body : ResolveBody) : Coord Response := do
  .pause
  if body.selectedHash = "" ∨ body.evidenceHash = "" ∨ body.actor = "" ∨ body.reason = ""
      ∨ body.idempotencyKey = "" then
    return json (.message "Missing or invalid quarantine-resolution fields.") 400
  else
    match ← loadTx with
    | none => return json (.message "Transaction not found.") 404
    | some row =>
      if !isV2 row then
        return protocolResponse (transactionError .txVersionUnsupported
          "Quarantine resolution requires a V2 reservation.")
      else
        let reserve ← reservationFor C row
        match ← liftContract (terminalIntentOf C body.resolution row) with
        | .error response => return response
        | .ok terminalIntent =>
          .pause
          let state ← liftContract (stateOf row)
          let attested : CoordinatorStateAttestation :=
            { txId := row.txId, coordinatorId := coordinatorIdOf row, state
              decision := row.decision, epoch := row.epoch, operationHash := row.operationHash
              reservationHash := reserve.reservationHash
              authorizationSourceHash := terminalIntentHash C terminalIntent }
          .pause
          let result ← resolveManifestQuarantine E
            { reserve with
              resolution := body.resolution, selectedHash := body.selectedHash
              evidenceHash := body.evidenceHash, actor := body.actor, reason := body.reason
              terminalIntent, coordinatorState := attested
              coordinatorStateHash := C.hashCanonicalJson (.attestation attested)
              idempotencyKey := body.idempotencyKey }
          match result with
          | none =>
            return protocolResponse (transactionError .txManifestUnavailable
              "Quarantine resolution service is unavailable.")
          | some (.refused error) => return protocolResponse error
          | some (.resolved .finalized _ (some record) (some recordHash)) =>
            resolveFinalized E C K row attested terminalIntent record recordHash
          | some (.resolved .finalized _ _ _) =>
            return protocolResponse (transactionError .txDecisionUnavailable
              "Resolved finalize omitted the canonical record.")
          | some (.resolved .cancelled attestationHash _ _) =>
            resolveCancelled E C K row attested attestationHash

/-! ## alarm -/

def normalizedAction : RecoveryAction → RecoveryAction
  | .commitRoute => .commit
  | .abortRoute => .abort
  | action => action

def legacyMessages (row : TxRow) (commit : Bool) : List (ShardId × ShardRequest) :=
  row.operationJson.map fun participant =>
    (participant.shardId, if commit then .legacyCommit row.txId else .legacyAbort row.txId)

def reconcileLegacyRecovery (row : TxRow) (commit : Bool) : Coord Bool := do
  let outcomes ← callShards (legacyMessages row commit)
  if allOk row.operationJson.length outcomes then
    .modify Store.dropRecovery
    return true
  else return false

/-- the alarm is set to the work that is queued now -/
def rearm (due : Nat) : Coord Unit := ensureAlarmScheduled due

def alarmWork (work : QueueRow) (row : TxRow) : Coord Unit := do
  match work.action with
  | .commitRoute =>
    if ← reconcileLegacyRecovery row true then return ()
    else
      let _ ← reschedule .commit
      return ()
  | .abortRoute =>
    if ← reconcileLegacyRecovery row false then return ()
    else
      let _ ← reschedule .abort
      return ()
  | .release => reconcileManifestRelease E C row
  | _ =>
    let _ ← K.resume row
    return ()

/-- the work that was read before the registry and the gate were asked, if it is still queued -/
def alarmDue (work : QueueRow) (row : TxRow) : Coord Unit := do
  assertRestoreGateOpen E (nonEmptyOr (some row.fleetId) E.deploymentFleetId)
  match ← gets (·.queue) with
  | none => return ()
  | some stillQueued =>
    let now ← dateNow
    if stillQueued.action ≠ work.action ∨ stillQueued.nextAttemptAt ≠ work.nextAttemptAt then
      rearm (max now stillQueued.nextAttemptAt)
    else if now < stillQueued.nextAttemptAt then rearm stillQueued.nextAttemptAt
    else
      match ← (alarmWork E C K work row).attempt with
      | .ok _ => return ()
      | .error _ =>
        let _ ← reschedule (normalizedAction work.action)
        return ()

def alarmBody : Coord Unit := do
  let s ← .read
  match s.discard, s.queue with
  | some _, _ => return ()
  | _, none => return ()
  | none, some work =>
    match s.transaction with
    | none =>
      assertRestoreGateOpen E E.deploymentFleetId
      .modify Store.dropRecovery
    | some row =>
      let registration ← registerPhysicalCoordinator E
        (nonEmptyOr (some row.fleetId) E.deploymentFleetId) (coordinatorIdOf row)
        (some row.createdAt)
      match registration with
      | .registered => alarmDue E C K work row
      | .discardRequired restoreId generation cutoff =>
        if registrationRequiresDiscard row cutoff then
          abortParticipantsForRestore row
          match ← persistRestoreDiscard restoreId generation with
          | some _ => return ()
          | none =>
            .throw (.gateDenied
              "coordinator registry discard directive conflicts with local restore state")
        else alarmDue E C K work row

/-- an alarm once the drain has resolved -/
def alarmDrained : Coord Unit := do
  .modify enterMutation
  Prog.andFinally
    ((alarmBody E C K).rescue fun
      | .gateDenied _ => do
        let now ← dateNow
        setAlarm (now + defaultDurableObjectRetryAfterMs)
      | e => .throw e)
    leaveMutation

/-- the platform takes the alarm that fires out of storage -/
def alarm : Coord Unit := do
  .modify ({ · with alarm := none })
  awaitMutationDrain
  alarmDrained E C K

/-! ## dispatch -/

def route : Request → Coord Response
  | .begin payload => handleBegin E C K payload
  | .forceAbort => handleForceAbort E C K
  | .resolveManifestQuarantine body => handleResolveManifestQuarantine E C K body
  | .txStatus => handleTxStatus C
  | .stats => handleStats
  | .redoEnvelope envelopeHash => handleRedoEnvelope C envelopeHash
  | .restoreLossPage restoreId generation cutoff through =>
    handleRestoreLossPage E C restoreId generation cutoff through
  | .restoreDiscard restoreId generation => handleRestoreDiscard E restoreId generation

/-- a gated request past the gate -/
def dispatch (request : Request) : Coord Response := do
  match ← gets (·.discard) with
  | some discard => return discardedByRestoreResponse (some discard)
  | none => route E C K request

/-- the handler is returned, not awaited, inside `try`, so that `finally` runs at its first await -/
def handle (request : Request) : Coord Response := do
  if request.gated then
    .modify enterMutation
    match ← (assertRestoreGateOpen E E.deploymentFleetId).attempt with
    | .error e =>
      .modify leaveMutation
      .throw e
    | .ok _ => (dispatch E C K request).unawaited leaveMutation
  else route E C K request

def errorResponse : CoordinatorError → Response
  | .contract error => protocolResponse error
  | .gateDenied _ => restoreGateResponse
  | _ => json (.message "Internal error.") 500

def fetch (request : Request) : Coord Response :=
  (handle E C K request).rescue fun e => .pure (errorResponse e)

/-! ## the object -/

inductive Arrival where
  | request (request : Request)
  | alarm

/-- a request, and how often its handler may go round the recovery circle -/
structure Activity where
  arrival : Arrival
  fuel : Nat

def system : System Store Ask Ask.Answer CoordinatorError (Option Response) Activity Nat where
  handler activity :=
    match activity.arrival with
    | .request request => (fetch E C (knot E C activity.fuel) request).bind fun r => .pure (some r)
    | .alarm => (alarm E C (knot E C activity.fuel)).bind fun _ => .pure none
  answers := Ask.possible
  event now s := { s with now }
  restart := Store.restart

/-! ## a small instance -/

/-- digests and validators for runs that look inside neither -/
def plainContracts : ContractLib where
  hashCanonicalJson _ := "digest"
  sha256Participants _ := "predecessor digest"
  manifestReservationRoute _ _ _ :=
    { reservationUtcDay := 0, partition := 0, routingKey := "", partitionConfigHash := "" }
  manifestRoute _ _ := (0, 0, "")
  validateManifestReservation _ := .ok ()
  validateManifestFinalizeIntent _ := .ok ()
  validateManifestCancelIntent _ := .ok ()
  validateManifestRecordV2 _ := .ok ()
  validateRedoEnvelopeStructure _ := .ok ()
  validateWritableRedoEnvelopeStructure _ := .ok ()
  validateManifestRegistration _ _ := .ok ()
  localeCompareLe a b := decide (a ≤ b)

def plainBindings : Bindings :=
  { txId := "t1", deploymentFleetId := "default", restoreCoordinator := true, controlPlane := false
    resolvesQuarantine := false }

/-- the gate is open, and no other call comes through -/
def openGate (q : Ask) : q.Answer :=
  let lost : DurableObjectFailure :=
    { overloaded := false, retryable := true, retryAfterMs := none, message := "lost" }
  match q with
  | .gate .. => .ok (.snapshot false none 0)
  | .registerCoordinator .. => .ok .registered
  | .assignManifestRoute _ => .error lost
  | .reserveManifest _ => .error lost
  | .finalizeManifest _ => .error lost
  | .cancelManifest _ => .error lost
  | .resolveManifestQuarantine _ => .error lost
  | .releaseManifestV2 _ => .error lost
  | .registerManifest _ => .error lost
  | .releaseManifestRetention _ => .error lost
  | .checkManifestAdmission _ => .error lost
  | .shards _ => fun _ => .rejected "lost"

def preparedReservation : ManifestReservation :=
  { fleetId := "default", txId := "t1", coordinatorId := "t1", operationHash := "digest"
    decisionEpoch := 1, reservedAt := 0
    route := plainContracts.manifestReservationRoute "t1" 0 "" }

/-- a transaction that every participant has prepared -/
def preparedRow : TxRow :=
  { txId := "t1", status := .prepared, createdAt := 0
    operationJson := [{ shardId := "s1", intents := [] }]
    operationHash := "digest", protocolVersion := 1, stateModelVersion := 2, epoch := 1
    decision := .undecided, fleetId := "default", coordinatorId := "t1", redoEnvelopeJson := none
    manifestRegistrationJson := none, manifestRouteAssignmentRequestJson := none
    manifestReservationJson := some preparedReservation, manifestReservationHash := some "digest"
    manifestFinalizeRequestJson := none, manifestCancelRequestJson := none
    redoEnvelopeIntentJson := none, manifestRecordJson := none, manifestRecordHash := none
    commitDecidedAtMs := none, decisionSequence := none, resultJson := none, lastError := none }

def preparedStore : Store := { Store.empty with transaction := some preparedRow }

/-- `/force-abort` up to its gate -/
def forceAbortArrives : Choice Ask Ask.Answer Activity Nat :=
  .run (.arrive { arrival := .request .forceAbort, fuel := 1 })

/-- the first handler is resumed -/
def firstResumes : Choice Ask Ask.Answer Activity Nat := .run (.resume 0 openGate)

def alarmFires : Choice Ask Ask.Answer Activity Nat := .run (.arrive { arrival := .alarm, fuel := 1 })

end Coordinator
