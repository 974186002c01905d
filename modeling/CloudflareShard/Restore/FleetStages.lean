import CloudflareShard.Restore.FleetPreview

/-!
# How a restore is carried out

One call of a stage does one step and leaves the rest to the next alarm.

* `parkForManualRepair`          an operation that cannot go on;
* `failBeforeRestore`            nothing was rewound so far: all fences are released;
* `fenceCatalogs`, `fenceNextParticipant`, `revalidateNextParticipant`   the fence of the fleet;
* `materializeNextLossPage`, `restoreNextParticipant`   what is lost, and the rewinding;
* `reconcileNextTransaction`     the redo envelopes;
* `verifyNextParticipant`, `discardNextCoordinator`, `releaseNextParticipant`, `completeRestore`;
* `rollbackNextParticipant`, `releaseNextRollbackParticipant`   the way back;
* `advance`                      the step that the stage of an operation calls for.
-/

namespace FleetRestore
open Async Json Wire
open Restore (RestoreErrorCode)

def lossPageSize : Nat := 128

/-- `value === true` -/
def isTrue : Field → Bool
  | some (.bool true) => true
  | _ => false

/-- a property that `JSON.stringify` leaves out when it is `undefined` -/
def optional (name : String) (value : Field) : List (String × JsonValue) :=
  match value with
  | some v => [(name, v)]
  | none => []

/-! ## operations that cannot go on -/

/-- code and message of an error, as a blocker shows them -/
def blockerOf (error : Thrown) (participantId txId : Option Text) : Blocker :=
  match error with
  | .violation v => { code := v.code, message := v.message.val, participantId, txId }
  | .other message => { code := .interrupted, message, participantId, txId }

/-- the gate of a restore is opened -/
def openedGate (gate : GateRow) : GateRow :=
  { gate with active := false, restoreId := none, phase := none, activatedAt := none }

/-- `UPDATE fleet_restore_gate SET active = 0, … WHERE singleton = 1 AND restore_id = ?` -/
def World.openGate (s : World) (restoreId : Text) : World :=
  if s.gate.restoreId == some restoreId then { s with gate := openedGate s.gate } else s

/-- `UPDATE fleet_restore_gate SET phase = ? WHERE singleton = 1 AND restore_id = ?` -/
def World.setGatePhase (s : World) (restoreId : Text) (phase : Phase) : World :=
  if s.gate.restoreId == some restoreId then { s with gate := { s.gate with phase := some phase } }
  else s

section
variable (E : Env)

/-- an operation that stops where it stands; without a fence it is over -/
def stopped (fenced : Bool) (blocker : Blocker) (now : Int) (op : OperationRow) : OperationRow :=
  { op with
    phase := if fenced then .manualRepairRequired else .failed
    stage := if fenced then .manualRepairRequired else .failed
    blockerJson := some [blocker]
    resumePhase := if fenced then some op.phase else none
    resumeStage := if fenced then some op.stage else none
    retryCount := 0
    retryStartedAtMs := none
    retryNotBeforeMs := none
    updatedAt := isoOf E now }

/-- `parkForManualRepair`, between two awaits -/
def parked (restoreId : Text) (blocker : Blocker) (s : World) : World :=
  match s.operation restoreId with
  | none => s
  | some operation =>
    if operation.stage.terminal then s
    else
      let fenced := operation.fenceGeneration.isSome && s.gate.restoreId == some restoreId
      let s' := s.setOperation restoreId (stopped E fenced blocker s.now)
      if fenced then s'.setGatePhase restoreId .manualRepairRequired else s'

def parkForManualRepair (restoreId : Text) (error : Thrown) (participantId txId : Option Text) :
    Coord Unit := .modify (parked E restoreId (blockerOf error participantId txId))

def maxRestoreRetryAttempts : Nat := 10
def maxRestoreRetryDelayMs : Int := 30000

def retryDelayMs (attempt : Nat) : Int :=
  min maxRestoreRetryDelayMs (restoreAlarmDelayMs * 2 ^ (attempt - 1))

/-- an operation that is tried once more -/
def retried (restoreId : Text) (attempt : Nat) (s : World) : World :=
  s.setOperation restoreId fun op => { op with
    retryCount := attempt
    retryStartedAtMs := some (op.retryStartedAtMs.getD s.now)
    retryNotBeforeMs := some (s.now + retryDelayMs attempt)
    updatedAt := isoOf E s.now }

def isRetryable : Thrown → Bool
  | .violation v => v.retryable
  | .other _ => false

def retryOrPark (restoreId : Text) (error : Thrown) : Coord Unit := do
  let s ← .read
  match s.operation restoreId with
  | none => if isRetryable error then .pure () else parkForManualRepair E restoreId error none none
  | some operation =>
    let attempt := operation.retryCount + 1
    if isRetryable error && operation.stage.terminal then .pure ()
    else if isRetryable error && decide (attempt < maxRestoreRetryAttempts) then do
      .modify (retried E restoreId attempt)
      schedule none (retryDelayMs attempt)
    else parkForManualRepair E restoreId error none none

/-! ## fences -/

def jsonGeneration (operation : OperationRow) : JsonValue :=
  jsonOption jsonNat operation.fenceGeneration

/-- what a participant is asked of a restore -/
def participantBody (operation : OperationRow) (rest : List (String × JsonValue)) : JsonValue :=
  .obj (object ([("fleet_id", jsonText operation.fleetId), ("restore_id", jsonText operation.restoreId),
    ("generation", jsonGeneration operation)] ++ rest))

/-- what a catalog is asked of a restore -/
def catalogBody (operation : OperationRow) (action : String) (rest : List (String × JsonValue)) :
    JsonValue :=
  .obj (object ([("restoreId", jsonText operation.restoreId),
    ("generation", jsonGeneration operation), ("action", .str (utf16 action))] ++ rest))

/-- a fence is released; what fails is somebody's -/
structure Release where
  holder : Text
  target : Target
  body : JsonValue

def participantReleases (operation : OperationRow) (participants : List ParticipantRow) :
    List Release :=
  participants.map fun p =>
    { holder := p.participantId
      target := participantTarget p
      body := participantBody operation [("action", .str (utf16 "release"))] }

def catalogReleases (operation : OperationRow) : List Release :=
  (List.range (catalogShardCount E)).map fun i =>
    { holder := catalogName i
      target := .catalog (catalogName i).val
      body := catalogBody operation "release" [] }

/-- one after the other; the first that fails parks the operation, and nothing more is released -/
def releaseEach (operation : OperationRow) (message : Text) : List Release → Coord Bool
  | [] => .pure true
  | release :: rest => do
    match ← (postToStub none release.target "/restore-fence" release.body).attempt with
    | .ok _ => releaseEach operation message rest
    | .error _ => do
      parkForManualRepair E operation.restoreId (failure .interrupted message)
        (some release.holder) none
      return false

def failBeforeRestore (operation : OperationRow) (code : RestoreErrorCode) (message : Text) :
    Coord Unit := do
  let s ← .read
  let participants := s.participants.ordered (fun p => p.restoreId == operation.restoreId)
    fun p => byBytes p.participantId.val
  if ← releaseEach E operation message (participantReleases operation participants) then do
    if ← releaseEach E operation message (catalogReleases E operation) then
      .modify fun s => (s.openGate operation.restoreId).setOperation operation.restoreId fun op =>
        { op with
          phase := .failed
          stage := .failed
          blockerJson := some [{ code, message := message.val, participantId := none, txId := none }]
          completedAt := some (isoOf E s.now)
          updatedAt := isoOf E s.now }
    else .pure ()
  else .pure ()

/-- `error instanceof RestoreContractViolation && !error.protocolError.retryable` -/
def fatal : Thrown → Option Violation
  | .violation v => if v.retryable then none else some v
  | .other _ => none

/-- `p`, whose fatal errors end the restore -/
def orFailBefore {α : Type} (operation : OperationRow) (p : Coord α) (next : α → Coord Unit) :
    Coord Unit := do
  match ← p.attempt with
  | .ok a => next a
  | .error e =>
    match fatal e with
    | some v => failBeforeRestore E operation v.code v.message
    | none => .throw e

/-- the pinned proof of a catalog -/
def pinnedProof (operation : OperationRow) (i : Nat) : Option Entries :=
  (operation.catalogProofJson.map CatalogProof.raw).bind fun proofs =>
    proofs.find? fun proof => strictEq (get proof "catalog_id") (some (jsonText (catalogName i)))

def fenceEachCatalog (operation : OperationRow) : List Nat → Coord Unit
  | [] => .pure ()
  | i :: rest => do
    match pinnedProof operation i with
    | none =>
      .throw (failure .enumerationIncomplete (said "Pinned catalog proof is missing."))
    | some proof =>
      let _ ← postToStub (some operation.restoreId) (.catalog (catalogName i).val) "/restore-fence"
        (catalogBody operation "install"
          [("expectedTopologyHash",
              jsonOption jsonText (stringField proof ["topologyHash", "topology_hash"])),
            ("expectedTopologyEpoch",
              jsonOption jsonInteger (numberField proof ["topologyEpoch", "topology_epoch"]))])
      fenceEachCatalog operation rest

def fenceCatalogs (operation : OperationRow) : Coord Unit :=
  orFailBefore E operation (readCatalogProof E operation) fun proof =>
    if some proof.topologyHash ≠ operation.topologyHash
        ∨ some proof.topologyEpoch ≠ operation.topologyEpoch then
      failBeforeRestore E operation .planStale (said "Catalog topology changed after preview.")
    else
      orFailBefore E operation
        (fenceEachCatalog operation (List.range (catalogShardCount E))) fun _ =>
        .modify fun s => s.setOperation operation.restoreId fun op => { op with
          stage := .fencingParticipants, updatedAt := isoOf E s.now }

def fenceNextParticipant (operation : OperationRow) : Coord Unit := do
  let s ← .read
  match s.nextParticipant operation.restoreId fun p => p.status == .previewed with
  | none =>
    if reached E s.now operation.executeBefore then
      failBeforeRestore E operation .planStale
        (said "Restore fencing exceeded the immutable execution window.")
    else
      .modify fun s => s.setOperation operation.restoreId fun op => { op with
        stage := .revalidatingParticipants, updatedAt := isoOf E s.now }
  | some participant =>
    orFailBefore E operation
      (postToStub (some operation.restoreId) (participantTarget participant) "/restore-fence"
        (participantBody operation [("action", .str (utf16 "install"))])) fun result =>
      match canonicalTimestamp E.platform.dates
          (orElse (get result "closed_through") (get result "closedThrough")),
        stringField result ["pre_fence_bookmark", "preFenceBookmark"] with
      | some closedThrough, some preFenceBookmark =>
        .modify fun s => s.setParticipant operation.restoreId participant.participantId fun p =>
          { p with
            status := .fenced
            preFenceBookmark := some (stored preFenceBookmark)
            closedThrough := some closedThrough }
      | _, _ =>
        .throw (failure .enumerationIncomplete
          (said "Participant fence omitted its pre-fence head or closed-through watermark.")
          (ofParticipant participant))

def revalidateNextParticipant (operation : OperationRow) : Coord Unit := do
  let s ← .read
  match s.nextParticipant operation.restoreId fun p => p.status == .fenced with
  | none =>
    .modify fun s => (s.setOperation operation.restoreId fun op => { op with
      phase := .restoring, stage := .materializingLoss
      updatedAt := isoOf E s.now }).setGatePhase operation.restoreId .restoring
  | some participant =>
    let current ← postToStub (some operation.restoreId) (participantTarget participant)
      "/pitr-preview" (participantBody operation [("cutoff", jsonText operation.cutoff)])
    let target := stringField current ["target_bookmark", "targetBookmark"]
    let head := stringField current
      ["preview_bookmark", "previewBookmark", "current_bookmark", "currentBookmark"]
    if target ≠ participant.targetBookmark ∨ head ≠ participant.preFenceBookmark then
      failBeforeRestore E operation .planStale
        ((said "Participant ").then (participant.participantId.val ++ utf16 " changed after preview."))
    else
      .modify fun s => s.setParticipant operation.restoreId participant.participantId fun p =>
        { p with status := .ready }

/-! ## what is lost -/

def lossEntriesOf (result : Entries) : Option (List JsonValue) :=
  match get result "entries" with
  | some (.arr entries) => some entries
  | _ => none

def writeLoss (restoreId : Text) (participantId : JsString) : List JsonValue → Coord Unit
  | [] => .pure ()
  | entry :: rest => do
    .pause
    insert fun s => do
      let lossEntries ← s.lossEntries.insertOrIgnore
        { restoreId, participantId, lossHash := hashJson E.platform.sha256 entry, lossJson := entry }
      some { s with lossEntries }
    writeLoss restoreId participantId rest

def participantLoss (operation : OperationRow) (participant : ParticipantRow) : Coord Unit := do
  let result ← postToStub (some operation.restoreId) (participantTarget participant)
    "/restore-loss-page" (participantBody operation
      [("cutoff", jsonOption .str participant.targetCheckpointAt),
        ("through", jsonOption .str participant.closedThrough), ("limit", jsonNat lossPageSize),
        ("after", participant.lossCursorJson.getD (jsonNat 0))])
  match lossEntriesOf result with
  | none =>
    .throw (failure .enumerationIncomplete (said "Participant loss page is invalid."))
  | some entries =>
    writeLoss E operation.restoreId participant.participantId.val entries
    let complete := isTrue (get result "complete")
    let nextCursor := (orElse (get result "next_cursor") (get result "nextCursor")).getD .null
    throwIf (!complete && isNull (some nextCursor)) (failure .enumerationIncomplete
      (said "Participant loss enumeration ended without complete coverage.")
      (ofParticipant participant))
    .modify fun s => s.setParticipant operation.restoreId participant.participantId fun p =>
      { p with
        lossCursorJson := if complete then none else some nextCursor
        status := if complete then .lossMaterialized else .ready }

def coordinatorOf (work : WorkRow) : JsString := utf16 "coordinator:" ++ work.coordinatorId.val

def coordinatorLoss (operation : OperationRow) (work : WorkRow) : Coord Unit := do
  let details : Details := [("participant_id", .str (coordinatorOf work))]
  let s ← .read
  let result ← postToStub (some operation.restoreId) (.coordinator work.coordinatorId.val)
    "/restore-loss-page" (participantBody operation
      [("cutoff", jsonText operation.cutoff), ("through", .str (isoOf E s.now)),
        ("limit", jsonNat lossPageSize), ("after", work.lossCursorJson.getD .null)])
  match lossEntriesOf result, isTrue (get result "complete") with
  | some entries, true =>
    match canonicalTimestamp E.platform.dates
        (orElse (get result "closed_through") (get result "closedThrough")) with
    | none =>
      .throw (failure .enumerationIncomplete
        (said "Coordinator loss evidence omitted its drain watermark.") details)
    | some closedThrough =>
      writeLoss E operation.restoreId (coordinatorOf work) entries
      let requiresDiscard := isTrue (get result "requires_discard") || !entries.isEmpty
      .modify fun s => s.setWork operation.restoreId work.coordinatorId fun w => { w with
        status := if requiresDiscard then .discardRequired else .retained
        closedThrough := some closedThrough }
  | _, _ =>
    .throw (failure .enumerationIncomplete (said "Coordinator loss evidence is incomplete.") details)

def materializeNextLossPage (operation : OperationRow) : Coord Unit := do
  let s ← .read
  match s.nextParticipant operation.restoreId fun p =>
      p.participantKind == .shard && p.status == .ready with
  | some participant => participantLoss E operation participant
  | none =>
    match s.nextWork operation.restoreId .pendingLoss with
    | some work => coordinatorLoss E operation work
    | none =>
      .modify fun s => s.setOperation operation.restoreId fun op => { op with
        stage := .restoringParticipants, updatedAt := isoOf E s.now }

/-! ## rewinding -/

/-- the session that is aborted may sever the answer: only the verification tells -/
def applyQuietly (operation : OperationRow) (participant : ParticipantRow)
    (rest : List (String × JsonValue)) : Coord Unit := do
  let _ ← (postToStub none (participantTarget participant) "/pitr-apply"
    (participantBody operation rest)).attempt
  return ()

def isPending (result : Entries) : Bool :=
  isTrue (get result "pending") || isText (get result "status") "pending"

def stageParticipant (operation : OperationRow) (participant : ParticipantRow) : Coord Unit := do
  let result ← postToStub (some operation.restoreId) (participantTarget participant) "/pitr-stage"
    (participantBody operation [("target_bookmark", jsonOption jsonText participant.targetBookmark)])
  match stringField result ["undo_bookmark", "undoBookmark"] with
  | none =>
    .throw (failure .interrupted
      (said "Participant did not return an undo bookmark after arming restore.")
      (ofParticipant participant))
  | some undo =>
    .modify fun s => s.setParticipant operation.restoreId participant.participantId fun p =>
      { p with status := .staged, undoBookmark := some (stored undo) }

/-- the interruption of a rehearsal, once for an operation -/
def rehearse (restoreId : Text) : Coord Unit := do
  let s ← .read
  let restoredCount := s.countParticipants restoreId fun p => p.status == .restored
  let due := E.failAfter.any fun n => decide (0 < n ∧ n ≤ (restoredCount : Int))
  if due && !s.rehearsalFaults.contains restoreId then do
    .modify fun s => { s with rehearsalFaults := s.rehearsalFaults ++ [restoreId] }
    .throw (failure .interrupted
      (said "Rehearsal-only interruption injected after participant restore."))
  else .pure ()

def verifyActivation (operation : OperationRow) (participant : ParticipantRow) : Coord Unit := do
  let result ← postToStub (some operation.restoreId) (participantTarget participant) "/pitr-verify"
    (participantBody operation
      [("target_bookmark", jsonOption jsonText participant.targetBookmark),
        ("preview_bookmark", jsonOption jsonText participant.previewBookmark)])
  if isPending result then
    if isText (get result "phase") "staged" then applyQuietly operation participant []
    else .pure ()
  else do
    throwIf (!isTrue (get result "verified")) (failure .invariantFailed
      (said "Participant failed post-PITR verification.") (ofParticipant participant))
    .modify fun s => s.setParticipant operation.restoreId participant.participantId fun p =>
      { p with status := .restored }
    rehearse E operation.restoreId

def isRestored : ParticipantStatus → Bool
  | .restored | .verified | .released => true
  | _ => false

def restoreNextParticipant (operation : OperationRow) : Coord Unit := do
  let s ← .read
  match s.nextParticipant operation.restoreId fun p => !isRestored p.status with
  | none =>
    .modify fun s => (s.setOperation operation.restoreId fun op => { op with
      phase := .reconciliationPending, stage := .reconciling
      updatedAt := isoOf E s.now }).setGatePhase operation.restoreId .reconciling
  | some participant =>
    match participant.status with
    | .lossMaterialized => stageParticipant operation participant
    | .staged => do
      .modify fun s => s.setParticipant operation.restoreId participant.participantId fun p =>
        { p with status := .activationRequested }
      applyQuietly operation participant
        [("target_bookmark", jsonOption jsonText participant.targetBookmark)]
    | .activationRequested => verifyActivation E operation participant
    | status =>
      .throw (failure .interrupted ((said "Participant is in unexpected restore state ").then
        (utf16 (status.text ++ "."))) (ofParticipant participant))

/-! ## redo -/

/-- `left ?? right`, as a property -/
def orField (name : String) (left right : Field) : List (String × JsonValue) :=
  optional name (orElse left right)

/-- a property that is there unless it is null -/
def unlessNull (name : String) (value : Field) : List (String × JsonValue) :=
  match value with
  | none | some .null => []
  | some v => [(name, v)]

/-- the message, without what a phase adds to it at its end -/
def participantMessage (operation : OperationRow) (envelope : Entries) (phase : String)
    (participant : Entries) (rest : List (String × JsonValue)) : JsonValue :=
  let prepareBookmark := match get participant "prepare_bookmark" with
    | some (.str s) => if phase = "status" then [("prepare_bookmark", .str s)] else []
    | _ => []
  .obj (object (optional "protocol_version" (get envelope "protocol_version")
    ++ optional "tx_id" (get envelope "tx_id")
    ++ orField "epoch" (get participant "epoch") (get envelope "decision_epoch")
    ++ [("phase", .str (utf16 phase))]
    ++ optional "operation_hash" (get envelope "operation_hash")
    ++ [("restore_id", jsonText operation.restoreId), ("generation", jsonGeneration operation)]
    ++ prepareBookmark ++ rest))

def redoIntent (raw : JsonValue) : Try JsonValue :=
  match raw with
  | .obj raw =>
    .ok (.obj (object (optional "sql" (get raw "sql") ++ optional "params" (get raw "params")
      ++ optional "tenantId" (get raw "tenant_id") ++ optional "table" (get raw "table_name")
      ++ optional "partitionKey" (get raw "partition_key")
      ++ unlessNull "vbucket" (get raw "vbucket") ++ unlessNull "op" (get raw "operation")
      ++ unlessNull "mirrorTargetShardId" (get raw "mirror_target_participant_id"))))
  | _ => failRestore .hashContradiction (said "Redo intent is malformed.")

def redoIntents (participant : Entries) : Try JsonValue :=
  match get participant "intents" with
  | some (.arr intents) => do
    let redo ← intents.mapM redoIntent
    return .arr redo
  | _ => .ok (.arr [])

/-- whether a participant is prepared once more -/
def checkRestored (txId : JsString) (participantId : JsString) (exactPrepareProof : Bool)
    (status : Entries) : Try Bool := do
  let details : Details := [("tx_id", .str txId), ("participant_id", .str participantId)]
  let present := get status "prepare_bookmark_present"
  let found := isTrue (get status "found")
  let proved := match present with
    | some (.bool _) => true
    | _ => false
  refuseIf (exactPrepareProof && !proved) .manifestGap
    (said "Participant did not prove whether the restored target contains prepare.") details
  refuseIf (exactPrepareProof && isTrue present && !found) .hashContradiction
    (said "Participant prepare marker contradicts its restored transaction state.") details
  refuseIf (found && isText (get status "status") "aborted") .hashContradiction
    (said "Committed manifest decision conflicts with an aborted participant.") details
  return !found && (!exactPrepareProof || isFalse present)

def prepareAgain (operation : OperationRow) (target : Target) (envelope participant : Entries) :
    Bool → Coord Unit
  | false => .pure ()
  | true => do
    let intents ← .ofExcept (redoIntents participant)
    let _ ← postToStub (some operation.restoreId) target "/prepare"
      (participantMessage operation envelope "prepare" participant [("intents", intents)])

/-- a participant is asked what it has, prepared if it is not, and told to commit -/
def redoParticipant (operation : OperationRow) (txId : JsString) (envelope : Entries)
    (raw : JsonValue) : Coord Unit :=
  match raw with
  | .obj participant =>
    match get participant "participant_id" with
    | some (.str participantId) => do
      let target := Target.shard participantId
      let status ← postToStub (some operation.restoreId) target "/tx-status"
        (participantMessage operation envelope "status" participant [])
      let exactPrepareProof := match get participant "prepare_bookmark" with
        | some (.str _) => true
        | _ => false
      let prepares ← .ofExcept (checkRestored txId participantId exactPrepareProof status)
      prepareAgain operation target envelope participant prepares
      if isText (get status "status") "committed" then .pure ()
      else do
        let _ ← postToStub (some operation.restoreId) target "/recover"
          (participantMessage operation envelope "recover" participant
            [("decision", .str (utf16 "commit"))])
    | _ => .throw (failure .hashContradiction (said "Redo participant is invalid.") (ofTx txId))
  | _ => .throw (failure .hashContradiction (said "Redo participant is invalid.") (ofTx txId))

def redoEach (operation : OperationRow) (txId : JsString) (envelope : Entries) :
    List JsonValue → Coord Unit
  | [] => .pure ()
  | raw :: rest => do
    redoParticipant operation txId envelope raw
    redoEach operation txId envelope rest

def reconcileRecord (operation : OperationRow) (record : RecordRow) : Coord Unit := do
  match record.envelopeJson with
  | none =>
    .throw (failure .manifestGap (said "Materialized redo envelope is missing.") (ofTx record.txId))
  | some envelope =>
    match get envelope "participants" with
    | some (.arr participants) => do
      redoEach operation record.txId envelope participants
      .modify fun s => s.setRecord operation.restoreId record.recordHash fun r => { r with
        reconciled := true }
    | _ =>
      .throw (failure .hashContradiction (said "Redo envelope participant set is invalid.")
        (ofTx record.txId))

def reconcileNextTransaction (operation : OperationRow) : Coord Unit := do
  let s ← .read
  match s.nextRecord operation.restoreId fun r => !r.reconciled with
  | none =>
    .modify fun s => (s.setOperation operation.restoreId fun op => { op with
      phase := .verifying, stage := .verifyingParticipants
      updatedAt := isoOf E s.now }).setGatePhase operation.restoreId .verifying
  | some record => reconcileRecord operation record

/-! ## verification and release -/

def verifyNextParticipant (operation : OperationRow) : Coord Unit := do
  let s ← .read
  match s.nextParticipant operation.restoreId fun p => p.status == .restored with
  | none =>
    .modify fun s => s.setOperation operation.restoreId fun op => { op with
      stage := .discardingCoordinators, updatedAt := isoOf E s.now }
  | some participant =>
    let result ← postToStub (some operation.restoreId) (participantTarget participant)
      "/pitr-verify" (participantBody operation
        [("target_bookmark", jsonOption jsonText participant.targetBookmark),
          ("preview_bookmark", jsonOption jsonText participant.previewBookmark),
          ("require_invariants", .bool true)])
    throwIf (!isTrue (get result "verified")) (failure .invariantFailed
      (said "Participant invariant verification failed.") (ofParticipant participant))
    .modify fun s => s.setParticipant operation.restoreId participant.participantId fun p =>
      { p with status := .verified }

def discardNextCoordinator (operation : OperationRow) : Coord Unit := do
  let s ← .read
  match s.nextWork operation.restoreId .discardRequired with
  | none =>
    .modify fun s => s.setOperation operation.restoreId fun op => { op with
      stage := .releasingParticipants, updatedAt := isoOf E s.now }
  | some work =>
    let discarded ← postToStub (some operation.restoreId) (.coordinator work.coordinatorId.val)
      "/restore-discard" (participantBody operation [])
    throwIf (!isTrue (get discarded "discarded_by_restore")) (failure .invariantFailed
      (said "Post-cutoff coordinator did not confirm durable discard.")
      [("participant_id", .str (coordinatorOf work))])
    .modify fun s => s.setWork operation.restoreId work.coordinatorId fun w => { w with
      status := .discarded }

def releaseCatalogs (operation : OperationRow) : List Nat → Coord Unit
  | [] => .pure ()
  | i :: rest => do
    let _ ← postToStub (some operation.restoreId) (.catalog (catalogName i).val) "/restore-fence"
      (catalogBody operation "release" [])
    releaseCatalogs operation rest

def isSettled : WorkStatus → Bool
  | .retained | .discarded => true
  | _ => false

/-- participants that are not released, transactions or coordinators that are not dealt with -/
def incomplete (s : World) (restoreId : Text) : Bool :=
  0 < s.countParticipants restoreId (fun p => p.status != .released)
    || 0 < s.countRecords restoreId (fun r => !r.reconciled)
    || 0 < s.countWork restoreId fun w => !isSettled w.status

/-- the time of a column, which holds canonical texts -/
def columnTime (text : JsString) : Int := (timeOf E text).getD 0

def closeWatermarks (s : World) (restoreId : Text) : List JsString :=
  (s.participants.rows.filter fun p => p.restoreId == restoreId).filterMap (·.closedThrough)
    ++ (s.coordinatorWork.rows.filter fun w => w.restoreId == restoreId).filterMap (·.closedThrough)

def reportOf (operation : OperationRow) (lossHashes : List JsString) (s : World) : Report :=
  let now := isoOf E s.now
  let closedThroughMs := ((closeWatermarks s operation.restoreId).map (columnTime E)).foldl max
    (columnTime E (operation.fenceInstalledAt.getD now))
  { discardedWriteCount := lossHashes.length
    discardedWriteReportHash := hashJson E.platform.sha256 (.arr (lossHashes.map .str))
    discardedWriteReportComplete := true
    measuredRpoMs := max 0 (closedThroughMs - columnTime E operation.cutoff.val)
    measuredRtoMs := max 0 (s.now - columnTime E (operation.startedAt.getD now))
    verifiedAt := now }

def isReleasing (s : World) (restoreId : Text) : Bool :=
  (s.operation restoreId).any fun op => op.stage == .releasingParticipants

/-- the last transaction of a restore -/
def finishRestore (operation : OperationRow) (lossHashes : List JsString) (s : World) :
    Try (Unit × World) :=
  let report := reportOf E operation lossHashes s
  if !isReleasing s operation.restoreId then
    failRestore .invariantFailed
      (said "Restore stage changed after final inventory linearization.")
  else if incomplete s operation.restoreId then
    failRestore .invariantFailed (said "Restore became incomplete during final fleet release.")
  else if s.gate.restoreId ≠ some operation.restoreId
      ∨ some s.gate.generation ≠ operation.fenceGeneration then
    failRestore .invariantFailed
      (said "Restore completion did not durably clear the fleet gate.")
  else
    .ok ((), (s.openGate operation.restoreId).setOperation operation.restoreId fun op => { op with
      phase := .complete
      stage := .complete
      reportJson := some report
      completedAt := some (isoOf E s.now)
      updatedAt := isoOf E s.now
      blockerJson := none })

def completeRestore (operation : OperationRow) : Coord Unit := do
  let s ← .read
  if !isReleasing s operation.restoreId then schedule (some operation.restoreId)
  else do
    throwIf (incomplete s operation.restoreId) (failure .invariantFailed
      (said "Restore cannot release the fleet with incomplete work."))
    releaseCatalogs operation (List.range (catalogShardCount E))
    let s ← .read
    let lossHashes := (s.lossEntries.ordered (fun l => l.restoreId == operation.restoreId)
      fun l => toLex (byBytes l.participantId, byBytes l.lossHash)).map (·.lossHash)
    .pause
    .transact (finishRestore E operation lossHashes)

def releaseNextParticipant (operation : OperationRow) : Coord Unit := do
  let s ← .read
  match s.nextParticipant operation.restoreId fun p => p.status == .verified with
  | none => completeRestore E operation
  | some participant =>
    let _ ← postToStub (some operation.restoreId) (participantTarget participant) "/pitr-release"
      (participantBody operation [])
    .modify fun s => s.setParticipant operation.restoreId participant.participantId fun p =>
      { p with status := .released }

/-! ## rollback -/

def isRollingBack : ParticipantStatus → Bool
  | .rollbackPending | .rollbackStaged | .rollbackActivationRequested => true
  | _ => false

def verifyUndo (operation : OperationRow) (participant : ParticipantRow) (undo : Text) :
    Coord Unit := do
  let result ← postToStub (some operation.restoreId) (participantTarget participant) "/pitr-verify"
    (participantBody operation
      [("target_bookmark", jsonText undo), ("mode", .str (utf16 "undo"))])
  if isPending result then
    if isText (get result "phase") "undo-staged" then applyQuietly operation participant []
    else .pure ()
  else do
    throwIf (!isTrue (get result "verified") || !isText (get result "mode") "undo")
      (failure .invariantFailed (said "Participant undo verification failed.")
        (ofParticipant participant))
    .modify fun s => s.setParticipant operation.restoreId participant.participantId fun p =>
      { p with status := .rollbackVerified }

def rollbackNextParticipant (operation : OperationRow) : Coord Unit := do
  let s ← .read
  match s.nextParticipant operation.restoreId fun p => isRollingBack p.status with
  | none =>
    .modify fun s => s.setOperation operation.restoreId fun op => { op with
      stage := .rollbackReleasingParticipants, updatedAt := isoOf E s.now }
  | some participant =>
    match participant.undoBookmark, participant.status with
    | none, _ =>
      .throw (failure .invariantFailed
        (said "Rollback participant is missing its external undo bookmark.")
        (ofParticipant participant))
    | some undo, .rollbackPending => do
      let _ ← postToStub (some operation.restoreId) (participantTarget participant) "/pitr-undo"
        (participantBody operation
          [("target_bookmark", jsonText undo), ("mode", .str (utf16 "undo"))])
      .modify fun s => s.setParticipant operation.restoreId participant.participantId fun p =>
        { p with status := .rollbackStaged }
    | some _, .rollbackStaged => do
      .modify fun s => s.setParticipant operation.restoreId participant.participantId fun p =>
        { p with status := .rollbackActivationRequested }
      applyQuietly operation participant []
    | some undo, _ => verifyUndo operation participant undo

def finishRollback (operation : OperationRow) (s : World) : World :=
  let opened := if some s.gate.generation = operation.fenceGeneration
    then s.openGate operation.restoreId else s
  opened.setOperation operation.restoreId fun op => { op with
    phase := .rolledBack
    stage := .rolledBack
    completedAt := some (isoOf E s.now)
    updatedAt := isoOf E s.now
    blockerJson := none }

def isRolledBack : ParticipantStatus → Bool
  | .rollbackVerified | .rollbackNotNeeded => true
  | _ => false

def releaseNextRollbackParticipant (operation : OperationRow) : Coord Unit := do
  let s ← .read
  match s.nextParticipant operation.restoreId fun p => isRolledBack p.status with
  | some participant =>
    let _ ← postToStub (some operation.restoreId) (participantTarget participant) "/pitr-release"
      (participantBody operation [])
    .modify fun s => s.setParticipant operation.restoreId participant.participantId fun p =>
      { p with status := .rollbackReleased }
  | none =>
    throwIf (0 < s.countParticipants operation.restoreId fun p => p.status != .rollbackReleased)
      (failure .invariantFailed (said "Rollback cannot release with incomplete participants."))
    releaseCatalogs operation (List.range (catalogShardCount E))
    .modify (finishRollback E operation)

/-! ## one step -/

def runStage (operation : OperationRow) : Coord Unit :=
  match operation.stage with
  | .closingManifest => closeManifest E operation
  | .enumeratingManifest => enumerateManifest E operation
  | .materializingEnvelopes => materializeNextEnvelope E operation
  | .previewingParticipants => previewNextParticipant E operation
  | .previewed | .complete | .rolledBack | .failed | .manualRepairRequired => .pure ()
  | .fencingCatalogs => fenceCatalogs E operation
  | .fencingParticipants => fenceNextParticipant E operation
  | .revalidatingParticipants => revalidateNextParticipant E operation
  | .materializingLoss => materializeNextLossPage E operation
  | .restoringParticipants => restoreNextParticipant E operation
  | .reconciling => do
    .modify fun s => s.setOperation operation.restoreId fun op => { op with
      phase := .reconciling, updatedAt := isoOf E s.now }
    reconcileNextTransaction E operation
  | .verifyingParticipants => verifyNextParticipant E operation
  | .discardingCoordinators => discardNextCoordinator E operation
  | .releasingParticipants => releaseNextParticipant E operation
  | .rollbackParticipants => rollbackNextParticipant E operation
  | .rollbackReleasingParticipants => releaseNextRollbackParticipant E operation

/-- a step that went through: what was tried before it does not count any more -/
def settleAdvance (restoreId : Text) : Coord Unit := do
  .modify fun s => s.setOperation restoreId fun op => { op with
    retryCount := 0, retryStartedAtMs := none, retryNotBeforeMs := none }
  let s ← .read
  if (s.operation restoreId).any fun op => !op.stage.terminal then schedule (some restoreId)
  else .pure ()

def operationMissing : Text := said "Restore operation was not found."

def advance (restoreId : Text) : Coord Unit := do
  let s ← .read
  match s.operation restoreId with
  | none => .throw (failure .invalidRequest operationMissing)
  | some operation =>
    match operation.retryNotBeforeMs.filter fun t => decide (s.now < t) with
    | some t => schedule (some restoreId) (t - s.now)
    | none =>
      if operation.stage.terminal then .pure ()
      else do
        runStage E operation
        settleAdvance restoreId

end
end FleetRestore
