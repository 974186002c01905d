import CloudflareShard.Async.Run
import CloudflareShard.Restore.FleetStages

/-!
# What a restore coordinator is asked

* `handleGate`, `handleRegisterCoordinator`   the gate and the registry, next to everything else;
* `handlePreview`, `handleExecute`, `handleReconcile`, `handleRollback`   one after the other;
* `handleStatus`, `statusJson`   the latest checkpoint;
* `alarm`                        the next step of the operation that is due;
* `respond`, `handler`, `coordinator`   **the object**.
-/

namespace FleetRestore
open Async Json Wire
open Restore (RestoreErrorCode restoreErrorHttpStatus)

def coordinatorRegistryRetentionMs : Int := 35 * 24 * 60 * 60000

/-! ## answers -/

/-- `json(body, status)` -/
def json (fields : List (String × JsonValue)) (status : Nat := 200) : Response :=
  { status, body := .obj (object fields) }

def errorJson (v : Violation) : JsonValue :=
  .obj (object ([("schema_version", jsonNat restoreErrorSchemaVersion),
    ("code", .str (utf16 v.code.text)), ("message", jsonText v.message),
    ("http_status", jsonNat (restoreErrorHttpStatus v.code)), ("retryable", .bool v.retryable)]
    ++ if v.details.isEmpty then [] else [("details", .obj (object v.details))]))

def restoreResponse (v : Violation) : Response :=
  json [("ok", .bool false),
    ("status", .str (utf16 (if v.retryable then "unavailable" else "rejected"))),
    ("error", errorJson v)] (restoreErrorHttpStatus v.code)

/-- the body of a request, which has to be JSON -/
def jsonBody (body : Option JsonValue) : Try JsonValue :=
  match body with
  | some value => .ok value
  | none => .error (.other (utf16 "Unexpected end of JSON input"))

/-- the properties of a value; there are none of null -/
def propertiesOf (value : JsonValue) : Try Entries :=
  match value with
  | .obj es => .ok es
  | .null => .error (.other (utf16 "Cannot read properties of null"))
  | _ => .ok []

section
variable (E : Env)

/-! ## the gate -/

def handleGate (body : Option JsonValue) : Coord Response := do
  let es ← .ofExcept (propertiesOf (body.getD (.obj [])))
  let fleetId := match get es "fleet_id" with
    | some (.str s) => s
    | _ => (deploymentFleetId E).val
  if fleetId ≠ (deploymentFleetId E).val then
    return restoreResponse
      { code := .conflict
        message := said "Fleet ID is not this deployment's physical restore domain."
        details := [] }
  else do
    let s ← .read
    let sameRestore := s.gate.active
      && strictEq (get es "restore_id") (some (jsonOption jsonText s.gate.restoreId))
      && strictEq (get es "generation") (some (jsonNat s.gate.generation))
    return json [("ok", .bool true), ("active", .bool s.gate.active),
      ("allowed", .bool (!s.gate.active || sameRestore)),
      ("restore_id", jsonOption jsonText s.gate.restoreId),
      ("generation", jsonNat s.gate.generation),
      ("phase", jsonOption (fun phase => .str (utf16 phase.text)) s.gate.phase),
      ("activated_at", jsonOption .str s.gate.activatedAt)]

/-! ## the registry -/

/-- the operation that the gate is closed for -/
def gatedOperation (s : World) : Option OperationRow :=
  if s.gate.active then s.gate.restoreId.bind s.operation else none

structure Registration where
  coordinatorId : Text
  /-- when a coordinator that has to be told of a missed restore was created -/
  existingCreatedAt : Option JsString

def readRegistration (es : Entries) : Try Registration :=
  let coordinatorId := stringField es ["tx_id", "txId", "coordinator_id", "coordinatorId"]
  let existingCreatedAt := get es "existing_created_at"
  let canonical := canonicalTimestamp E.platform.dates existingCreatedAt
  match coordinatorId with
  | none =>
    failRestore .invalidRequest (said "Coordinator registration is invalid.")
  | some coordinatorId =>
    if stringField es ["fleet_id", "fleetId"] ≠ some (deploymentFleetId E) then
      failRestore .invalidRequest (said "Coordinator registration is invalid.")
    else if existingCreatedAt.isSome && canonical.isNone then
      failRestore .invalidRequest (said "Existing coordinator creation time is invalid.")
    else .ok { coordinatorId, existingCreatedAt := canonical }

/-- whether a coordinator may be registered now -/
def checkRegistration (registration : Registration) (s : World) : Try Unit :=
  let finalizing := (gatedOperation s).any fun operation =>
    operation.stage == .releasingParticipants || operation.resumeStage == some .releasingParticipants
  if registration.existingCreatedAt.isSome && finalizing then
    failRestore .unavailable
      (said "Fleet restore is finalizing coordinator inventory; retry registration.")
  else if s.gate.active && registration.existingCreatedAt.isNone then
    failRestore .conflict
      (said "Fleet restore fence is active; new transactions are blocked.")
  else .ok ()

/-- the stages that a new coordinator takes back to the enumeration of losses -/
def isRewound : Stage → Bool
  | .restoringParticipants | .reconciling | .verifyingParticipants | .discardingCoordinators
  | .releasingParticipants => true
  | _ => false

/-- what a new coordinator makes of the operation that the gate is closed for -/
def rewound (now : JsString) (op : OperationRow) : OperationRow :=
  if isRewound op.stage then
    { op with stage := .materializingLoss, phase := .restoring, updatedAt := now }
  else if op.stage = .manualRepairRequired ∧ op.resumePhase.isSome
      ∧ op.resumePhase ≠ some .rollingBack then
    { op with
      resumeStage := some .materializingLoss, resumePhase := some .restoring, updatedAt := now }
  else op

theorem rewound_restoreId (now : JsString) (op : OperationRow) :
    (rewound now op).restoreId = op.restoreId := by
  unfold rewound
  split
  · rfl
  · split <;> rfl

/-- `INSERT INTO coordinator_registry … ON CONFLICT DO UPDATE SET last_seen_at`, without those that
were not seen for long -/
def register (s : World) (coordinatorId : Text) :
    Option (Capped Text RegistryRow (·.coordinatorId) maxRows) :=
  let now := isoOf E s.now
  let horizon := byBytes (isoOf E (s.now - coordinatorRegistryRetentionMs))
  let kept := s.coordinatorRegistry.discardWhere fun r => decide (byBytes r.lastSeenAt < horizon)
  let seen := kept.updateWhere (fun r => r.coordinatorId == coordinatorId)
    (fun r => { r with lastSeenAt := now }) fun _ => rfl
  seen.insertOrIgnore
    { coordinatorId, fleetId := (deploymentFleetId E).val, registeredAt := now, lastSeenAt := now }

def isInventoried (s : World) (restoreId coordinatorId : Text) : Bool :=
  (s.coordinatorWork.find (restoreId, coordinatorId)).isSome

/-- the transaction of a registration -/
def registered (coordinatorId : Text) (s : World) : Option World := do
  let now := isoOf E s.now
  let coordinatorRegistry ← register E s coordinatorId
  let seen : World := { s with
    coordinatorRegistry, coordinatorCoverageStart := some (s.coordinatorCoverageStart.getD now) }
  match s.gate.active, s.gate.restoreId with
  | true, some restoreId =>
    let coordinatorWork ← s.coordinatorWork.insertOrIgnore
      { restoreId, coordinatorId, lossCursorJson := none, closedThrough := none
        status := .pendingLoss }
    let inventoried : World := { seen with coordinatorWork }
    if isInventoried s restoreId coordinatorId then some inventoried
    else some (inventoried.setOperation restoreId (rewound now) (rewound_restoreId now))
  | _, _ => some seen

/-- a restore that was completed behind the back of a coordinator -/
def missedRestore (s : World) (coordinatorId : Text) (existingCreatedAt : JsString) :
    Option OperationRow :=
  s.operations.first
    (fun op => op.stage == .complete
      && op.fenceInstalledAt.any (fun t => decide (byBytes existingCreatedAt ≤ byBytes t))
      && ((s.coordinatorWork.find (op.restoreId, coordinatorId)).all fun w => w.status == .discarded))
    fun op => byBytes (op.completedAt.getD [])

def registeredJson (now : JsString) (rest : List (String × JsonValue)) : Response :=
  json ([("ok", .bool true), ("disposition", .str (utf16 "registered")), ("registered_at", .str now)]
    ++ rest)

def scheduleUnless (condition : Bool) : Coord Unit :=
  if condition then .pure () else schedule none

def handleRegisterCoordinator (body : Option JsonValue) : Coord Response := do
  let value ← .ofExcept (jsonBody body)
  let es ← .ofExcept (propertiesOf value)
  let registration ← .ofExcept (readRegistration E es)
  let s ← .read
  .ofExcept (checkRegistration registration s)
  let coordinatorId := stored registration.coordinatorId
  let now := isoOf E s.now
  insert (registered E coordinatorId)
  if s.gate.active then do
    scheduleUnless (s.gate.restoreId.any fun restoreId => isInventoried s restoreId coordinatorId)
    return registeredJson now [("active_restore_id", jsonOption jsonText s.gate.restoreId),
      ("generation", jsonNat s.gate.generation)]
  else
    match registration.existingCreatedAt.bind (missedRestore s coordinatorId) with
    | some operation =>
      return json [("ok", .bool true), ("disposition", .str (utf16 "discard_required")),
        ("registered_at", .str now), ("restore_id", jsonText operation.restoreId),
        ("generation", jsonGeneration operation), ("cutoff", jsonText operation.cutoff)]
    | none => return registeredJson now []

/-! ## preview -/

/-- the checks before an operation is looked up -/
def checkPreview (request : PreviewRequest) (s : World) : Try Unit := do
  refuseIf (request.fleetId != deploymentFleetId E) .conflict
    ((said "A logical fleet cannot be restored independently inside this deployment's ").then
      (utf16 "shared Durable Object namespaces."))
    [("deployment_fleet_id", jsonText (deploymentFleetId E)),
      ("requested_fleet_id", jsonText request.fleetId)]
  let cutoffMs := columnTime E request.cutoff.val
  refuseIf (decide (s.now < cutoffMs)) .cutoffInFuture
    (said "Restore cutoff cannot be in the future.")
  refuseIf (decide (cutoffMs < s.now - pitrWindowMs + pitrSafetyMarginMs)) .cutoffOutsidePitrWindow
    (said "Restore cutoff is outside the safe provider PITR window.")
    [("safety_margin_ms", jsonInteger pitrSafetyMarginMs)]
  let covered := s.coordinatorCoverageStart.any fun start => decide (columnTime E start ≤ cutoffMs)
  refuseIf (!covered) .enumerationIncomplete
    (said "Coordinator inventory does not cover the requested cutoff.")
    [("coordinator_coverage_start",
      .str (s.coordinatorCoverageStart.getD (utf16 "unavailable")))]

def previewedResponse (plan : JsonValue) : Response :=
  json [("ok", .bool true), ("status", .str (utf16 "previewed")), ("plan", plan)]

def previewingResponse (restoreId fleetId cutoff : Text) : Response :=
  json [("ok", .bool true), ("status", .str (utf16 "previewing")), ("restore_id", jsonText restoreId),
    ("fleet_id", jsonText fleetId), ("cutoff", jsonText cutoff),
    ("retry_after_ms", jsonInteger restoreAlarmDelayMs)] 202

/-- `try { await this.advance(id) } catch (error) { await this.retryOrPark(id, error); throw error }` -/
def advanceOrThrow (restoreId : Text) : Coord Unit :=
  (advance E restoreId).rescue fun error => do
    retryOrPark E restoreId error
    .throw error

/-- the operation, which is there -/
def refreshed (restoreId : Text) : Coord OperationRow := do
  let s ← .read
  match s.operation restoreId with
  | some operation => .pure operation
  | none => .throw (.other (utf16 "Cannot read properties of null"))

/-- a preview that was asked for before -/
def previewExisting (existing : OperationRow) : Coord Response :=
  match existing.planJson with
  | some plan => .pure (previewedResponse plan)
  | none => do
    advanceOrThrow E existing.restoreId
    let operation ← refreshed existing.restoreId
    match operation.planJson with
    | some plan => .pure (previewedResponse plan)
    | none =>
      if operation.stage = .failed then
        .throw (failure .conflict ((said "This immutable preview attempt failed; ").then
          (utf16 "correct the evidence gap and use a new idempotency key.")))
      else
        .pure (previewingResponse existing.restoreId existing.fleetId existing.cutoff)

def newOperation (request : PreviewRequest) (restoreId : Text) (parameterHash : JsString)
    (nowMs : Int) : OperationRow where
  restoreId := restoreId
  fleetId := request.fleetId
  cutoff := request.cutoff
  idempotencyKey := stored request.idempotencyKey
  parameterHash := parameterHash
  phase := .previewing
  stage := .closingManifest
  planJson := none
  planHash := none
  previewedAt := isoOf E nowMs
  executeBefore := isoOf E (nowMs + planExecutionWindowMs)
  topologyEpoch := none
  topologyHash := none
  catalogProofJson := none
  manifestPinJson := none
  manifestCursorJson := none
  fenceGeneration := none
  fenceInstalledAt := none
  startedAt := none
  completedAt := none
  blockerJson := none
  reportJson := none
  resumePhase := none
  resumeStage := none
  retryCount := 0
  retryStartedAtMs := none
  retryNotBeforeMs := none
  updatedAt := isoOf E nowMs

/-- `restore-` and half of the digest -/
def restoreIdOf (parameterHash : JsString) (request : PreviewRequest) : Text :=
  (said "restore-").then
    ((hashJson E.platform.sha256 (.arr [.str parameterHash, jsonText request.idempotencyKey])).take 32)

/-- `SELECT * FROM restore_operations WHERE idempotency_key = ?` -/
def World.operationOf (s : World) (idempotencyKey : Text) : Option OperationRow :=
  s.operations.rows.find? fun op => op.idempotencyKey == idempotencyKey

def constraintFailed : Thrown := .other (utf16 "UNIQUE constraint failed: SQLITE_CONSTRAINT")

/-- `INSERT INTO restore_operations` -/
def insertOperation (op : OperationRow) : Coord Unit :=
  .transact fun s =>
    if (s.operation op.restoreId).isSome || (s.operationOf op.idempotencyKey).isSome then
      .error constraintFailed
    else
      match s.operations.insertOrIgnore op with
      | some operations => .ok ((), { s with operations })
      | none => .error diskFull

/-- a preview that is asked for the first time -/
def previewNew (request : PreviewRequest) (parameterHash : JsString) (nowMs : Int) :
    Coord Response := do
  .pause
  let restoreId := restoreIdOf E parameterHash request
  insertOperation (newOperation E request restoreId parameterHash nowMs)
  advanceOrThrow E restoreId
  let operation ← refreshed restoreId
  match operation.planJson with
  | some plan => .pure (previewedResponse plan)
  | none => do
    schedule none
    return previewingResponse restoreId request.fleetId request.cutoff

def handlePreview (body : Option JsonValue) : Coord Response := do
  let value ← .ofExcept (jsonBody body)
  let request ← .ofExcept (validateRestorePreviewRequest E.platform.dates value)
  let s ← .read
  .ofExcept (checkPreview E request s)
  let parameterHash := hashRestorePreviewParameters E.platform.sha256 request
  .pause
  let s' ← .read
  match s'.operationOf (stored request.idempotencyKey) with
  | some existing =>
    if existing.parameterHash ≠ parameterHash then
      .throw (failure .conflict
        (said "Restore preview idempotency key was reused with different parameters."))
    else previewExisting E existing
  | none => previewNew E request parameterHash s.now

/-! ## execution -/

def acceptedResponse (status : String) (restoreId : Text) (planHash : JsString)
    (httpStatus : Nat := 202) : Response :=
  json [("ok", .bool true), ("status", .str (utf16 status)), ("restore_id", jsonText restoreId),
    ("plan_hash", .str planHash)] httpStatus

/-- `try { await this.advance(id) } catch (error) { await this.retryOrPark(id, error) }` -/
def advanceOrPark (restoreId : Text) : Coord Unit :=
  (advance E restoreId).rescue (retryOrPark E restoreId)

/-- the fence is up: the transaction that an execution begins with -/
def begun (operation : OperationRow) (s : World) : Option World := do
  let now := isoOf E s.now
  let generation := s.gate.generation + 1
  let coordinatorWork ← s.coordinatorWork.insertEach
    ((s.coordinatorRegistry.rows.filter fun r => r.fleetId == operation.fleetId.val).map fun r =>
      { restoreId := operation.restoreId, coordinatorId := r.coordinatorId, lossCursorJson := none
        closedThrough := none, status := .pendingLoss })
  let s' := s.setOperation operation.restoreId fun op => { op with
    phase := .fencing
    stage := .fencingCatalogs
    fenceGeneration := some generation
    fenceInstalledAt := some now
    startedAt := some now
    updatedAt := now }
  some { s' with
    coordinatorWork
    gate :=
      { active := true, restoreId := some operation.restoreId, generation, phase := some .fencing
        activatedAt := some now } }

/-- the operation that is executed, or the answer that there is without -/
def checkExecute (request : PlanRequest) (s : World) : Try (Response ⊕ OperationRow) :=
  match s.operation request.restoreId with
  | none =>
    failRestore .invalidRequest (said "Restore plan does not exist or preview is incomplete.")
  | some operation =>
    if operation.planJson.isNone || operation.planHash.isNone then
      failRestore .invalidRequest (said "Restore plan does not exist or preview is incomplete.")
    else if operation.planHash ≠ some request.planHash then
      failRestore .planHashMismatch (said "Exact restore plan hash confirmation is required.")
    else if operation.stage = .complete then
      .ok (.inl (acceptedResponse "already_started" request.restoreId request.planHash 200))
    else if operation.stage = .failed ∨ operation.stage = .manualRepairRequired then
      failRestore .conflict
        (said "Restore operation cannot be restarted from its current terminal state.")
    else if operation.stage ≠ .previewed then
      .ok (.inl (acceptedResponse "already_started" request.restoreId request.planHash))
    else if reached E s.now operation.executeBefore then
      failRestore .planStale (said "Restore plan expired before execution.")
    else if s.gate.active ∧ s.gate.restoreId ≠ some request.restoreId then
      failRestore .conflict (said "Another fleet restore already owns the deployment fence.")
    else .ok (.inr operation)

def handleExecute (body : Option JsonValue) : Coord Response := do
  let value ← .ofExcept (jsonBody body)
  let request ← .ofExcept (validateRestoreExecuteRequest value)
  let s ← .read
  match ← .ofExcept (checkExecute E request s) with
  | .inl response => return response
  | .inr operation =>
    insert (begun E operation)
    advanceOrPark E request.restoreId
    schedule none
    return acceptedResponse "accepted" request.restoreId request.planHash

/-! ## status -/

def blockerJson (blocker : Blocker) : JsonValue :=
  .obj (object [("code", .str (utf16 blocker.code.text)), ("message", .str blocker.message),
    ("participant_id", jsonOption jsonText blocker.participantId),
    ("tx_id", jsonOption jsonText blocker.txId)])

def reportJson (report : Report) : JsonValue :=
  .obj (object [("discarded_write_count", jsonNat report.discardedWriteCount),
    ("discarded_write_report_hash", .str report.discardedWriteReportHash),
    ("discarded_write_report_complete", .bool report.discardedWriteReportComplete),
    ("measured_rpo_ms", jsonInteger report.measuredRpoMs),
    ("measured_rto_ms", jsonInteger report.measuredRtoMs), ("verified_at", .str report.verifiedAt)])

def progressJson (s : World) (restoreId : Text) : JsonValue :=
  .obj (object [("participants_total", jsonNat (s.countParticipants restoreId fun _ => true)),
    ("participants_restored",
      jsonNat (s.countParticipants restoreId fun p => isRestored p.status)),
    ("transactions_total", jsonNat (s.countRecords restoreId fun _ => true)),
    ("transactions_reconciled", jsonNat (s.countRecords restoreId fun r => r.reconciled))])

def statusResponse (s : World) (operation : OperationRow) : Response :=
  json [("protocol_version", jsonNat restoreProtocolVersion),
    ("format_version", jsonNat restoreStatusFormatVersion),
    ("restore_id", jsonText operation.restoreId), ("plan_hash", jsonOption .str operation.planHash),
    ("fleet_id", jsonText operation.fleetId), ("cutoff", jsonText operation.cutoff),
    ("phase", .str (utf16 operation.phase.text)),
    ("started_at", jsonOption .str operation.startedAt), ("updated_at", .str operation.updatedAt),
    ("completed_at", jsonOption .str operation.completedAt),
    ("progress", progressJson s operation.restoreId),
    ("blockers", .arr ((operation.blockerJson.getD []).map blockerJson)),
    ("report", jsonOption reportJson operation.reportJson)]

/-- the answer to a question about the status, in a store -/
def statusOf (restoreId : Text) (s : World) : Try Response :=
  match s.operation restoreId with
  | none => failRestore .invalidRequest operationMissing
  | some operation =>
    if operation.planHash.isNone && operation.stage == .failed then
      failRestore .conflict
        (said "Restore preview failed before an immutable plan could be created.")
    else .ok (statusResponse s operation)

def handleStatus (body : Option JsonValue) : Coord Response := do
  let value ← .ofExcept (jsonBody body)
  let restoreId ← .ofExcept (validateRestoreStatusRequest value)
  let s ← .read
  .ofExcept (statusOf restoreId s)

/-! ## rollback -/

/-- all blockers are interruptions -/
def isInterrupted (operation : OperationRow) : Bool :=
  let blockers := operation.blockerJson.getD []
  !blockers.isEmpty && blockers.all fun b => b.code == .interrupted || b.code == .unavailable

/-- the checkpoint that an operation was parked at is taken up again -/
def resumed (restoreId : Text) (s : World) : World :=
  s.setOperation restoreId fun op => { op with
    phase := op.resumePhase.getD op.phase
    stage := op.resumeStage.getD op.stage
    blockerJson := none
    resumePhase := none
    resumeStage := none
    updatedAt := isoOf E s.now }

/-- the rewinding of all that was rewound -/
def turnedBack (restoreId : Text) (s : World) : World :=
  let participants := s.participants.updateWhere
    (fun p => p.restoreId == restoreId && p.status != .rollbackReleased)
    (fun p => { p with
      status := if p.undoBookmark.isNone then .rollbackNotNeeded else .rollbackPending })
    fun _ => rfl
  ({ s with participants }.setOperation restoreId fun op => { op with
    phase := .rollingBack
    stage := .rollbackParticipants
    blockerJson := none
    resumePhase := none
    resumeStage := none
    updatedAt := isoOf E s.now }).setGatePhase restoreId .rollingBack

/-- whether the undo bookmarks of a plan are there and still hold -/
def undoExpired (now : Int) (plan : JsonValue) : Try Bool :=
  let rollback := match plan with
    | .obj es => get es "rollback"
    | _ => none
  match rollback with
  | some (.obj rollback) =>
    let expires := match get rollback "undo_expires_at" with
      | some (.str text) => reached E now text
      | value => isNull value
    .ok (!isTrue (get rollback "undo_supported") || expires)
  | _ => .error (.other (utf16 "Cannot read properties of undefined"))

/-- whether a restore can be rolled back from where it stands -/
def checkRollback (operation : OperationRow) (plan : JsonValue) (s : World) : Try Unit := do
  let expired ← undoExpired E s.now plan
  refuseIf expired .planStale (said "Restore undo bookmarks are unavailable or expired.")
  refuseIf (operation.stage == .complete) .conflict
    (said "A completed restore cannot be rolled back after its fleet fence is released.")
  refuseIf (0 < s.countParticipants operation.restoreId fun p => p.status == .released) .conflict
    (said "Rollback is unavailable after any participant restore fence has been released.")
  refuseIf (0 < s.countWork operation.restoreId fun w => w.status == .discarded) .conflict
    (said "Rollback is unavailable after irreversible post-cutoff coordinator discard.")
  refuseIf (!s.gate.active || s.gate.restoreId != some operation.restoreId
      || some s.gate.generation != operation.fenceGeneration) .conflict
    (said "Rollback requires the original fleet fence to remain active.")
  refuseIf (s.countParticipants operation.restoreId (fun p => p.undoBookmark.isSome) == 0) .conflict
    (said "No participant restore has been armed, so there is nothing to roll back.")

/-- what a rollback finds -/
inductive Rollback where
  | done (response : Response)
  /-- a rollback that goes on by itself -/
  | underway
  | resume
  | start

def findRollback (request : PlanRequest) (s : World) : Try Rollback :=
  match s.operation request.restoreId with
  | none =>
    failRestore .planHashMismatch (said "Restore rollback requires the exact immutable plan hash.")
  | some operation =>
    match operation.planJson with
    | none =>
      failRestore .planHashMismatch
        (said "Restore rollback requires the exact immutable plan hash.")
    | some plan =>
      if operation.planHash ≠ some request.planHash then
        failRestore .planHashMismatch
          (said "Restore rollback requires the exact immutable plan hash.")
      else if operation.stage = .rolledBack then
        .ok (.done (acceptedResponse "already_started" request.restoreId request.planHash 200))
      else if operation.phase = .rollingBack then .ok .underway
      else if operation.stage = .manualRepairRequired
          ∧ operation.resumePhase = some .rollingBack then
        if !isInterrupted operation || operation.resumeStage.isNone then
          failRestore .conflict
            (said "Rollback is blocked by a non-retryable invariant or missing resume checkpoint.")
        else .ok .resume
      else do
        checkRollback E operation plan s
        return .start

def handleRollback (body : Option JsonValue) : Coord Response := do
  let value ← .ofExcept (jsonBody body)
  let request ← .ofExcept (validateRestoreRollbackRequest value)
  let s ← .read
  match ← .ofExcept (findRollback E request s) with
  | .done response => return response
  | .underway => do
    schedule none
    return acceptedResponse "already_started" request.restoreId request.planHash
  | .resume => do
    .modify (resumed E request.restoreId)
    advanceOrPark E request.restoreId
    schedule none
    return acceptedResponse "already_started" request.restoreId request.planHash
  | .start => do
    .modify (turnedBack E request.restoreId)
    advanceOrPark E request.restoreId
    schedule none
    return acceptedResponse "accepted" request.restoreId request.planHash

/-! ## reconciliation -/

/-- what a reconciliation finds -/
inductive Reconciliation where
  | done (response : Response)
  | resume
  | advance

def findReconciliation (request : PlanRequest) (s : World) : Try Reconciliation :=
  match s.operation request.restoreId with
  | none =>
    failRestore .planHashMismatch (said "Restore reconcile requires the exact immutable plan hash.")
  | some operation =>
    if operation.planHash ≠ some request.planHash then
      failRestore .planHashMismatch
        (said "Restore reconcile requires the exact immutable plan hash.")
    else if operation.stage = .complete then
      .ok (.done (acceptedResponse "already_started" request.restoreId request.planHash 200))
    else if !s.gate.active || s.gate.restoreId != some operation.restoreId then
      failRestore .conflict
        (said "Restore fence is not active; reconciliation cannot safely resume.")
    else if operation.stage ≠ .manualRepairRequired then .ok .advance
    else if !isInterrupted operation then
      failRestore .conflict ((said "This blocker requires a versioned repair attestation or ").then
        (utf16 "rollback; automatic reconcile is unsafe."))
    else if operation.resumeStage.isNone || operation.resumePhase.isNone then
      failRestore .interrupted (said "Restore operation has no durable resume checkpoint.")
    else .ok .resume

def handleReconcile (body : Option JsonValue) : Coord Response := do
  let value ← .ofExcept (jsonBody body)
  let request ← .ofExcept (validateRestoreReconcileRequest value)
  let s ← .read
  match ← .ofExcept (findReconciliation request s) with
  | .done response => return response
  | .resume => do
    .modify (resumed E request.restoreId)
    advanceOrPark E request.restoreId
    schedule none
    return acceptedResponse "already_started" request.restoreId request.planHash
  | .advance => do
    advanceOrPark E request.restoreId
    schedule none
    return acceptedResponse "already_started" request.restoreId request.planHash

/-! ## the alarm -/

/-- the operation that has waited longest -/
def nextDue (s : World) : Option OperationRow :=
  s.operations.first (fun op => !op.stage.terminal) fun op => byBytes op.updatedAt

/-- the operation that an alarm goes on with -/
def alarmed (s : World) : Option OperationRow :=
  match gatedOperation s with
  | some operation => if operation.stage.terminal then none else some operation
  | none => if s.gate.active then none else nextDue s

/-- the operation that the next alarm is for -/
def pending (s : World) : Option OperationRow :=
  match s.gate.active, s.gate.restoreId with
  | true, some restoreId => (s.operation restoreId).filter fun op => !op.stage.terminal
  | _, _ => nextDue s

def touched (restoreId : Text) (s : World) : World :=
  s.setOperation restoreId fun op => { op with updatedAt := isoOf E s.now }

def alarm : Coord Unit := do
  let s ← .read
  match alarmed s with
  | none => .pure ()
  | some operation => do
    .modify (touched E operation.restoreId)
    advanceOrPark E operation.restoreId
    let s ← .read
    match pending s with
    | none => .pure ()
    | some operation =>
      schedule none (max restoreAlarmDelayMs (operation.retryNotBeforeMs.getD 0 - s.now))

/-! ## the object -/

def handle : Route → Option JsonValue → Coord Response
  | .gate => handleGate E
  | .registerCoordinator => handleRegisterCoordinator E
  | .preview => handlePreview E
  | .execute => handleExecute E
  | .status => handleStatus
  | .reconcile => handleReconcile E
  | .rollback => handleRollback E

def unhandled : Violation where
  code := .unavailable
  message := said "Restore coordinator is temporarily unavailable."
  details := []

def respond (route : Route) (body : Option JsonValue) : Coord Response :=
  (handle E route body).rescue fun
    | .violation v => .pure (restoreResponse v)
    | .other _ => .pure (restoreResponse unhandled)

/-- `mutationTail` -/
def World.chain (f : Barrier → Barrier) (s : World) : World := { s with mutations := f s.mutations }

/-- `runMutation` -/
def runMutation {α : Type} (work : Coord α) : Coord α := exclusive World.mutations World.chain work

/-- the routes that are not queued -/
def isDirect : Route → Bool
  | .gate | .status | .registerCoordinator => true
  | _ => false

def fetch (route : Route) (body : Option JsonValue) : Coord Response :=
  if isDirect route then respond E route body else runMutation (respond E route body)

def handler : Request → Coord Unit
  | .fetch route body => do
    let response ← fetch E route body
    .modify fun s => { s with sent := s.sent ++ [(.fetch route body, response)] }
  | .alarm => runMutation (alarm E)

/-- the object; what comes in from outside is what the clock shows -/
def coordinator : System World Call Call.Answer Thrown Unit Request Int where
  handler := handler E
  answers _ _ := true
  event now s := { s with now }
  restart s := { s with mutations := .fresh }

end
end FleetRestore
