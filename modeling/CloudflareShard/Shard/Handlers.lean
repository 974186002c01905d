import CloudflareShard.Shard.Participant

/-!
# The endpoints of a shard

* `certifyRestoreCheckpoint`, `handlePitrPreview`   restore checkpoints;
* `handleExecute`                                   direct writes;
* `deliverMirrorJob`, `mutateAlarmQueue`            the queue of mirrored writes;
* `handle`, `fetch`, `alarm`                        the way into the object, through the barrier;
* `system`                                          the object as a system of handlers.
-/

namespace Shard
open Async Contracts

variable {D : Type} (E : Engine D) (H : Digests) (B : Bindings)

def directWriteLossRetentionMs : Nat := 35 * 24 * 60 * 60 * 1000
def appliedRequestsTtlMs : Nat := 7 * 24 * 60 * 60 * 1000
def pruneIntervalMs : Nat := 60 * 60 * 1000

/-! ## gates -/

def restoreGateUnavailable
    (message : String := "The fleet restore gate is unavailable; writes are denied.") : Response :=
  json (.failure "RESTORE_GATE_UNAVAILABLE" message none none) 503

/-- the snapshot of the restore authority, `none` when none is bound -/
def restoreGateSnapshot (claim : Option (String × Nat)) :
    Sh D (Option (Bool × Option String × Nat)) := do
  if !B.restoreCoordinator then
    .pause
    return none
  else
    match ← .call (.gate claim) .pure with
    | .error () => .throw (.error "restore gate unreachable")
    | .ok (.refused status) => .throw (.error ("restore gate responded " ++ toString status))
    | .ok .malformed => .throw (.error "restore gate returned a malformed snapshot")
    | .ok (.snapshot active restoreId generation) => return some (active, restoreId, generation)

def requireRestoreGateOpen : Sh D (Option Response) := do
  match ← (restoreGateSnapshot B none).attempt with
  | .error _ => return some restoreGateUnavailable
  | .ok (some (true, restoreId, generation)) =>
    return some (json (.fenced restoreId generation) 503)
  | .ok _ => return none

/-- the response that refuses the claim, `none` when the authority holds the fence -/
def matchingRestoreFence (restoreId : Option String) (generation : Option Nat) :
    Sh D (Option Response) := do
  match restoreId, generation with
  | some restoreId, some (generation + 1) =>
    if restoreId = "" then
      return some (json (.message "Missing/invalid restoreId or generation.") 400)
    else
      match ← (restoreGateSnapshot B (some (restoreId, generation + 1))).attempt with
      | .error _ => return some restoreGateUnavailable
      | .ok none =>
        return some (restoreGateUnavailable
          "RESTORE_COORDINATOR is not configured for restore control operations.")
      | .ok (some (active, id, at_)) =>
        if active = false ∨ id ≠ some restoreId ∨ at_ ≠ generation + 1 then
          return some (json (.failure "RESTORE_FENCE_MISMATCH"
            "External restore authority does not hold the requested fence." none none) 409)
        else return none
  | _, _ => return some (json (.message "Missing/invalid restoreId or generation.") 400)

/-! ## checkpoints -/

def markRestoreCheckpointDirty : Sh D Unit :=
  .modify fun s => { s with checkpointMeta := { s.checkpointMeta with dirty := true } }

/-- the newest of the checkpoints, whose times are the primary key -/
def latestCheckpoint (s : Store D) : Option Checkpoint :=
  s.checkpoints.foldl later none
where
  later (best : Option Checkpoint) (c : Checkpoint) : Option Checkpoint :=
    if best.all (·.checkpointAtMs < c.checkpointAtMs) then some c else best

def recordCheckpoint (bookmark : Bookmark) (checkpointAtMs : Nat) (s : Store D) : Store D :=
  let retentionFloor := checkpointAtMs - directWriteLossRetentionMs
  let others := s.checkpoints.filter fun c => c.checkpointAtMs != checkpointAtMs
  { s with
    checkpoints := (others ++ [({ checkpointAtMs, bookmark } : Checkpoint)]).filter fun c =>
      retentionFloor ≤ c.checkpointAtMs
    checkpointMeta :=
      { dirty := false
        coverageStartMs :=
          some (max (s.checkpointMeta.coverageStartMs.getD checkpointAtMs) retentionFloor) } }

/-- `none` when no new checkpoint is called for -/
def dueCheckpoint (s : Store D) : Option Checkpoint :=
  match latestCheckpoint s with
  | none => none
  | some latest =>
    if s.checkpointMeta.dirty = false ∨ s.now < latest.checkpointAtMs + 1000 then some latest
    else none

def certifyRestoreCheckpoint : Sh D Checkpoint := do
  match ← gets dueCheckpoint with
  | some latest => return latest
  | none =>
    let bookmark ← getCurrentBookmark .checkpoint
    -- the time is read after the provider has answered
    let checkpointAtMs ← dateNow
    .modify (recordCheckpoint bookmark checkpointAtMs)
    return { checkpointAtMs, bookmark }

def pruneDirectWriteLossJournal : Sh D Unit :=
  .modify fun s =>
    { s with
      journal := s.journal.filter (s.now < ·.expiresAtMs)
      coverage :=
        { s.coverage with
          coverageStartMs :=
            max s.coverage.coverageStartMs (s.now - directWriteLossRetentionMs) } }

/-- the newest checkpoint that a cutoff can be restored to -/
def checkpointAtOrBefore (coverageStart cutoff : Nat) (s : Store D) : Option Checkpoint :=
  latestCheckpoint { s with
    checkpoints := s.checkpoints.filter fun c =>
      coverageStart ≤ c.checkpointAtMs && c.checkpointAtMs ≤ cutoff }

def handlePitrPreview (cutoff : Option Nat) (claim : RestoreClaim) : Sh D Response := do
  .pause
  let refused ←
    (if claim.generation.isSome then matchingRestoreFence B claim.restoreId claim.generation
      else requireRestoreGateOpen B)
  match refused, cutoff with
  | some response, _ => return response
  | none, none =>
    return json (.message "cutoff must be an ISO timestamp or epoch milliseconds.") 400
  | none, some cutoff =>
    pruneDirectWriteLossJournal
    let _ ← certifyRestoreCheckpoint
    let s ← .read
    match s.checkpointMeta.coverageStartMs with
    | none => .throw (.error "Restore checkpoint coverage has not been certified.")
    | some checkpointCoverageStart =>
      let coverageStart := max s.coverage.coverageStartMs checkpointCoverageStart
      if cutoff < coverageStart then
        return json (.failure "DIRECT_WRITE_LOSS_COVERAGE_GAP"
          "The requested cutoff predates certified direct-write journal coverage." none none) 409
      else
        match checkpointAtOrBefore coverageStart cutoff s with
        | none =>
          return json (.failure "RESTORE_BOOKMARK_MISSING"
            "No certified exact checkpoint exists at or before cutoff." none none) 409
        | some target =>
          let currentBookmark ← getCurrentBookmark .preview
          return json (.preview target.bookmark currentBookmark coverageStart
            target.checkpointAtMs s.coverage.journaledThroughMs
            s.coverage.journaledThroughSequence)

/-! ## the local fence -/

def handleRestoreFence (claim : RestoreClaim) (action : Option String) : Sh D Response := do
  .pause
  match ← matchingRestoreFence B claim.restoreId claim.generation with
  | some response => return response
  | none =>
    let restoreId := claim.restoreId.getD ""
    let generation := claim.generation.getD 0
    let existing ← gets (·.restoreState)
    if existing.any fun state => state.restoreId != restoreId || state.generation != generation then
      return json (.failure "RESTORE_FENCE_CONFLICT"
        "A different restore generation is already recorded locally." none none) 409
    else if action = some "release" then
      if existing.any fun state => !(["fenced", "install"].contains state.phase) then
        return json (.failure "RESTORE_RELEASE_REQUIRES_PITR_RELEASE"
          "PITR staging has begun; use /pitr-release after verification." none none) 409
      else
        .modify ({ · with restoreState := none })
        return json (.restoreFence restoreId generation none)
    else
      let _ ← getCurrentBookmark .fence
      let phase := if action.getD "" = "" then "fenced" else action.getD ""
      .modify ({ · with restoreState := some { restoreId, generation, phase } })
      let closedThroughBookmark ← getCurrentBookmark .fence
      let closedThroughMs ← dateNow
      return json (.restoreFence restoreId generation
        (some (closedThroughMs, closedThroughBookmark)))

/-! ## direct writes -/

structure ExecutePayload where
  sql : String
  params : List JsonPrimitive
  requestId : String
  tenantId : Option String
  table : Option String
  partitionKey : Option String
  vbucket : Option Nat
  isMirror : Bool
  clientRequestId : Option String
  indexName : Option String
  mirrorTargetShardId : Option ShardId

def directWriteKind (payload : ExecutePayload) : DirectWriteKind :=
  if payload.isMirror then .mirror
  else if payload.indexName.any (· ≠ "") then .index
  else .direct

/-- tenant, table and partition key, when the gateway sent all three -/
def rowOf (payload : ExecutePayload) : Option (String × String × String) :=
  match payload.tenantId, payload.table, payload.partitionKey with
  | some tenantId, some table, some partitionKey =>
    if tenantId = "" ∨ table = "" ∨ partitionKey = "" then none
    else some (tenantId, table, partitionKey)
  | _, _, _ => none

def rowLockedResponse : Response :=
  json (.failure "TX_PARTICIPANT_LOCKED" "This row is locked by an in-flight coordinated transaction."
    (some "Retry after the transaction resolves, or check /admin/tx-status.") none) 409

/-- why a new write is turned away: fences first, then the row lock -/
def refusedWrite (payload : ExecutePayload) (s : Store D) : Option Response :=
  if !payload.isMirror && payload.vbucket.any s.fencedVbuckets.contains then
    some (fencedResponse (payload.vbucket.getD 0))
  else if payload.indexName.any s.fencedIndexRings.contains then
    some (indexFencedResponse (payload.indexName.getD ""))
  else
    match rowOf payload with
    | some (tenantId, table, partitionKey) =>
      if !payload.isMirror && (s.lockOf (rowKey tenantId table partitionKey)).isSome then
        some rowLockedResponse
      else none
    | none => none

def mirrorRequestId (tenantId table partitionKey originalRequestId : String) : String :=
  reservedRequestIdPrefix ++ "mirror:" ++
    Json.array [Json.quote tenantId, Json.quote table, Json.quote partitionKey,
      Json.quote originalRequestId]

/-- provenance and mirror of a direct write that touched a row -/
def recordDirectWrite (payload : ExecutePayload) (rowsAffected : Nat) (s : Store D) :
    Store D × Bool :=
  match rowOf payload, payload.vbucket with
  | some (tenantId, table, partitionKey), some vbucket =>
    if rowsAffected = 0 then (s, false)
    else
      let s := writeOrDeleteProvenance E payload.sql table partitionKey tenantId vbucket s
      match payload.mirrorTargetShardId with
      | some target =>
        if target = "" ∨ payload.isMirror then (s, false)
        else
          (enqueueMirrorJob target payload.sql payload.params
            (mirrorRequestId tenantId table partitionKey payload.requestId) vbucket tenantId table
            partitionKey (some payload.requestId) s, true)
      | none => (s, false)
  | _, _ => (s, false)

def recordClientRequest (payload : ExecutePayload) (incomingHash : Hash) (result : MutationResult)
    (s : Store D) : Store D :=
  match payload.clientRequestId with
  | some clientRequestId =>
    if payload.isMirror = false ∨ clientRequestId = ""
        ∨ s.appliedRequests.any (·.requestId == clientRequestId) then s
    else
      { s with
        appliedRequests := s.appliedRequests ++
          [{ requestId := clientRequestId, requestHash := incomingHash, result
             appliedAt := s.now }] }
  | none => s

/-- the loss evidence of a write, at the time it commits -/
def journalWrite (payload : ExecutePayload) (incomingHash writeHash : Hash) (s : Store D) :
    Store D :=
  { s with
    journalSequence := s.journalSequence + 1
    journal := s.journal ++
      [{ sequence := s.journalSequence + 1, requestId := payload.requestId
         requestHash := incomingHash, writeHash, kind := directWriteKind payload
         appliedAtMs := s.now, expiresAtMs := s.now + directWriteLossRetentionMs }]
    coverage :=
      { s.coverage with
        journaledThroughMs := max s.coverage.journaledThroughMs s.now
        journaledThroughSequence :=
          max s.coverage.journaledThroughSequence (s.journalSequence + 1) } }

/-- the storage transaction of a direct write -/
def executeSync (payload : ExecutePayload) (incomingHash writeHash : Hash) (execStart : Nat)
    (s : Store D) : Except ShardError ((MutationResult × Bool) × Store D) :=
  match E.exec payload.sql payload.params s.data with
  | .error message => .error (.error message)
  | .ok (data, rowsAffected) =>
    let result : MutationResult := { rowsAffected, executeMs := s.now - execStart }
    if s.appliedRequests.any (·.requestId == payload.requestId) then
      .error (.error "UNIQUE constraint failed: applied_requests.request_id")
    else
      let s :=
        { s with
          data
          appliedRequests := s.appliedRequests ++
            [{ requestId := payload.requestId, requestHash := incomingHash, result
               appliedAt := s.now }] }
      let (s, enqueuedMirror) :=
        recordDirectWrite E payload rowsAffected (recordClientRequest payload incomingHash result s)
      .ok ((result, enqueuedMirror), journalWrite payload incomingHash writeHash s)

def executeMutation (payload : ExecutePayload) (execStart : Nat) : Sh D Response := do
  .pause
  let incomingHash := H.requestHash payload.sql payload.params
  let _ ← .ask .writeHash
  let writeHash := H.hashCanonicalJson (.directWrite payload.requestId incomingHash
    (directWriteKind payload) payload.tenantId payload.table payload.partitionKey payload.vbucket)
  let s ← .read
  match s.appliedRequests.find? (·.requestId == payload.requestId) with
  | some prior =>
    if prior.requestHash ≠ incomingHash then
      return json (.message
        ("requestId was already used with different sql/params — refusing to replay a "
          ++ "mismatched result.")) 409
    else return json (.mutation true prior.result)
  | none =>
    match refusedWrite payload s with
    | some response => return response
    | none =>
      let (result, enqueuedMirror) ←
        mutation (executeSync E payload incomingHash writeHash execStart)
      mirrorSoon enqueuedMirror
      return json (.mutation false result)

def executeQuery (payload : ExecutePayload) (execStart : Nat) : Sh D Response := do
  let s ← .read
  match E.query payload.sql payload.params s.data with
  | .error message => .throw (.error message)
  | .ok rows => return json (.query rows (s.now - execStart))

def handleExecute (payload : ExecutePayload) : Sh D Response := do
  .pause
  if payload.sql = "" ∨ payload.requestId = "" then
    return json (.message "Missing sql or requestId") 400
  else
    let execStart ← dateNow
    (if E.isMutation payload.sql then executeMutation E H payload execStart
      else executeQuery E payload execStart).rescue fun _ =>
        return json (.message "SQL execution failed.") 400

/-! ## small endpoints -/

def handleInvalidateRequest (requestId : Option String) : Sh D Response := do
  .pause
  match requestId with
  | none | some "" => return json (.message "Missing requestId") 400
  | some requestId =>
    mutate fun s =>
      { s with appliedRequests := s.appliedRequests.filter (·.requestId != requestId) }
    return json .ok

def handleFenceVbucket (vbucket : Option Nat) : Sh D Response := do
  .pause
  match vbucket with
  | none => return json (.message "Missing vbucket") 400
  | some vbucket =>
    mutate fun s => { s with fencedVbuckets := s.fencedVbuckets.insert vbucket }
    return json .ok

def handleUnfenceVbucket (vbucket : Option Nat) : Sh D Response := do
  .pause
  match vbucket with
  | none => return json (.message "Missing vbucket") 400
  | some vbucket =>
    mutate fun s => { s with fencedVbuckets := s.fencedVbuckets.filter (· != vbucket) }
    return json .ok

def handleFenceIndexRing (indexName : Option String) : Sh D Response := do
  .pause
  match indexName with
  | none | some "" => return json (.message "Missing indexName") 400
  | some indexName =>
    mutate fun s => { s with fencedIndexRings := s.fencedIndexRings.insert indexName }
    return json .ok

def handleUnfenceIndexRing (indexName : Option String) : Sh D Response := do
  .pause
  match indexName with
  | none | some "" => return json (.message "Missing indexName") 400
  | some indexName =>
    mutate fun s => { s with fencedIndexRings := s.fencedIndexRings.filter (· != indexName) }
    return json .ok

/-! ## mirrored writes -/

/-- `try p finally release` around what runs inside the barrier -/
def insideBarrier {α : Type} (p : Sh D α) : Sh D α :=
  acquireMutationBarrier fun ticket => p.andFinally (releaseMutationBarrier ticket)

def mutateAlarmQueue (work : Store D → Store D) : Sh D Bool :=
  insideBarrier do
    let refused ← requireRestoreGateOpen B
    let state ← gets (·.restoreState)
    if refused.isSome || state.isSome then return false
    else
      markRestoreCheckpointDirty
      mutate work
      let _ ← certifyRestoreCheckpoint
      return true

def commitQueueMutation (fromAlarm : Bool) (work : Store D → Store D) : Sh D Bool := do
  if fromAlarm then mutateAlarmQueue B work
  else
    mutate work
    return true

def dropJob (job : MirrorJob) (s : Store D) : Store D :=
  { s with mirrors := s.mirrors.filter (·.jobId != job.jobId) }

def postponeJob (job : MirrorJob) (s : Store D) : Store D :=
  let delay := min mirrorJobMaxDelayMs (mirrorJobBaseDelayMs * 2 ^ job.attemptCount)
  { s with
    mirrors := s.mirrors.map fun j =>
      if j.jobId = job.jobId then
        { j with attemptCount := job.attemptCount + 1, nextAttemptAt := s.now + delay }
      else j }

def deliverMirrorJob (job : MirrorJob) (fromAlarm : Bool) : Sh D Bool := do
  match ← .call (.deliverMirror job) .pure with
  | .ok true => commitQueueMutation B fromAlarm (dropJob job)
  | _ =>
    let _ ← commitQueueMutation B fromAlarm (postponeJob job)
    return false

def alarmDeliveryBlocked : Sh D Bool := do
  let refused ← requireRestoreGateOpen B
  let state ← gets (·.restoreState)
  return refused.isSome || state.isSome

/-- delivers until the gate shuts; is it shut? -/
def deliverDue : List MirrorJob → Sh D Bool
  | [] => .pure false
  | job :: jobs => do
    if ← alarmDeliveryBlocked B then return true
    else
      let delivered ← deliverMirrorJob B job true
      let blocked ← (if delivered then .pure false else alarmDeliveryBlocked B)
      if blocked then return true else deliverDue jobs

def processMirrorPendingJobs : Sh D (Option Nat) := do
  let due ← gets fun s =>
    (s.mirrors.filter (·.nextAttemptAt ≤ s.now)).take mirrorJobBatchSize
  let blocked ← deliverDue B due
  let s ← .read
  if blocked then return some (s.now + mirrorJobBaseDelayMs)
  else return (s.mirrors.map (·.nextAttemptAt)).min?

def deliverAll : List MirrorJob → Sh D Unit
  | [] => .pure ()
  | job :: jobs => do
    let _ ← deliverMirrorJob B job false
    deliverAll jobs

def handleDrainMirrorJobs (vbucket : Option Nat) : Sh D Response := do
  .pause
  match vbucket with
  | none => return json (.message "Missing vbucket") 400
  | some vbucket =>
    let jobs ← gets fun s => s.mirrors.filter (·.vbucket == vbucket)
    deliverAll B jobs
    let remaining ← gets fun s => (s.mirrors.filter (·.vbucket == vbucket)).length
    return json (.remaining remaining)

/-! ## dispatch -/

inductive Request where
  | execute (payload : ExecutePayload)
  | prepare (raw : RawMessage) (intents : Option (List BeginIntent)) (claim : RestoreClaim)
  | commit (raw : RawMessage)
  | abort (raw : RawMessage) (legacyPredecisionAbort : Bool)
  | recover (raw : RawMessage) (decision : Option ParticipantDecision) (claim : RestoreClaim)
  | txStatus (raw : RawMessage) (asksBookmark : Bool)
  | invalidateRequest (requestId : Option String)
  | fenceVbucket (vbucket : Option Nat)
  | unfenceVbucket (vbucket : Option Nat)
  | fenceIndexRing (indexName : Option String)
  | unfenceIndexRing (indexName : Option String)
  | drainMirrorJobs (vbucket : Option Nat)
  | restoreFence (claim : RestoreClaim) (action : Option String)
  | pitrPreview (cutoff : Option Nat) (claim : RestoreClaim)

/-- the paths in `SHARD_MUTATING_PATHS` -/
def Request.mutating : Request → Bool
  | .txStatus .. => false
  | .restoreFence .. => false
  | .pitrPreview .. => false
  | _ => true

/-- the paths in `SHARD_BARRIER_PATHS` -/
def Request.barriered : Request → Bool
  | .txStatus .. => false
  | _ => true

def route : Request → Sh D Response
  | .execute payload => handleExecute E H payload
  | .prepare raw intents _ => handlePrepare E H B raw intents
  | .commit raw => handleCommit E H raw
  | .abort raw legacyPredecisionAbort => handleAbort H raw legacyPredecisionAbort
  | .recover raw decision _ => handleRecover E H raw decision
  | .txStatus raw asksBookmark => handleTxStatus H raw asksBookmark
  | .invalidateRequest requestId => handleInvalidateRequest requestId
  | .fenceVbucket vbucket => handleFenceVbucket vbucket
  | .unfenceVbucket vbucket => handleUnfenceVbucket vbucket
  | .fenceIndexRing indexName => handleFenceIndexRing indexName
  | .unfenceIndexRing indexName => handleUnfenceIndexRing indexName
  | .drainMirrorJobs vbucket => handleDrainMirrorJobs B vbucket
  | .restoreFence claim action => handleRestoreFence B claim action
  | .pitrPreview cutoff claim => handlePitrPreview B cutoff claim

/-- the claim that a `/prepare` or a `/recover` replays under -/
def Request.claim : Request → Option RestoreClaim
  | .prepare _ _ claim | .recover _ _ claim =>
    if claim.restoreId.isSome ∨ claim.generation.isSome then some claim else none
  | _ => none

def Request.claimable : Request → Bool
  | .prepare .. | .recover .. => true
  | _ => false

/-- the response that refuses a mutating request at the fleet's gate -/
def mutationGate (request : Request) : Sh D (Option Response) := do
  if request.claimable then .pause
  match request.claim with
  | some claim => matchingRestoreFence B claim.restoreId claim.generation
  | none => requireRestoreGateOpen B

/-- `try { return await p } finally { await certify }` -/
def thenCertify {α : Type} (p : Sh D α) : Sh D α := do
  let result ← p.attempt
  let _ ← certifyRestoreCheckpoint
  .ofExcept result

/-- a mutating request inside the barrier -/
def handleMutation (request : Request) : Sh D Response := do
  match ← mutationGate B request with
  | some response => return response
  | none =>
    let state ← gets (·.restoreState)
    if request.claim.isNone && state.isSome then
      return json (.failure "RESTORE_FENCE_ACTIVE"
        "The participant-local restore fence blocks mutation." none none) 503
    else
      markRestoreCheckpointDirty
      thenCertify (route E H B request)

/-- a handler that only controls a restore is returned, not awaited, inside `try`, so that `finally`
gives the barrier back at its first await -/
def handle (request : Request) : Sh D Response :=
  if request.mutating then insideBarrier (handleMutation E H B request)
  else if request.barriered then
    acquireMutationBarrier fun ticket =>
      (route E H B request).unawaited (releaseMutationBarrier ticket)
  else route E H B request

def errorResponse : ShardError → Response
  | .contract error => protocolResponse error
  | .error _ => json (.message "Internal error.") 500

def fetch (request : Request) : Sh D Response :=
  (handle E H B request).rescue fun e => return errorResponse e

/-! ## alarm -/

def pruneAppliedRequests (s : Store D) : Store D :=
  { s with
    appliedRequests := s.appliedRequests.filter fun r => s.now ≤ r.appliedAt + appliedRequestsTtlMs }

/-- tombstones past their retention deadline -/
def pruneTombstones (s : Store D) : Store D :=
  { s with
    tombstones := s.tombstones.filter fun t => s.now ≤ t.retentionDeadline
    pruned := s.pruned ++
      (s.tombstones.filter fun t => t.retentionDeadline < s.now).map (·.txId) }

/-- what an alarm drops, and the decisions it looks for -/
def maintain : Sh D Unit := do
  mutate pruneAppliedRequests
  mutate pruneTombstones
  pruneDirectWriteLossJournal
  sweepStalePendingIntents E

/-- the part of the alarm inside the barrier; is the object fenced? -/
def alarmMaintenance : Sh D Bool := do
  match ← requireRestoreGateOpen B with
  | some _ =>
    let now ← dateNow
    setAlarm (now + pruneIntervalMs)
    return true
  | none =>
    let state ← gets (·.restoreState)
    if state.isSome then
      let now ← dateNow
      setAlarm (now + pruneIntervalMs)
      return true
    else
      markRestoreCheckpointDirty
      maintain E
      let _ ← certifyRestoreCheckpoint
      return false

/-- the platform takes the alarm that fires out of storage -/
def alarm : Sh D Unit := do
  .modify ({ · with alarm := none })
  if ← insideBarrier (alarmMaintenance E B) then return ()
  else
    -- deliveries are made without the barrier: two shards may deliver to each other
    let nextMirrorJobRetry ← processMirrorPendingJobs B
    let now ← dateNow
    let nextAlarm := min (now + pruneIntervalMs) (nextMirrorJobRetry.getD (now + pruneIntervalMs))
    setAlarmNoLater nextAlarm

/-! ## the object -/

inductive Activity where
  | request (request : Request)
  | alarm

/-- every answer is possible -/
def anyAnswer (q : Ask) (_ : q.Answer) : Bool := true

/-- the events from outside set the clock -/
def system : System (Store D) Ask Ask.Answer ShardError (Option Response) Activity Nat where
  handler
    | .request request => do return some (← fetch E H B request)
    | .alarm => do
      alarm E B
      return none
  answers := anyAnswer
  event now s := { s with now }
  restart := Store.restart

/-! ## a plain environment -/

/-- an engine that runs every statement and counts them -/
def countingEngine : Engine Nat where
  exec _ _ n := .ok (n + 1, 1)
  query _ _ _ := .ok []
  isMutation _ := true
  isDeleteStatement _ := false

def plainHash : Hash := String.ofList (List.replicate 64 'a')

def plainDigests : Digests where
  hashCanonicalJson _ := plainHash
  requestHash _ _ := plainHash

/-- no restore authority is bound -/
def plainBindings : Bindings where
  restoreCoordinator := false

def plainAnswers : ∀ q : Ask, q.Answer
  | .gate _ => .error ()
  | .currentBookmark _ _ => .ok ()
  | .writeHash => ()
  | .coordinatorDecision _ => .error ()
  | .deliverMirror _ => .ok true

def plainMessage (txId : TxId) (phase : ParticipantPhase) : ParticipantMessage :=
  { protocolVersion := currentProtocolVersion, txId, epoch := 1, phase, operationHash := plainHash }

def plainIntent (partitionKey : String) : BeginIntent :=
  { sql := "UPDATE rows SET n = 1 WHERE id = ?", params := [], tenantId := "tenant", table := "rows"
    partitionKey, mirrorTargetShardId := none, vbucket := none, op := none }

/-- the handler of thread `i` runs through `awaits` awaits -/
def served (activity : Activity) (i awaits : Nat) : List (Choice Ask Ask.Answer Activity Nat) :=
  .run (.arrive activity) :: List.replicate awaits (.run (.resume i plainAnswers))

def plainRun (xs : List (Choice Ask Ask.Answer Activity Nat)) : Store Nat :=
  ((system countingEngine plainDigests plainBindings).run ⟨Store.empty 0, []⟩ xs).store

end Shard
