import CloudflareShard.Async.Run
import CloudflareShard.ControlPlane.Seals

/-!
# Pages, releases and sweeps of a manifest bucket

* `localPage`, `sealReceipt`             what an enumeration reads;
* `register`, `release`, `releaseV2`     the ledger of the predecessor, the ends of the lifecycle;
* `sweepV2Retention`, `sweepV2History`   what is deleted after its time;
* `alarm`                                the wake-ups;
* `Request`, `system`                    the object as a whole.
-/

namespace JournalManifest
open Async Contracts

variable (L : BucketLib)

/-! ## pages -/

inductive LocalPageRefusal where
  | cursorMismatch
  | retentionExpired
  | quarantined
  | coverageGap
  | rejected
  deriving DecidableEq

structure LocalPage where
  records : List ManifestRecordV2
  nextCursor : Option LocalPageCursor
  complete : Bool
  retentionEpoch : Nat
  recordsDeletedThroughMs : Option Nat
  leaseExpiresAtMs : Nat
  sealReceipt : SealReceipt

inductive LocalPageResult where
  | page (page : LocalPage)
  | refused (status : LocalPageRefusal) (error : TransactionProtocolError)

def pageRefused (status : LocalPageRefusal) (code : TransactionErrorCode) (message : String) :
    LocalPageResult :=
  .refused status (manifestError code message)

def BucketState.deletedThrough (bucket : BucketState) : Option Nat :=
  if bucket.recordsDeletedThroughMs = 0 then none else some bucket.recordsDeletedThroughMs

/-- the cursor was issued for this request, and its lease has not run out -/
def issued (request : LocalPageRequest) (requestHash : Hash) (now : Nat) (s : Store) : Bool :=
  request.cursor.all fun cursor =>
    (s.pageCursors.find (.cursor cursor)).any fun row =>
      row.requestHash == requestHash && now < row.leaseExpiresAtMs

/-- the seal that a page is read from, or why it cannot be read -/
def pageSeal (request : LocalPageRequest) (requestHash : Hash) (now : Nat) (s : Store) :
    Except LocalPageResult SealReceipt :=
  if !issued request requestHash now s then
    .error (pageRefused .cursorMismatch .manifestCursorMismatch
      "Local cursor was not issued by this bucket.")
  else if s.metadata ≠ some (PartitionMetadata.ofRoute request.fleetId request.route)
      ∨ some request.route.partitionConfigHash ≠ s.bucket.partitionConfigHash then
    .error (pageRefused .coverageGap .manifestCoverageGap
      "Local page request does not identify this manifest bucket.")
  else if request.expectedRetentionEpoch ≠ s.bucket.retentionEpoch then
    .error (pageRefused .cursorMismatch .manifestCursorMismatch
      "Bucket retention epoch changed; restart enumeration.")
  else if s.bucket.recordsDeletedThroughMs > 0
      ∧ request.coverageStartMs ≤ s.bucket.recordsDeletedThroughMs then
    .error (pageRefused .retentionExpired .manifestRetentionExpired
      "Requested coverage intersects deleted manifest history.")
  else
    match (s.seals.find request.sealGeneration).bind fun row =>
      row.receipt.filter fun _ => row.cutoffMs == request.cutoffMs with
    | none =>
      .error (pageRefused .coverageGap .manifestCoverageGap
        "Exact-cutoff seal evidence is unavailable or changed.")
    | some receipt =>
      if receipt.receiptHash ≠ request.sealReceiptHash then
        .error (pageRefused .coverageGap .manifestCoverageGap
          "Exact-cutoff seal evidence is unavailable or changed.")
      else if request.cursor.any fun cursor => cursor.sealGeneration ≠ request.sealGeneration
          ∨ cursor.sealReceiptHash ≠ receipt.receiptHash then
        .error (pageRefused .cursorMismatch .manifestCursorMismatch
          "Cursor seal evidence does not match the requested generation.")
      else if s.reservations.count (fun row =>
          row.finalizedIn request.coverageStartMs request.cutoffMs && row.unresolved) > 0 then
        .error (pageRefused .quarantined .manifestQuarantined
          "Requested local page intersects unresolved evidence.")
      else .ok receipt

/-- the published records of the window behind the cursor, one more than the page holds -/
def pageRows (request : LocalPageRequest) (s : Store) : List ReservationRow :=
  let window := s.reservations.ordered
    (fun row => row.finalizedIn request.coverageStartMs request.cutoffMs && row.published.isSome)
    ReservationRow.key
  Keyset.page (fun row : ReservationRow => (row.key : WithBot MemberKey)) window (request.limit + 1)
    (match request.cursor with | some cursor => cursor.last | none => ⊥)

def lease (request : LocalPageRequest) (requestHash : Hash) (leaseExpiresAtMs : Nat)
    (key : CursorKey) : PageCursorRow :=
  { key, requestHash, leaseExpiresAtMs, coverageStartMs := request.coverageStartMs
    cutoffMs := request.cutoffMs }

def localPageSync (request : LocalPageRequest) (requestHash : Hash) (now leaseExpiresAtMs : Nat)
    (s : Store) : LocalPageResult × Store :=
  match pageSeal request requestHash now s with
  | .error refusal => (refusal, s)
  | .ok receipt =>
    let rows := pageRows request s
    let hasMore := rows.length > request.limit
    let page := rows.take request.limit
    let nextCursor : Option LocalPageCursor :=
      if hasMore then
        page.getLast?.map fun last =>
          { requestHash, retentionEpoch := s.bucket.retentionEpoch
            sealGeneration := request.sealGeneration, sealReceiptHash := receipt.receiptHash
            last := last.key }
      else none
    let leased := s.pageCursors.put (lease request requestHash leaseExpiresAtMs (.lease requestHash))
    let pageCursors := match nextCursor with
      | some cursor =>
        -- an issued cursor keeps the request hash it was issued for, which it contains
        leased.put (lease request requestHash leaseExpiresAtMs (.cursor cursor))
      | none => leased
    (.page
      { records := page.filterMap fun row => row.published.map (·.record)
        nextCursor, complete := !hasMore, retentionEpoch := s.bucket.retentionEpoch
        recordsDeletedThroughMs := s.bucket.deletedThrough, leaseExpiresAtMs
        sealReceipt := receipt },
      { s with pageCursors })

/-- `hashManifestRequest` -/
def hashManifestRequest (request : LocalPageRequest) : Except TransactionProtocolError Hash := do
  L.validateManifestLocalPageRequest request
  return L.hash (.localPage request.toLocalPageIdentity)

def assertManifestCursorMatchesRequest (cursor : LocalPageCursor) (requestHash : Hash) :
    Except TransactionProtocolError Unit :=
  if cursor.requestHash ≠ requestHash then
    fail .manifestCursorMismatch "Cursor request_hash does not match the canonical request."
  else .ok ()

def localPageFailed (e : BucketError) : LocalPageResult :=
  let error := e.protocol .manifestInvalidRequest "Local manifest page request is invalid."
  .refused (if error.code = .manifestCursorMismatch then .cursorMismatch else .rejected) error

def localPage (request : LocalPageRequest) : Bucket LocalPageResult :=
  Prog.rescue (do
    let requestHash ← liftContract (hashManifestRequest L request)
    let _ ← digest requestHash
    match request.cursor with
    | some cursor => liftContract (assertManifestCursorMatchesRequest cursor requestHash)
    | none => pure ()
    let now ← gets (·.now)
    let leaseExpiresAtMs := now + manifestCursorLeaseMs
    ensureAlarmAtOrBefore leaseExpiresAtMs
    sync (localPageSync request requestHash now leaseExpiresAtMs))
    fun e => return localPageFailed e

def sealReceipt (receiptHash : Hash) : Bucket (Option SealReceipt) :=
  if !isDigest receiptHash then return none
  else gets fun s =>
    (s.seals.rows.filterMap (·.receipt)).find? (·.receiptHash == receiptHash)

/-! ## the ledger of the predecessor -/

inductive RegisterResult where
  | registered (already : Bool) (recordHash : Hash)
  | refused (status : RegisterRefusal) (error : TransactionProtocolError)
      (originalRecordHash conflictingRecordHash : Option Hash)

def registerRejected (code : TransactionErrorCode) (message : String) : RegisterResult :=
  .refused .rejected (manifestError code message) none none

/-- a record under an identity that has another one -/
def recordConflict (registration : ManifestRegistration) (s : Store) : Store :=
  let txId := registration.record.txId
  { s with
    records := s.records.modify txId ({ · with quarantined := true })
    recordConflicts := match s.recordConflicts.find (txId, registration.recordHash) with
      | some _ => s.recordConflicts
      | none => s.recordConflicts.put
        { txId, conflictingRecordHash := registration.recordHash, observedAtMs := s.now } }

/-- the newest conflict of an identity -/
def Store.latestConflict (txId : TxId) (s : Store) : Option Hash :=
  (s.recordConflicts.ordered (·.txId == txId) RecordConflictRow.observedAtMs).getLast?.map
    (·.conflictingRecordHash)

def registerSync (registration : ManifestRegistration) (s : Store) : RegisterResult × Store :=
  let record := registration.record
  let metadata : PartitionMetadata :=
    { fleetId := record.fleetId, utcDay := record.utcDay, partition := record.partition
      routingKey := record.routingKey }
  if s.metadata.any (· ≠ metadata) then
    (registerRejected .txManifestConflict
      "Registration was routed to a different manifest partition.", s)
  else
    let s := fixMetadata metadata s
    match s.records.find record.txId with
    | some existing =>
      if existing.recordHash = registration.recordHash ∧ !existing.quarantined then
        (.registered true existing.recordHash, s)
      else
        let s := if existing.recordHash ≠ registration.recordHash then
          recordConflict registration s else s
        (.refused .quarantined (manifestError .txManifestConflict
          "Manifest identity has conflicting immutable content.")
          (some existing.recordHash) (s.latestConflict record.txId), s)
    | none =>
      if s.bucket.legacyClosed then
        (registerRejected .v1Closed
          "Legacy manifest insertion is permanently closed for this bucket.", s)
      else
        (.registered false registration.recordHash,
          { s with
            records := s.records.put
              { record, recordHash := registration.recordHash, lifecycleReleased := false
                quarantined := false }
            inserted := s.inserted ++ [record] })

def registerFailed (e : BucketError) : RegisterResult :=
  let error := e.protocol .txManifestUnavailable
    "Journal manifest registration failed before persistence."
  .refused (if error.code = .txManifestUnavailable then .unavailable else .rejected) error none none

def register (registration : ManifestRegistration) : Bucket RegisterResult :=
  Prog.rescue (do
    liftContract (L.validatedManifestRegistration registration)
    Prog.ask .digest
    ensureAlarmAtOrBefore registration.record.retentionDeadline
    sync (registerSync registration))
    fun e => return registerFailed e

/-! ## releases -/

inductive ReleaseRefusal where
  | quarantined
  | rejected
  | unavailable
  deriving DecidableEq

inductive ReleaseResult where
  | released (already : Bool)
  | notFound
  | refused (status : ReleaseRefusal) (error : TransactionProtocolError)

/-- the answer of a release transaction, with the deadline of the row -/
abbrev ReleaseStep := ReleaseResult × Option Nat

def releaseRefused (code : TransactionErrorCode) (message : String) : ReleaseStep :=
  (.refused .quarantined (manifestError code message), none)

def releaseSync (txId : TxId) (recordHash : Hash) (s : Store) : ReleaseStep × Store :=
  match s.records.find txId with
  | none => ((.notFound, none), s)
  | some existing =>
    if existing.quarantined ∨ existing.recordHash ≠ recordHash then
      (releaseRefused .txManifestConflict
        "Manifest retention cannot be released for conflicting content.", s)
    else if existing.lifecycleReleased then
      ((.released true, some existing.record.retentionDeadline), s)
    else
      ((.released false, some existing.record.retentionDeadline),
        { s with records := s.records.modify txId ({ · with lifecycleReleased := true }) })

def releaseV2Sync (txId : TxId) (reservationHash recordHash : Hash) (s : Store) :
    ReleaseStep × Store :=
  match s.reservations.find txId with
  | none => ((.notFound, none), s)
  | some row =>
    match row.published with
    | none =>
      (releaseRefused .manifestQuarantined
        "V2 retention release conflicts with canonical evidence.", s)
    | some published =>
      if row.reservationHash ≠ reservationHash ∨ published.recordHash ≠ recordHash
          ∨ row.unresolved then
        (releaseRefused .manifestQuarantined
          "V2 retention release conflicts with canonical evidence.", s)
      else if row.lifecycleReleased then
        ((.released true, some published.retentionDeadlineMs), s)
      else
        ((.released false, some published.retentionDeadlineMs),
          { s with
            reservations := s.reservations.modify txId fun row =>
              { row with lifecycleReleased := true, updatedAtMs := s.now } })

/-- the wake-up for a released row, and the answer -/
def afterRelease (result : ReleaseStep) : Bucket ReleaseResult := do
  match result.2 with
  | some deadlineMs =>
    let now ← gets (·.now)
    ensureAlarmAtOrBefore (max now deadlineMs)
  | none => pure ()
  return result.1

def release (txId : TxId) (recordHash : Hash) : Bucket ReleaseResult := do
  if !isDigest recordHash then
    return .refused .rejected (manifestError .txEnvelopeInvalid
      "record_hash must be a lowercase SHA-256 digest.")
  else
    Prog.rescue (do afterRelease (← sync (releaseSync txId recordHash)))
      fun _ => return .refused .unavailable (manifestError .txManifestUnavailable
        "Manifest lifecycle release is temporarily unavailable.")

def releaseV2 (txId : TxId) (reservationHash recordHash : Hash) : Bucket ReleaseResult := do
  if !isDigest reservationHash ∨ !isDigest recordHash then
    return .refused .rejected (manifestError .manifestInvalidRequest
      "V2 release hashes must be lowercase SHA-256 digests.")
  else
    Prog.rescue (do afterRelease (← sync (releaseV2Sync txId reservationHash recordHash)))
      fun _ => return .refused .unavailable (manifestError .manifestTemporarilyUnavailable
        "V2 retention release is temporarily unavailable.")

/-! ## sweeps -/

/-- how many rows a sweep takes -/
def sweepLimit : Nat := 128

structure RetentionSweep where
  deleted : Nat
  deferredUntilMs : Option Nat
  remainingCursorMs : Option Nat
  moreDueRecords : Bool

/-- released records whose deadline has passed -/
def retentionDue (now : Nat) (row : ReservationRow) : Bool :=
  row.lifecycleReleased && !row.unresolved && row.published.any (·.retentionDeadlineMs ≤ now)

def retentionCandidates (now : Nat) (s : Store) : List ReservationRow :=
  (s.reservations.ordered (retentionDue now) ReservationRow.key).take sweepLimit

def RetentionCandidate.ofRow (row : ReservationRow) : RetentionCandidate :=
  { txId := row.txId, recordHash := row.recordHash.getD "", commitDecidedAtMs := row.key.1 }

/-- a page lease that reaches into the candidates -/
def PageCursorRow.blocks (candidates : List RetentionCandidate) (now : Nat) (row : PageCursorRow) :
    Bool :=
  match candidates.head?, candidates.getLast? with
  | some first, some last =>
    decide (now < row.leaseExpiresAtMs ∧ row.coverageStartMs ≤ last.commitDecidedAtMs
      ∧ first.commitDecidedAtMs ≤ row.cutoffMs)
  | _, _ => false

def expireCursors (now : Nat) (s : Store) : Store :=
  let expired := (s.pageCursors.ordered (·.leaseExpiresAtMs ≤ now) (·.leaseExpiresAtMs)).take
    sweepLimit
  { s with pageCursors := expired.foldl (fun t row => t.erase row.key) s.pageCursors }

/-- deletes the candidates when they are still the due ones; `some true` when it was put off -/
def retentionSync (now : Nat) (candidates : List RetentionCandidate) (evidenceRoot : Hash)
    (s : Store) : (Nat × Bool) × Store :=
  if s.pageCursors.count (·.blocks candidates now) > 0 then ((0, true), s)
  else if s.drainingSeal.isSome then ((0, true), s)
  else
    let rows := retentionCandidates now s
    if rows.map .ofRow ≠ candidates then ((0, false), s)
    else
      let s := rows.foldl (fun s row => s.dropReservation now row) s
      ((candidates.length, false),
        { s with
          bucket := { s.bucket with
            recordsDeletedThroughMs := max s.bucket.recordsDeletedThroughMs
              ((candidates.getLast?.map (·.commitDecidedAtMs)).getD 0)
            retentionEpoch := s.bucket.retentionEpoch + 1
            retentionEvidenceRoot := some evidenceRoot } })

def sweepV2Retention (now : Nat) : Bucket RetentionSweep := do
  .modify (expireCursors now)
  let s ← Prog.read
  let remainingCursorMs := (s.pageCursors.rows.map (·.leaseExpiresAtMs)).min?
  let held (deferredUntilMs : Option Nat) : RetentionSweep :=
    { deleted := 0, deferredUntilMs, remainingCursorMs, moreDueRecords := false }
  if s.drainingSeal.isSome then return held (some (now + heldRetentionRecheckMs))
  else
    let candidates := (retentionCandidates now s).map .ofRow
    if candidates.isEmpty then return held none
    else
      match ((s.pageCursors.rows.filter (·.blocks candidates now)).map
          (·.leaseExpiresAtMs)).min? with
      | some cursorLease => return held (some (max now cursorLease))
      | none =>
        let evidenceRoot ← digest
          (L.hash (.retention (s.bucket.retentionEvidenceRoot.getD zeroHash) candidates))
        let (deleted, deferred) ← sync (retentionSync now candidates evidenceRoot)
        let more ← gets fun s => decide (s.reservations.count (retentionDue now) > 0)
        return { deleted, remainingCursorMs, moreDueRecords := more
                 deferredUntilMs := if deferred then some (now + heldRetentionRecheckMs)
                   else none }

/-- reservations that never got a record -/
def historyRow (row : ReservationRow) : Bool := !row.isFinalized && !row.unresolved

/-- seals that a later complete one has replaced, and quarantined ones -/
def historySeal (s : Store) (row : SealRow) : Bool :=
  row.isQuarantined || (row.receipt.isSome
    && s.seals.rows.any fun newer => newer.receipt.isSome && row.generation < newer.generation)

/-- sorted as `updated_at_ms, tx_id` -/
def ReservationRow.age (row : ReservationRow) : ℕ ×ₗ String := toLex (row.updatedAtMs, row.txId)

def sweepV2HistorySync (now : Nat) (s : Store) : Nat × Store :=
  let old (updatedAtMs : Nat) : Bool := updatedAtMs + v2HistoryRetentionMs ≤ now
  let rows := (s.reservations.ordered (fun row => historyRow row && old row.updatedAtMs)
    ReservationRow.age).take sweepLimit
  let s := rows.foldl (fun s row => s.dropReservation now row) s
  let generations := (s.seals.ordered (fun row => historySeal s row && old row.updatedAtMs)
    SealRow.generation).take sweepLimit
  (rows.length + generations.length,
    { s with seals := generations.foldl (fun t row => t.erase row.generation) s.seals })

/-- when the next of the rows that are left is due -/
def historyDeadline (now : Nat) (s : Store) : Option Nat :=
  let rows := (s.reservations.rows.filter historyRow).map (·.updatedAtMs + v2HistoryRetentionMs)
  let seals := (s.seals.rows.filter (historySeal s)).map (·.updatedAtMs + v2HistoryRetentionMs)
  (rows ++ seals).min?.map (max now)

def sweepV2History (now : Nat) : Bucket (Nat × Option Nat) := do
  let deleted ← sync (sweepV2HistorySync now)
  let deadline ← gets (historyDeadline now)
  return (deleted, deadline)

structure RecordSweep where
  nextDeadlineMs : Option Nat
  heldExpired : Nat
  deleted : Nat

def minOption (a b : Option Nat) : Option Nat :=
  match a, b with
  | none, b => b
  | a, none => a
  | some a, some b => some (min a b)

/-- the sweep of the predecessor's ledger, and the deadlines that are left -/
def recordSweepSync (now : Nat) (s : Store) : RecordSweep × Store :=
  let due (row : ManifestRow) : Bool :=
    !row.quarantined && row.lifecycleReleased && row.record.retentionDeadline ≤ now
  let records := s.records.deleteWhere due
  let nextV1 := ((records.rows.filter fun row =>
    !row.quarantined && now < row.record.retentionDeadline).map (·.record.retentionDeadline)).min?
  let deadlines := (s.reservations.rows.filter fun row => !row.unresolved).filterMap fun row =>
    row.published.map (·.retentionDeadlineMs)
  let nextV2 := (deadlines.filter (now < ·)).min?
  let heldV1 := records.count fun row =>
    !row.quarantined && !row.lifecycleReleased && row.record.retentionDeadline ≤ now
  let heldV2 := s.reservations.count fun row =>
    !row.unresolved && !row.lifecycleReleased && row.published.any (·.retentionDeadlineMs ≤ now)
  ({ nextDeadlineMs := minOption nextV1 nextV2, heldExpired := heldV1 + heldV2
     deleted := s.records.rows.length - records.rows.length }, { s with records })

/-! ## alarms -/

/-- when the retention sweep has to come again -/
def lifecycleSweep (now : Nat) : Bucket (Option Nat) := do
  let (_, historyDeadlineMs) ← sweepV2History now
  let v2Sweep ← sweepV2Retention L now
  let schedule ← sync (recordSweepSync now)
  let next := schedule.nextDeadlineMs
  let next := if schedule.heldExpired > 0 then
    minOption next (some (now + heldRetentionRecheckMs)) else next
  let next := minOption next v2Sweep.deferredUntilMs
  let next := minOption next (v2Sweep.remainingCursorMs.map (max now))
  let next := if v2Sweep.moreDueRecords then minOption next (some now) else next
  return minOption next historyDeadlineMs

/-- `executeLifecycleAlarm` with the scheduler of the bucket -/
def executeLifecycleAlarm (now : Nat) : Bucket Unit :=
  Prog.rescue (do
    match ← lifecycleSweep L now with
    | none => clearAlarmPurpose .retention
    | some nextAlarm => scheduleAlarmPurpose .retention nextAlarm 0)
    fun e =>
      Prog.rescue (scheduleAlarmPurpose .retention (now + lifecycleFailureRetryMs) 0)
        fun _ => .throw e

/-- the request that the alarm makes for a generation -/
def alarmSealRequest (metadata : PartitionMetadata) (partitionConfigHash : Hash) (row : SealRow) :
    SealRequest :=
  { fleetId := metadata.fleetId
    route := { reservationUtcDay := metadata.utcDay, partition := metadata.partition
               routingKey := metadata.routingKey, partitionConfigHash }
    cutoffMs := row.cutoffMs, idempotencyKey := row.idempotencyKey }

/-- a due seal is taken up; its wake-up is consumed first -/
def alarmSeal (due : AlarmRow) : Bucket Unit := do
  .modify (Store.unschedule due.purpose)
  let s ← Prog.read
  match s.seals.find due.generation, s.metadata, s.bucket.partitionConfigHash with
  | some row, some metadata, some partitionConfigHash =>
    Prog.rescue (do
      let _ ← resumeSeal L row.generation (alarmSealRequest metadata partitionConfigHash row)
      return ())
      fun _ => do
        let now ← gets (·.now)
        scheduleAlarmPurpose due.purpose (now + lifecycleFailureRetryMs) due.generation
  | _, _, _ => .modify (Store.unschedule due.purpose)

def alarmSeals : List AlarmRow → Bucket Unit
  | [] => return ()
  | due :: rest => do
    alarmSeal L due
    alarmSeals rest

/-- the text of a purpose, by which the due seals of one time are sorted -/
def Purpose.text : Purpose → String
  | .sealing generation => "seal:" ++ toString generation
  | .retention => "retention"

/-- the seals whose time has come, four at most -/
def dueSeals (now : Nat) (s : Store) : List AlarmRow :=
  (s.alarmSchedule.ordered (fun row => decide (row.purpose ≠ .retention) && row.fireAtMs ≤ now)
    fun row => (toLex (row.fireAtMs, row.purpose.text) : ℕ ×ₗ String)).take 4

/-- the platform has cleared the physical alarm that has fired -/
def alarm : Bucket Unit := do
  .modify fun s => { s with physicalAlarm := none }
  let now ← gets (·.now)
  let due ← gets (dueSeals now)
  alarmSeals L due
  let retention ← gets (·.alarmSchedule.find .retention)
  if retention.any (·.fireAtMs ≤ now) then
    clearAlarmPurpose .retention
    executeLifecycleAlarm L now
  else rearmPhysicalAlarm

/-! ## the object -/

inductive Request where
  | reserve (reservation : ManifestReservation) (claimedReservationHash : Hash)
      (requiredDecisionFloorMs : Nat)
  | finalize (intent : ManifestFinalizeIntent)
  | cancel (intent : ManifestCancelIntent)
  | resolveQuarantine (request : QuarantineResolutionRequest)
  | closeThrough (request : SealRequest)
  | initializeForSeal (request : SealRequest)
      (requiredDecisionFloorMs reservationRequiredSinceMs : Nat)
  | localPage (request : LocalPageRequest)
  | sealReceipt (receiptHash : Hash)
  | register (registration : ManifestRegistration)
  | release (txId : TxId) (recordHash : Hash)
  | releaseV2 (txId : TxId) (reservationHash recordHash : Hash)
  | alarm

inductive Response where
  | reserve (result : ReserveResult)
  | finalize (result : FinalizeResult)
  | cancel (result : CancelResult)
  | resolution (result : ResolutionResult)
  | seal (result : SealResult)
  | initialized (result : InitializeResult)
  | page (result : LocalPageResult)
  | receipt (receipt : Option SealReceipt)
  | register (result : RegisterResult)
  | release (result : ReleaseResult)
  | done

def handle : Request → Bucket Response
  | .reserve reservation claimed floor => return .reserve (← reserve L reservation claimed floor)
  | .finalize intent => return .finalize (← finalize L intent)
  | .cancel intent => return .cancel (← cancel L intent)
  | .resolveQuarantine request => return .resolution (← resolveQuarantine L request)
  | .closeThrough request => return .seal (← closeThrough L request)
  | .initializeForSeal request floor since =>
    return .initialized (← initializeForSeal L request floor since)
  | .localPage request => return .page (← localPage L request)
  | .sealReceipt receiptHash => return .receipt (← sealReceipt receiptHash)
  | .register registration => return .register (← register L registration)
  | .release txId recordHash => return .release (← release txId recordHash)
  | .releaseV2 txId reservationHash recordHash =>
    return .release (← releaseV2 txId reservationHash recordHash)
  | .alarm => do
    alarm L
    return .done

/-- the clock may jump either way -/
inductive Event where
  | clock (now : Nat)

def Event.apply : Event → Store → Store
  | .clock now, s => { s with now }

/-- all its state is durable -/
def system : System Store Ask Ask.Answer BucketError Response Request Event where
  handler := handle L
  answers _ _ := true
  event := Event.apply
  restart := id

end JournalManifest
