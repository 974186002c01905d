import CloudflareShard.Async.Prog
import CloudflareShard.ControlPlane.Journal

/-!
# Reservations of a manifest bucket

* `reserveSync`, `finalizeSync`, `publishSync`, `cancelSync`, `resolveSync`   the transactions;
* `ensureLegacyCertificate`   closes and certifies the ledger of the predecessor;
* `reserve`, `finalize`, `cancel`, `resolveQuarantine`   the methods.
-/

namespace JournalManifest
open Async Contracts

/-! ## answers -/

inductive BucketError where
  /-- `TransactionContractViolation` -/
  | contract (error : TransactionProtocolError)
  | typeError (message : String)
  | error (message : String)

def BucketError.message : BucketError → String
  | .contract e => e.message
  | .typeError message => message
  | .error message => message

/-- what the platform throws when `.one()` finds nothing -/
def noRow : BucketError := .error "Expected exactly one result from SQL query, but got no results."

/-- the error of an answer: what the contract says, or the fallback -/
def BucketError.protocol (code : TransactionErrorCode) (message : String) :
    BucketError → TransactionProtocolError
  | .contract e => toManifestRpcError e
  | _ => manifestError code message

inductive ReserveResult where
  | reserved (already : Bool) (reservationHash : Hash) (requiredDecisionFloorMs : Nat)
      (localLegacyCertificateHash : Hash)
  | refused (status : ReserveRefusal) (bucketRowMayExist : Bool) (error : TransactionProtocolError)

inductive FinalizeResult where
  | finalized (already : Bool) (record : ManifestRecordV2) (recordHash : Hash)
  | refused (status : FinalizeRefusal) (error : TransactionProtocolError)

inductive CancelResult where
  | cancelled (already : Bool)
  | refused (status : CancelRefusal) (error : TransactionProtocolError)

inductive ResolutionResult where
  | resolved (already : Bool) (resolution : Resolution) (attestationHash : Hash)
      (published : Option (ManifestRecordV2 × Hash))
  | refused (unavailable : Bool) (error : TransactionProtocolError)

/-! ## methods -/

/-- the digests that a method awaits; those that a terminal decision follows at once are named -/
inductive Ask where
  | digest
  | finalizeIntent (intent : ManifestFinalizeIntent)
  | cancelIntent (intent : ManifestCancelIntent)
  | attestation (request : QuarantineResolutionRequest) (requestHash attestationHash : Hash)

abbrev Ask.Answer (_ : Ask) : Type := Unit

abbrev Bucket (α : Type) := Prog Store Ask Ask.Answer BucketError α

def gets {α : Type} (f : Store → α) : Bucket α := .step id fun s => .pure (f s)

/-- statements without an await between them -/
def sync {α : Type} (f : Store → α × Store) : Bucket α :=
  .step (fun s => (f s).2) fun s => .pure (f s).1

def liftContract {α : Type} : Except TransactionProtocolError α → Bucket α
  | .ok a => .pure a
  | .error e => .throw (.contract e)

/-- `await` of a digest whose value is `hash` -/
def digest (hash : Hash) : Bucket Hash := .call .digest fun _ => .pure hash

def oneReservation (txId : TxId) : Bucket ReservationRow :=
  .step id fun s => match s.reservations.find txId with
    | some row => .pure row
    | none => .throw noRow

/-! ## alarms -/

def rearmPhysicalAlarm : Bucket Unit := do
  .modify Store.rearm
  .pause

def scheduleAlarmPurpose (purpose : Purpose) (timestampMs generation : Nat) : Bucket Unit := do
  .modify (Store.schedule purpose timestampMs generation)
  rearmPhysicalAlarm

def clearAlarmPurpose (purpose : Purpose) : Bucket Unit := do
  .modify (Store.unschedule purpose)
  rearmPhysicalAlarm

def ensureAlarmAtOrBefore (timestampMs : Nat) : Bucket Unit :=
  scheduleAlarmPurpose .retention timestampMs 0

/-! ## the ledger of the predecessor -/

/-- `INSERT INTO manifest_records` is refused from here on; the rows it holds then -/
def closeLegacy (s : Store) : List LegacyRow × Store :=
  ((s.records.ordered (fun _ => true) (·.record.txId)).map fun row =>
      { txId := row.record.txId, recordHash := row.recordHash
        commitDecidedAt := row.record.commitDecidedAt },
    { s with bucket := { s.bucket with legacyClosed := true } })

def legacyMaximum (rows : List LegacyRow) : Int :=
  rows.foldl (fun maximum row => max maximum row.commitDecidedAt) (-1)

/-- the first certificate stays -/
def certifySync (certificateHash : Hash) (maximum : Int) (s : Store) : Hash × Store :=
  match s.bucket.legacyCertificateHash, s.bucket.legacyMaxCommitDecidedAtMs with
  | some current, some _ => (current, s)
  | _, _ =>
    (certificateHash,
      { s with
        bucket := { s.bucket with
          legacyCertificateHash := some certificateHash
          legacyMaxCommitDecidedAtMs := some maximum } })

variable (L : BucketLib)

def ensureLegacyCertificate : Bucket Hash := do
  let bucket ← gets (·.bucket)
  match bucket.legacyCertificateHash, bucket.legacyMaxCommitDecidedAtMs with
  | some existing, some _ => return existing
  | _, _ =>
    let legacyRows ← sync closeLegacy
    let maximum := legacyMaximum legacyRows
    let recordsRoot ← digest (L.hash (.legacyRows legacyRows))
    let certificateHash ← digest (L.hash (.certificate
      { imported := !legacyRows.isEmpty, recordCount := legacyRows.length, recordsRoot
        maximumCommitDecidedAtMs := maximum }))
    sync (certifySync certificateHash maximum)

/-! ## reserve -/

def maxSafeInteger : Nat := 2 ^ 53 - 1

def rejectedAbsent (code : TransactionErrorCode) (message : String) : ReserveResult :=
  .refused .rejectedAbsent false (manifestError code message)

def newReservation (reservation : ManifestReservation) (reservationHash : Hash) (now : Nat) :
    ReservationRow :=
  { reservation, reservationHash, state := .reserved, lifecycleReleased := false
    quarantineState := .none, conflictRoot := none, resolutionAttestationHash := none
    updatedAtMs := now }

/-- the reservation row, once the bucket is known to be the right one -/
def reserveRow (reservation : ManifestReservation) (reservationHash : Hash) (floor : Nat)
    (legacyCertificateHash : Hash) (s : Store) : ReserveResult × Store :=
  match s.reservations.find reservation.txId with
  | some existing =>
    if existing.reservationHash = reservationHash then
      if existing.unresolved then
        (.refused .quarantined true (manifestError .manifestReservationConflict
          "Reservation is quarantined pending audited resolution."), s)
      else (.reserved true reservationHash floor legacyCertificateHash, s)
    else
      (.refused .quarantined true (manifestError .manifestReservationConflict
        "Reservation identity has conflicting immutable content."),
        s.quarantine reservation.txId reservationHash .reserve)
  | none =>
    (.reserved false reservationHash floor legacyCertificateHash,
      { s with
        reservations := s.reservations.put (newReservation reservation reservationHash s.now) })

/-- the first request fixes which bucket this is -/
def fixMetadata (metadata : PartitionMetadata) (s : Store) : Store :=
  match s.metadata with
  | some _ => s
  | none => { s with metadata := some metadata }

/-- `partition_config_hash = COALESCE(.., ?), decision_floor_ms = MAX(decision_floor_ms, ?)` -/
def raiseFloor (partitionConfigHash : Hash) (floor : Nat) (s : Store) : Store :=
  { s with
    bucket := { s.bucket with
      partitionConfigHash := some (s.bucket.partitionConfigHash.getD partitionConfigHash)
      decisionFloorMs := max s.bucket.decisionFloorMs floor } }

def reserveSync (reservation : ManifestReservation) (reservationHash : Hash)
    (requiredDecisionFloorMs : Nat) (legacyCertificateHash : Hash) (s : Store) :
    ReserveResult × Store :=
  let metadata := PartitionMetadata.ofRoute reservation.fleetId reservation.route
  if s.metadata.any (· ≠ metadata) then
    (rejectedAbsent .manifestReservationConflict
      "Reservation was routed to a different manifest bucket.", s)
  else
    let s := fixMetadata metadata s
    if s.bucket.partitionConfigHash.any (· ≠ reservation.route.partitionConfigHash) then
      (rejectedAbsent .manifestReservationConflict
        "Reservation partition configuration conflicts with this bucket.", s)
    else
      reserveRow reservation reservationHash
        (max s.bucket.decisionFloorMs requiredDecisionFloorMs) legacyCertificateHash
        (raiseFloor reservation.route.partitionConfigHash requiredDecisionFloorMs s)

def reserveFailed (e : BucketError) : ReserveResult :=
  let error := e.protocol .legacyCertificationUnavailable
    "Manifest reservation is temporarily unavailable."
  .refused (if error.retryable then .unavailable else .rejectedAbsent) false error

def reserve (reservation : ManifestReservation) (claimedReservationHash : Hash)
    (requiredDecisionFloorMs : Nat) : Bucket ReserveResult :=
  Prog.rescue (do
    let reservationHash ← liftContract (L.hashManifestReservation reservation)
    let _ ← digest reservationHash
    if reservationHash ≠ claimedReservationHash then
      return rejectedAbsent .manifestReservationConflict
        "reservation_hash does not match the frozen reservation."
    else if requiredDecisionFloorMs > maxSafeInteger then
      return rejectedAbsent .manifestInvalidRequest
        "required_decision_floor_ms must be a non-negative safe integer."
    else
      let legacyCertificateHash ← ensureLegacyCertificate L
      let now ← gets (·.now)
      let result ← sync (reserveSync reservation reservationHash requiredDecisionFloorMs
        legacyCertificateHash)
      match result with
      | .reserved .. => ensureAlarmAtOrBefore (now + v2HistoryRetentionMs)
      | .refused .. => pure ()
      return result)
    fun e => return reserveFailed e

/-! ## finalize -/

/-- what the first transaction of `finalize` found or did -/
inductive Assignment where
  | assigned (reservation : ManifestReservation) (decidedAtMs sequence : Nat)
  | complete (record : ManifestRecordV2) (recordHash : Hash)
  | error (result : FinalizeResult)

def finalizeConflict (message : String) : Assignment :=
  .error (.refused .conflict (manifestError .manifestTerminalConflict message))

/-- the time that `finalize` gives to the next reservation -/
def Store.decisionTime (s : Store) : Nat :=
  max s.now (max (s.bucket.lastAssignedMs + 1) (s.bucket.decisionFloorMs + 1))

/-- the reservation is decided; its record comes later -/
def assign (txId : TxId) (intentHash : Hash) (s : Store) : Store :=
  let decidedAtMs := s.decisionTime
  let sequence := s.bucket.nextDecisionSequence
  { s with
    bucket := { s.bucket with
      lastAssignedMs := decidedAtMs, nextDecisionSequence := sequence + 1 }
    reservations := s.reservations.modify txId fun row =>
      { row with
        state := .finalized intentHash decidedAtMs sequence none, updatedAtMs := s.now }
    assigned := s.assigned ++ [{ txId, decidedAtMs, sequence }] }

def finalizeSync (intent : ManifestFinalizeIntent) (intentHash : Hash) (s : Store) :
    Assignment × Store :=
  let conflicts := (finalizeConflict "Finalize conflicts with the durable terminal transition.",
    s.quarantine intent.txId intentHash .finalize)
  match s.reservations.find intent.txId with
  | none => (finalizeConflict "Finalize does not identify a durable reservation.", s)
  | some row =>
    let misnamed := row.reservation.operationHash ≠ intent.operationHash
      ∨ row.reservation.decisionEpoch ≠ intent.decisionEpoch
    let mismatch := (finalizeConflict
      "Finalize identity conflicts with the frozen reservation.", s)
    if row.reservationHash ≠ intent.reservationHash then
      (finalizeConflict "Finalize does not identify a durable reservation.", s)
    else if row.unresolved then
      (.error (.refused .quarantined (manifestError .manifestQuarantined
        "Reservation is quarantined pending audited resolution.")), s)
    else
      match row.state with
      | .cancelled _ => conflicts
      | .finalized terminalIntentHash decidedAtMs sequence published =>
        if terminalIntentHash ≠ intentHash then conflicts
        else
          match published with
          | some published => (.complete published.record published.recordHash, s)
          | none =>
            if misnamed then mismatch
            else (.assigned row.reservation decidedAtMs sequence, s)
      | .reserved =>
        if misnamed then mismatch
        else
          (.assigned row.reservation s.decisionTime s.bucket.nextDecisionSequence,
            assign intent.txId intentHash s)

def manifestRecord (reservation : ManifestReservation) (intent : ManifestFinalizeIntent)
    (decidedAtMs sequence : Nat) : ManifestRecordV2 :=
  { fleetId := reservation.fleetId, route := reservation.route, txId := reservation.txId
    coordinatorId := reservation.coordinatorId, operationHash := reservation.operationHash
    decisionEpoch := reservation.decisionEpoch, reservedAt := reservation.reservedAt
    reservationHash := intent.reservationHash, envelopeHash := intent.redoEnvelopeHash
    commitDecidedAt := decidedAtMs, commitDecidedAtMs := decidedAtMs
    decisionSequence := sequence, retentionDeadline := decidedAtMs + v2HistoryRetentionMs }

/-- the second transaction of `finalize`; whether the record is the published one -/
def publishSync (txId : TxId) (intentHash : Hash) (decidedAtMs sequence : Nat)
    (record : PublishedRecord) (s : Store) : Except BucketError (Bool × Store) :=
  match s.reservations.find txId with
  | none => .error noRow
  | some row =>
    match row.state with
    | .finalized terminalIntentHash commitDecidedAtMs decisionSequence published =>
      if terminalIntentHash = intentHash ∧ commitDecidedAtMs = decidedAtMs
          ∧ decisionSequence = sequence then
        match published with
        | some published => .ok (published.recordHash == record.recordHash, s)
        | none =>
          .ok (true,
            { s with
              reservations := s.reservations.modify txId fun row =>
                { row with
                  state := .finalized intentHash decidedAtMs sequence (some record)
                  updatedAtMs := s.now } })
      else .ok (false, s)
    | _ => .ok (false, s)

def finalizeQuarantined (message : String) : FinalizeResult :=
  .refused .quarantined (manifestError .manifestQuarantined message)

def finalizeFailed (e : BucketError) : FinalizeResult :=
  let error := e.protocol .manifestTemporarilyUnavailable
    "Manifest finalization is temporarily unavailable."
  .refused (if error.retryable then .unavailable else .conflict) error

/-- `finalize` once the decision time is assigned -/
def publish (intent : ManifestFinalizeIntent) (intentHash : Hash)
    (reservation : ManifestReservation) (decidedAtMs sequence : Nat) : Bucket FinalizeResult := do
  let retentionDeadlineMs := decidedAtMs + v2HistoryRetentionMs
  ensureAlarmAtOrBefore retentionDeadlineMs
  let record := manifestRecord reservation intent decidedAtMs sequence
  let recordHash ← liftContract (L.hashManifestRecordV2 record)
  let _ ← digest recordHash
  let persisted ← Prog.transact
    (publishSync intent.txId intentHash decidedAtMs sequence
      { record, recordHash, retentionDeadlineMs })
  if !persisted then
    return finalizeQuarantined "Finalize evidence changed before canonical record publication."
  else
    let published ← oneReservation intent.txId
    if published.unresolved then
      return finalizeQuarantined "Finalize evidence requires audited conflict resolution."
    else return .finalized false record recordHash

def finalize (intent : ManifestFinalizeIntent) : Bucket FinalizeResult :=
  Prog.rescue (do
    let intentHash ← liftContract (L.hashManifestFinalizeIntent intent)
    Prog.ask (.finalizeIntent intent)
    match ← sync (finalizeSync intent intentHash) with
    | .error result => return result
    | .complete record recordHash => return .finalized true record recordHash
    | .assigned reservation decidedAtMs sequence =>
      publish L intent intentHash reservation decidedAtMs sequence)
    fun e => return finalizeFailed e

/-! ## cancel -/

def cancelConflict (message : String) : CancelResult :=
  .refused .conflict (manifestError .manifestTerminalConflict message)

def cancelSync (intent : ManifestCancelIntent) (intentHash : Hash) (s : Store) :
    CancelResult × Store :=
  let conflicts := (cancelConflict "Cancel conflicts with the durable terminal transition.",
    s.quarantine intent.txId intentHash .cancel)
  match s.reservations.find intent.txId with
  | none => (cancelConflict "Cancel does not identify a durable reservation.", s)
  | some row =>
    if row.reservationHash ≠ intent.reservationHash then
      (cancelConflict "Cancel does not identify a durable reservation.", s)
    else if row.unresolved then
      (.refused .quarantinedPendingResolution (manifestError .manifestQuarantined
        "Cancellation is parked pending audited quarantine resolution."), s)
    else
      match row.state with
      | .cancelled terminalIntentHash =>
        if terminalIntentHash = intentHash then (.cancelled true, s) else conflicts
      | .finalized .. => conflicts
      | .reserved =>
        if row.reservation.operationHash ≠ intent.operationHash
            ∨ row.reservation.decisionEpoch ≠ intent.decisionEpoch then
          (cancelConflict "Cancel identity conflicts with the frozen reservation.", s)
        else
          (.cancelled false,
            { s with
              reservations := s.reservations.modify intent.txId fun row =>
                { row with state := .cancelled intentHash, updatedAtMs := s.now } })

def cancelFailed (e : BucketError) : CancelResult :=
  let error := e.protocol .manifestTemporarilyUnavailable
    "Manifest cancellation is temporarily unavailable."
  .refused (if error.retryable then .unavailable else .conflict) error

def cancel (intent : ManifestCancelIntent) : Bucket CancelResult :=
  Prog.rescue (do
    liftContract (L.validateManifestCancelIntent intent)
    let intentHash := L.hashCanonicalJson (.cancelIntent intent)
    Prog.ask (.cancelIntent intent)
    let now ← gets (·.now)
    let result ← sync (cancelSync intent intentHash)
    match result with
    | .cancelled _ => ensureAlarmAtOrBefore (now + v2HistoryRetentionMs)
    | .refused .. => pure ()
    return result)
    fun e => return cancelFailed e

/-! ## resolveQuarantine -/

def commitAuthorized : List TransactionState :=
  [.commitDeciding, .commitPendingManifest, .manifestRegistered, .committing, .committedPendingAck,
    .committed, .quarantined]

def cancelAuthorized : List TransactionState :=
  [.abortDecided, .aborting, .abortedPendingManifestCancel, .aborted, .quarantined]

def typeError {α : Type} (message : String) : Except BucketError α := .error (.typeError message)

/-- the code points that `trim` takes away -/
def isTrimmed (c : Char) : Bool :=
  let n := c.toNat
  (9 ≤ n && n ≤ 13) || (0x2000 ≤ n && n ≤ 0x200A)
    || [0x20, 0xA0, 0x1680, 0x2028, 0x2029, 0x202F, 0x205F, 0x3000, 0xFEFF].contains n

/-- `!text.trim()` -/
def blank (text : String) : Bool := text.toList.all isTrimmed

def checkRequest (request : QuarantineResolutionRequest) (reservationHash : Hash) :
    Except BucketError Unit :=
  if reservationHash ≠ request.reservationHash ∨ !isDigest request.selectedHash
      ∨ !isDigest request.evidenceHash ∨ !isDigest request.coordinatorStateHash
      ∨ blank request.actor ∨ blank request.reason ∨ request.idempotencyKey.isEmpty then
    typeError "Quarantine resolution request is invalid."
  else .ok ()

/-- the coordinator is the one of the reservation, and its state allows the resolution -/
def checkCoordinator (request : QuarantineResolutionRequest) : Except BucketError Unit :=
  let coordinator := request.coordinatorState
  let reservation := request.reservation
  if coordinator.txId ≠ reservation.txId ∨ coordinator.coordinatorId ≠ reservation.coordinatorId
      ∨ coordinator.epoch ≠ reservation.decisionEpoch
      ∨ coordinator.operationHash ≠ reservation.operationHash
      ∨ coordinator.reservationHash ≠ request.reservationHash then
    typeError "Coordinator state attestation conflicts with the reservation."
  else
    let authorized : Bool := match request.resolution with
      | .finalized => commitAuthorized.contains coordinator.state
          && (coordinator.decision == .commit || coordinator.decision == .quarantined)
      | .cancelled => cancelAuthorized.contains coordinator.state
          && (coordinator.decision == .abort || coordinator.decision == .quarantined)
    if authorized then .ok ()
    else typeError "Coordinator state does not authorize the requested resolution."

/-- the intent must have the shape that the resolution asks for -/
def terminalIntentHash (request : QuarantineResolutionRequest) :
    Except TransactionProtocolError Hash :=
  match request.resolution, request.terminalIntent with
  | .finalized, .finalize intent => L.hashManifestFinalizeIntent intent
  | .cancelled, .cancel intent => do
    L.validateManifestCancelIntent intent
    return L.hashCanonicalJson (.cancelIntent intent)
  | .finalized, .cancel _ =>
    fail .manifestInvalidRequest "manifest_finalize_intent is missing required fields."
  | .cancelled, .finalize _ =>
    fail .manifestInvalidRequest "manifest_cancel_intent contains unknown fields."

def checkIntent (request : QuarantineResolutionRequest) : Except BucketError Unit :=
  let reservation := request.reservation
  let conflicts := match request.terminalIntent with
    | .finalize intent => decide (intent.txId ≠ reservation.txId
        ∨ intent.reservationHash ≠ request.reservationHash
        ∨ intent.operationHash ≠ reservation.operationHash
        ∨ intent.decisionEpoch ≠ reservation.decisionEpoch)
    | .cancel intent => decide (intent.txId ≠ reservation.txId
        ∨ intent.reservationHash ≠ request.reservationHash
        ∨ intent.operationHash ≠ reservation.operationHash
        ∨ intent.decisionEpoch ≠ reservation.decisionEpoch)
  if conflicts then typeError "Selected terminal intent conflicts with the reservation." else .ok ()

/-- the kind of candidate that a resolution selects -/
def selectedKind : Resolution → TransitionKind
  | .finalized => .finalize
  | .cancelled => .cancel

/-- the row that the resolution is about, when the evidence in the bucket authorizes it -/
def checkEvidence (request : QuarantineResolutionRequest) (intentHash : Hash) (s : Store) :
    Except BucketError ReservationRow :=
  match s.reservations.find request.reservation.txId with
  | none => typeError "Quarantine resolution does not identify a durable reservation."
  | some row =>
    if row.reservationHash ≠ request.reservationHash then
      typeError "Quarantine resolution does not identify a durable reservation."
    else if request.coordinatorState.authorizationSourceHash ≠ intentHash then
      typeError "Coordinator authorization source is not the selected terminal evidence."
    else
      match row.state with
      | .finalized terminal _ _ _ =>
        if request.resolution ≠ .finalized ∨ some request.selectedHash ≠ row.recordHash
            ∨ intentHash ≠ terminal then
          typeError "A finalized canonical record can only be confirmed."
        else .ok row
      | .cancelled terminal =>
        if request.resolution ≠ .cancelled ∨ request.selectedHash ≠ terminal
            ∨ intentHash ≠ terminal then
          typeError "A cancelled canonical reservation can only be confirmed."
        else .ok row
      | .reserved =>
        if request.selectedHash ≠ intentHash
            ∨ (s.candidates.find (row.txId, request.selectedHash)).any
              (·.transitionKind ≠ selectedKind request.resolution) then
          typeError "Selected evidence does not authorize the requested terminal transition."
        else .ok row

/-- records the resolution; `true` when it was recorded before -/
def resolveSync (request : QuarantineResolutionRequest) (requestHash attestationHash : Hash)
    (s : Store) : Except BucketError (Bool × Store) :=
  match s.resolutions.find request.idempotencyKey with
  | some existing =>
    if existing.requestHash ≠ requestHash ∨ existing.attestationHash ≠ attestationHash then
      typeError "Quarantine resolution idempotency key conflicts with prior evidence."
    else .ok (true, s)
  | none =>
    match s.reservations.find request.reservation.txId with
    | none => .error noRow
    | some current =>
      if !current.unresolved then typeError "Reservation is not awaiting quarantine resolution."
      else if s.resolutions.rows.any (·.attestationHash == attestationHash) then
        .error (.error "UNIQUE constraint failed: manifest_quarantine_resolutions.attestation_hash")
      else
        .ok (false,
          { s with
            resolutions := s.resolutions.put
              { idempotencyKey := request.idempotencyKey, txId := request.reservation.txId
                requestHash, resolution := request.resolution, attestationHash }
            reservations := s.reservations.modify request.reservation.txId fun row =>
              { row with
                quarantineState := .resolved
                resolutionAttestationHash := some attestationHash, updatedAtMs := s.now }
            bucket := { s.bucket with evidenceRevision := s.bucket.evidenceRevision + 1 } })

/-- brings the reservation to the outcome; the refusal of `finalize` or `cancel` if there is one -/
def applyTerminal (intent : TerminalIntent) : Bucket (Option ResolutionResult) :=
  match intent with
  | .finalize intent => do
    match ← finalize L intent with
    | .finalized .. => return none
    | .refused status error => return some (.refused (status == .unavailable) error)
  | .cancel intent => do
    match ← cancel L intent with
    | .cancelled _ => return none
    | .refused status error => return some (.refused (status == .unavailable) error)

def resolveFailed (e : BucketError) : ResolutionResult :=
  let error := manifestError
    (match e with | .typeError _ => .manifestTerminalConflict | _ => .manifestTemporarilyUnavailable)
    e.message
  .refused error.retryable error

/-- the answer, once the row is terminal -/
def answerResolution (request : QuarantineResolutionRequest) (already : Bool)
    (attestationHash : Hash) : Bucket ResolutionResult := do
  let terminal ← oneReservation request.reservation.txId
  .modify fun s =>
    { s with
      answers := s.answers ++
        [{ resolution := request.resolution, txId := request.reservation.txId
           row := s.reservations.find request.reservation.txId }] }
  return .resolved already request.resolution attestationHash
    (terminal.published.map fun published => (published.record, published.recordHash))

/-- `resolveQuarantine` from its transaction on -/
def applyResolution (request : QuarantineResolutionRequest) (requestHash attestationHash : Hash) :
    Bucket ResolutionResult := do
  let already ← Prog.transact (resolveSync request requestHash attestationHash)
  let terminal ← oneReservation request.reservation.txId
  match terminal.state with
  | .reserved =>
    match ← applyTerminal L request.terminalIntent with
    | some refusal => return refusal
    | none => answerResolution request already attestationHash
  | _ => answerResolution request already attestationHash

def attestationOf (request : QuarantineResolutionRequest) (priorConflictRoot : Hash) :
    ResolutionAttestation :=
  { txId := request.reservation.txId, resolution := request.resolution
    selectedHash := request.selectedHash, evidenceHash := request.evidenceHash
    actor := request.actor, reason := request.reason
    coordinatorStateHash := request.coordinatorStateHash, priorConflictRoot
    idempotencyKey := request.idempotencyKey }

def resolveQuarantine (request : QuarantineResolutionRequest) : Bucket ResolutionResult :=
  Prog.rescue (do
    let reservationHash ← liftContract (L.hashManifestReservation request.reservation)
    let _ ← digest reservationHash
    Prog.ofExcept (checkRequest request reservationHash)
    let stateHash ← digest (L.hashCanonicalJson (.attestation request.coordinatorState))
    if stateHash ≠ request.coordinatorStateHash then
      .throw (.typeError "Coordinator state attestation hash does not match its content.")
    else
      Prog.ofExcept (checkCoordinator request)
      let intentHash ← liftContract (terminalIntentHash L request)
      let _ ← digest intentHash
      Prog.ofExcept (checkIntent request)
      let row ← (gets (checkEvidence request intentHash)) >>= Prog.ofExcept
      let requestHash ← digest (L.hash (.resolutionRequest request))
      let attestationHash := L.hash (.resolutionAttestation
        (attestationOf request (row.conflictRoot.getD zeroHash)))
      Prog.ask (.attestation request requestHash attestationHash)
      applyResolution L request requestHash attestationHash)
    fun e => return resolveFailed e

end JournalManifest
