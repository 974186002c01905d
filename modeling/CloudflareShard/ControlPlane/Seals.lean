import CloudflareShard.ControlPlane.Reservations
import CloudflareShard.Sqlite.Keyset

/-!
# Seals of a manifest bucket

A seal generation digests the records up to its cutoff page by page, and is published when nothing
has changed under it.

* `closeSync`            starts, resumes or answers a seal;
* `progressSync`, `finalSync`, `publishSealSync`   the transactions of a generation at work;
* `rollEntries`          the rolling hash of the records;
* `resumeSeal`, `closeThrough`, `initializeForSeal`   the methods.
-/

namespace JournalManifest
open Async Contracts

inductive SealRefusal where
  | sealInProgress
  | quarantined
  | rejected
  | unavailable
  deriving DecidableEq

/-- the generation that a refusal speaks about -/
structure SealReference where
  generation : Nat
  cutoffMs : Nat
  idempotencyKey : Option String

inductive SealResult where
  | pending (generation cutoffMs : Nat)
  | complete (generation cutoffMs : Nat) (receipt : SealReceipt)
  | refused (status : SealRefusal) (error : TransactionProtocolError) (about : Option SealReference)

def sealRejected (code : TransactionErrorCode) (message : String) : SealResult :=
  .refused .rejected (manifestError code message) none

/-! ## starting a seal -/

inductive SealStart where
  | resume (generation : Nat)
  | complete (generation : Nat) (receipt : SealReceipt)
  | result (result : SealResult)

/-- `COUNT(*)` of the covered reservations that are quarantined -/
def Store.unresolvedCount (cutoffMs : Nat) (s : Store) : Nat :=
  s.reservations.count fun row => row.finalizedBy cutoffMs && row.unresolved

/-- a generation begins to digest from the first record on -/
def SealRow.restart (evidenceRevision now : Nat) (row : SealRow) : SealRow :=
  { row with
    status := .draining, cursor := ⊥, digestCount := 0, digestRoot := zeroHash, evidenceRevision
    updatedAtMs := now }

/-- a request with the key of an earlier one -/
def replaySeal (replay : SealRow) (cutoffMs : Nat) (s : Store) : SealStart × Store :=
  if replay.cutoffMs ≠ cutoffMs then
    (.result (sealRejected .manifestNonmonotonicCutoff
      "Seal idempotency key was used for another cutoff."), s)
  else
    match replay.status with
    | .complete receipt => (.complete replay.generation receipt, s)
    | .quarantined =>
      if s.unresolvedCount replay.cutoffMs = 0 then
        (.resume replay.generation,
          { s with
            seals := s.seals.modify replay.generation
              (SealRow.restart s.bucket.evidenceRevision s.now) })
      else
        (.result (.refused .quarantined (manifestError .manifestQuarantined
          "Seal generation is blocked by unresolved evidence.")
          (some ⟨replay.generation, replay.cutoffMs, none⟩)), s)
    | .draining => (.resume replay.generation, s)

/-- the newest complete seal of a cutoff -/
def Store.exactSeal (cutoffMs : Nat) (s : Store) : Option (Nat × SealReceipt) :=
  ((s.seals.ordered (fun row => row.cutoffMs == cutoffMs && row.receipt.isSome)
    SealRow.generation).getLast?).bind fun row => row.receipt.map (row.generation, ·)

def Store.drainingSeal (s : Store) : Option SealRow :=
  (s.seals.ordered SealRow.isDraining SealRow.generation).head?

/-- inserts the generation and closes the time up to its cutoff -/
def insertSeal (request : SealRequest) (s : Store) : Store :=
  { s with
    seals := s.seals.put
      { generation := s.bucket.nextSealGeneration, idempotencyKey := request.idempotencyKey
        cutoffMs := request.cutoffMs
        mode := if request.cutoffMs < s.bucket.sealedThroughMs then .exactPrefix else .advance
        status := .draining, cursor := ⊥, digestCount := 0, digestRoot := zeroHash
        evidenceRevision := s.bucket.evidenceRevision, updatedAtMs := s.now }
    bucket := { s.bucket with
      nextSealGeneration := s.bucket.nextSealGeneration + 1
      decisionFloorMs := max s.bucket.decisionFloorMs request.cutoffMs } }

def closeSync (request : SealRequest) (s : Store) : SealStart × Store :=
  if s.metadata ≠ some (PartitionMetadata.ofRoute request.fleetId request.route) then
    (.result (sealRejected .manifestReservationConflict
      "Seal request does not identify this bucket."), s)
  else if s.bucket.partitionConfigHash ≠ some request.route.partitionConfigHash then
    (.result (sealRejected .manifestReservationConflict
      "Seal partition configuration is not pinned to this bucket."), s)
  else
    match s.seals.rows.find? (·.idempotencyKey == request.idempotencyKey) with
    | some replay => replaySeal replay request.cutoffMs s
    | none =>
      match s.exactSeal request.cutoffMs with
      | some (generation, receipt) => (.complete generation receipt, s)
      | none =>
        match s.drainingSeal with
        | some inProgress =>
          (.result (.refused .sealInProgress (manifestError .manifestSealInProgress
            "Another durable seal generation is in progress.")
            (some ⟨inProgress.generation, inProgress.cutoffMs,
              some inProgress.idempotencyKey⟩)), s)
        | none => (.resume s.bucket.nextSealGeneration, insertSeal request s)

/-! ## a generation at work -/

def oneSeal (generation : Nat) : Bucket SealRow :=
  .step id fun s => match s.seals.find generation with
    | some row => .pure row
    | none => .throw noRow

/-- the next records behind the cursor -/
def Store.sealPage (row : SealRow) (pageSize : Nat) (s : Store) : List ReservationRow :=
  Keyset.page (fun r : ReservationRow => (r.key : WithBot MemberKey)) (s.members row.cutoffMs)
    pageSize row.cursor

def quarantineSeal (generation : Nat) (s : Store) : Store :=
  { s with
    seals := s.seals.modify generation fun row =>
      if row.isDraining then { row with status := .quarantined, updatedAtMs := s.now } else row }

def restartSeal (generation evidenceRevision : Nat) (s : Store) : Store :=
  { s with
    seals := s.seals.modify generation fun row =>
      if row.isDraining then row.restart evidenceRevision s.now else row }

/-- `progressed`: nothing has changed since `seen` was read -/
def progressSync (generation : Nat) (seen : SealRow) (rows : List ReservationRow) (root : Hash)
    (s : Store) : Except BucketError (Bool × Store) :=
  match s.seals.find generation with
  | none => .error noRow
  | some current =>
    if !current.isDraining ∨ current.evidenceRevision ≠ seen.evidenceRevision
        ∨ s.bucket.evidenceRevision ≠ current.evidenceRevision
        ∨ current.cursor ≠ seen.cursor then .ok (false, s)
    else
      .ok (true,
        { s with
          seals := s.seals.modify generation fun row =>
            { row with
              cursor := match rows.getLast? with
                | some last => last.key
                | none => current.cursor
              digestCount := current.digestCount + rows.length, digestRoot := root
              updatedAtMs := s.now } })

structure SealFinal where
  current : SealRow
  recordCount : Nat
  maximumDecisionSequence : Option Nat
  bucket : BucketState
  priorHash : Option Hash
  conflictRoots : List (Hash × Option Hash)

/-- the receipt of the last generation before this one that is complete -/
def Store.priorReceiptHash (generation : Nat) (s : Store) : Option Hash :=
  ((s.seals.ordered (fun row => row.receipt.isSome && row.generation < generation)
    SealRow.generation).getLast?).bind fun row => row.receipt.map (·.receiptHash)

def Store.conflictRoots (s : Store) : List (Hash × Option Hash) :=
  (s.reservations.ordered (·.conflictRoot.isSome) ReservationRow.txId).map fun row =>
    (row.conflictRoot.getD "", row.resolutionAttestationHash)

/-- `none` while a covered record is missing or the evidence has moved on -/
def finalSync (generation : Nat) (s : Store) : Except BucketError (Option SealFinal) :=
  match s.seals.find generation with
  | none => .error noRow
  | some current =>
    let rows := s.members current.cutoffMs
    if rows.any (·.recordHash.isNone) ∨ rows.length ≠ current.digestCount
        ∨ s.bucket.evidenceRevision ≠ current.evidenceRevision then .ok none
    else
      .ok (some
        { current, recordCount := rows.length
          maximumDecisionSequence := (rows.filterMap (·.sequence)).max?
          bucket := s.bucket, priorHash := s.priorReceiptHash generation
          conflictRoots := s.conflictRoots })

/-- `COMPLETE` when the covered records are still those of the digest -/
def publishSealSync (generation : Nat) (seen : SealRow) (receipt : SealReceipt) (s : Store) :
    Except BucketError (Bool × Store) :=
  match s.seals.find generation with
  | none => .error noRow
  | some current =>
    let rows := s.members current.cutoffMs
    if !current.isDraining ∨ current.evidenceRevision ≠ seen.evidenceRevision
        ∨ s.bucket.evidenceRevision ≠ current.evidenceRevision
        ∨ current.digestCount ≠ seen.digestCount ∨ current.digestRoot ≠ seen.digestRoot
        ∨ rows.length ≠ current.digestCount ∨ rows.any (·.unresolved)
        ∨ rows.any (·.recordHash.isNone) then .ok (false, s)
    else
      .ok (true,
        { s with
          seals := s.seals.modify generation fun row =>
            { row with status := .complete receipt, updatedAtMs := s.now }
          bucket := { s.bucket with
            sealedThroughMs := match current.mode with
              | .advance => max s.bucket.sealedThroughMs current.cutoffMs
              | .exactPrefix => s.bucket.sealedThroughMs }
          alarmSchedule := s.alarmSchedule.erase (.sealing generation)
          publications := s.publications ++
            [{ generation, receipt, reservations := s.reservations }] })

variable (L : BucketLib)

/-! ## digests -/

/-- what one record adds to the rolling hash -/
def sealEntry (row : ReservationRow) : Hash :=
  L.hashCanonicalJson
    (.list [row.recordHash.getD "", row.resolutionAttestationHash.getD zeroHash])

def rollEntry (root : Hash) (row : ReservationRow) : Hash :=
  L.hashCanonicalJson (.list [root, sealEntry L row])

/-- the rolling hash of records in the order of the ledger -/
def rollEntries (root : Hash) (rows : List ReservationRow) : Hash :=
  rows.foldl (rollEntry L) root

def digestRows : List ReservationRow → Hash → Bucket Hash
  | [], root => return root
  | row :: rows, root => do
    let _ ← digest (sealEntry L row)
    let root ← digest (rollEntry L root row)
    digestRows rows root

/-! ## the methods -/

/-- how many records a page of a seal holds -/
def sealPageSize : Nat := 128

/-- a pending seal is taken up again in a second -/
def sealPending (generation cutoffMs : Nat) : Bucket SealResult := do
  let now ← gets (·.now)
  scheduleAlarmPurpose (.sealing generation) (now + 1000) generation
  return .pending generation cutoffMs

def sealQuarantined (generation cutoffMs : Nat) : Bucket SealResult := do
  clearAlarmPurpose (.sealing generation)
  return .refused .quarantined (manifestError .manifestQuarantined
    "Eligible manifest evidence is unresolved.") (some ⟨generation, cutoffMs, none⟩)

def conflictResolutionRoot (roots : List (Hash × Option Hash)) : Bucket Hash :=
  if roots.isEmpty then .pure zeroHash else digest (L.hash (.conflictRoots roots))

def receiptBody (request : SealRequest) (generation : Nat) (final : SealFinal)
    (conflictResolutionRoot legacyCertificateHash : Hash) : SealReceiptBody :=
  { fleetId := request.fleetId, route := request.route, cutoffMs := final.current.cutoffMs
    generation, decisionFloorMs := final.bucket.decisionFloorMs
    sealedThroughMs := final.current.cutoffMs, recordCount := final.recordCount
    maximumDecisionSequence := final.maximumDecisionSequence
    recordsDeletedThroughMs := if final.bucket.recordsDeletedThroughMs = 0 then none
      else some final.bucket.recordsDeletedThroughMs
    retentionEpoch := final.bucket.retentionEpoch, recordsRoot := final.current.digestRoot
    conflictResolutionRoot, localLegacyCertificateHash := legacyCertificateHash
    priorReceiptHash := final.priorHash }

/-- `resumeSeal` from the final state on -/
def publishSeal (generation cutoffMs : Nat) (request : SealRequest) (final : SealFinal)
    (legacyCertificateHash : Hash) : Bucket SealResult := do
  let conflictRoot ← conflictResolutionRoot L final.conflictRoots
  let body := receiptBody request generation final conflictRoot legacyCertificateHash
  let receiptHash ← digest (L.hash (.sealReceipt body))
  let receipt : SealReceipt := { body with receiptHash }
  if ← Prog.transact (publishSealSync generation final.current receipt) then
    rearmPhysicalAlarm
    let now ← gets (·.now)
    ensureAlarmAtOrBefore (now + v2HistoryRetentionMs)
    return .complete generation cutoffMs receipt
  else sealPending generation cutoffMs

/-- `resumeSeal` from the page of records on -/
def digestPage (generation : Nat) (request : SealRequest) (seen : SealRow)
    (rows : List ReservationRow) : Bucket SealResult := do
  let root ← digestRows L rows seen.digestRoot
  let progressed ← Prog.transact (progressSync generation seen rows root)
  if !progressed || rows.length == sealPageSize then sealPending generation seen.cutoffMs
  else
    let final ← (gets (finalSync generation)) >>= Prog.ofExcept
    match final with
    | none => sealPending generation seen.cutoffMs
    | some final =>
      match final.bucket.legacyCertificateHash with
      | none => sealPending generation seen.cutoffMs
      | some certificateHash =>
        publishSeal L generation seen.cutoffMs request final certificateHash

def resumeSeal (generation : Nat) (request : SealRequest) : Bucket SealResult := do
  let row ← oneSeal generation
  match row.status with
  | .complete receipt =>
    clearAlarmPurpose (.sealing generation)
    return .complete generation row.cutoffMs receipt
  | .quarantined => sealQuarantined generation row.cutoffMs
  | .draining =>
    let unresolved ← gets (Store.unresolvedCount row.cutoffMs)
    if unresolved > 0 then
      .modify (quarantineSeal generation)
      sealQuarantined generation row.cutoffMs
    else
      let evidenceRevision ← gets (·.bucket.evidenceRevision)
      if evidenceRevision ≠ row.evidenceRevision then
        .modify (restartSeal generation evidenceRevision)
        sealPending generation row.cutoffMs
      else
        let rows ← gets (Store.sealPage row sealPageSize)
        if rows.any (·.recordHash.isNone) then sealPending generation row.cutoffMs
        else digestPage L generation request row rows

def closeFailed (e : BucketError) : SealResult :=
  let error := e.protocol .manifestTemporarilyUnavailable
    "Manifest sealing is temporarily unavailable."
  .refused (if error.retryable then .unavailable else .rejected) error none

def closeThrough (request : SealRequest) : Bucket SealResult :=
  Prog.rescue (do
    liftContract (L.validateManifestSealRequest request)
    let now ← gets (·.now)
    if request.cutoffMs > now then
      return sealRejected .manifestFutureCutoff "A manifest bucket cannot seal a future cutoff."
    else
      let _ ← ensureLegacyCertificate L
      match ← sync (closeSync request) with
      | .result result =>
        match result with
        | .refused .quarantined _ (some about) => clearAlarmPurpose (.sealing about.generation)
        | _ => pure ()
        return result
      | .complete generation receipt =>
        clearAlarmPurpose (.sealing generation)
        return .complete generation request.cutoffMs receipt
      | .resume generation => resumeSeal L generation request)
    fun e => return closeFailed e

inductive InitializeResult where
  | initialized (localLegacyCertificateHash : Hash) (decisionFloorMs : Nat)
  | refused (error : TransactionProtocolError)

/-- pins the bucket and raises its floor -/
def initializeSync (request : SealRequest) (requiredDecisionFloorMs : Nat) (s : Store) :
    Except BucketError (Nat × Store) :=
  let metadata := PartitionMetadata.ofRoute request.fleetId request.route
  if s.metadata.any (· ≠ metadata) then
    .error (.contract (manifestError .manifestReservationConflict
      "Seal initialization conflicts with bucket identity."))
  else if s.bucket.partitionConfigHash.any (· ≠ request.route.partitionConfigHash) then
    .error (.contract (manifestError .manifestReservationConflict
      "Seal initialization conflicts with partition configuration."))
  else
    .ok (max s.bucket.decisionFloorMs requiredDecisionFloorMs,
      raiseFloor request.route.partitionConfigHash requiredDecisionFloorMs (fixMetadata metadata s))

def invalidRequest {α : Type} (message : String) : Bucket α :=
  .throw (.contract (manifestError .manifestInvalidRequest message))

def initializeForSeal (request : SealRequest)
    (requiredDecisionFloorMs reservationRequiredSinceMs : Nat) : Bucket InitializeResult := do
  liftContract (L.validateManifestSealRequest request)
  if requiredDecisionFloorMs > maxSafeInteger then
    invalidRequest "required_decision_floor_ms must be a non-negative safe integer."
  else if reservationRequiredSinceMs > maxSafeInteger then
    invalidRequest "reservation_required_since_ms must be a non-negative safe integer."
  else
    let certificateHash ← ensureLegacyCertificate L
    let legacyMaximum ← gets (·.bucket.legacyMaxCommitDecidedAtMs)
    if legacyMaximum.all fun maximum => (reservationRequiredSinceMs : Int) ≤ maximum then
      return .refused (manifestError .manifestUnprovenLegacyWindow
        "Legacy bucket evidence overlaps the fleet reservation coverage boundary.")
    else
      let floor ← Prog.transact (initializeSync request requiredDecisionFloorMs)
      return .initialized certificateHash floor

end JournalManifest
