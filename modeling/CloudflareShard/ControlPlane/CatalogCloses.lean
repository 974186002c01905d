import CloudflareShard.ControlPlane.CatalogRoutes
import CloudflareShard.Sqlite.Keyset

/-!
# Snapshots and closes of the fleet catalog

* `beginSnapshot`, `commitSnapshot`   a snapshot is taken page by page, under a fence;
* `beginCloseSync`, `materializeSync`, `recordReceiptSync`, `completeSync`   the close of a snapshot;
* `purgeHistory`                      what is deleted after its time;
* `alarm`                             the wake-ups;
* `Request`, `system`                 the object as a whole.
-/

namespace FleetCatalog
open Async Contracts

variable (L : CatalogLib)

/-! ## snapshots -/

structure SnapshotRequest where
  protocolVersion : Nat
  fleetId : String
  cutoffMs : Nat
  idempotencyKey : String
  pageSize : Option Nat

/-- the next generation, fenced by the events there are -/
def newSnapshot (request : SnapshotRequest) (nowMs : Nat) (metadata : Metadata) : SnapshotRow :=
  { generation := metadata.currentSnapshotGeneration + 1, idempotencyKey := request.idempotencyKey
    cutoffMs := request.cutoffMs
    decisionFloorMs := max metadata.decisionFloorMs request.cutoffMs
    fenceSequence := metadata.nextEventSequence
    partitionConfigRootHash := metadata.partitionConfigRootHash
    priorSnapshotHash := metadata.lastSnapshotHash, status := .building
    cursorSequence := 0, entryCount := 0, rollingHash := zeroHash, createdAtMs := nowMs }

/-- the generation for the key: that of an earlier request, or a new one -/
def beginSnapshot (request : SnapshotRequest) (nowMs : Nat) (s : Store) :
    Except CatalogError (Nat × Store) :=
  match s.snapshots.rows.find? (·.idempotencyKey == request.idempotencyKey) with
  | some replay =>
    if replay.cutoffMs ≠ request.cutoffMs then
      typeError "idempotency_key conflicts with another cutoff."
    else .ok (replay.generation, s)
  | none =>
    match s.snapshots.rows.find? SnapshotRow.isBuilding with
    | some building =>
      typeError ("Snapshot generation " ++ toString building.generation ++ " is still in progress.")
    | none => do
      let metadata ← s.meta
      let row := newSnapshot request nowMs metadata
      return (row.generation,
        { s with
          metadata := some { metadata with
            decisionFloorMs := row.decisionFloorMs, currentSnapshotGeneration := row.generation }
          snapshots := s.snapshots.put row
          begun := s.begun ++ [row] })

/-- the bucket was active at the fence -/
def HistoryRow.activeAt (fenceSequence : Nat) (row : HistoryRow) : Bool :=
  row.activationSequence ≤ fenceSequence
    && row.deactivated.all (fenceSequence < ·.sequence)

/-- one more row than the page holds, behind the cursor -/
def Store.snapshotCandidates (snapshot : SnapshotRow) (limit : Nat) (s : Store) : List HistoryRow :=
  (s.history.ordered
    (fun row => snapshot.cursorSequence < row.activationSequence
      && row.activeAt snapshot.fenceSequence) HistoryRow.activationSequence).take (limit + 1)

def rollEntry (rollingHash : Hash) (entryHash : Hash) : Hash :=
  L.hash (.snapshotEntry entryHash rollingHash)

/-- the rolling hash of entries in the order of their activation -/
def rollEntries (rollingHash : Hash) (entryHashes : List Hash) : Hash :=
  entryHashes.foldl (rollEntry L) rollingHash

def digestEntries : List HistoryRow → Hash → Catalog Hash
  | [], rollingHash => return rollingHash
  | row :: rows, rollingHash => do
    let rollingHash ← digest (rollEntry L rollingHash row.entry.entryHash)
    digestEntries rows rollingHash

def snapshotDocument (snapshot : SnapshotRow) (entryCount : Nat) (entryRootHash : Hash) :
    SnapshotDocument :=
  { cutoffMs := snapshot.cutoffMs, decisionFloorMs := snapshot.decisionFloorMs, entryCount
    entryRootHash, fenceSequence := snapshot.fenceSequence, generation := snapshot.generation
    partitionConfigRootHash := snapshot.partitionConfigRootHash
    priorSnapshotHash := snapshot.priorSnapshotHash }

def HistoryRow.entryOf (generation : Nat) (row : HistoryRow) : SnapshotEntryRow :=
  { generation, activationSequence := row.activationSequence, entry := row.entry }

/-- the page takes effect when the snapshot is still where it was read; `finalHash` completes it -/
def commitSnapshot (seen : SnapshotRow) (rows : List HistoryRow) (rollingHash : Hash)
    (finalHash : Option Hash) (nowMs : Nat) (s : Store) :
    Except CatalogError (SnapshotRow × Store) := do
  let current ← one (s.snapshots.find seen.generation)
  if !current.isBuilding then return (current, s)
  else if current.cursorSequence ≠ seen.cursorSequence ∨ current.rollingHash ≠ seen.rollingHash then
    return (current, s)
  else
    let row : SnapshotRow :=
      { current with
        cursorSequence := (rows.getLast?.map (·.activationSequence)).getD seen.cursorSequence
        entryCount := seen.entryCount + rows.length, rollingHash
        status := finalHash.elim .building fun snapshotHash => .complete snapshotHash nowMs }
    return (row,
      { s with
        entries := s.entries.insertAll (rows.map (HistoryRow.entryOf seen.generation))
        snapshots := s.snapshots.put row
        metadata := s.metadata.map fun metadata =>
          { metadata with lastSnapshotHash := finalHash.getD metadata.lastSnapshotHash } })

def oneSnapshot (generation : Nat) : Catalog SnapshotRow :=
  (gets fun s => one (s.snapshots.find generation)) >>= Prog.ofExcept

/-- `resumeSnapshot` from the page on -/
def takeSnapshot (snapshot : SnapshotRow) (rows : List HistoryRow) (hasMore : Bool) (nowMs : Nat) :
    Catalog SnapshotRow := do
  let rollingHash ← digestEntries L rows snapshot.rollingHash
  let finalHash ← if hasMore then pure none else do
    let hash ← digest (L.hash (.snapshot
      (snapshotDocument snapshot (snapshot.entryCount + rows.length) rollingHash)))
    pure (some hash)
  Prog.transact (commitSnapshot snapshot rows rollingHash finalHash nowMs)

def resumeSnapshot (generation : Nat) (requestedPageSize : Option Nat) (nowMs : Nat) :
    Catalog SnapshotRow := do
  let limit ← pageSize requestedPageSize
  let snapshot ← oneSnapshot generation
  if !snapshot.isBuilding then return snapshot
  else
    let candidates ← gets (Store.snapshotCandidates snapshot limit)
    takeSnapshot L snapshot (candidates.take limit) (candidates.length > limit) nowMs

/-- `snapshotThrough` of the store -/
def takeThrough (request : SnapshotRequest) : Catalog SnapshotRow := do
  let nowMs ← gets (·.now)
  require (request.protocolVersion == 2) "Unsupported catalog protocol_version."
  assertText request.idempotencyKey "idempotency_key"
  require (request.cutoffMs ≤ nowMs) "cutoff_ms must be a non-future integer timestamp."
  let limit ← pageSize request.pageSize
  let _ ← awaited (ensureFleet L request.fleetId)
  let generation ← Prog.transact (beginSnapshot request nowMs)
  resumeSnapshot L generation (some limit) nowMs

/-! ## reads -/

def Store.snapshotEntries (generation afterSequence limit : Nat) (s : Store) :
    List SnapshotEntryRow :=
  (s.entries.ordered
    (fun row => row.generation == generation && afterSequence < row.activationSequence)
    SnapshotEntryRow.activationSequence).take limit

def snapshotEntries (generation afterSequence : Nat) (requestedPageSize : Option Nat) :
    Catalog (List SnapshotEntryRow) := do
  let limit ← pageSize requestedPageSize
  require (1 ≤ generation) "generation and afterSequence must be non-negative safe integers."
  gets (Store.snapshotEntries generation afterSequence limit)

def snapshotByGeneration (generation : Nat) : Catalog SnapshotRow := do
  require (1 ≤ generation) "generation must be a positive safe integer."
  oneSnapshot generation

def closeByKey (closeKey : Hash) : Catalog (Option CloseRow) := do
  assertHash closeKey "close_key"
  gets (·.closes.find closeKey)

def oneClose (closeKey : Hash) : Catalog CloseRow :=
  (gets fun s => one (s.closes.find closeKey)) >>= Prog.ofExcept

structure EnumerationEntry where
  entry : Entry
  activationSequence : Nat
  exactReceiptHash : Option Hash

/-- the order of `reservation_day, partition` -/
abbrev Bucket.order (bucket : Bucket) : ℕ ×ₗ ℕ := toLex (bucket.reservationDay, bucket.partition)

/-- the receipt of an entry, when the close is complete and about this snapshot -/
def Store.receiptOf (closeKey : Hash) (row : SnapshotEntryRow) (s : Store) : Option Hash :=
  match s.closes.find closeKey with
  | some close =>
    if close.snapshotGeneration = row.generation ∧ !close.isPending then
      (s.progress.find (closeKey, row.activationSequence)).bind (·.exactReceiptHash)
    else none
  | none => none

/-- the entries of a snapshot behind a bucket -/
def Store.enumerationEntries (generation : Nat) (closeKey : Hash) (after : WithBot (ℕ ×ₗ ℕ))
    (limit : Nat) (s : Store) : List EnumerationEntry :=
  ((s.entries.ordered
    (fun row => row.generation == generation && decide (after < (row.entry.bucket.order : WithBot _)))
    (·.entry.bucket.order)).take limit).map fun row =>
      { entry := row.entry, activationSequence := row.activationSequence
        exactReceiptHash := s.receiptOf closeKey row }

def enumerationEntries (generation : Nat) (closeKey : Hash) (after : WithBot (ℕ ×ₗ ℕ))
    (requestedPageSize : Option Nat) : Catalog (List EnumerationEntry) := do
  assertHash closeKey "close_key"
  let limit ← pageSize requestedPageSize
  gets (Store.enumerationEntries generation closeKey after limit)

/-! ## cursors -/

/-- deletes up to 128 cursors whose time has come; when the next one is due -/
def Store.purgeCursors (now : Nat) (s : Store) : Option Nat × Store :=
  let due := (s.cursors.ordered (·.expiresAtMs ≤ now) CursorRow.expiresAtMs).take 128
  let cursors := due.foldl (fun t row => t.erase row.cursor) s.cursors
  ((cursors.rows.map (·.expiresAtMs)).min?, { s with cursors })

/-- a cursor lives until its lease or that of its evidence is over -/
def insertCursor (cursor : EnumerationCursor) (evidence : List EvidencePin) (now : Nat) (s : Store) :
    Store :=
  let expiresAtMs := evidence.foldl (fun expiry pin => min expiry pin.leaseExpiresAtMs)
    (now + catalogCursorMaxLeaseMs)
  { s with cursors := s.cursors.put { cursor, evidence, expiresAtMs } }

def scheduleCursorGc (fireAtMs : Nat) : Catalog Unit := do
  let payloadHash ← digest (L.hash (.alarm .cursorGc fireAtMs))
  schedulePurpose { purpose := .cursorGc, fireAtMs, generation := 0, payloadHash, attemptCount := 0 }
  armNextAlarm

def issueEnumerationCursor (cursor : EnumerationCursor) (evidence : List EvidencePin) :
    Catalog Unit := do
  let now ← gets (·.now)
  let existing ← sync (Store.purgeCursors now)
  scheduleCursorGc L (match existing with
    | some expiry => min expiry (now + catalogCursorMaxLeaseMs)
    | none => now + catalogCursorMaxLeaseMs)
  .modify (insertCursor cursor evidence now)
  match ← sync (Store.purgeCursors now) with
  | some nextExpiry => scheduleCursorGc L nextExpiry
  | none => return ()

def enumerationCursorEvidence (cursor : EnumerationCursor) : Catalog (Option (List EvidencePin)) := do
  let now ← gets (·.now)
  let _ ← sync (Store.purgeCursors now)
  gets fun s => ((s.cursors.find cursor).filter (now < ·.expiresAtMs)).map (·.evidence)

/-! ## closes -/

def beginCloseSync (closeKey : Hash) (snapshot : SnapshotRow) (snapshotHash : Hash) (nowMs : Nat)
    (s : Store) : CloseRow × Store :=
  match s.closes.find closeKey with
  | some existing => (existing, s)
  | none =>
    let row : CloseRow :=
      { closeKey, cutoffMs := snapshot.cutoffMs, snapshotGeneration := snapshot.generation
        snapshotHash, status := .pending, progressCursorSequence := 0, completedEntries := 0
        totalEntries := snapshot.entryCount, createdAtMs := nowMs, updatedAtMs := nowMs }
    (row, { s with closes := s.closes.put row })

/-- the close key names the fleet, the cutoff and the configuration, not the generation -/
def beginClose (fleetId : String) (cutoffMs snapshotGeneration : Nat) : Catalog CloseRow := do
  let nowMs ← gets (·.now)
  let _ ← awaited (ensureFleet L fleetId)
  let snapshot ← oneSnapshot snapshotGeneration
  match snapshot.snapshotHash with
  | none => .throw (.typeError "Close requires the complete exact-cutoff catalog snapshot.")
  | some snapshotHash =>
    require (snapshot.cutoffMs == cutoffMs)
      "Close requires the complete exact-cutoff catalog snapshot."
    let closeKey ← digest
      (L.hash (.closeKey fleetId cutoffMs snapshot.partitionConfigRootHash))
    sync (beginCloseSync closeKey snapshot snapshotHash nowMs)

/-- the pending progress of an entry -/
def SnapshotEntryRow.progressOf (operation : CloseRow) (row : SnapshotEntryRow) : ProgressRow :=
  { closeKey := operation.closeKey, activationSequence := row.activationSequence
    bucket := row.entry.bucket
    bucketCloseKey := L.hash
      (.bucketClose operation.cutoffMs operation.snapshotGeneration row.entry.bucket)
    exactReceiptHash := none }

/-- the page takes effect when the close is still where it was read -/
def materializeSync (seen : CloseRow) (rows : List SnapshotEntryRow) (nowMs : Nat) (s : Store) :
    Except CatalogError (CloseRow × Store) := do
  let current ← one (s.closes.find seen.closeKey)
  if current.progressCursorSequence ≠ seen.progressCursorSequence then return (current, s)
  else
    let row : CloseRow :=
      { current with
        progressCursorSequence :=
          (rows.getLast?.map (·.activationSequence)).getD current.progressCursorSequence
        updatedAtMs := nowMs }
    return (row,
      { s with
        progress := s.progress.insertAll (rows.map (·.progressOf L seen))
        closes := s.closes.put row })

def digestCloseKeys (operation : CloseRow) : List SnapshotEntryRow → Catalog Unit
  | [] => return ()
  | row :: rows => do
    let _ ← digest (L.hash
      (.bucketClose operation.cutoffMs operation.snapshotGeneration row.entry.bucket))
    digestCloseKeys operation rows

def materializeCloseProgress (closeKey : Hash) (requestedPageSize : Option Nat) :
    Catalog CloseRow := do
  let nowMs ← gets (·.now)
  assertHash closeKey "close_key"
  let limit ← pageSize requestedPageSize
  let operation ← oneClose closeKey
  if !operation.isPending then return operation
  else
    let rows ← snapshotEntries operation.snapshotGeneration operation.progressCursorSequence
      (some limit)
    digestCloseKeys L operation rows
    Prog.ask (.closeKeys operation)
    Prog.transact (materializeSync L operation rows nowMs)

structure CloseProgressEntry where
  activationSequence : Nat
  entry : Entry
  bucketCloseKey : Hash

/-- the pending entries of a close -/
def Store.closeProgress (closeKey : Hash) (afterSequence limit : Nat) (s : Store) :
    List CloseProgressEntry :=
  match s.closes.find closeKey with
  | none => []
  | some close =>
    ((s.progress.ordered
      (fun p => p.closeKey == closeKey && decide (afterSequence < p.activationSequence)
        && p.exactReceiptHash.isNone
        && (s.entries.find (close.snapshotGeneration, p.activationSequence)).isSome)
      ProgressRow.activationSequence).take limit).filterMap fun p =>
        (s.entries.find (close.snapshotGeneration, p.activationSequence)).map fun row =>
          { activationSequence := p.activationSequence, entry := row.entry
            bucketCloseKey := p.bucketCloseKey }

def closeProgress (closeKey : Hash) (afterSequence : Nat) (requestedPageSize : Option Nat) :
    Catalog (List CloseProgressEntry) := do
  assertHash closeKey "close_key"
  let limit ← pageSize requestedPageSize
  gets (Store.closeProgress closeKey afterSequence limit)

def recordReceiptSync (closeKey : Hash) (activationSequence : Nat) (exactReceiptHash : Hash)
    (nowMs : Nat) (s : Store) : Except CatalogError (CloseRow × Store) := do
  let progress ← one (s.progress.find (closeKey, activationSequence))
  match progress.exactReceiptHash with
  | some receipt =>
    if receipt ≠ exactReceiptHash then
      typeError "Close progress already contains different exact-cutoff evidence."
    else
      let close ← one (s.closes.find closeKey)
      return (close, s)
  | none =>
    let s : Store :=
      { s with
        progress := s.progress.put { progress with exactReceiptHash := some exactReceiptHash }
        closes := s.closes.modify closeKey fun row =>
          { row with completedEntries := row.completedEntries + 1, updatedAtMs := nowMs } }
    let close ← one (s.closes.find closeKey)
    return (close, s)

def recordCloseReceipt (closeKey : Hash) (activationSequence : Nat) (exactReceiptHash : Hash) :
    Catalog CloseRow := do
  let nowMs ← gets (·.now)
  assertHash closeKey "close_key"
  assertHash exactReceiptHash "exact_receipt_hash"
  Prog.transact (recordReceiptSync closeKey activationSequence exactReceiptHash nowMs)

/-- the entries of a close with their receipts, in the order of their activation -/
def Store.receipts (closeKey : Hash) (s : Store) : List (Nat × Option Hash) :=
  (s.progress.ordered (·.closeKey == closeKey) ProgressRow.activationSequence).map fun p =>
    (p.activationSequence, p.exactReceiptHash)

/-- complete when all entries have their receipts -/
def completeSync (closeKey fleetRootHash : Hash) (nowMs : Nat) (s : Store) :
    Except CatalogError (CloseRow × Store) := do
  let current ← one (s.closes.find closeKey)
  let completed := s.progress.count fun p => p.closeKey == closeKey && p.exactReceiptHash.isSome
  if !current.isPending ∨ completed ≠ current.totalEntries then return (current, s)
  else
    let row := { current with status := .complete fleetRootHash, updatedAtMs := nowMs }
    return (row, { s with closes := s.closes.put row })

def fleetRoot (operation : CloseRow) (receipts : List (Nat × Option Hash)) : FleetRootDocument :=
  { closeKey := operation.closeKey, cutoffMs := operation.cutoffMs
    snapshotGeneration := operation.snapshotGeneration, snapshotHash := operation.snapshotHash
    receipts }

/-- `finalizeClose` of the store -/
def completeClose (closeKey : Hash) : Catalog CloseRow := do
  let nowMs ← gets (·.now)
  assertHash closeKey "close_key"
  let operation ← oneClose closeKey
  if !operation.isPending then return operation
  else
    let receipts ← gets (Store.receipts closeKey)
    if receipts.length ≠ operation.totalEntries ∨ receipts.any (·.2.isNone) then return operation
    else
      Prog.ask (.fleetRoot operation receipts)
      Prog.transact
        (completeSync closeKey (L.hash (.fleetRoot (fleetRoot operation receipts))) nowMs)

/-! ## history -/

/-- how many closes and snapshots a purge takes -/
def purgeLimit : Nat := 8

/-- older than the retention -/
def expired (atMs now : Nat) : Bool := atMs + catalogHistoryRetentionMs ≤ now

/-- a close that has not changed for the time of the retention, with its progress -/
def purgeCloses (now : Nat) (s : Store) : Nat × Store :=
  let due := (s.closes.ordered (fun row => expired row.updatedAtMs now) fun row =>
    (toLex (row.updatedAtMs, row.closeKey) : ℕ ×ₗ String)).take purgeLimit
  (due.length, due.foldl (fun s row =>
    { s with
      progress := s.progress.deleteWhere (·.closeKey == row.closeKey)
      closes := s.closes.erase row.closeKey }) s)

/-- old snapshots before the current one that no close is about, with their entries -/
def purgeSnapshots (currentGeneration now : Nat) (s : Store) : Nat × Store :=
  let due := (s.snapshots.ordered (fun row => row.generation < currentGeneration
    && expired row.settledAtMs now
    && !s.closes.rows.any (·.snapshotGeneration == row.generation))
      SnapshotRow.generation).take purgeLimit
  (due.length, due.foldl (fun s row =>
    { s with
      entries := s.entries.deleteWhere (·.generation == row.generation)
      snapshots := s.snapshots.erase row.generation }) s)

def purgeActivationKeys (now : Nat) (s : Store) : Nat × Store :=
  let due := (s.activationKeys.ordered (fun row => expired row.createdAtMs now)
    ActivationKeyRow.createdAtMs).take (purgeLimit * maxCatalogPageSize)
  (due.length, { s with
    activationKeys := due.foldl (fun t row => t.erase row.activationKey) s.activationKeys })

/-- a past activation that no snapshot holds, nor one that is being taken needs -/
def staleActivation (now : Nat) (s : Store) (row : HistoryRow) : Bool :=
  match row.deactivated with
  | none => false
  | some deactivated =>
    expired deactivated.atMs now
      && !s.entries.rows.any (·.activationSequence == row.activationSequence)
      && !s.snapshots.rows.any fun snapshot => snapshot.isBuilding
        && row.activationSequence ≤ snapshot.fenceSequence
        && snapshot.fenceSequence < deactivated.sequence

def purgeActivations (now : Nat) (s : Store) : Nat × Store :=
  let due := (s.history.ordered (staleActivation now s)
    HistoryRow.activationSequence).take (purgeLimit * maxCatalogPageSize)
  (due.length, { s with
    history := due.foldl (fun t row => t.erase row.activationSequence) s.history })

def purgeHistorySync (now : Nat) (s : Store) : Except CatalogError (Nat × Store) := do
  let (closes, s) := purgeCloses now s
  let metadata ← s.meta
  let (snapshots, s) := purgeSnapshots metadata.currentSnapshotGeneration now s
  let (keys, s) := purgeActivationKeys now s
  let (activations, s) := purgeActivations now s
  return (closes + snapshots + keys + activations, s)

/-- when the next of the rows that are left is due -/
def Store.historyDeadline (now : Nat) (s : Store) : Option Nat :=
  let closes := s.closes.rows.map (·.updatedAtMs)
  let snapshots := (s.snapshots.rows.filter fun row =>
    s.metadata.any (row.generation < ·.currentSnapshotGeneration)).map (·.settledAtMs)
  let keys := s.activationKeys.rows.map (·.createdAtMs)
  ((closes ++ snapshots ++ keys).map (· + catalogHistoryRetentionMs)).min?.map (max now)

def purgeHistory (now : Nat) : Catalog (Nat × Option Nat) := do
  let deleted ← Prog.transact (purgeHistorySync now)
  let deadline ← gets (Store.historyDeadline now)
  return (deleted, deadline)

/-- the purpose of the next collection -/
def historySuccessor : Option Nat → Catalog (Option AlarmPurpose)
  | none => return none
  | some deadline => do
    let payloadHash ← digest (L.hash (.alarm .historyGc deadline))
    return some { purpose := .historyGc, fireAtMs := deadline, generation := 0, payloadHash
                  attemptCount := 0 }

/-- no collection is scheduled, or the one that was read is deleted -/
def completeScheduled : Option AlarmPurpose → Catalog Bool
  | none => gets fun s => (s.alarmSchedule.find .historyGc).isNone
  | some scheduled => completePurposeIfCurrent scheduled

def scheduleSuccessor : Option AlarmPurpose → Catalog Unit
  | some successor => schedulePurpose successor
  | none => return ()

def refreshHistoryGc (expected : Option AlarmPurpose) : Catalog Bool := do
  let scheduled ← gets fun s => expected <|> s.alarmSchedule.find .historyGc
  let now ← gets (·.now)
  let (_, deadline) ← purgeHistory now
  let successor ← historySuccessor L deadline
  let completed ← completeScheduled scheduled
  scheduleSuccessor (if completed then successor else none)
  armNextAlarm
  return completed

/-! ## methods with a wake-up -/

def snapshotThrough (request : SnapshotRequest) : Catalog SnapshotRow := do
  let result ← awaited (takeThrough L request)
  if result.isBuilding then
    let now ← gets (·.now)
    let payloadHash ← digest (L.hash (.alarm .snapshotResume result.generation))
    schedulePurpose
      { purpose := .snapshotResume, fireAtMs := now, generation := result.generation, payloadHash
        attemptCount := 0 }
    armNextAlarm
  else pure ()
  let _ ← refreshHistoryGc L none
  return result

def finalizeClose (closeKey : Hash) : Catalog CloseRow := do
  let result ← awaited (completeClose L closeKey)
  let _ ← refreshHistoryGc L none
  return result

/-- schedules what follows a purpose that is done -/
def succeed (row : AlarmPurpose) (successor : Option AlarmPurpose) : Catalog Unit := do
  let completed ← completePurposeIfCurrent row
  scheduleSuccessor (if completed then successor else none)

/-- a collection that is due again at `next` -/
def successorAt (row : AlarmPurpose) (next : Option Nat) : Catalog (Option AlarmPurpose) :=
  match next with
  | none => pure none
  | some next => do
    let now ← gets (·.now)
    let payloadHash ← digest (L.hash (.alarm row.purpose next))
    return some { purpose := row.purpose, fireAtMs := max now next, generation := 0, payloadHash
                  attemptCount := 0 }

def runPurpose (row : AlarmPurpose) : Catalog Unit :=
  match row.purpose with
  | .snapshotResume => do
    let nowMs ← gets (·.now)
    let result ← awaited (resumeSnapshot L row.generation none nowMs)
    let now ← gets (·.now)
    succeed row
      (if result.isBuilding then some { row with fireAtMs := now, attemptCount := 0 } else none)
  | .cursorGc => do
    let now ← gets (·.now)
    let next ← sync (Store.purgeCursors now)
    let successor ← successorAt L row next
    succeed row successor
  | .routeGc => do
    let now ← gets (·.now)
    let next ← purgeReleasedRoutes now
    let successor ← successorAt L row next
    succeed row successor
  | .historyGc => do
    let _ ← awaited (refreshHistoryGc L (some row))
    return ()

/-- `boundedExponentialBackoffMs` -/
def backoffMs (priorAttempts baseMs maximumMs : Nat) : Nat :=
  min (baseMs * 2 ^ min priorAttempts 30) maximumMs

/-- a failed purpose is put off -/
def deferPurpose (row : AlarmPurpose) : Catalog Unit := do
  let attemptCount := row.attemptCount + 1
  let now ← gets (·.now)
  let _ ← reschedulePurposeAfterFailure row
    (now + backoffMs (attemptCount - 1) catalogAlarmBaseRetryMs catalogAlarmMaxRetryMs) attemptCount
  return ()

def runPurposes : List AlarmPurpose → Catalog Unit
  | [] => return ()
  | row :: rest => do
    Prog.rescue (runPurpose L row) fun _ => deferPurpose row
    runPurposes rest

/-- the text of a purpose, by which the purposes of one time are sorted -/
def Purpose.text : Purpose → String
  | .snapshotResume => "snapshot_resume"
  | .cursorGc => "cursor_gc"
  | .routeGc => "route_gc"
  | .historyGc => "history_gc"

def Store.duePurposes (now : Nat) (s : Store) : List AlarmPurpose :=
  (s.alarmSchedule.ordered (·.fireAtMs ≤ now) fun row =>
    (toLex (row.fireAtMs, row.purpose.text) : ℕ ×ₗ String)).take catalogAlarmBatchSize

/-- the platform has cleared the physical alarm that has fired -/
def alarm : Catalog Unit := do
  .modify fun s => { s with physicalAlarm := none }
  let now ← gets (·.now)
  let due ← gets (Store.duePurposes now)
  runPurposes L due
  armNextAlarm

/-! ## the object -/

inductive Request where
  | assignManifestRoute (draft : ManifestRouteDraft) (assignmentKey : Hash)
  | releaseManifestRoute (fleetId : String) (txId : TxId) (reservationHash : Hash)
      (deleteAfterMs : Nat)
  | partitionConfigForDay (fleetId : String) (day : Day)
  | appendPartitionConfig (fleetId : String) (effectiveFromDay : Day) (partitionCount : Nat)
  | coverageState (fleetId : String)
  | advanceLegacyGridMaterializedThrough (fleetId : String) (day : Day)
  | advanceLegacyScannedThrough (fleetId : String) (day : Day) (closeKey : Hash)
  | activateBucket (request : ActivationRequest)
  | admitLegacyRegistration (request : LegacyRegistration)
  | retireBucket (fleetId : String) (bucket : Bucket) (certificateHash : Hash)
  | snapshotThrough (request : SnapshotRequest)
  | snapshotEntries (generation afterSequence : Nat) (requestedPageSize : Option Nat)
  | snapshotByGeneration (generation : Nat)
  | closeByKey (closeKey : Hash)
  | enumerationEntries (generation : Nat) (closeKey : Hash) (after : WithBot (ℕ ×ₗ ℕ))
      (requestedPageSize : Option Nat)
  | issueEnumerationCursor (cursor : EnumerationCursor) (evidence : List EvidencePin)
  | enumerationCursorEvidence (cursor : EnumerationCursor)
  | beginClose (fleetId : String) (cutoffMs snapshotGeneration : Nat)
  | materializeCloseProgress (closeKey : Hash) (requestedPageSize : Option Nat)
  | closeProgress (closeKey : Hash) (afterSequence : Nat) (requestedPageSize : Option Nat)
  | recordCloseReceipt (closeKey : Hash) (activationSequence : Nat) (exactReceiptHash : Hash)
  | finalizeClose (closeKey : Hash)
  /-- methods of the store that the object itself only calls from its alarm -/
  | resumeSnapshot (generation : Nat) (requestedPageSize : Option Nat)
  | purgeHistory
  | alarm

inductive Response where
  | assignment (assignment : RouteAssignment)
  | config (config : PartitionConfigRow)
  | coverage (metadata : Metadata)
  | day (day : Day)
  | activation (result : ActivationResult)
  | admission (admission : LegacyAdmission)
  | retirement (result : RetirementResult)
  | snapshot (snapshot : SnapshotRow)
  | snapshotEntries (entries : List SnapshotEntryRow)
  | close (close : Option CloseRow)
  | enumeration (entries : List EnumerationEntry)
  | evidence (evidence : Option (List EvidencePin))
  | progress (entries : List CloseProgressEntry)
  | done

def handle : Request → Catalog Response
  | .assignManifestRoute draft key => return .assignment (← assignManifestRoute L draft key)
  | .releaseManifestRoute fleetId txId reservationHash deleteAfterMs => do
    releaseManifestRoute L fleetId txId reservationHash deleteAfterMs
    return .done
  | .partitionConfigForDay fleetId day => return .config (← partitionConfigForDay L fleetId day)
  | .appendPartitionConfig fleetId day count =>
    return .config (← appendPartitionConfig L fleetId day count)
  | .coverageState fleetId => return .coverage (← coverageState L fleetId)
  | .advanceLegacyGridMaterializedThrough fleetId day =>
    return .day (← advanceLegacyGridMaterializedThrough L fleetId day)
  | .advanceLegacyScannedThrough fleetId day closeKey =>
    return .day (← advanceLegacyScannedThrough L fleetId day closeKey)
  | .activateBucket request => return .activation (← activateBucket L request)
  | .admitLegacyRegistration request => return .admission (← admitLegacyRegistration L request)
  | .retireBucket fleetId bucket certificateHash =>
    return .retirement (← retireBucket L fleetId bucket certificateHash)
  | .snapshotThrough request => return .snapshot (← snapshotThrough L request)
  | .snapshotEntries generation afterSequence size =>
    return .snapshotEntries (← snapshotEntries generation afterSequence size)
  | .snapshotByGeneration generation => return .snapshot (← snapshotByGeneration generation)
  | .closeByKey closeKey => return .close (← closeByKey closeKey)
  | .enumerationEntries generation closeKey after size =>
    return .enumeration (← enumerationEntries generation closeKey after size)
  | .issueEnumerationCursor cursor evidence => do
    issueEnumerationCursor L cursor evidence
    return .done
  | .enumerationCursorEvidence cursor => return .evidence (← enumerationCursorEvidence cursor)
  | .beginClose fleetId cutoffMs generation =>
    return .close (some (← beginClose L fleetId cutoffMs generation))
  | .materializeCloseProgress closeKey size =>
    return .close (some (← materializeCloseProgress L closeKey size))
  | .closeProgress closeKey afterSequence size =>
    return .progress (← closeProgress closeKey afterSequence size)
  | .recordCloseReceipt closeKey activationSequence receipt =>
    return .close (some (← recordCloseReceipt closeKey activationSequence receipt))
  | .finalizeClose closeKey => return .close (some (← finalizeClose L closeKey))
  | .resumeSnapshot generation size => do
    let nowMs ← gets (·.now)
    return .snapshot (← resumeSnapshot L generation size nowMs)
  | .purgeHistory => do
    let _ ← purgeHistory (← gets (·.now))
    return .done
  | .alarm => do
    alarm L
    return .done

/-- the clock may jump either way -/
inductive Event where
  | clock (now : Nat)

def Event.apply : Event → Store → Store
  | .clock now, s => { s with now }

/-- all its state is durable -/
def system : System Store Ask Ask.Answer CatalogError Response Request Event where
  handler := handle L
  answers _ _ := true
  event := Event.apply
  restart := id

end FleetCatalog
