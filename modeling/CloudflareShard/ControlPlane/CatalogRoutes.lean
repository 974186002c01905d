import CloudflareShard.ControlPlane.Catalog

/-!
# Routes, activations and the legacy boundary of the fleet catalog

* `ensureFleet`, `partitionConfigForDay`, `appendPartitionConfig`   the configuration of the fleet;
* `assignManifestRoute`, `releaseManifestRoute`   routes of transactions, the coverage boundary;
* `advanceLegacyGridMaterializedThrough`, `advanceLegacyScannedThrough`   the legacy horizons;
* `activateBucket`, `admitLegacyRegistration`, `retireBucket`   which buckets there are.
-/

namespace FleetCatalog
open Async Contracts

variable (L : CatalogLib)

/-! ## the fleet -/

def Metadata.initial (fleetId : String) (genesisConfigHash : Hash) : Metadata :=
  { fleetId, decisionFloorMs := 0, nextEventSequence := 0, currentSnapshotGeneration := 0
    lastSnapshotHash := zeroHash, partitionConfigRootHash := genesisConfigHash
    legacyScannedThroughDay := none, legacyGridMaterializedThroughDay := none
    reservationRequiredSinceDay := none, reservationRequiredSinceMs := none
    legacyAdmittedThroughMs := -1 }

def ensureFleetSync (fleetId : String) (genesisConfigHash : Hash) (s : Store) :
    Except CatalogError (Metadata × Store) :=
  match s.metadata with
  | some current =>
    if current.fleetId ≠ fleetId then
      typeError "Catalog Durable Object is already bound to another fleet_id."
    else .ok (current, s)
  | none =>
    let metadata := Metadata.initial fleetId genesisConfigHash
    .ok (metadata,
      { s with
        configs := s.configs.put
          { effectiveFromDay := firstEffectiveDay, partitionCount := initialPartitionCount
            priorHash := zeroHash, configHash := genesisConfigHash }
        metadata := some metadata })

def ensureFleet (fleetId : String) : Catalog Metadata := do
  assertText fleetId "fleet_id"
  let genesisConfigHash ← digest
    (L.hash (.partitionConfig firstEffectiveDay initialPartitionCount zeroHash))
  Prog.transact (ensureFleetSync fleetId genesisConfigHash)

def partitionConfigForDay (fleetId : String) (day : Day) : Catalog PartitionConfigRow := do
  let _ ← awaited (ensureFleet L fleetId)
  (gets (Store.configFor day)) >>= Prog.ofExcept

def appendConfigSync (effectiveFromDay : Day) (partitionCount : Nat) (configHash : Hash)
    (metadata : Metadata) (s : Store) : Except CatalogError (PartitionConfigRow × Store) := do
  let latest ← s.latestConfig
  match s.configs.find effectiveFromDay with
  | some existing =>
    if existing.partitionCount ≠ partitionCount then
      typeError "Partition configuration conflicts at effective_from_day."
    else return (existing, s)
  | none =>
    if latest.configHash ≠ metadata.partitionConfigRootHash
        ∨ effectiveFromDay ≤ latest.effectiveFromDay then
      typeError "Partition configuration history changed; retry against the latest root."
    else if s.configs.rows.any (·.configHash == configHash) then
      .error (.error "UNIQUE constraint failed: partition_config_history.config_hash")
    else
      let row : PartitionConfigRow :=
        { effectiveFromDay, partitionCount, priorHash := latest.configHash, configHash }
      return (row,
        { s with
          configs := s.configs.put row
          metadata := s.metadata.map ({ · with partitionConfigRootHash := configHash }) })

def appendPartitionConfig (fleetId : String) (effectiveFromDay : Day) (partitionCount : Nat) :
    Catalog PartitionConfigRow := do
  let now ← gets (·.now)
  require (partitionCount == initialPartitionCount)
    "partition_count must remain 16 until versioned routing supports resharding."
  let metadata ← awaited (ensureFleet L fleetId)
  require (dayOf now + 1 < effectiveFromDay)
    "effective_from_day must be later than the next UTC day."
  let configHash ← digest
    (L.hash (.partitionConfig effectiveFromDay partitionCount metadata.partitionConfigRootHash))
  Prog.transact (appendConfigSync effectiveFromDay partitionCount configHash metadata)

/-! ## routes -/

structure RouteAssignment where
  already : Bool
  reservation : ManifestReservation
  reservationHash : Hash

def AssignmentRow.answer (row : AssignmentRow) : RouteAssignment :=
  { already := true, reservation := row.reservation, reservationHash := row.reservationHash }

/-- inserts the assignment; the first one sets the boundary from which reservations are required -/
def assignSync (assignmentKey requestHash reservationHash : Hash) (reservation : ManifestReservation)
    (nowMs : Nat) (s : Store) : Except CatalogError (RouteAssignment × Store) :=
  match s.assignments.rows.find? fun row =>
      row.assignmentKey == assignmentKey || row.txId == reservation.txId with
  | some raced =>
    if raced.requestHash ≠ requestHash then
      typeError "Transaction route assignment conflicts with immutable content."
    else .ok (raced.answer, s)
  | none => do
    let metadata ← s.meta
    let boundaryMs := max s.now (metadata.legacyAdmittedThroughMs + 1).toNat
    return ({ already := false, reservation, reservationHash },
      { s with
        assignments := s.assignments.put
          { assignmentKey, txId := reservation.txId, requestHash, reservationHash, reservation
            deleteAfterMs := nowMs + manifestRouteRecoveryMs }
        metadata := some { metadata with
          reservationRequiredSinceDay :=
            some (metadata.reservationRequiredSinceDay.getD (dayOf boundaryMs))
          reservationRequiredSinceMs :=
            some (metadata.reservationRequiredSinceMs.getD boundaryMs) }
        assigned := s.assigned ++ [reservation.txId] })

/-- a contract check as the catalog throws it -/
def liftContract {α : Type} : Except TransactionProtocolError α → Catalog α
  | .ok a => .pure a
  | .error e => .throw (.contract e)

def createManifestReservation (draft : ManifestRouteDraft) (partitionConfigHash : Hash)
    (reservedAt : Nat) : Catalog ManifestReservation := do
  let _ ← digest partitionConfigHash
  let reservation : ManifestReservation :=
    { fleetId := draft.fleetId
      route := L.manifestReservationRoute draft.txId reservedAt partitionConfigHash
      txId := draft.txId, coordinatorId := draft.coordinatorId, operationHash := draft.operationHash
      decisionEpoch := draft.decisionEpoch, reservedAt }
  liftContract (L.validateManifestReservation reservation)
  return reservation

/-- `assignManifestRoute` of the store -/
def assignRoute (draft : ManifestRouteDraft) (assignmentKey : Hash) : Catalog RouteAssignment := do
  let nowMs ← gets (·.now)
  assertText assignmentKey "idempotency_key"
  let requestHash ← digest (L.hash (.draft draft))
  let _ ← awaited (ensureFleet L draft.fleetId)
  match ← gets (·.assignments.find assignmentKey) with
  | some existing =>
    if existing.requestHash ≠ requestHash then
      .throw (.typeError
        "idempotency_key was already used with different route-assignment content.")
    else return existing.answer
  | none =>
    let config ← awaited (partitionConfigForDay L draft.fleetId (dayOf nowMs))
    let reservation ← awaited (createManifestReservation L draft config.configHash nowMs)
    let reservationHash ← liftContract (L.hashManifestReservation reservation)
    let _ ← digest reservationHash
    Prog.transact (assignSync assignmentKey requestHash reservationHash reservation nowMs)

/-- deletes up to 128 routes whose time has come; when the next one is due -/
def purgeReleasedRoutes (now : Nat) : Catalog (Option Nat) :=
  sync fun s =>
    let due := (s.assignments.ordered (·.deleteAfterMs ≤ now) AssignmentRow.deleteAfterMs).take 128
    let assignments := due.foldl (fun t row => t.erase row.assignmentKey) s.assignments
    ((assignments.rows.map (·.deleteAfterMs)).min?, { s with assignments })

def assignManifestRoute (draft : ManifestRouteDraft) (assignmentKey : Hash) :
    Catalog RouteAssignment := do
  let result ← awaited (assignRoute L draft assignmentKey)
  let now ← gets (·.now)
  match ← purgeReleasedRoutes now with
  | some nextRelease =>
    let payloadHash ← digest (L.hash (.alarm .routeGc nextRelease))
    schedulePurpose
      { purpose := .routeGc, fireAtMs := max now nextRelease, generation := 0, payloadHash
        attemptCount := 0 }
    armNextAlarm
  | none => pure ()
  return result

/-- `releaseManifestRoute` of the store -/
def releaseRouteSync (fleetId : String) (txId : TxId) (reservationHash : Hash)
    (deleteAfterMs : Nat) (s : Store) : Except CatalogError (Unit × Store) :=
  if s.metadata.all (·.fleetId ≠ fleetId) then
    typeError "Route release does not identify this fleet catalog."
  else
    match s.assignments.rows.find? (·.txId == txId) with
    | none => .ok ((), s)
    | some assignment =>
      if assignment.reservationHash ≠ reservationHash then
        typeError "Route release conflicts with the frozen reservation."
      else
        .ok ((), { s with
          assignments := s.assignments.modify assignment.assignmentKey fun row =>
            { row with deleteAfterMs := min row.deleteAfterMs deleteAfterMs } })

def releaseManifestRoute (fleetId : String) (txId : TxId) (reservationHash : Hash)
    (deleteAfterMs : Nat) : Catalog Unit := do
  let now ← gets (·.now)
  let existing ← purgeReleasedRoutes now
  let next := match existing with
    | some existing => min existing deleteAfterMs
    | none => deleteAfterMs
  let payloadHash ← digest (L.hash (.alarm .routeGc next))
  schedulePurpose
    { purpose := .routeGc, fireAtMs := next, generation := 0, payloadHash, attemptCount := 0 }
  armNextAlarm
  assertText fleetId "fleet_id"
  assertText txId "tx_id"
  assertHash reservationHash "reservation_hash"
  Prog.transact (releaseRouteSync fleetId txId reservationHash deleteAfterMs)

def coverageState (fleetId : String) : Catalog Metadata := do
  let _ ← awaited (ensureFleet L fleetId)
  (gets Store.meta) >>= Prog.ofExcept

/-! ## the legacy horizons -/

/-- the day that comes next after the horizon -/
def nextDay (horizon : Option Day) (first : Day) : Day :=
  match horizon with
  | none => first
  | some day => day + 1

def gridSync (day : Day) (s : Store) : Except CatalogError (Day × Store) := do
  let metadata ← s.meta
  match metadata.reservationRequiredSinceDay with
  | none => typeError "Reservation coverage boundary is not initialized."
  | some first =>
    match metadata.legacyGridMaterializedThroughDay.filter (day ≤ ·) with
    | some through => return (through, s)
    | none =>
      if day ≠ nextDay metadata.legacyGridMaterializedThroughDay first then
        typeError "Legacy grid cannot advance across an unmaterialized day."
      else
        let config ← s.configFor day
        let active := s.active.count fun row =>
          row.entry.bucket.reservationDay == day && row.retired.isNone
            && row.entry.partitionCount == config.partitionCount
            && row.entry.partitionConfigHash == config.configHash
        if active ≠ config.partitionCount then
          typeError "Legacy grid day is missing partition buckets."
        else
          return (day, { s with
            metadata := some { metadata with legacyGridMaterializedThroughDay := some day } })

def advanceLegacyGridMaterializedThrough (fleetId : String) (day : Day) : Catalog Day := do
  let _ ← awaited (ensureFleet L fleetId)
  Prog.transact (gridSync day)

/-- the receipts of a close that certify the partitions of a day -/
def Store.certified (close : CloseRow) (day : Day) (config : PartitionConfigRow) (s : Store) : Nat :=
  s.progress.count fun p =>
    p.closeKey == close.closeKey && p.bucket.reservationDay == day && p.exactReceiptHash.isSome
      && (s.entries.find (close.snapshotGeneration, p.activationSequence)).any fun e =>
        e.entry.partitionCount == config.partitionCount
          && e.entry.partitionConfigHash == config.configHash

def scannedSync (day : Day) (closeKey : Hash) (s : Store) : Except CatalogError (Day × Store) := do
  let metadata ← s.meta
  match metadata.reservationRequiredSinceDay with
  | none => typeError "Reservation coverage boundary is not initialized."
  | some first =>
    match metadata.legacyScannedThroughDay.filter (day ≤ ·) with
    | some through => return (through, s)
    | none =>
      if day ≠ nextDay metadata.legacyScannedThroughDay first then
        typeError "Legacy scan horizon cannot advance across an uncertified day."
      else
        let config ← s.configFor day
        let close ← one (s.closes.find closeKey)
        if close.fleetRootHash.isNone ∨ dayOf close.cutoffMs < day then
          typeError "Legacy scan horizon requires a completed close covering the day."
        else if s.certified close day config ≠ config.partitionCount then
          typeError "Legacy scan day is missing exact bucket-close evidence."
        else
          return (day, { s with
            metadata := some { metadata with legacyScannedThroughDay := some day } })

def advanceLegacyScannedThrough (fleetId : String) (day : Day) (closeKey : Hash) : Catalog Day := do
  assertHash closeKey "close_key"
  let _ ← awaited (ensureFleet L fleetId)
  Prog.transact (scannedSync day closeKey)

/-! ## buckets -/

structure ActivationRequest where
  protocolVersion : Nat
  fleetId : String
  bucket : Bucket
  partitionCount : Nat
  partitionConfigHash : Hash
  activationKey : Hash

inductive ActivationStatus where
  | activated
  | alreadyActive
  | reactivated
  deriving DecidableEq

structure ActivationResult where
  status : ActivationStatus
  activationSequence : Nat
  entryHash : Hash
  requiredDecisionFloorMs : Nat

/-- the floor for everything that is reserved after this -/
def Metadata.requiredDecisionFloorMs (metadata : Metadata) : Nat :=
  max metadata.decisionFloorMs (metadata.reservationRequiredSinceMs.getD 0 - 1)

/-- the next event: the bucket becomes active, with a row of its own in the history -/
def activateNow (metadata : Metadata) (entry : Entry) (activationKey : Hash) (s : Store) :
    Nat × Store :=
  let sequence := metadata.nextEventSequence + 1
  (sequence,
    { s with
      metadata := some { metadata with nextEventSequence := sequence }
      active := s.active.put
        { entry, activationSequence := sequence, activationKey, retired := none }
      history := s.history.put { activationSequence := sequence, entry, deactivated := none }
      events := s.events ++ [.activated sequence entry] })

def insertActivationKey (activationKey : Hash) (entry : Entry) (nowMs : Nat) (s : Store) : Store :=
  { s with
    activationKeys := s.activationKeys.put
      { activationKey, bucket := entry.bucket, entryHash := entry.entryHash, createdAtMs := nowMs } }

/-- the answer, with the floor it carries on record -/
def answerActivation (metadata : Metadata) (entry : Entry) (status : ActivationStatus)
    (activationSequence : Nat) (s : Store) : ActivationResult × Store :=
  ({ status, activationSequence, entryHash := entry.entryHash
     requiredDecisionFloorMs := metadata.requiredDecisionFloorMs },
    { s with
      floors := s.floors ++
        [{ bucket := entry.bucket
           requiredDecisionFloorMs := metadata.requiredDecisionFloorMs
           snapshotGeneration := metadata.currentSnapshotGeneration }] })

def activateSync (entry : Entry) (activationKey : Hash) (nowMs : Nat) (s : Store) :
    Except CatalogError (ActivationResult × Store) := do
  let metadata ← s.meta
  match s.activationKeys.find activationKey with
  | some replay =>
    if replay.bucket ≠ entry.bucket ∨ replay.entryHash ≠ entry.entryHash then
      typeError "activation_key was already used for different immutable content."
    else
      let row ← one (s.active.find entry.bucket)
      if row.retired.isSome then
        -- the row keeps its content, the history takes that of the request
        let (sequence, s') := activateNow metadata entry activationKey s
        return answerActivation metadata entry .reactivated sequence
          { s' with
            active := s.active.put
              { row with activationSequence := sequence, activationKey, retired := none } }
      else return answerActivation metadata entry .alreadyActive row.activationSequence s
  | none =>
    match s.active.find entry.bucket with
    | some existing =>
      if existing.entry.entryHash ≠ entry.entryHash then
        typeError "Bucket route conflicts with immutable activation content."
      else if existing.retired.isNone then
        return answerActivation metadata entry .alreadyActive existing.activationSequence
          (insertActivationKey activationKey entry nowMs s)
      else
        let (sequence, s') := activateNow metadata entry activationKey s
        return answerActivation metadata entry .reactivated sequence
          (insertActivationKey activationKey entry nowMs
            { s' with
              active := s.active.put
                { existing with
                  activationSequence := sequence, activationKey, retired := none } })
    | none =>
      let (sequence, s') := activateNow metadata entry activationKey s
      return answerActivation metadata entry .activated sequence
        (insertActivationKey activationKey entry nowMs s')

/-- the configuration that an activation names is the one in effect -/
def PartitionConfigRow.pins (config : PartitionConfigRow) (bucket : Bucket) (partitionCount : Nat)
    (partitionConfigHash : Hash) : Bool :=
  partitionConfigHash == config.configHash && partitionCount == config.partitionCount
    && bucket.partition < config.partitionCount

def activateBucket (request : ActivationRequest) : Catalog ActivationResult := do
  let nowMs ← gets (·.now)
  require (request.protocolVersion == 2) "Unsupported catalog protocol_version."
  assertText request.activationKey "activation_key"
  assertHash request.partitionConfigHash "partition_config_hash"
  let config ← awaited
    (partitionConfigForDay L request.fleetId request.bucket.reservationDay)
  require (config.pins request.bucket request.partitionCount request.partitionConfigHash)
    "Activation does not match the pinned partition configuration."
  let entryHash ← digest (L.hash (.activation request.fleetId request.bucket
    request.partitionConfigHash request.partitionCount))
  let entry : Entry :=
    { bucket := request.bucket, partitionCount := request.partitionCount
      partitionConfigHash := request.partitionConfigHash, entryHash }
  Prog.transact (activateSync entry request.activationKey nowMs)

structure LegacyRegistration where
  fleetId : String
  bucket : Bucket
  partitionCount : Nat
  partitionConfigHash : Hash
  recordHash : Hash
  commitDecidedAtMs : Nat

inductive LegacyAdmission where
  | admitted (admissionToken : Hash) (activationSequence : Nat)
  | v1Closed

/-- `legacy_admitted_through_ms = MAX(legacy_admitted_through_ms, ?)` -/
def admitThrough (commitDecidedAtMs : Nat) (s : Store) : Store :=
  { s with
    metadata := s.metadata.map fun metadata =>
      { metadata with
        legacyAdmittedThroughMs := max metadata.legacyAdmittedThroughMs commitDecidedAtMs }
    admitted := s.admitted ++ [commitDecidedAtMs] }

def admitSync (entry : Entry) (activationKey : Hash) (commitDecidedAtMs nowMs : Nat) (s : Store) :
    Except CatalogError (LegacyAdmission × Store) := do
  let metadata ← s.meta
  if metadata.reservationRequiredSinceDay.isSome then return (.v1Closed, s)
  else
    match s.activationKeys.find activationKey with
    | some replay =>
      if replay.bucket ≠ entry.bucket ∨ replay.entryHash ≠ entry.entryHash then
        typeError "Legacy admission token conflicts with immutable content."
      else
        let active ← one (s.active.find entry.bucket)
        return (.admitted activationKey active.activationSequence,
          admitThrough commitDecidedAtMs s)
    | none =>
      let (sequence, s') := match s.active.find entry.bucket with
        | some existing =>
          if existing.retired.isNone then (existing.activationSequence, s)
          else activateNow metadata entry activationKey s
        | none => activateNow metadata entry activationKey s
      return (.admitted activationKey sequence,
        admitThrough commitDecidedAtMs (insertActivationKey activationKey entry nowMs s'))

def admitLegacyRegistration (request : LegacyRegistration) : Catalog LegacyAdmission := do
  let nowMs ← gets (·.now)
  assertHash request.partitionConfigHash "partition_config_hash"
  assertHash request.recordHash "record_hash"
  require (request.commitDecidedAtMs ≤ maxSafeInteger)
    "commit_decided_at_ms must be a non-negative safe integer."
  let config ← awaited
    (partitionConfigForDay L request.fleetId request.bucket.reservationDay)
  require (config.pins request.bucket request.partitionCount request.partitionConfigHash)
    "Legacy admission does not match the effective partition configuration."
  let activationKey ← digest
    (L.hash (.legacyActivationKey request.fleetId request.bucket request.partitionConfigHash))
  let entryHash ← digest (L.hash (.activation request.fleetId request.bucket
    request.partitionConfigHash request.partitionCount))
  let entry : Entry :=
    { bucket := request.bucket, partitionCount := request.partitionCount
      partitionConfigHash := request.partitionConfigHash, entryHash }
  Prog.transact (admitSync entry activationKey request.commitDecidedAtMs nowMs)

structure RetirementResult where
  already : Bool
  retirementSequence : Nat

def retireSync (bucket : Bucket) (certificateHash : Hash) (nowMs : Nat) (s : Store) :
    Except CatalogError (RetirementResult × Store) := do
  let metadata ← s.meta
  match s.active.find bucket with
  | none => typeError "Cannot retire a bucket that is not active in the catalog."
  | some row =>
    match row.retired with
    | some retired =>
      if retired.certificateHash ≠ certificateHash then
        typeError "Retirement certificate conflicts with the recorded certificate."
      else return ({ already := true, retirementSequence := retired.sequence }, s)
    | none =>
      let sequence := metadata.nextEventSequence + 1
      return ({ already := false, retirementSequence := sequence },
        { s with
          metadata := some { metadata with nextEventSequence := sequence }
          active := s.active.put
            { row with retired := some { sequence, certificateHash } }
          history := s.history.modify row.activationSequence
            ({ · with deactivated := some { sequence, atMs := nowMs } })
          events := s.events ++ [.retired sequence bucket] })

def retireBucket (fleetId : String) (bucket : Bucket) (certificateHash : Hash) :
    Catalog RetirementResult := do
  let nowMs ← gets (·.now)
  assertHash certificateHash "retirement_certificate_hash"
  let _ ← awaited (ensureFleet L fleetId)
  Prog.transact (retireSync bucket certificateHash nowMs)

end FleetCatalog
