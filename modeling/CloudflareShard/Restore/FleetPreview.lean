import CloudflareShard.Contracts.WireEnumeration
import CloudflareShard.Contracts.WireRedo
import CloudflareShard.Restore.FleetStore

/-!
# How a restore is previewed

* `schedule`                     the next alarm;
* `readCatalogProof`             what all catalogs say of the topology;
* `closeManifest`, `enumerateManifest`, `materializeNextEnvelope`, `previewNextParticipant`
  the four stages before there is a plan;
* `finalizePlan`                 the plan.
-/

namespace FleetRestore
open Async Json Wire

def pitrWindowMs : Int := 30 * 24 * 60 * 60000
def pitrSafetyMarginMs : Int := 24 * 60 * 60000
def planExecutionWindowMs : Int := 15 * 60000
def restoreAlarmDelayMs : Int := 250
def manifestPageSize : Nat := 128

def throwIf (condition : Bool) (e : Thrown) : Coord Unit :=
  if condition then .throw e else .pure ()

def refuseIf (condition : Bool) (code : Restore.RestoreErrorCode) (message : Text)
    (details : Details := []) : Try Unit :=
  if condition then failRestore code message details else .ok ()

/-- an alarm that is due earlier stays -/
def schedule (work : Option Text) (delayMs : Int := restoreAlarmDelayMs) : Coord Unit := do
  let s ← .read
  ask work (.setAlarm (s.now + delayMs))

def jsonText (t : Text) : JsonValue := .str t.val

def jsonOption {α : Type} (f : α → JsonValue) : Option α → JsonValue
  | some a => f a
  | none => .null

section
variable (E : Env)

/-- `new Date(left).getTime() > new Date(right).getTime()` -/
def after (left right : JsString) : Bool :=
  match timeOf E left, timeOf E right with
  | some a, some b => decide (b < a)
  | _, _ => false

/-- `Date.now() >= new Date(text).getTime()` -/
def reached (now : Int) (text : JsString) : Bool := (timeOf E text).any fun t => decide (t ≤ now)

/-! ## catalogs -/

def catalogName (i : Nat) : Text := (said "catalog-").then (utf16 (toString i))

/-- what was read of the catalogs so far -/
structure CatalogReading where
  proofs : List Entries
  shardIds : List Text
  topologyEpoch : Int
  coverageStartMs : Int

def isFalse : Field → Bool
  | some (.bool false) => true
  | _ => false

/-- `Array.isArray(value) && value.length > 0` -/
def isNonEmptyArray : Field → Bool
  | some (.arr (_ :: _)) => true
  | _ => false

/-- the first of two properties that is an object -/
def objectField (es : Entries) (name name' : String) : Option Entries :=
  match get es name, get es name' with
  | some (.obj v), _ => some v
  | _, some (.obj v) => some v
  | _, _ => none

/-- `shardIds.add(id)` -/
def addNew (ids : List Text) (id : Text) : List Text := if ids.contains id then ids else ids ++ [id]

def readProof (reading : CatalogReading) (catalogId : Text) (result : Entries) :
    Try CatalogReading := do
  let proof := match get result "proof" with
    | some (.obj proof) => proof
    | _ => result
  refuseIf (isFalse (get proof "ok")) .planStale
    ((said " rejected restore proof.").after (utf16 "Catalog " ++ catalogId.val))
  let active := orElse (get proof "active_operations") (get proof "activeOperations")
  let changes := orElse (get proof "post_cutoff_changes") (get proof "postCutoffChanges")
  refuseIf (isNonEmptyArray active || isNonEmptyArray changes) .planStale
    (said "Catalog topology or configuration is not cutoff-consistent.")
    [("catalog_id", jsonText catalogId)]
  let epoch := (numberField proof
    ["topology_epoch", "topologyEpoch", "metadata_version", "metadataVersion"]).getD 0
  refuseIf (epoch < 1) .enumerationIncomplete (said "Catalog topology epoch is missing.")
  let topologyConfig := (objectField proof "topology_vector" "topologyVector").bind
    fun vector => match get vector "config" with
      | some (.obj config) => some config
      | _ => none
  let durableCatalogCount := topologyConfig.bind fun config =>
    numberField config ["catalog_shard_count", "catalogShardCount"]
  refuseIf (durableCatalogCount != some (catalogShardCount E : Int)) .enumerationIncomplete
    (said "Configured catalog fan-out does not match the durable topology.")
    [("catalog_id", jsonText catalogId), ("configured_count", jsonNat (catalogShardCount E)),
      ("durable_count", jsonInteger (durableCatalogCount.getD (-1)))]
  let coverage := (canonicalTimestamp E.platform.dates
    (orElse (get proof "coverage_start") (get proof "coverageStart"))).bind (timeOf E)
  let missing := refuseIf coverage.isNone .enumerationIncomplete
    (said "Catalog restore evidence coverage is missing.")
  missing
  let ids := orElse (orElse (orElse (get proof "shard_ids") (get proof "shardIds"))
    (get proof "physical_shard_ids")) (get proof "physicalShardIds")
  let shardIds := match ids with
    | some (.arr values) => values.mapM fun v => textOfField (some v)
    | _ => none
  refuseIf shardIds.isNone .enumerationIncomplete
    (said "Catalog physical shard inventory is invalid.")
  return {
    proofs := reading.proofs ++
      [(utf16 "catalog_id", (get proof "catalog_id").getD (jsonText catalogId)) ::
        proof.filter fun e => e.1 != utf16 "catalog_id"]
    shardIds := (shardIds.getD []).foldl addNew reading.shardIds
    topologyEpoch := max reading.topologyEpoch epoch
    coverageStartMs := max reading.coverageStartMs (coverage.getD 0) }

def readCatalogs (operation : OperationRow) : List Nat → CatalogReading → Coord CatalogReading
  | [], reading => .pure reading
  | i :: rest, reading => do
    let result ← postToStub (some operation.restoreId) (.catalog (catalogName i).val) "/restore-proof"
      (.obj (object [("cutoff", jsonText operation.cutoff),
        ("restoreId", jsonText operation.restoreId)]))
    let reading ← .ofExcept (readProof E reading (catalogName i) result)
    readCatalogs operation rest reading

/-- `proofs.sort((a, b) => String(a.catalog_id).localeCompare(String(b.catalog_id)))` -/
def sortProofs (proofs : List Entries) : Try (List Entries) :=
  if proofs.length ≤ 1 then .ok proofs
  else do
    let keyed ← proofs.mapM fun proof => do
      let id ← foreignly (stringOf (get proof "catalog_id"))
      return (id, proof)
    return (keyed.insertionSort fun a b => E.platform.collator.le a.1 b.1).map Prod.snd

def readCatalogProof (operation : OperationRow) : Coord CatalogProof := do
  let reading ← readCatalogs E operation (List.range (catalogShardCount E))
    { proofs := [], shardIds := [], topologyEpoch := 1, coverageStartMs := 0 }
  throwIf reading.shardIds.isEmpty (failure .enumerationIncomplete
    (said "Restore inventory contains no physical shards."))
  let proofs ← .ofExcept (sortProofs E reading.proofs)
  .pause
  return {
    topologyEpoch := reading.topologyEpoch
    topologyHash := hashJson E.platform.sha256 (.arr (proofs.map .obj))
    shardIds := reading.shardIds.insertionSort fun a b => !codeUnitLt b.val a.val
    coverageStart := isoOf E reading.coverageStartMs
    raw := proofs }

/-! ## the manifest -/

def newParticipant (restoreId shardId : Text) : ParticipantRow where
  restoreId := restoreId
  participantId := stored (shardId.after (utf16 "shard:"))
  participantKind := .shard
  objectName := stored shardId
  targetBookmark := none
  targetCheckpointAt := none
  previewBookmark := none
  coverageStart := none
  status := .pendingPreview
  undoBookmark := none
  preFenceBookmark := none
  closedThrough := none
  lossCursorJson := none

/-- the evidence that a close is pinned by -/
def pinOf (raw : Entries) (proof : CatalogProof) : Option ManifestPin := do
  let catalogCloseKey ← stringField raw ["catalog_close_key", "close_key"]
  let catalogSnapshotHash ← stringField raw ["snapshot_hash", "catalog_snapshot_hash"]
  let fleetRootHash ← stringField raw ["fleet_root_hash"]
  let partitionConfigHash ← stringField raw ["partition_config_hash"]
  let catalogGeneration ← numberField raw ["snapshot_generation", "catalog_generation"]
  return {
    coverageStart := (canonicalTimestamp E.platform.dates (get raw "coverage_start")).getD
      proof.coverageStart
    catalogCloseKey, catalogGeneration, catalogSnapshotHash, fleetRootHash, partitionConfigHash
    recordCount := 0 }

def notConfigured : Thrown :=
  failure .unavailable (said "Control-plane restore service is not configured.")

/-- an operation whose close is complete -/
def pinned (proof : CatalogProof) (pin : ManifestPin) (now : Int) (op : OperationRow) :
    OperationRow :=
  { op with
    stage := .enumeratingManifest
    topologyEpoch := some proof.topologyEpoch
    topologyHash := some proof.topologyHash
    catalogProofJson := some proof
    manifestPinJson := some pin
    manifestCursorJson := none
    updatedAt := isoOf E now }

/-- the close is complete: its evidence is pinned and the shards are written down -/
def pinManifest (operation : OperationRow) (raw : Entries) : Coord Unit := do
  let proof ← readCatalogProof E operation
  throwIf (after E proof.coverageStart operation.cutoff.val) (failure .enumerationIncomplete
    (said "Catalog evidence starts after the restore cutoff."))
  match pinOf E raw proof with
  | none =>
    .throw (failure .enumerationIncomplete
      (said "Manifest close omitted a required immutable evidence pin."))
  | some pin =>
    insert fun s => do
      let participants ← s.participants.insertEach
        (proof.shardIds.map (newParticipant operation.restoreId))
      some ({ s with participants }.setOperation operation.restoreId (pinned E proof pin s.now))

def closeManifest (operation : OperationRow) : Coord Unit := do
  throwIf (!E.controlPlane) notConfigured
  let raw ← ask (some operation.restoreId)
    (.closeFleetThrough operation.fleetId.val operation.cutoff.val)
  match raw with
  | .obj raw =>
    if isFalse (get raw "ok") then
      .throw (failure .enumerationIncomplete
        (said "Manifest close could not certify the requested cutoff."))
    else if isText (get raw "status") "complete" then pinManifest E operation raw
    else schedule (some operation.restoreId)
  | _ => .throw (failure .unavailable (said "Manifest close returned an invalid response."))

def manifestRequest (operation : OperationRow) (pin : ManifestPin) : JsonValue :=
  .obj (object [("protocol_version", jsonNat Contracts.currentProtocolVersion),
    ("format_version", jsonNat currentManifestEnumerationFormatVersion),
    ("fleet_id", jsonText operation.fleetId), ("coverage_start", .str pin.coverageStart),
    ("cutoff", jsonText operation.cutoff),
    ("partition_config_hash", jsonText pin.partitionConfigHash),
    ("catalog_generation", jsonInteger pin.catalogGeneration),
    ("catalog_snapshot_hash", jsonText pin.catalogSnapshotHash),
    ("catalog_close_key", jsonText pin.catalogCloseKey),
    ("fleet_root_hash", jsonText pin.fleetRootHash), ("limit", jsonNat manifestPageSize),
    ("cursor", operation.manifestCursorJson.getD .null)])

/-- the text of a property that a validator has found to be one -/
def textField (es : Entries) (name : String) : JsString :=
  match get es name with
  | some (.str s) => s
  | _ => []

def sha (bytes : ByteArray) : List UInt8 := (E.platform.sha256 bytes).toList

def recordRow (restoreId : Text) (recordHash : JsString) (record : Entries) : RecordRow where
  restoreId := restoreId
  recordHash := recordHash
  txId := utf16 (textOf (textField record "tx_id"))
  coordinatorId := utf16 (textOf (textField record "coordinator_id"))
  commitDecidedAt := textField record "commit_decided_at"
  envelopeHash := textField record "envelope_hash"
  recordJson := record
  envelopeJson := none
  reconciled := false

/-- a record of a transaction that a restore has discarded is not taken up again -/
def enumerateRecords (restoreId : Text) : List JsonValue → Coord Unit
  | [] => .pure ()
  | record :: rest => do
    let es := match record with
      | .obj es => es
      | _ => []
    let s ← .read
    if 0 < s.coordinatorWork.count fun w =>
        w.coordinatorId.val == utf16 (textOf (textField es "tx_id")) && w.status == .discarded then
      enumerateRecords restoreId rest
    else do
      .pause
      let recordHash ← .ofExcept (foreignly (hashManifestRecordV2 E.platform.dates (sha E) (some record)))
      insert fun s => do
        let manifestRecords ← s.manifestRecords.insertOrIgnore (recordRow restoreId recordHash es)
        some { s with manifestRecords }
      enumerateRecords restoreId rest

def enumerateEvidence (restoreId : Text) : List JsonValue → Coord Unit
  | [] => .pure ()
  | evidence :: rest => do
    .pause
    insert fun s => do
      let manifestEvidence ← s.manifestEvidence.insertOrIgnore
        { restoreId, evidenceHash := hashJson E.platform.sha256 evidence, evidenceJson := evidence }
      some { s with manifestEvidence }
    enumerateEvidence restoreId rest

def enumerationFailed : Thrown :=
  failure .enumerationIncomplete (said "Manifest enumeration failed.")

/-- the page, when it is bound to the pinned close -/
def checkPage (pin : ManifestPin) (requestHash : JsString) (raw : JsonValue) :
    Try (Entries × List JsonValue × List JsonValue) :=
  match raw with
  | .obj es =>
    if isFalse (get es "ok") then .error enumerationFailed
    else
      match validateManifestEnumerationResult E.platform.dates (some raw) with
      | .error _ =>
        failRestore .enumerationIncomplete (said "Manifest page failed the exact V2 contract.")
      | .ok (es, records, evidence) =>
        if !isNumber (get es "format_version") currentManifestEnumerationFormatVersion
            || !strictEq (get es "request_hash") (some (.str requestHash))
            || !strictEq (get es "catalog_close_key") (some (jsonText pin.catalogCloseKey))
            || !strictEq (get es "fleet_root_hash") (some (jsonText pin.fleetRootHash)) then
          failRestore .hashContradiction
            (said "Manifest page is not bound to the pinned fleet close.")
        else .ok (es, records, evidence)
  | _ => .error enumerationFailed

/-- the last page: the records are counted -/
def endEnumeration (operation : OperationRow) (pin : ManifestPin) (updatedAt : JsString) :
    Coord Unit :=
  .modify fun s =>
    let recordCount := s.countRecords operation.restoreId fun _ => true
    s.setOperation operation.restoreId fun op => { op with
      stage := .materializingEnvelopes
      manifestPinJson := some { pin with recordCount }
      manifestCursorJson := none
      updatedAt }

def enumerateManifest (operation : OperationRow) : Coord Unit := do
  throwIf (!E.controlPlane) notConfigured
  match operation.manifestPinJson with
  | none => .throw (failure .enumerationIncomplete (said "Manifest pin is missing."))
  | some pin =>
    let request := manifestRequest operation pin
    .pause
    let requestHash ← .ofExcept
      (foreignly (hashManifestRequest E.platform.dates (sha E) (some request)))
    let raw ← ask (some operation.restoreId) (.enumerateManifest request)
    let (es, records, evidence) ← .ofExcept (checkPage E pin requestHash raw)
    let s ← .read
    let now := isoOf E s.now
    enumerateRecords E operation.restoreId records
    enumerateEvidence E operation.restoreId evidence
    if isNull (get es "next_cursor") then do
      throwIf (!isComplete es || !isText (get es "coverage") "complete")
        (failure .enumerationIncomplete
          (said "Manifest enumeration exhausted without complete coverage."))
      endEnumeration operation pin now
    else do
      .modify fun s => s.setOperation operation.restoreId fun op => { op with
        manifestCursorJson := get es "next_cursor", updatedAt := now }
      schedule (some operation.restoreId)

/-! ## redo envelopes -/

def ofTx (txId : JsString) : Details := [("tx_id", .str txId)]

/-- the fields that a record and its envelope share -/
def sharedFields : List String :=
  ["tx_id", "fleet_id", "coordinator_id", "decision_epoch", "operation_hash", "commit_decided_at",
    "retention_deadline"]

/-- the envelope, when it is the one that the record was made of -/
def checkEnvelope (row : RecordRow) (envelope : Field) : Try Entries :=
  match envelope with
  | none =>
    failRestore .manifestGap (said "Coordinator redo envelope is missing.") (ofTx row.txId)
  | some envelope =>
    match validateRedoEnvelope E.platform.dates (sha E) (some envelope) with
    | .error _ =>
      failRestore .hashContradiction (said "Coordinator redo envelope failed canonical validation.")
        (ofTx row.txId)
    | .ok es =>
      if hashFinalizedRedoEnvelope (sha E) es ≠ row.envelopeHash then
        failRestore .hashContradiction
          (said "Coordinator redo envelope does not match the manifest hash.") (ofTx row.txId)
      else if sharedFields.any fun name => !strictEq (get es name) (get row.recordJson name) then
        failRestore .hashContradiction
          (said "Coordinator redo envelope contradicts its immutable manifest record.")
          (ofTx row.txId)
      else .ok es

def materializeNextEnvelope (operation : OperationRow) : Coord Unit := do
  let s ← .read
  match s.nextRecord operation.restoreId fun r => r.envelopeJson.isNone with
  | none =>
    .modify fun s => s.setOperation operation.restoreId fun op => { op with
      stage := .previewingParticipants, updatedAt := isoOf E s.now }
  | some row =>
    let result ← postToStub (some operation.restoreId) (.coordinator row.txId) "/recovery-envelope"
      (.obj (object [("restore_id", jsonText operation.restoreId), ("tx_id", .str row.txId),
        ("envelope_hash", .str row.envelopeHash)]))
    .pause
    let envelope ← .ofExcept (checkEnvelope E row (get result "envelope"))
    .modify fun s => s.setRecord operation.restoreId row.recordHash fun r => { r with
      envelopeJson := some envelope }
    schedule (some operation.restoreId)

/-! ## participants and the plan -/

def participantTarget (p : ParticipantRow) : Target :=
  match p.participantKind with
  | .shard => .shard p.objectName.val
  | .coordinator => .coordinator p.objectName.val

def ofParticipant (p : ParticipantRow) : Details :=
  [("participant_id", jsonText p.participantId)]

structure BookmarkEvidence where
  target : Text
  current : Text
  coverage : JsString
  checkpointAt : JsString

def bookmarkEvidence (result : Entries) : Option BookmarkEvidence := do
  let target ← stringField result ["target_bookmark", "targetBookmark"]
  let current ← stringField result
    ["preview_bookmark", "previewBookmark", "current_bookmark", "currentBookmark"]
  let coverage ← canonicalTimestamp E.platform.dates
    (orElse (get result "coverage_start") (get result "coverageStart"))
  let checkpointAt ← canonicalTimestamp E.platform.dates
    (orElse (get result "checkpoint_at") (get result "checkpointAt"))
  return { target, current, coverage, checkpointAt }

/-- the two limitations, sorted -/
def limitations : List String :=
  ["PITR rewinds each physical participant independently; reconciliation is required before "
      ++ "the fleet is released.",
    "Rollback is available only while the original fleet fence remains held and before "
      ++ "post-cutoff coordinators are discarded."]

/-- a participant with all that a plan needs of it -/
structure PlannedParticipant where
  participantId : Text
  targetBookmark : Text
  checkpointAt : JsString
  previewBookmark : Text

def planned (p : ParticipantRow) : Option PlannedParticipant := do
  let targetBookmark ← p.targetBookmark
  let checkpointAt ← p.targetCheckpointAt
  let previewBookmark ← p.previewBookmark
  if p.status = .previewed then
    some { participantId := p.participantId, targetBookmark, checkpointAt, previewBookmark }
  else none

/-- `checkpoints.sort()[0]` -/
def earliest (checkpoints : List JsString) : JsString :=
  match checkpoints with
  | [] => []
  | first :: rest => rest.foldl (fun a b => if codeUnitLt b a then b else a) first

def pinJson (pin : ManifestPin) : JsonValue :=
  .obj (object [("coverage_start", .str pin.coverageStart),
    ("catalog_close_key", jsonText pin.catalogCloseKey),
    ("catalog_generation", jsonInteger pin.catalogGeneration),
    ("catalog_snapshot_hash", jsonText pin.catalogSnapshotHash),
    ("fleet_root_hash", jsonText pin.fleetRootHash),
    ("partition_config_hash", jsonText pin.partitionConfigHash),
    ("record_count", jsonNat pin.recordCount)])

/-- what is pinned before there is a plan -/
structure PlanEvidence where
  pin : ManifestPin
  topologyEpoch : Int
  topologyHash : JsString

def planEvidence (operation : OperationRow) : Option PlanEvidence := do
  let pin ← operation.manifestPinJson
  let topologyHash ← operation.topologyHash
  let topologyEpoch ← operation.topologyEpoch
  return { pin, topologyEpoch, topologyHash }

def planBody (operation : OperationRow) (evidence : PlanEvidence)
    (participants : List PlannedParticipant) (now : Int) : Entries :=
  let executeBefore := isoOf E (now + planExecutionWindowMs)
  object [("protocol_version", jsonNat restoreProtocolVersion),
    ("format_version", jsonNat restorePlanFormatVersion),
    ("restore_id", jsonText operation.restoreId), ("fleet_id", jsonText operation.fleetId),
    ("cutoff", jsonText operation.cutoff), ("previewed_at", .str (isoOf E now)),
    ("execute_before", .str executeBefore), ("parameter_hash", .str operation.parameterHash),
    ("topology", .obj (object [("topology_epoch", jsonInteger evidence.topologyEpoch),
      ("topology_hash", .str evidence.topologyHash)])),
    ("manifest", pinJson evidence.pin),
    ("participants", .arr (participants.map fun p =>
      .obj (object [("participant_id", jsonText p.participantId),
        ("target_bookmark", jsonText p.targetBookmark),
        ("preview_bookmark", jsonText p.previewBookmark)]))),
    ("impact", .obj (object [("participant_count", jsonNat participants.length),
      ("transaction_count", jsonNat evidence.pin.recordCount),
      ("intentional_loss_from", .str (earliest (participants.map (·.checkpointAt)))),
      ("intentional_loss_through", .str executeBefore)])),
    ("rollback", .obj (object [("undo_supported", .bool true),
      ("undo_expires_at", .str (isoOf E
        (now + planExecutionWindowMs + pitrWindowMs - pitrSafetyMarginMs))),
      ("limitations", .arr (limitations.map fun l => .str (utf16 l)))]))]

def finalizePlan (restoreId : Text) : Coord Unit := do
  let s ← .read
  match s.operation restoreId, (s.operation restoreId).bind planEvidence with
  | some operation, some evidence =>
    let rows := s.participants.ordered (fun p => p.restoreId == restoreId)
      fun p => byBytes p.participantId.val
    match rows.mapM planned with
    | none | some [] =>
      .throw (failure .bookmarkMissing (said "Restore plan is missing participant bookmarks."))
    | some participants =>
      let body := planBody E operation evidence participants s.now
      let planHash ← .ofExcept (hashRestorePlanBody E.platform.sha256 E.platform.dates (.obj body))
      .pause
      .modify fun s' => s'.setOperation restoreId fun op => { op with
        stage := .previewed
        phase := .previewed
        previewedAt := isoOf E s.now
        executeBefore := isoOf E (s.now + planExecutionWindowMs)
        planJson := some (.obj (body ++ [(utf16 "plan_hash", .str planHash)]))
        planHash := some planHash
        updatedAt := isoOf E s'.now }
  | _, _ =>
    .throw (failure .enumerationIncomplete (said "Restore plan evidence is incomplete."))

def previewNextParticipant (operation : OperationRow) : Coord Unit := do
  let s ← .read
  match s.nextParticipant operation.restoreId fun p => p.status == .pendingPreview with
  | none => finalizePlan E operation.restoreId
  | some participant =>
    let result ← postToStub (some operation.restoreId) (participantTarget participant) "/pitr-preview"
      (.obj (object [("fleet_id", jsonText operation.fleetId),
        ("restore_id", jsonText operation.restoreId), ("cutoff", jsonText operation.cutoff)]))
    match bookmarkEvidence E result with
    | none =>
      .throw (failure .bookmarkMissing
        (said "Participant did not return certified exact bookmark evidence.")
        (ofParticipant participant))
    | some evidence =>
      throwIf (after E evidence.coverage operation.cutoff.val) (failure .bookmarkMissing
        (said "Participant checkpoint coverage starts after the requested cutoff.")
        (ofParticipant participant ++ [("coverage_start", .str evidence.coverage)]))
      .modify fun s => s.setParticipant operation.restoreId participant.participantId fun p => { p with
        targetBookmark := some (stored evidence.target)
        targetCheckpointAt := some evidence.checkpointAt
        previewBookmark := some (stored evidence.current)
        coverageStart := some evidence.coverage
        status := .previewed }
      schedule (some operation.restoreId)

end
end FleetRestore
