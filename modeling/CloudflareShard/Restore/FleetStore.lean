import Mathlib.Data.List.Infix
import Mathlib.Data.Prod.Lex
import Mathlib.Data.String.Basic
import CloudflareShard.Async.Exclusive
import CloudflareShard.Contracts.Envelope
import CloudflareShard.Restore.FleetContract
import CloudflareShard.Sqlite.Capped

/-!
# The durable state of a restore coordinator

One object of the deployment holds every restore operation, the fleet gate and the registry of
transaction coordinators.

* `Phase`, `Stage`, `ParticipantStatus`   where an operation and its participants stand;
* `OperationRow`, `ParticipantRow` and the others, `World`   the tables, the clock, the queue, and
  what was answered so far;
* `Ask`, `Call`                  what the object awaits, and the operation that a failure parks;
* `responseJson`, `postToStub`   a refused answer as an error of the contract;
* `stringField`, `numberField`, `canonicalTimestamp`   what is read of an answer.
-/

namespace FleetRestore
open Async Json Wire
open Redo (Collator)
open Restore (RestoreErrorCode)

/-! ## where a restore stands -/

inductive Phase where
  | previewing
  | previewed
  | fencing
  | restoring
  | reconciliationPending
  | reconciling
  | verifying
  | rollingBack
  | complete
  | rolledBack
  | manualRepairRequired
  | failed
  deriving DecidableEq

def Phase.text : Phase → String
  | previewing => "previewing"
  | previewed => "previewed"
  | fencing => "fencing"
  | restoring => "restoring"
  | reconciliationPending => "reconciliation_pending"
  | reconciling => "reconciling"
  | verifying => "verifying"
  | rollingBack => "rolling_back"
  | complete => "complete"
  | rolledBack => "rolled_back"
  | manualRepairRequired => "manual_repair_required"
  | failed => "failed"

inductive Stage where
  | closingManifest
  | enumeratingManifest
  | materializingEnvelopes
  | previewingParticipants
  | previewed
  | fencingCatalogs
  | fencingParticipants
  | revalidatingParticipants
  | materializingLoss
  | restoringParticipants
  | reconciling
  | verifyingParticipants
  | discardingCoordinators
  | releasingParticipants
  | rollbackParticipants
  | rollbackReleasingParticipants
  | complete
  | rolledBack
  | manualRepairRequired
  | failed
  deriving DecidableEq

/-- `TERMINAL_RESTORE_STAGES` -/
def terminalRestoreStages : List Stage :=
  [.previewed, .complete, .rolledBack, .manualRepairRequired, .failed]

def Stage.terminal (stage : Stage) : Bool := terminalRestoreStages.contains stage

inductive ParticipantKind where
  | shard
  | coordinator
  deriving DecidableEq

inductive ParticipantStatus where
  | pendingPreview
  | previewed
  | fenced
  | ready
  | lossMaterialized
  | staged
  | activationRequested
  | restored
  | verified
  | released
  | rollbackPending
  | rollbackNotNeeded
  | rollbackStaged
  | rollbackActivationRequested
  | rollbackVerified
  | rollbackReleased
  deriving DecidableEq

def ParticipantStatus.text : ParticipantStatus → String
  | pendingPreview => "pending_preview"
  | previewed => "previewed"
  | fenced => "fenced"
  | ready => "ready"
  | lossMaterialized => "loss_materialized"
  | staged => "staged"
  | activationRequested => "activation_requested"
  | restored => "restored"
  | verified => "verified"
  | released => "released"
  | rollbackPending => "rollback_pending"
  | rollbackNotNeeded => "rollback_not_needed"
  | rollbackStaged => "rollback_staged"
  | rollbackActivationRequested => "rollback_activation_requested"
  | rollbackVerified => "rollback_verified"
  | rollbackReleased => "rollback_released"

inductive WorkStatus where
  | pendingLoss
  | discardRequired
  | retained
  | discarded
  deriving DecidableEq

/-! ## rows -/

/-- what a catalog says of the topology -/
structure CatalogProof where
  topologyEpoch : Int
  topologyHash : JsString
  shardIds : List Text
  coverageStart : JsString
  raw : List Entries

structure ManifestPin where
  coverageStart : JsString
  catalogCloseKey : Text
  catalogGeneration : Int
  catalogSnapshotHash : Text
  fleetRootHash : Text
  partitionConfigHash : Text
  recordCount : Nat

structure Blocker where
  code : RestoreErrorCode
  message : JsString
  participantId : Option Text
  txId : Option Text

structure Report where
  discardedWriteCount : Nat
  discardedWriteReportHash : JsString
  discardedWriteReportComplete : Bool
  measuredRpoMs : Int
  measuredRtoMs : Int
  verifiedAt : JsString

structure OperationRow where
  restoreId : Text
  fleetId : Text
  cutoff : Text
  idempotencyKey : Text
  parameterHash : JsString
  phase : Phase
  stage : Stage
  planJson : Option JsonValue
  planHash : Option JsString
  previewedAt : JsString
  executeBefore : JsString
  topologyEpoch : Option Int
  topologyHash : Option JsString
  catalogProofJson : Option CatalogProof
  manifestPinJson : Option ManifestPin
  manifestCursorJson : Option JsonValue
  fenceGeneration : Option Nat
  fenceInstalledAt : Option JsString
  startedAt : Option JsString
  completedAt : Option JsString
  blockerJson : Option (List Blocker)
  reportJson : Option Report
  resumePhase : Option Phase
  resumeStage : Option Stage
  retryCount : Nat
  retryStartedAtMs : Option Int
  retryNotBeforeMs : Option Int
  updatedAt : JsString

structure ParticipantRow where
  restoreId : Text
  participantId : Text
  participantKind : ParticipantKind
  objectName : Text
  targetBookmark : Option Text
  targetCheckpointAt : Option JsString
  previewBookmark : Option Text
  coverageStart : Option JsString
  status : ParticipantStatus
  undoBookmark : Option Text
  preFenceBookmark : Option Text
  closedThrough : Option JsString
  lossCursorJson : Option JsonValue

structure WorkRow where
  restoreId : Text
  coordinatorId : Text
  lossCursorJson : Option JsonValue
  closedThrough : Option JsString
  status : WorkStatus

structure RecordRow where
  restoreId : Text
  recordHash : JsString
  txId : JsString
  coordinatorId : JsString
  commitDecidedAt : JsString
  envelopeHash : JsString
  recordJson : Entries
  envelopeJson : Option Entries
  reconciled : Bool

structure EvidenceRow where
  restoreId : Text
  evidenceHash : JsString
  evidenceJson : JsonValue

structure LossRow where
  restoreId : Text
  participantId : JsString
  lossHash : JsString
  lossJson : JsonValue

structure RegistryRow where
  coordinatorId : Text
  fleetId : JsString
  registeredAt : JsString
  lastSeenAt : JsString

structure GateRow where
  active : Bool
  restoreId : Option Text
  generation : Nat
  phase : Option Phase
  activatedAt : Option JsString

/-! ## the object -/

inductive Route where
  | gate
  | registerCoordinator
  | preview
  | execute
  | status
  | reconcile
  | rollback
  deriving DecidableEq

/-- `none` is a body that is not JSON -/
inductive Request where
  | fetch (route : Route) (body : Option JsonValue)
  | alarm

structure Response where
  status : Nat
  body : JsonValue

/-- `response.ok` -/
def Response.ok (response : Response) : Bool := 200 ≤ response.status && response.status < 300

/-- a database file has at most `2 ^ 48` bytes -/
def maxRows : Nat := 2 ^ 48

structure World where
  operations : Capped Text OperationRow (·.restoreId) maxRows
  participants : Capped (Text × Text) ParticipantRow (fun p => (p.restoreId, p.participantId)) maxRows
  coordinatorWork : Capped (Text × Text) WorkRow (fun w => (w.restoreId, w.coordinatorId)) maxRows
  manifestRecords : Capped (Text × JsString) RecordRow (fun r => (r.restoreId, r.recordHash)) maxRows
  manifestEvidence :
    Capped (Text × JsString) EvidenceRow (fun e => (e.restoreId, e.evidenceHash)) maxRows
  lossEntries : Capped (Text × JsString × JsString) LossRow
    (fun l => (l.restoreId, l.participantId, l.lossHash)) maxRows
  coordinatorRegistry : Capped Text RegistryRow (·.coordinatorId) maxRows
  /-- `coordinator_coverage_start` of the metadata -/
  coordinatorCoverageStart : Option JsString
  /-- the operations with a `rehearsal_fault` in the metadata -/
  rehearsalFaults : List Text
  gate : GateRow
  /-- `Date.now()` -/
  now : Int
  /-- `mutationTail` -/
  mutations : Barrier
  /-- what was answered so far, in order -/
  sent : List (Request × Response)

def World.fresh (now : Int) : World where
  operations := .empty
  participants := .empty
  coordinatorWork := .empty
  manifestRecords := .empty
  manifestEvidence := .empty
  lossEntries := .empty
  coordinatorRegistry := .empty
  coordinatorCoverageStart := none
  rehearsalFaults := []
  gate := { active := false, restoreId := none, generation := 0, phase := none, activatedAt := none }
  now := now
  mutations := .fresh
  sent := []

/-! ## what is awaited -/

inductive Target where
  | catalog (name : JsString)
  | shard (name : JsString)
  | coordinator (name : JsString)

/-- `none` is a body that is not JSON -/
structure Reply where
  status : Nat
  body : Option JsonValue

inductive Ask where
  | fetch (target : Target) (path : String) (body : JsonValue)
  | closeFleetThrough (fleetId cutoff : JsString)
  | enumerateManifest (request : JsonValue)
  | setAlarm (at' : Int)

/-- `none` of `fetch` is a call that was rejected -/
def Ask.Result : Ask → Type
  | fetch _ _ _ => Option Reply
  | closeFleetThrough _ _ => JsonValue
  | enumerateManifest _ => JsonValue
  | setAlarm _ => Unit

/-- `work` is the operation that is parked when the call throws, unless the exception is caught
before or behind the work on an operation -/
structure Call where
  work : Option Text
  ask : Ask

/-- what comes back, or the message of what is thrown -/
def Call.Answer (call : Call) : Type := Except JsString call.ask.Result

abbrev Coord := Prog World Call Call.Answer Thrown

/-- what the platform and the locale do -/
structure Platform where
  dates : DateLib
  sha256 : ByteArray → Vector UInt8 32
  collator : Collator

structure Env where
  platform : Platform
  /-- `DEPLOYMENT_FLEET_ID`, trimmed -/
  deploymentFleet : String
  /-- what is read of `CATALOG_SHARD_COUNT` -/
  catalogShards : Option Int
  /-- whether `CONTROL_PLANE` is bound -/
  controlPlane : Bool
  /-- `RESTORE_REHEARSAL_FAIL_AFTER_PARTICIPANTS`, with `FAULT_INJECTION_ENABLED` -/
  failAfter : Option Int

def maxCatalogShards : Int := 128

section env
variable (E : Env)

def deploymentFleetId : Text :=
  if h : E.deploymentFleet ≠ "" then said E.deploymentFleet h else said "default"

def catalogShardCount : Nat :=
  match E.catalogShards with
  | some n => if 0 < n ∧ n ≤ maxCatalogShards then n.toNat else 4
  | none => 4

/-- `new Date(ms).toISOString()`, of a date that there is -/
def isoOf (ms : Int) : JsString := E.platform.dates.iso ms

/-- `new Date(text).getTime()` -/
def timeOf (text : JsString) : Option Int := E.platform.dates.parse text

end env

def ask (work : Option Text) (q : Ask) : Coord q.Result :=
  .call ⟨work, q⟩ fun
    | .ok result => .pure result
    | .error message => .throw (.other message)

/-! ## answers of other objects -/

def stringField (es : Entries) (names : List String) : Option Text :=
  names.findSome? fun name => textOfField (get es name)

def numberField (es : Entries) (names : List String) : Option Int :=
  names.findSome? fun name => safeValue (get es name)

/-- `left ?? right` -/
def orElse (left right : Field) : Field :=
  match left with
  | none | some .null => right
  | some v => some v

def canonicalTimestamp (D : DateLib) (value : Field) : Option JsString :=
  match value with
  | some (.str s) => if (canonicalTime D s).isSome then some s else none
  | _ => none

def includes (text : JsString) (word : String) : Bool := decide (utf16 word <:+: text)

/-- what a refusal with the status 409 is taken for -/
def conflictOf (remoteCode : JsString) : RestoreErrorCode :=
  if includes remoteCode "BOOKMARK" then .bookmarkMissing
  else if includes remoteCode "COVERAGE" || includes remoteCode "GAP"
      || includes remoteCode "INCOMPLETE" then .enumerationIncomplete
  else if includes remoteCode "HASH" || includes remoteCode "ENVELOPE" then .hashContradiction
  else if includes remoteCode "VERIFY" || includes remoteCode "INVARIANT" then .invariantFailed
  else if includes remoteCode "TOPOLOGY" || includes remoteCode "STALE" then .planStale
  else .conflict

def jsonNat (n : Nat) : JsonValue := jsonInteger n

/-- `${context} rejected the restore operation.` -/
def rejected (context : String) : Text :=
  (said " rejected the restore operation.").after (utf16 context)

def responseJson (response : Reply) (context : String) : Try Entries :=
  match response.body with
  | none =>
    .error (failure .unavailable ((said " returned a non-JSON response.").after (utf16 context)))
  | some (.obj body) =>
    if 200 ≤ response.status ∧ response.status < 300 then .ok body
    else
      let nested := match get body "error" with
        | some (.obj nested) => nested
        | _ => body
      let remoteCode := ((stringField nested ["code"]).map Subtype.val).getD []
      let remoteMessage := (stringField nested ["message"]).getD (rejected context)
      let details : Details :=
        [("http_status", jsonNat response.status), ("remote_code", .str remoteCode)]
      if response.status = 408 ∨ response.status = 425 ∨ response.status = 429 then
        failRestore .unavailable remoteMessage details
      else if response.status = 404 ∧ context = "/redo-envelope" then
        failRestore .manifestGap
          (said "A manifest record references a redo envelope that is unavailable.")
      else if 400 ≤ response.status ∧ response.status < 500 ∧ response.status ≠ 409 then
        if decide (utf16 "VERSION_UNSUPPORTED" <:+ remoteCode) then
          failRestore .versionUnsupported remoteMessage
        else failRestore .invalidRequest remoteMessage details
      else if response.status = 409 then
        match conflictOf remoteCode with
        | .conflict => failRestore .conflict remoteMessage [("remote_code", .str remoteCode)]
        | code => failRestore code remoteMessage
      else failRestore .unavailable remoteMessage details
  | some _ =>
    failRestore .unavailable (rejected context) [("http_status", jsonNat response.status)]

def postToStub (work : Option Text) (target : Target) (path : String) (body : JsonValue) :
    Coord Entries := do
  match ← ask work (.fetch target path body) with
  | none =>
    .throw (failure .unavailable ((said " is temporarily unavailable.").after (utf16 path)))
  | some response => .ofExcept (responseJson response path)

/-! ## statements -/

/-- what a `TEXT` column gives back: lone surrogates are replaced when the text becomes UTF-8 -/
def stored (t : Text) : Text :=
  ⟨utf16 (textOf t.val), by
    have hchars : characters t.val ≠ [] := by
      obtain ⟨s, hs⟩ := t
      match s with
      | [] => exact absurd rfl hs
      | [c] => simp [characters]
      | c :: d :: rest =>
        unfold characters
        split
        · exact List.cons_ne_nil _ _
        · split <;> exact List.cons_ne_nil _ _
    refine utf16_ne_nil fun hnil => hchars ?_
    have : (textOf t.val).toList = [] := by rw [hnil]; rfl
    simpa [textOf] using this⟩

/-- texts are ordered by their bytes -/
def byBytes (s : JsString) : String := textOf s

namespace World

/-- `SELECT * FROM restore_operations WHERE restore_id = ?` -/
def operation (s : World) (restoreId : Text) : Option OperationRow := s.operations.find restoreId

/-- `UPDATE restore_operations SET … WHERE restore_id = ?` -/
def setOperation (s : World) (restoreId : Text) (f : OperationRow → OperationRow)
    (hf : ∀ op, (f op).restoreId = op.restoreId := by exact fun _ => rfl) : World :=
  { s with operations := s.operations.updateWhere (fun op => op.restoreId == restoreId) f hf }

/-- `UPDATE restore_participants SET … WHERE restore_id = ? AND participant_id = ?` -/
def setParticipant (s : World) (restoreId participantId : Text) (f : ParticipantRow → ParticipantRow)
    (hf : ∀ p, ((f p).restoreId, (f p).participantId) = (p.restoreId, p.participantId) := by
      exact fun _ => rfl) : World :=
  { s with
    participants := s.participants.updateWhere
      (fun p => p.restoreId == restoreId && p.participantId == participantId) f hf }

def setRecord (s : World) (restoreId : Text) (recordHash : JsString) (f : RecordRow → RecordRow)
    (hf : ∀ r, ((f r).restoreId, (f r).recordHash) = (r.restoreId, r.recordHash) := by
      exact fun _ => rfl) : World :=
  { s with
    manifestRecords := s.manifestRecords.updateWhere
      (fun r => r.restoreId == restoreId && r.recordHash == recordHash) f hf }

def setWork (s : World) (restoreId coordinatorId : Text) (f : WorkRow → WorkRow)
    (hf : ∀ w, ((f w).restoreId, (f w).coordinatorId) = (w.restoreId, w.coordinatorId) := by
      exact fun _ => rfl) : World :=
  { s with
    coordinatorWork := s.coordinatorWork.updateWhere
      (fun w => w.restoreId == restoreId && w.coordinatorId == coordinatorId) f hf }

/-- `SELECT COUNT(*) FROM restore_participants WHERE restore_id = ? AND …` -/
def countParticipants (s : World) (restoreId : Text) (p : ParticipantRow → Bool) : Nat :=
  s.participants.count fun row => row.restoreId == restoreId && p row

def countRecords (s : World) (restoreId : Text) (p : RecordRow → Bool) : Nat :=
  s.manifestRecords.count fun row => row.restoreId == restoreId && p row

def countWork (s : World) (restoreId : Text) (p : WorkRow → Bool) : Nat :=
  s.coordinatorWork.count fun row => row.restoreId == restoreId && p row

/-- `SELECT * FROM restore_participants WHERE restore_id = ? AND … ORDER BY participant_id LIMIT 1` -/
def nextParticipant (s : World) (restoreId : Text) (p : ParticipantRow → Bool) :
    Option ParticipantRow :=
  s.participants.first (fun row => row.restoreId == restoreId && p row)
    fun row => byBytes row.participantId.val

def nextWork (s : World) (restoreId : Text) (status : WorkStatus) : Option WorkRow :=
  s.coordinatorWork.first (fun row => row.restoreId == restoreId && row.status == status)
    fun row => byBytes row.coordinatorId.val

/-- `… ORDER BY commit_decided_at, tx_id LIMIT 1` -/
def nextRecord (s : World) (restoreId : Text) (p : RecordRow → Bool) : Option RecordRow :=
  s.manifestRecords.first (fun row => row.restoreId == restoreId && p row)
    fun row => toLex (byBytes row.commitDecidedAt, byBytes row.txId)

end World

/-- the message of a statement that the file has no room for -/
def diskFull : Thrown := .other (utf16 "database or disk is full: SQLITE_FULL")

/-- statements that insert rows -/
def insert (f : World → Option World) : Coord Unit :=
  .transact fun s =>
    match f s with
    | some s' => .ok ((), s')
    | none => .error diskFull

end FleetRestore
