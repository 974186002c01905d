import CloudflareShard.Restore.FleetContract

/-!
# What the client takes for an answer of a fleet restore

* `string`, `hash`, `integer`, `timestamp` and the others   the client's checks;
* `validateRestorePlan`, `validateRestorePreviewResponse`, `validateRestoreAcceptedResponse`,
  `validateRestoreStatusResponse`   the answers that it takes.
-/

namespace FleetRestore.Client
open Json Wire

abbrev Checked (α : Type) := Except String α

def invalid {α : Type} (message : String) : Checked α :=
  .error ("Invalid restore response: " ++ message)

def invalidIf (condition : Bool) (message : String) : Checked Unit :=
  if condition then invalid message else .ok ()

/-! ## checks -/

def asObject (value : Field) (field : String) : Checked Entries :=
  match value with
  | some (.obj es) => .ok es
  | _ => invalid (field ++ " must be an object.")

def exact (es : Entries) (field : String) (keys : List String) : Checked Unit :=
  invalidIf ((es.any fun e => !keys.any fun key => e.1 == utf16 key) || keys.any fun key => !has es key)
    (field ++ " fields do not match the V1 contract.")

def string (value : Field) (field : String) : Checked JsString :=
  match textOfField value with
  | some s => .ok s.val
  | none => invalid (field ++ " must be a non-empty string.")

def hash (value : Field) (field : String) : Checked JsString :=
  match digestOf value with
  | some s => .ok s
  | none => invalid (field ++ " must be a lowercase SHA-256 digest.")

def integer (value : Field) (field : String) (minimum : Nat := 0) : Checked Int :=
  match (safeValue value).filter fun n => decide ((minimum : Int) ≤ n) with
  | some n => .ok n
  | none =>
    invalid (field ++ " must be a safe integer greater than or equal to " ++ toString minimum ++ ".")

def asArray (value : Field) (message : String) : Checked (List JsonValue) :=
  match value with
  | some (.arr values) => .ok values
  | _ => invalid message

def nullableString (value : Field) (field : String) : Checked (Option JsString) :=
  if isNull value then .ok none else some <$> string value field

def phases : List String :=
  ["previewing", "previewed", "fencing", "restoring", "reconciliation_pending", "reconciling",
    "verifying", "rolling_back", "parked_lease_lost", "complete", "rolled_back",
    "manual_repair_required", "failed"]

def errorCodes : List String :=
  ["RESTORE_INVALID_REQUEST", "RESTORE_VERSION_UNSUPPORTED", "RESTORE_CUTOFF_IN_FUTURE",
    "RESTORE_CUTOFF_OUTSIDE_PITR_WINDOW", "RESTORE_BOOKMARK_MISSING",
    "RESTORE_ENUMERATION_INCOMPLETE", "RESTORE_PLAN_HASH_MISMATCH", "RESTORE_PLAN_STALE",
    "RESTORE_CONFLICT", "RESTORE_INTERRUPTED", "RESTORE_MANIFEST_GAP", "RESTORE_HASH_CONTRADICTION",
    "RESTORE_INVARIANT_FAILED", "RESTORE_UNAVAILABLE"]

section dates
variable (D : DateLib)

def timestamp (value : Field) (field : String) : Checked JsString := do
  let text ← string value field
  invalidIf (canonicalTime D text).isNone (field ++ " must be a canonical UTC timestamp.")
  return text

def nullableTimestamp (value : Field) (field : String) : Checked (Option JsString) :=
  if isNull value then .ok none else some <$> timestamp D value field

/-- `Date.parse(left) > Date.parse(right)`, where an invalid date is neither more nor less -/
def later (left right : JsString) : Bool :=
  match D.parse left, D.parse right with
  | some a, some b => decide (b < a)
  | _, _ => false

/-- `Date.parse(left) >= Date.parse(right)` -/
def notBefore (left right : JsString) : Bool :=
  match D.parse left, D.parse right with
  | some a, some b => decide (b ≤ a)
  | _, _ => false

/-! ## plans -/

def planKeys : List String := planBodyKeys ++ ["plan_hash"]

/-- one of the participants, after the one before it -/
def planParticipant (previous : JsString) (value : JsonValue) : Checked JsString := do
  let es ← asObject (some value) "plan.participant"
  exact es "plan.participant" ["participant_id", "target_bookmark", "preview_bookmark"]
  let participantId ← string (get es "participant_id") "plan.participant.participant_id"
  invalidIf (!codeUnitLt previous participantId) "plan participants must be unique and sorted."
  let _ ← string (get es "target_bookmark") "plan.participant.target_bookmark"
  let _ ← string (get es "preview_bookmark") "plan.participant.preview_bookmark"
  return participantId

def planLimitation (previous : JsString) (value : JsonValue) : Checked JsString := do
  let limitation ← string (some value) "plan.rollback.limitation"
  invalidIf (!codeUnitLt previous limitation) "rollback limitations must be unique and sorted."
  return limitation

def planTopology (value : Field) : Checked Unit := do
  let es ← asObject value "plan.topology"
  exact es "plan.topology" ["topology_epoch", "topology_hash"]
  let _ ← integer (get es "topology_epoch") "plan.topology.topology_epoch" 1
  let _ ← hash (get es "topology_hash") "plan.topology.topology_hash"

/-- hands on the number of records -/
def planManifest (value : Field) (cutoff : JsString) : Checked Int := do
  let es ← asObject value "plan.manifest"
  exact es "plan.manifest" ["coverage_start", "catalog_close_key", "catalog_generation",
    "catalog_snapshot_hash", "fleet_root_hash", "partition_config_hash", "record_count"]
  let coverageStart ← timestamp D (get es "coverage_start") "plan.manifest.coverage_start"
  invalidIf (later D coverageStart cutoff) "manifest coverage starts after the cutoff."
  let _ ← hash (get es "catalog_close_key") "plan.manifest.catalog_close_key"
  let _ ← integer (get es "catalog_generation") "plan.manifest.catalog_generation" 1
  let _ ← hash (get es "catalog_snapshot_hash") "plan.manifest.catalog_snapshot_hash"
  let _ ← hash (get es "fleet_root_hash") "plan.manifest.fleet_root_hash"
  let _ ← hash (get es "partition_config_hash") "plan.manifest.partition_config_hash"
  integer (get es "record_count") "plan.manifest.record_count"

/-- hands on the number of participants -/
def planParticipants (value : Field) : Checked Nat := do
  let values ← asArray value "plan.participants must be non-empty."
  invalidIf values.isEmpty "plan.participants must be non-empty."
  let _ ← values.foldlM planParticipant []
  return values.length

def planImpact (value : Field) (participantCount : Nat) (recordCount : Int)
    (cutoff executeBefore : JsString) : Checked Unit := do
  let es ← asObject value "plan.impact"
  exact es "plan.impact"
    ["participant_count", "transaction_count", "intentional_loss_from", "intentional_loss_through"]
  let participants ← integer (get es "participant_count") "plan.impact.participant_count" 1
  invalidIf (participants != participantCount) "participant count is inconsistent."
  let transactions ← integer (get es "transaction_count") "plan.impact.transaction_count"
  invalidIf (transactions != recordCount) "transaction count is inconsistent."
  let lossFrom ← timestamp D (get es "intentional_loss_from") "plan.impact.intentional_loss_from"
  invalidIf (later D lossFrom cutoff) "intentional loss bounds are inconsistent."
  let through ← timestamp D (get es "intentional_loss_through") "plan.impact.intentional_loss_through"
  invalidIf (through != executeBefore) "intentional loss bounds are inconsistent."

def planRollback (value : Field) : Checked Unit := do
  let es ← asObject value "plan.rollback"
  exact es "plan.rollback" ["undo_supported", "undo_expires_at", "limitations"]
  invalidIf (!isBool (get es "undo_supported")) "plan.rollback.undo_supported must be boolean."
  let _ ← nullableTimestamp D (get es "undo_expires_at") "plan.rollback.undo_expires_at"
  let limitations ← asArray (get es "limitations") "plan.rollback.limitations must be an array."
  let _ ← limitations.foldlM planLimitation []

def validateRestorePlan (value : Field) : Checked Entries := do
  let es ← asObject value "plan"
  exact es "plan" planKeys
  invalidIf (!(isNumber (get es "protocol_version") 1 && isNumber (get es "format_version") 1))
    "plan version is unsupported."
  let _ ← string (get es "restore_id") "plan.restore_id"
  let _ ← string (get es "fleet_id") "plan.fleet_id"
  let cutoff ← timestamp D (get es "cutoff") "plan.cutoff"
  let previewedAt ← timestamp D (get es "previewed_at") "plan.previewed_at"
  let executeBefore ← timestamp D (get es "execute_before") "plan.execute_before"
  invalidIf (later D cutoff previewedAt || notBefore D previewedAt executeBefore)
    "plan timestamps are inconsistent."
  let _ ← hash (get es "parameter_hash") "plan.parameter_hash"
  let _ ← hash (get es "plan_hash") "plan.plan_hash"
  planTopology (get es "topology")
  let recordCount ← planManifest D (get es "manifest") cutoff
  let participantCount ← planParticipants (get es "participants")
  planImpact D (get es "impact") participantCount recordCount cutoff executeBefore
  planRollback D (get es "rollback")
  return es

/-! ## answers -/

def isTrue : Field → Bool
  | some (.bool true) => true
  | _ => false

/-- the plan or the preview is of the fleet and the cutoff that were asked for -/
def boundTo (es : Entries) (fleetId cutoff : JsString) : Bool :=
  strictEq (get es "fleet_id") (some (.str fleetId)) && strictEq (get es "cutoff") (some (.str cutoff))

def validateRestorePreviewResponse (value : JsonValue) (fleetId cutoff : JsString) :
    Checked Unit := do
  let es ← asObject (some value) "preview response"
  if isText (get es "status") "previewing" then do
    exact es "preview response" ["ok", "status", "restore_id", "fleet_id", "cutoff", "retry_after_ms"]
    invalidIf (!isTrue (get es "ok")) "preview response must be successful."
    let _ ← string (get es "restore_id") "preview response.restore_id"
    let _ ← string (get es "fleet_id") "preview response.fleet_id"
    let _ ← timestamp D (get es "cutoff") "preview response.cutoff"
    invalidIf (!boundTo es fleetId cutoff)
      "previewing response is not bound to the requested fleet and cutoff."
    let _ ← integer (get es "retry_after_ms") "preview response.retry_after_ms"
  else if isText (get es "status") "previewed" then do
    exact es "preview response" ["ok", "status", "plan"]
    invalidIf (!isTrue (get es "ok")) "preview response must be successful."
    let plan ← validateRestorePlan D (get es "plan")
    invalidIf (!boundTo plan fleetId cutoff)
      "preview plan is not bound to the requested fleet and cutoff."
  else invalid "preview status is unsupported."

def validateRestoreAcceptedResponse (value : JsonValue) (restoreId planHash : JsString) :
    Checked Unit := do
  let es ← asObject (some value) "accepted response"
  exact es "accepted response" ["ok", "status", "restore_id", "plan_hash"]
  invalidIf (!isTrue (get es "ok") || !isOneOf (get es "status") ["accepted", "already_started"])
    "accepted response status is unsupported."
  let restore ← string (get es "restore_id") "accepted response.restore_id"
  let plan ← hash (get es "plan_hash") "accepted response.plan_hash"
  invalidIf (restore != restoreId || plan != planHash)
    "accepted response is not bound to the requested restore and plan."

structure Progress where
  participantsTotal : Int
  participantsRestored : Int
  transactionsTotal : Int
  transactionsReconciled : Int

def progressOf (value : Field) : Checked Progress := do
  let es ← asObject value "status response.progress"
  exact es "status response.progress" ["participants_total", "participants_restored",
    "transactions_total", "transactions_reconciled"]
  let participantsTotal ← integer (get es "participants_total")
    "status response.progress.participants_total"
  let participantsRestored ← integer (get es "participants_restored")
    "status response.progress.participants_restored"
  let transactionsTotal ← integer (get es "transactions_total")
    "status response.progress.transactions_total"
  let transactionsReconciled ← integer (get es "transactions_reconciled")
    "status response.progress.transactions_reconciled"
  invalidIf (decide (participantsTotal < participantsRestored)
      || decide (transactionsTotal < transactionsReconciled))
    "status response progress exceeds totals."
  return { participantsTotal, participantsRestored, transactionsTotal, transactionsReconciled }

def checkBlocker (value : JsonValue) : Checked Unit := do
  let es ← asObject (some value) "status response blocker"
  exact es "status response blocker" ["code", "message", "participant_id", "tx_id"]
  invalidIf (!isOneOf (get es "code") errorCodes) "status response blocker code is unsupported."
  let _ ← string (get es "message") "status response blocker.message"
  let _ ← nullableString (get es "participant_id") "status response blocker.participant_id"
  let _ ← nullableString (get es "tx_id") "status response blocker.tx_id"

/-- hands on whether the report is complete -/
def checkReport (value : Field) : Checked Bool := do
  if isNull value then return false
  else do
    let es ← asObject value "status response report"
    exact es "status response report" ["discarded_write_count", "discarded_write_report_hash",
      "discarded_write_report_complete", "measured_rpo_ms", "measured_rto_ms", "verified_at"]
    let _ ← integer (get es "discarded_write_count") "status response report.discarded_write_count"
    let _ ← hash (get es "discarded_write_report_hash")
      "status response report.discarded_write_report_hash"
    invalidIf (!isBool (get es "discarded_write_report_complete"))
      "status response report completeness must be boolean."
    let _ ← integer (get es "measured_rpo_ms") "status response report.measured_rpo_ms"
    let _ ← integer (get es "measured_rto_ms") "status response report.measured_rto_ms"
    let _ ← timestamp D (get es "verified_at") "status response report.verified_at"
    return isTrue (get es "discarded_write_report_complete")

def checkPlanHash (es : Entries) : Checked Unit :=
  if isNull (get es "plan_hash") then
    invalidIf (!isText (get es "phase") "previewing")
      "status response plan hash may be null only while previewing."
  else do
    let _ ← hash (get es "plan_hash") "status response.plan_hash"
    return ()

def validateRestoreStatusResponse (value : JsonValue) (expectedRestoreId : JsString) :
    Checked Unit := do
  let es ← asObject (some value) "status response"
  exact es "status response" ["protocol_version", "format_version", "restore_id", "plan_hash",
    "fleet_id", "cutoff", "phase", "started_at", "updated_at", "completed_at", "progress", "blockers",
    "report"]
  invalidIf (!(isNumber (get es "protocol_version") 1 && isNumber (get es "format_version") 1))
    "status response version is unsupported."
  let restoreId ← string (get es "restore_id") "status response.restore_id"
  invalidIf (!expectedRestoreId.isEmpty && restoreId != expectedRestoreId)
    "status response is not bound to the requested restore."
  let _ ← string (get es "fleet_id") "status response.fleet_id"
  let _ ← timestamp D (get es "cutoff") "status response.cutoff"
  invalidIf (!isOneOf (get es "phase") phases) "status response phase is unsupported."
  checkPlanHash es
  let _ ← nullableTimestamp D (get es "started_at") "status response.started_at"
  let _ ← timestamp D (get es "updated_at") "status response.updated_at"
  let completedAt ← nullableTimestamp D (get es "completed_at") "status response.completed_at"
  let progress ← progressOf (get es "progress")
  let blockers ← asArray (get es "blockers") "status response blockers must be an array."
  let _ ← blockers.mapM checkBlocker
  let reportComplete ← checkReport D (get es "report")
  invalidIf (isText (get es "phase") "complete"
      && (completedAt.isNone || isNull (get es "report") || !reportComplete
        || progress.participantsRestored != progress.participantsTotal
        || progress.transactionsReconciled != progress.transactionsTotal || !blockers.isEmpty))
    "complete status response lacks complete evidence."
  invalidIf (isText (get es "phase") "rolled_back" && (completedAt.isNone || !blockers.isEmpty))
    "rolled-back status response is incomplete."

end dates
end FleetRestore.Client
