import CloudflareShard.Contracts.WireManifest
import CloudflareShard.Contracts.WireObject
import CloudflareShard.Restore.Errors

/-!
# The contract of a fleet restore

Exact checks of what a restore coordinator is asked and of the plan it answers with.

* `Violation`, `Thrown`          errors of the contract, and all others;
* `assertString` and the others  the checks;
* `PreviewRequest`, `PlanRequest`, `validateRestorePreviewRequest`, `validateRestoreExecuteRequest`
  what a coordinator is asked;
* `validateRestorePlanBody`      the plan without its hash;
* `hashRestorePreviewParameters`, `hashRestorePlanBody`   what they are known by.
-/

namespace Restore

/-- the code as it stands in an answer -/
def RestoreErrorCode.text : RestoreErrorCode → String
  | .invalidRequest => "RESTORE_INVALID_REQUEST"
  | .versionUnsupported => "RESTORE_VERSION_UNSUPPORTED"
  | .cutoffInFuture => "RESTORE_CUTOFF_IN_FUTURE"
  | .cutoffOutsidePitrWindow => "RESTORE_CUTOFF_OUTSIDE_PITR_WINDOW"
  | .bookmarkMissing => "RESTORE_BOOKMARK_MISSING"
  | .enumerationIncomplete => "RESTORE_ENUMERATION_INCOMPLETE"
  | .planHashMismatch => "RESTORE_PLAN_HASH_MISMATCH"
  | .planStale => "RESTORE_PLAN_STALE"
  | .conflict => "RESTORE_CONFLICT"
  | .interrupted => "RESTORE_INTERRUPTED"
  | .manifestGap => "RESTORE_MANIFEST_GAP"
  | .hashContradiction => "RESTORE_HASH_CONTRADICTION"
  | .invariantFailed => "RESTORE_INVARIANT_FAILED"
  | .unavailable => "RESTORE_UNAVAILABLE"

end Restore

namespace FleetRestore
open Json Wire
open Restore (RestoreErrorCode restoreErrorHttpStatus retryableRestoreErrors)

def restoreProtocolVersion : Nat := 1
def restoreRequestFormatVersion : Nat := 1
def restorePlanFormatVersion : Nat := 1
def restoreStatusFormatVersion : Nat := 1
def restoreErrorSchemaVersion : Nat := 1

abbrev Details := List (String × JsonValue)

/-- `RestoreContractViolation`: the message is never empty -/
structure Violation where
  code : RestoreErrorCode
  message : Text
  details : Details

def Violation.retryable (v : Violation) : Bool := retryableRestoreErrors.contains v.code

inductive Thrown where
  | violation (v : Violation)
  /-- any other exception, by its message -/
  | other (message : JsString)

abbrev Try (α : Type) := Except Thrown α

def failure (code : RestoreErrorCode) (message : Text) (details : Details := []) : Thrown :=
  .violation { code, message, details }

def failRestore {α : Type} (code : RestoreErrorCode) (message : Text) (details : Details := []) :
    Try α := .error (failure code message details)

/-- what `String(error.message)` of an exception of another library says -/
def foreign : Wire.Thrown → Thrown
  | .violation error => .other (utf16 error.message)
  | .native .rangeError => .other (utf16 "Invalid time value")
  | .native .typeError => .other (utf16 "Cannot convert object to primitive value")

def foreignly {α : Type} : Wire.Checked α → Try α
  | .ok a => .ok a
  | .error e => .error (foreign e)

/-! ## checks -/

/-- a sentence about a field -/
def about (field : String) (rest : Text) : Text := rest.after (utf16 field)

def inField (field : String) : Details := [("field", .str (utf16 field))]

def assertPlainObject (value : Field) (field : String) : Try Entries :=
  match value with
  | some (.obj es) => .ok es
  | _ => failRestore .invalidRequest (about field (said " must be a plain object.")) (inField field)

def assertExactKeys (es : Entries) (field : String) (keys : List String) : Try Unit :=
  if unknownKeys es keys ≠ [] then
    failRestore .invalidRequest (about field (said " contains unknown fields."))
      (inField field ++ [("unknown_fields", .arr ((unknownKeys es keys).map .str))])
  else if missingKeys es keys ≠ [] then
    failRestore .invalidRequest (about field (said " is missing required fields."))
      (inField field ++ [("missing_fields", .arr ((missingKeys es keys).map fun k => .str (utf16 k)))])
  else .ok ()

def assertVersion (es : Entries) (expectedFormat : Nat) (field : String) : Try Unit :=
  if isNumber (get es "protocol_version") restoreProtocolVersion
      && isNumber (get es "format_version") expectedFormat then .ok ()
  else do
    let protocol ← foreignly (stringOf (get es "protocol_version"))
    let format ← foreignly (stringOf (get es "format_version"))
    failRestore .versionUnsupported
      (about field (said " uses an unsupported protocol or format version."))
      [("protocol_version", .str protocol), ("format_version", .str format)]

/-- a string that is not empty -/
def textOfField : Field → Option Text
  | some (.str s) => if h : s ≠ [] then some ⟨s, h⟩ else none
  | _ => none

def assertString (value : Field) (field : String) : Try Text :=
  match textOfField value with
  | some s => .ok s
  | none =>
    failRestore .invalidRequest (about field (said " must be a non-empty string.")) (inField field)

def assertHash (value : Field) (field : String) : Try JsString :=
  match digestOf value with
  | some s => .ok s
  | none =>
    failRestore .invalidRequest (about field (said " must be a lowercase SHA-256 digest."))
      (inField field)

def assertInteger (value : Field) (field : String) (minimum : Nat := 0) : Try Int :=
  match (safeValue value).filter fun n => decide ((minimum : Int) ≤ n) with
  | some n => .ok n
  | none =>
    failRestore .invalidRequest
      (about field ((said " must be a safe integer greater than or equal to ").then
        (utf16 (toString minimum ++ "."))))
      (inField field)

def assertArray (value : Field) (message : Text) : Try (List JsonValue) :=
  match value with
  | some (.arr values) => .ok values
  | _ => failRestore .invalidRequest message

def invalidIf (condition : Bool) (message : Text) : Try Unit :=
  if condition then failRestore .invalidRequest message else .ok ()

section dates
variable (D : DateLib)

def parseTimestamp (value : Field) (field : String) : Try Int := do
  let text ← assertString value field
  match canonicalTime D text.val with
  | some ms => return ms
  | none =>
    failRestore .invalidRequest
      (about field (said " must be a canonical UTC timestamp with millisecond precision."))
      (inField field)

def assertNullableTimestamp (value : Field) (field : String) : Try Unit :=
  if isNull value then .ok ()
  else do
    let _ ← parseTimestamp D value field
    return ()

/-! ## requests -/

def validateRequestBase (value : JsonValue) (field : String) (keys : List String) : Try Entries := do
  let es ← assertPlainObject (some value) field
  assertExactKeys es field keys
  assertVersion es restoreRequestFormatVersion field
  return es

structure PreviewRequest where
  fleetId : Text
  cutoff : Text
  idempotencyKey : Text

def validateRestorePreviewRequest (value : JsonValue) : Try PreviewRequest := do
  let es ← validateRequestBase value "restore_preview_request"
    ["protocol_version", "format_version", "fleet_id", "cutoff", "idempotency_key"]
  let fleetId ← assertString (get es "fleet_id") "fleet_id"
  let _ ← parseTimestamp D (get es "cutoff") "cutoff"
  let cutoff ← assertString (get es "cutoff") "cutoff"
  let idempotencyKey ← assertString (get es "idempotency_key") "idempotency_key"
  return { fleetId, cutoff, idempotencyKey }

/-- a request about the plan with the given hash -/
structure PlanRequest where
  restoreId : Text
  planHash : JsString

/-- the requests to execute, to reconcile and to roll back differ in their name -/
def validatePlanRequest (field : String) (value : JsonValue) : Try PlanRequest := do
  let es ← validateRequestBase value field
    ["protocol_version", "format_version", "restore_id", "plan_hash"]
  let restoreId ← assertString (get es "restore_id") "restore_id"
  let planHash ← assertHash (get es "plan_hash") "plan_hash"
  return { restoreId, planHash }

def validateRestoreExecuteRequest : JsonValue → Try PlanRequest :=
  validatePlanRequest "restore_execute_request"

def validateRestoreReconcileRequest : JsonValue → Try PlanRequest :=
  validatePlanRequest "restore_reconcile_request"

def validateRestoreRollbackRequest : JsonValue → Try PlanRequest :=
  validatePlanRequest "restore_rollback_request"

def validateRestoreStatusRequest (value : JsonValue) : Try Text := do
  let es ← validateRequestBase value "restore_status_request"
    ["protocol_version", "format_version", "restore_id"]
  assertString (get es "restore_id") "restore_id"

/-! ## plans -/

def validateTopology (value : Field) : Try Unit := do
  let es ← assertPlainObject value "restore_topology"
  assertExactKeys es "restore_topology" ["topology_epoch", "topology_hash"]
  let _ ← assertInteger (get es "topology_epoch") "topology_epoch" 1
  let _ ← assertHash (get es "topology_hash") "topology_hash"

/-- hands on the number of records -/
def validateManifest (value : Field) (cutoff : Int) : Try Int := do
  let es ← assertPlainObject value "restore_manifest"
  assertExactKeys es "restore_manifest" ["coverage_start", "catalog_close_key", "catalog_generation",
    "catalog_snapshot_hash", "fleet_root_hash", "partition_config_hash", "record_count"]
  let coverageStart ← parseTimestamp D (get es "coverage_start") "coverage_start"
  invalidIf (cutoff < coverageStart) (said "coverage_start must not exceed cutoff.")
  let _ ← assertHash (get es "catalog_close_key") "catalog_close_key"
  let _ ← assertInteger (get es "catalog_generation") "catalog_generation" 1
  let _ ← assertHash (get es "catalog_snapshot_hash") "catalog_snapshot_hash"
  let _ ← assertHash (get es "fleet_root_hash") "fleet_root_hash"
  let _ ← assertHash (get es "partition_config_hash") "partition_config_hash"
  assertInteger (get es "record_count") "record_count"

def validateParticipant (previous : JsString) (value : JsonValue) : Try JsString := do
  let es ← assertPlainObject (some value) "restore_participant"
  assertExactKeys es "restore_participant" ["participant_id", "target_bookmark", "preview_bookmark"]
  let participantId ← assertString (get es "participant_id") "participant_id"
  invalidIf (!codeUnitLt previous participantId.val)
    (said "participants must be unique and sorted by participant_id.")
  let _ ← assertString (get es "target_bookmark") "target_bookmark"
  let _ ← assertString (get es "preview_bookmark") "preview_bookmark"
  return participantId.val

/-- hands on the number of participants -/
def validateParticipants (value : Field) : Try Nat := do
  let values ← assertArray value (said "participants must be a non-empty array.")
  invalidIf values.isEmpty (said "participants must be a non-empty array.")
  let _ ← values.foldlM validateParticipant []
  return values.length

def validateImpact (value : Field) (participantCount : Nat) (transactionCount cutoff : Int)
    (executeBefore : Field) : Try Unit := do
  let es ← assertPlainObject value "restore_impact"
  assertExactKeys es "restore_impact"
    ["participant_count", "transaction_count", "intentional_loss_from", "intentional_loss_through"]
  let participants ← assertInteger (get es "participant_count") "participant_count" 1
  let transactions ← assertInteger (get es "transaction_count") "transaction_count"
  let lossFrom ← parseTimestamp D (get es "intentional_loss_from") "intentional_loss_from"
  let _ ← parseTimestamp D (get es "intentional_loss_through") "intentional_loss_through"
  invalidIf (participants != participantCount || transactions != transactionCount)
    (said "Restore impact counts do not match the immutable resource/evidence sets.")
  invalidIf (decide (cutoff < lossFrom)
      || !strictEq (get es "intentional_loss_through") executeBefore)
    (said "Restore impact loss bounds must cover the cutoff through execute_before.")

def validateLimitation (previous : JsString) (value : JsonValue) : Try JsString := do
  let limitation ← assertString (some value) "limitation"
  invalidIf (!codeUnitLt previous limitation.val) (said "limitations must be unique and sorted.")
  return limitation.val

def isBool : Field → Bool
  | some (.bool _) => true
  | _ => false

def validateRollback (value : Field) : Try Unit := do
  let es ← assertPlainObject value "restore_rollback"
  assertExactKeys es "restore_rollback" ["undo_supported", "undo_expires_at", "limitations"]
  invalidIf (!isBool (get es "undo_supported")) (said "undo_supported must be a boolean.")
  assertNullableTimestamp D (get es "undo_expires_at") "undo_expires_at"
  let limitations ← assertArray (get es "limitations") (said "limitations must be an array.")
  let _ ← limitations.foldlM validateLimitation []

def planBodyKeys : List String :=
  ["protocol_version", "format_version", "restore_id", "fleet_id", "cutoff", "previewed_at",
    "execute_before", "parameter_hash", "topology", "manifest", "participants", "impact", "rollback"]

def validateRestorePlanBody (value : JsonValue) : Try Unit := do
  let es ← assertPlainObject (some value) "restore_plan_body"
  assertExactKeys es "restore_plan_body" planBodyKeys
  assertVersion es restorePlanFormatVersion "restore_plan_body"
  let _ ← assertString (get es "restore_id") "restore_id"
  let _ ← assertString (get es "fleet_id") "fleet_id"
  let cutoff ← parseTimestamp D (get es "cutoff") "cutoff"
  let previewedAt ← parseTimestamp D (get es "previewed_at") "previewed_at"
  let executeBefore ← parseTimestamp D (get es "execute_before") "execute_before"
  invalidIf (decide (previewedAt < cutoff) || decide (executeBefore ≤ previewedAt))
    (said "Restore timestamps must satisfy cutoff <= previewed_at < execute_before.")
  let _ ← assertHash (get es "parameter_hash") "parameter_hash"
  validateTopology (get es "topology")
  let recordCount ← validateManifest D (get es "manifest") cutoff
  let participantCount ← validateParticipants (get es "participants")
  validateImpact D (get es "impact") participantCount recordCount cutoff
    (some (.str (D.iso executeBefore)))
  validateRollback D (get es "rollback")

end dates

/-! ## hashes -/

/-- what a preview is asked for -/
def previewParameters (fleetId cutoff : JsString) : JsonValue :=
  .obj (object [("protocol_version", jsonInteger restoreProtocolVersion),
    ("format_version", jsonInteger restoreRequestFormatVersion), ("fleet_id", .str fleetId),
    ("cutoff", .str cutoff)])

section hashes
variable (sha256 : ByteArray → Vector UInt8 32)

def hashJson (value : JsonValue) : JsString :=
  hashCanonicalJson (fun bytes => (sha256 bytes).toList) value

def hashRestorePreviewParameters (request : PreviewRequest) : JsString :=
  hashJson sha256 (previewParameters request.fleetId.val request.cutoff.val)

def hashRestorePlanBody (D : DateLib) (value : JsonValue) : Try JsString := do
  validateRestorePlanBody D value
  return hashJson sha256 value

/-- **a digest is a lowercase SHA-256 digest** -/
theorem hashJson_hex (value : JsonValue) : isSha256Hex (hashJson sha256 value) = true := by
  have hdigit : ∀ n, n < 16 → ((97 ≤ (hexUnit n).val && (hexUnit n).val ≤ 102)
      || (48 ≤ (hexUnit n).val && (hexUnit n).val ≤ 57)) = true := by decide
  have htext : ∀ bytes : List UInt8, (hexText bytes).length = 2 * bytes.length ∧
      (hexText bytes).all (fun c =>
        (97 ≤ c.val && c.val ≤ 102) || (48 ≤ c.val && c.val ≤ 57)) = true := by
    intro bytes
    induction bytes with
    | nil => exact ⟨rfl, rfl⟩
    | cons b bytes ih =>
      have hb := b.toNat_lt
      have hcons : hexText (b :: bytes) =
          hexUnit (b.toNat / 16) :: hexUnit (b.toNat % 16) :: hexText bytes := rfl
      rw [hcons]
      refine ⟨?_, ?_⟩
      · rw [List.length_cons, List.length_cons, ih.1, List.length_cons]
        omega
      · rw [List.all_cons, List.all_cons, ih.2, hdigit _ (by omega), hdigit _ (by omega)]
        rfl
  obtain ⟨hlength, hall⟩ := htext (sha256 (encode (canonicalJson value))).toList
  unfold hashJson hashCanonicalJson sha256Hex isSha256Hex
  rw [hall, hlength, Vector.length_toList]
  rfl

end hashes
end FleetRestore
