import CloudflareShard.Contracts.Wire
import CloudflareShard.Json.Encode

/-!
# The manifest contracts on untrusted JSON

* `header`                        the three checks that all manifest validators begin with;
* `validateManifestRouteFields`   the frozen route;
* `validateManifestReservation`, `validateManifestSealRequest` and the others   one for each message;
* `hashManifestReservation`       the route recomputed, and the content hash.
-/

namespace Wire
open Contracts Json

def manifestPartitionCount : Nat := 16
def maxManifestPageLimit : Nat := 500
def manifestReservationFormatVersion : Nat := 1
def manifestTerminalIntentFormatVersion : Nat := 1
def manifestRecordV2FormatVersion : Nat := 2
def manifestCatalogFormatVersion : Nat := 1
def manifestSealFormatVersion : Nat := 1
def manifestPageFormatVersion : Nat := 1
def manifestEnumerationV1FormatVersion : Nat := 1
def currentManifestEnumerationFormatVersion : Nat := 2
def manifestCursorFormatVersion : Nat := 1
def manifestEnumerationCursorFormatVersion : Nat := 2

/-- `if (condition) fail(...)` -/
def failIf (condition : Bool) (code : TransactionErrorCode) (message : String) : Checked Unit :=
  if condition then fail code message else .ok ()

def invalidIf (condition : Bool) (message : String) : Checked Unit :=
  failIf condition .manifestInvalidRequest message

/-- a plain object with exactly these keys, in this version -/
def header (value : Field) (field : String) (keys : List String) (expectedFormat : Nat) :
    Checked Entries := do
  let es ← assertPlainObject value field
  assertExactKeys es field keys
  assertManifestVersion es expectedFormat field
  return es

def routeKeys : List String :=
  ["reservation_utc_day", "partition", "partition_count", "routing_key", "partition_config_hash"]

/-- `` `${day}:${partition.toString().padStart(2, "0")}` `` -/
def routingKey (day : JsString) (partition : Int) : JsString :=
  let digits := utf16 (toString partition)
  day ++ 58 :: (List.replicate (2 - digits.length) 48 ++ digits)

def partitionCountMessage : String :=
  "partition_count must equal " ++ toString manifestPartitionCount ++ "."

section
variable (D : DateLib)

def validateManifestRouteFields (es : Entries) : Checked Unit := do
  let day ← assertUtcDay D (get es "reservation_utc_day") "reservation_utc_day"
  let partition ← assertSafeInteger (get es "partition") "partition"
  invalidIf (!isNumber (get es "partition_count") manifestPartitionCount) partitionCountMessage
  invalidIf (manifestPartitionCount ≤ partition)
    ("partition must be less than " ++ toString manifestPartitionCount ++ ".")
  let key ← assertManifestString (get es "routing_key") "routing_key"
  invalidIf (key != routingKey day partition)
    "routing_key does not match reservation_utc_day and partition."
  let _ ← assertManifestHash (get es "partition_config_hash") "partition_config_hash"
  return ()

/-- the header, the fleet and the route -/
def routeHeader (value : Field) (field : String) (keys : List String) (expectedFormat : Nat) :
    Checked Entries := do
  let es ← header value field keys expectedFormat
  let _ ← assertManifestString (get es "fleet_id") "fleet_id"
  validateManifestRouteFields D es
  return es

/-! ## reservations and terminal intents -/

def reservationKeys : List String :=
  ["protocol_version", "format_version", "fleet_id"] ++ routeKeys
    ++ ["tx_id", "coordinator_id", "operation_hash", "decision_epoch", "reserved_at"]

def validateManifestReservation (value : Field) : Checked Entries := do
  let es ← routeHeader D value "manifest_reservation" reservationKeys
    manifestReservationFormatVersion
  let _ ← assertManifestString (get es "tx_id") "tx_id"
  let _ ← assertManifestString (get es "coordinator_id") "coordinator_id"
  let _ ← assertManifestHash (get es "operation_hash") "operation_hash"
  let _ ← assertSafeInteger (get es "decision_epoch") "decision_epoch" 1
  let reservedAt ← parseManifestTimestamp D (get es "reserved_at") "reserved_at"
  invalidIf (!strictEq (some (.str ((D.iso reservedAt).take 10))) (get es "reservation_utc_day"))
    "reserved_at does not fall within reservation_utc_day."
  return es

def finalizeIntentKeys : List String :=
  ["protocol_version", "format_version", "tx_id", "reservation_hash", "redo_envelope_hash",
    "operation_hash", "decision_epoch", "idempotency_key"]

def validateManifestFinalizeIntent (value : Field) : Checked Entries := do
  let es ← header value "manifest_finalize_intent" finalizeIntentKeys
    manifestTerminalIntentFormatVersion
  let _ ← assertManifestString (get es "tx_id") "tx_id"
  let _ ← assertManifestHash (get es "reservation_hash") "reservation_hash"
  let _ ← assertManifestHash (get es "redo_envelope_hash") "redo_envelope_hash"
  let _ ← assertManifestHash (get es "operation_hash") "operation_hash"
  let _ ← assertSafeInteger (get es "decision_epoch") "decision_epoch" 1
  let _ ← assertManifestString (get es "idempotency_key") "idempotency_key"
  return es

def cancelIntentKeys : List String :=
  ["protocol_version", "format_version", "tx_id", "reservation_hash", "operation_hash",
    "decision_epoch", "idempotency_key"]

def validateManifestCancelIntent (value : Field) : Checked Entries := do
  let es ← header value "manifest_cancel_intent" cancelIntentKeys
    manifestTerminalIntentFormatVersion
  let _ ← assertManifestString (get es "tx_id") "tx_id"
  let _ ← assertManifestHash (get es "reservation_hash") "reservation_hash"
  let _ ← assertManifestHash (get es "operation_hash") "operation_hash"
  let _ ← assertSafeInteger (get es "decision_epoch") "decision_epoch" 1
  let _ ← assertManifestString (get es "idempotency_key") "idempotency_key"
  return es

def recordV2Keys : List String :=
  ["protocol_version", "format_version", "fleet_id"] ++ routeKeys
    ++ ["tx_id", "coordinator_id", "operation_hash", "decision_epoch", "reserved_at",
      "reservation_hash", "envelope_hash", "commit_decided_at", "commit_decided_at_ms",
      "decision_sequence", "retention_deadline"]

def validateManifestRecordV2 (value : Field) : Checked Entries := do
  let es ← routeHeader D value "manifest_record_v2" recordV2Keys manifestRecordV2FormatVersion
  let _ ← assertManifestString (get es "tx_id") "tx_id"
  let _ ← assertManifestString (get es "coordinator_id") "coordinator_id"
  let _ ← assertManifestHash (get es "operation_hash") "operation_hash"
  let _ ← assertSafeInteger (get es "decision_epoch") "decision_epoch" 1
  let _ ← parseManifestTimestamp D (get es "reserved_at") "reserved_at"
  let _ ← assertManifestHash (get es "reservation_hash") "reservation_hash"
  let _ ← assertManifestHash (get es "envelope_hash") "envelope_hash"
  let decidedAt ← parseManifestTimestamp D (get es "commit_decided_at") "commit_decided_at"
  let decidedAtMs ← assertSafeInteger (get es "commit_decided_at_ms") "commit_decided_at_ms"
  invalidIf (decidedAt != decidedAtMs) "commit_decided_at_ms does not match commit_decided_at."
  let _ ← assertSafeInteger (get es "decision_sequence") "decision_sequence" 1
  let deadline ← parseManifestTimestamp D (get es "retention_deadline") "retention_deadline"
  invalidIf (deadline - decidedAt < coordinatorRetentionDays * dayMs)
    ("retention_deadline must be at least " ++ toString coordinatorRetentionDays
      ++ " days after commit_decided_at.")
  return es

/-! ## the catalog -/

def partitionConfigKeys : List String :=
  ["protocol_version", "format_version", "effective_from_day", "partition_count",
    "prior_config_hash", "config_hash"]

def validatePartitionConfig (value : Field) : Checked Entries := do
  let es ← header value "partition_config" partitionConfigKeys manifestCatalogFormatVersion
  let _ ← assertUtcDay D (get es "effective_from_day") "effective_from_day"
  invalidIf (!isNumber (get es "partition_count") manifestPartitionCount) partitionCountMessage
  assertNullableManifestHash (get es "prior_config_hash") "prior_config_hash"
  let _ ← assertManifestHash (get es "config_hash") "config_hash"
  return es

def catalogActivateKeys : List String :=
  ["protocol_version", "format_version", "fleet_id"] ++ routeKeys ++ ["activation_key"]

def validateManifestCatalogActivateRequest (value : Field) : Checked Entries := do
  let es ← routeHeader D value "catalog_activate_request" catalogActivateKeys
    manifestCatalogFormatVersion
  let _ ← assertManifestString (get es "activation_key") "activation_key"
  return es

def catalogSnapshotKeys : List String :=
  ["protocol_version", "format_version", "fleet_id", "cutoff", "partition_config_hash",
    "idempotency_key"]

def validateManifestCatalogSnapshotRequest (value : Field) : Checked Entries := do
  let es ← header value "catalog_snapshot_request" catalogSnapshotKeys manifestCatalogFormatVersion
  let _ ← assertManifestString (get es "fleet_id") "fleet_id"
  let _ ← parseManifestTimestamp D (get es "cutoff") "cutoff"
  let _ ← assertManifestHash (get es "partition_config_hash") "partition_config_hash"
  let _ ← assertManifestString (get es "idempotency_key") "idempotency_key"
  return es

def catalogRetireKeys : List String :=
  ["protocol_version", "format_version", "fleet_id"] ++ routeKeys
    ++ ["safety_certificate_hash", "idempotency_key"]

def validateManifestCatalogRetireRequest (value : Field) : Checked Entries := do
  let es ← routeHeader D value "catalog_retire_request" catalogRetireKeys
    manifestCatalogFormatVersion
  let _ ← assertManifestHash (get es "safety_certificate_hash") "safety_certificate_hash"
  let _ ← assertManifestString (get es "idempotency_key") "idempotency_key"
  return es

/-! ## seals -/

def sealRequestKeys : List String :=
  ["protocol_version", "format_version", "fleet_id"] ++ routeKeys ++ ["cutoff", "idempotency_key"]

def validateManifestSealRequest (value : Field) : Checked Entries := do
  let es ← routeHeader D value "manifest_seal_request" sealRequestKeys manifestSealFormatVersion
  let _ ← parseManifestTimestamp D (get es "cutoff") "cutoff"
  let _ ← assertManifestString (get es "idempotency_key") "idempotency_key"
  return es

def sealReceiptKeys : List String :=
  ["protocol_version", "format_version", "fleet_id"] ++ routeKeys
    ++ ["cutoff", "generation", "decision_floor_ms", "sealed_through_ms", "record_count",
      "maximum_decision_sequence", "records_deleted_through_ms", "retention_epoch", "records_root",
      "conflict_resolution_root", "local_legacy_certificate_hash", "prior_receipt_hash",
      "receipt_hash"]

/-- `if (value !== null) assertSafeInteger(value, field, minimum)` -/
def assertNullableSafeInteger (value : Field) (field : String) (minimum : Nat := 0) :
    Checked Unit :=
  if isNull value then .ok ()
  else do
    let _ ← assertSafeInteger value field minimum
    return ()

def validateManifestSealReceipt (value : Field) : Checked Entries := do
  let es ← routeHeader D value "manifest_seal_receipt" sealReceiptKeys manifestSealFormatVersion
  let cutoff ← parseManifestTimestamp D (get es "cutoff") "cutoff"
  let _ ← assertSafeInteger (get es "generation") "generation" 1
  let decisionFloor ← assertSafeInteger (get es "decision_floor_ms") "decision_floor_ms"
  let sealedThrough ← assertSafeInteger (get es "sealed_through_ms") "sealed_through_ms"
  invalidIf (sealedThrough != cutoff || decide (decisionFloor < sealedThrough))
    "seal watermarks do not prove the exact cutoff."
  let _ ← assertSafeInteger (get es "record_count") "record_count"
  assertNullableSafeInteger (get es "maximum_decision_sequence") "maximum_decision_sequence" 1
  assertNullableSafeInteger (get es "records_deleted_through_ms") "records_deleted_through_ms"
  let _ ← assertSafeInteger (get es "retention_epoch") "retention_epoch"
  let _ ← assertManifestHash (get es "records_root") "records_root"
  let _ ← assertManifestHash (get es "conflict_resolution_root") "conflict_resolution_root"
  let _ ← assertManifestHash (get es "local_legacy_certificate_hash") "local_legacy_certificate_hash"
  assertNullableManifestHash (get es "prior_receipt_hash") "prior_receipt_hash"
  let _ ← assertManifestHash (get es "receipt_hash") "receipt_hash"
  return es

/-! ## pages and enumerations -/

def localPageCursorKeys : List String :=
  ["protocol_version", "format_version", "request_hash", "retention_epoch", "seal_generation",
    "seal_receipt_hash", "last_commit_decided_at_ms", "last_decision_sequence", "last_tx_id"]

def validateManifestLocalPageCursor (value : Field) : Checked Entries := do
  let es ← header value "manifest_local_page_cursor" localPageCursorKeys manifestCursorFormatVersion
  let _ ← assertManifestHash (get es "request_hash") "request_hash"
  let _ ← assertSafeInteger (get es "retention_epoch") "retention_epoch"
  let _ ← assertSafeInteger (get es "seal_generation") "seal_generation" 1
  let _ ← assertManifestHash (get es "seal_receipt_hash") "seal_receipt_hash"
  let _ ← assertSafeInteger (get es "last_commit_decided_at_ms") "last_commit_decided_at_ms"
  let _ ← assertSafeInteger (get es "last_decision_sequence") "last_decision_sequence" 1
  let _ ← assertManifestString (get es "last_tx_id") "last_tx_id"
  return es

def assertManifestPageLimit (value : Field) : Checked Unit := do
  let limit ← assertSafeInteger value "limit" 1
  invalidIf (maxManifestPageLimit < limit)
    ("limit must be between 1 and " ++ toString maxManifestPageLimit ++ ".")

/-- `coverage_start` and `cutoff` of a page or an enumeration -/
def validateCoverage (es : Entries) : Checked Unit := do
  let coverageStart ← parseManifestTimestamp D (get es "coverage_start") "coverage_start"
  let cutoff ← parseManifestTimestamp D (get es "cutoff") "cutoff"
  invalidIf (cutoff < coverageStart) "coverage_start must not exceed cutoff."

def localPageRequestKeys : List String :=
  ["protocol_version", "format_version", "fleet_id"] ++ routeKeys
    ++ ["coverage_start", "cutoff", "expected_retention_epoch", "seal_generation",
      "seal_receipt_hash", "limit", "cursor"]

/-- a page request up to its cursor -/
def localPageFields (value : Field) : Checked Entries := do
  let es ← routeHeader D value "manifest_local_page_request" localPageRequestKeys
    manifestPageFormatVersion
  validateCoverage D es
  let _ ← assertSafeInteger (get es "expected_retention_epoch") "expected_retention_epoch"
  let _ ← assertSafeInteger (get es "seal_generation") "seal_generation" 1
  let _ ← assertManifestHash (get es "seal_receipt_hash") "seal_receipt_hash"
  assertManifestPageLimit (get es "limit")
  return es

/-- `if (value !== null) validateManifestLocalPageCursor(value)` -/
def validateNullableLocalCursor (value : Field) : Checked Unit :=
  if isNull value then .ok ()
  else do
    let _ ← validateManifestLocalPageCursor value
    return ()

def validateManifestLocalPageRequest (value : Field) : Checked Entries := do
  let es ← localPageFields D value
  validateNullableLocalCursor (get es "cursor")
  return es

/-- the object, its protocol version, and the keys of its format: `rootBound` for the current format,
`plain` for the first -/
def enumerationHeader (value : Field) (field : String) (current first : Nat)
    (rootBound plain : List String) : Checked Entries := do
  let es ← assertPlainObject value field
  failIf (!isNumber (get es "protocol_version") currentProtocolVersion) .manifestVersionUnsupported
    (field ++ " uses an unsupported protocol version.")
  if isNumber (get es "format_version") current then do
    assertExactKeys es field rootBound
    let _ ← assertManifestHash (get es "catalog_close_key") "catalog_close_key"
    let _ ← assertManifestHash (get es "fleet_root_hash") "fleet_root_hash"
    return es
  else if isNumber (get es "format_version") first then do
    assertExactKeys es field plain
    return es
  else do
    let format ← stringOf (get es "format_version")
    fail .manifestVersionUnsupported (field ++ " uses an unsupported format version.")
      [("format_version", textOf format)]

def enumerationCursorRootKeys : List String :=
  ["protocol_version", "format_version", "request_hash", "catalog_close_key", "fleet_root_hash",
    "catalog_generation", "catalog_snapshot_hash", "reservation_utc_day", "partition", "local_cursor"]

def enumerationCursorKeys : List String :=
  ["protocol_version", "format_version", "request_hash", "catalog_generation",
    "catalog_snapshot_hash", "reservation_utc_day", "partition", "local_cursor"]

/-- an enumeration cursor up to its day -/
def enumerationCursorHead (value : Field) : Checked Entries := do
  let es ← enumerationHeader value "manifest_enumeration_cursor"
    manifestEnumerationCursorFormatVersion manifestCursorFormatVersion enumerationCursorRootKeys
    enumerationCursorKeys
  let _ ← assertManifestHash (get es "request_hash") "request_hash"
  let _ ← assertSafeInteger (get es "catalog_generation") "catalog_generation" 1
  let _ ← assertManifestHash (get es "catalog_snapshot_hash") "catalog_snapshot_hash"
  return es

/-- an enumeration cursor up to its local cursor -/
def enumerationCursorFields (value : Field) : Checked Entries := do
  let es ← enumerationCursorHead value
  let _ ← assertUtcDay D (get es "reservation_utc_day") "reservation_utc_day"
  let partition ← assertSafeInteger (get es "partition") "partition"
  invalidIf (manifestPartitionCount ≤ partition)
    ("partition must be less than " ++ toString manifestPartitionCount ++ ".")
  return es

def validateManifestEnumerationCursor (value : Field) : Checked Entries := do
  let es ← enumerationCursorFields D value
  validateNullableLocalCursor (get es "local_cursor")
  return es

def enumerationRequestRootKeys : List String :=
  ["protocol_version", "format_version", "fleet_id", "coverage_start", "cutoff",
    "partition_config_hash", "catalog_close_key", "fleet_root_hash", "catalog_generation",
    "catalog_snapshot_hash", "limit", "cursor"]

def enumerationRequestKeys : List String :=
  ["protocol_version", "format_version", "fleet_id", "coverage_start", "cutoff",
    "partition_config_hash", "catalog_generation", "catalog_snapshot_hash", "limit", "cursor"]

/-- an enumeration request up to its cursor -/
def enumerationRequestFields (value : Field) : Checked Entries := do
  let es ← enumerationHeader value "manifest_enumeration_request"
    currentManifestEnumerationFormatVersion manifestEnumerationV1FormatVersion
    enumerationRequestRootKeys enumerationRequestKeys
  let _ ← assertManifestString (get es "fleet_id") "fleet_id"
  validateCoverage D es
  let _ ← assertManifestHash (get es "partition_config_hash") "partition_config_hash"
  let _ ← assertSafeInteger (get es "catalog_generation") "catalog_generation" 1
  let _ ← assertManifestHash (get es "catalog_snapshot_hash") "catalog_snapshot_hash"
  assertManifestPageLimit (get es "limit")
  return es

/-- a cursor belongs to the format of its request, and to its close -/
def assertCursorOf (es cursor : Entries) (formats close : String) : Checked Unit := do
  let current := isNumber (get es "format_version") currentManifestEnumerationFormatVersion
  let bound := isNumber (get cursor "format_version") manifestEnumerationCursorFormatVersion
  failIf ((current && !bound)
      || (isNumber (get es "format_version") manifestEnumerationV1FormatVersion
        && !isNumber (get cursor "format_version") manifestCursorFormatVersion))
    .manifestCursorMismatch formats
  failIf (current && bound
      && (!strictEq (get cursor "catalog_close_key") (get es "catalog_close_key")
        || !strictEq (get cursor "fleet_root_hash") (get es "fleet_root_hash")))
    .manifestCursorMismatch close

/-- the cursor of an enumeration request, unless it is `null` -/
def validateRequestCursor (es : Entries) : Checked Unit :=
  if isNull (get es "cursor") then .ok ()
  else do
    let cursor ← validateManifestEnumerationCursor D (get es "cursor")
    assertCursorOf es cursor "Enumeration request and cursor format versions do not match."
      "Enumeration cursor does not match the root-bound close identity."

def validateManifestEnumerationRequest (value : Field) : Checked Entries := do
  let es ← enumerationRequestFields D value
  validateRequestCursor D es
  return es

def validateWritableManifestEnumerationRequest (value : Field) : Checked Entries := do
  let es ← validateManifestEnumerationRequest D value
  if isNumber (get es "format_version") currentManifestEnumerationFormatVersion then return es
  else do
    let format ← stringOf (get es "format_version")
    fail .manifestVersionUnsupported
      ("Manifest enumeration format " ++ textOf format ++ " is read-only; new requests require "
        ++ toString currentManifestEnumerationFormatVersion ++ ".")

/-! ## content hashes -/

section
variable (sha256 : ByteArray → List UInt8)

def sha256Hex (value : JsString) : JsString := hexText (sha256 (encode value))

def hashCanonicalJson (value : JsonValue) : JsString := sha256Hex sha256 (canonicalJson value)

/-- `digest[digest.length - 1] % MANIFEST_PARTITION_COUNT` -/
def partitionOf (txId : JsString) : Int :=
  ((((sha256 (encode txId)).getLast?.getD 0).toNat % manifestPartitionCount : Nat) : Int)

/-- `manifestReservationRoute`, with the config hash as it is in the reservation -/
def manifestReservationRoute (es : Entries) : Checked (JsString × Int × JsString) := do
  let txId ← assertManifestString (get es "tx_id") "tx_id"
  let timestamp ← parseManifestTimestamp D (get es "reserved_at") "reserved_at"
  let _ ← assertManifestHash (get es "partition_config_hash") "partition_config_hash"
  let partition := partitionOf sha256 txId
  let day := (D.iso timestamp).take 10
  return (day, partition, routingKey day partition)

def hashManifestReservation (value : Field) : Checked JsString := do
  let es ← validateManifestReservation D value
  let (day, partition, key) ← manifestReservationRoute D sha256 es
  invalidIf (!strictEq (get es "reservation_utc_day") (some (.str day))
      || safeValue (get es "partition") != some partition
      || !isNumber (get es "partition_count") manifestPartitionCount
      || !strictEq (get es "routing_key") (some (.str key)))
    "Manifest reservation does not match its deterministic frozen route."
  return hashCanonicalJson sha256 (.obj es)

def hashManifestFinalizeIntent (value : Field) : Checked JsString := do
  let es ← validateManifestFinalizeIntent value
  return hashCanonicalJson sha256 (.obj es)

/-- the reservation that a record was made of -/
def reservationOf (es : Entries) : JsonValue :=
  .obj (reservationKeys.filterMap fun key =>
    if key = "format_version" then
      some (utf16 key, .num (.safe ⟨manifestReservationFormatVersion, by decide⟩))
    else (get es key).map fun v => (utf16 key, v))

def hashManifestRecordV2 (value : Field) : Checked JsString := do
  let es ← validateManifestRecordV2 D value
  let reservationHash ← hashManifestReservation D sha256 (some (reservationOf es))
  failIf (!strictEq (get es "reservation_hash") (some (.str reservationHash)))
    .manifestReservationConflict
    "Manifest record reservation_hash does not match its frozen reservation fields."
  return hashCanonicalJson sha256 (.obj es)

end
end
end Wire
