import CloudflareShard.Contracts.WireManifest

/-!
# Pages of the manifest on untrusted JSON

* `hashManifestRequest`                  the hash that a page is bound to, whatever its cursor;
* `validateManifestCoverageEvidence`     what a page says of the buckets it was read from;
* `validateManifestEnumerationResult`    a page.
-/

namespace Wire
open Contracts Json

def coverageEvidenceKeys : List String :=
  ["protocol_version", "format_version"] ++ routeKeys
    ++ ["cutoff", "seal_generation", "seal_receipt_hash", "retention_epoch",
      "records_deleted_through_ms", "local_legacy_certificate_hash"]

def enumerationResultRootKeys : List String :=
  ["protocol_version", "format_version", "request_hash", "catalog_close_key", "fleet_root_hash",
    "coverage", "complete", "records", "evidence", "next_cursor", "diagnostics"]

def enumerationResultKeys : List String :=
  ["protocol_version", "format_version", "request_hash", "coverage", "complete", "records",
    "evidence", "next_cursor", "diagnostics"]

def manifestCoverageStatuses : List String :=
  ["complete", "incomplete", "quarantined", "unproven_legacy_window", "retention_expired"]

/-- `{ ...es, cursor: null }` -/
def withoutCursor (es : Entries) : JsonValue :=
  .obj (es.map fun e => if e.1 == utf16 "cursor" then (e.1, .null) else e)

section
variable (D : DateLib) (sha256 : ByteArray → List UInt8)

/-- of an enumeration; pages of one bucket are known by their retention epoch -/
def hashManifestRequest (value : Field) : Checked JsString := do
  let es ← validateManifestEnumerationRequest D value
  return hashCanonicalJson sha256 (withoutCursor es)

def validateManifestCoverageEvidence (value : JsonValue) : Checked Unit := do
  let es ← header (some value) "manifest_coverage_evidence" coverageEvidenceKeys
    manifestEnumerationV1FormatVersion
  validateManifestRouteFields D es
  let _ ← parseManifestTimestamp D (get es "cutoff") "cutoff"
  let _ ← assertSafeInteger (get es "seal_generation") "seal_generation" 1
  let _ ← assertManifestHash (get es "seal_receipt_hash") "seal_receipt_hash"
  let _ ← assertSafeInteger (get es "retention_epoch") "retention_epoch"
  assertNullableSafeInteger (get es "records_deleted_through_ms") "records_deleted_through_ms"
  let _ ← assertManifestHash (get es "local_legacy_certificate_hash") "local_legacy_certificate_hash"

/-- `values.forEach(check)` -/
def forEach (values : List JsonValue) (check : JsonValue → Checked Unit) : Checked Unit :=
  values.foldlM (fun _ value => check value) ()

def manifestArray (value : Field) (message : String) : Checked (List JsonValue) :=
  match value with
  | some (.arr values) => .ok values
  | _ => fail .manifestInvalidRequest message

/-- the cursor of a page, unless it is `null` -/
def validateNextCursor (es : Entries) : Checked Unit :=
  if isNull (get es "next_cursor") then .ok ()
  else do
    let cursor ← validateManifestEnumerationCursor D (get es "next_cursor")
    assertCursorOf es cursor "Enumeration result and cursor format versions do not match."
      "Enumeration result cursor does not match its root-bound close identity."

def validateDiagnostics (value : Field) (returned : Nat) : Checked Unit := do
  let es ← assertPlainObject value "manifest_enumeration_diagnostics"
  assertExactKeys es "manifest_enumeration_diagnostics"
    ["inspected_buckets", "incomplete_buckets", "returned_records"]
  let _ ← assertSafeInteger (get es "inspected_buckets") "inspected_buckets"
  let _ ← assertSafeInteger (get es "incomplete_buckets") "incomplete_buckets"
  let records ← assertSafeInteger (get es "returned_records") "returned_records"
  invalidIf (records != returned) "diagnostics.returned_records must match records.length."

def isComplete (es : Entries) : Bool :=
  match get es "complete" with
  | some (.bool b) => b
  | _ => false

/-- hands on the records and the evidence -/
def validateManifestEnumerationResult (value : Field) :
    Checked (Entries × List JsonValue × List JsonValue) := do
  let es ← enumerationHeader value "manifest_enumeration_result"
    currentManifestEnumerationFormatVersion manifestEnumerationV1FormatVersion
    enumerationResultRootKeys enumerationResultKeys
  let _ ← assertManifestHash (get es "request_hash") "request_hash"
  invalidIf (!isOneOf (get es "coverage") manifestCoverageStatuses)
    "coverage must be a supported manifest coverage status."
  invalidIf (!strictEq (get es "complete") (some (.bool (isText (get es "coverage") "complete"))))
    "complete must be true exactly when coverage is complete."
  let records ← manifestArray (get es "records") "records must be an array."
  forEach records fun record => (fun _ => ()) <$> validateManifestRecordV2 D (some record)
  let evidence ← manifestArray (get es "evidence") "evidence must be an array."
  forEach evidence (validateManifestCoverageEvidence D)
  validateNextCursor D es
  invalidIf (isComplete es && !isNull (get es "next_cursor"))
    "A complete enumeration cannot include a continuation cursor."
  validateDiagnostics (get es "diagnostics") records.length
  return (es, records, evidence)

end
end Wire
