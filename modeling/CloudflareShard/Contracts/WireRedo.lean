import CloudflareShard.Contracts.WireManifest

/-!
# Redo envelopes, participant messages and registrations as untrusted JSON

* `validateRedoEnvelopeStructure`, `validateRedoEnvelope`   the envelope of a transaction;
* `hashParticipantOperations`, `hashRedoEnvelope`           its content hashes;
* `validateParticipantPhaseMessage`, `validateParticipantTombstone`   what participants exchange;
* `validateManifestRegistration`                            the registration of a record.
-/

namespace Wire
open Contracts Json

def redoEnvelopeV1FormatVersion : Nat := 1
def redoEnvelopeV2FormatVersion : Nat := 2
def currentRedoEnvelopeFormatVersion : Nat := redoEnvelopeV2FormatVersion
def maxRedoEnvelopeBytes : Nat := 256 * 1024
def maxRedoParticipants : Nat := 256
def participantTombstoneFormatVersion : Nat := 1
def manifestRecordFormatVersion : Nat := 1

section
variable (D : DateLib)

/-! ## the envelope -/

/-- an envelope up to its participants -/
def redoEnvelopeHead (value : Field) : Checked (Entries × Int × List JsonValue) := do
  let es ← assertPlainObject value "redo_envelope"
  assertReadableProtocolVersion (get es "protocol_version")
  if !isNumber (get es "format_version") redoEnvelopeV1FormatVersion
      && !isNumber (get es "format_version") redoEnvelopeV2FormatVersion then
    unsupportedFormat (get es "format_version") "Redo envelope format " " is unsupported."
  let _ ← assertNonEmptyString (get es "tx_id") "tx_id"
  let _ ← assertNonEmptyString (get es "fleet_id") "fleet_id"
  let _ ← assertNonEmptyString (get es "coordinator_id") "coordinator_id"
  failIf (!isText (get es "decision") "commit") .txEnvelopeInvalid
    "A redo envelope must contain the immutable commit decision."
  let decisionEpoch ← assertEpoch (get es "decision_epoch") "decision_epoch"
  let _ ← assertSha256Hex (get es "operation_hash") "operation_hash"
  assertRetentionWindow D (get es "commit_decided_at") (get es "retention_deadline")
    coordinatorRetentionDays
  let participants ← assertArray (get es "participants") "participants must be an array."
  if participants.length < 1 ∨ maxRedoParticipants < participants.length then
    fail .txEnvelopeInvalid
      ("Redo envelope must contain 1-" ++ toString maxRedoParticipants ++ " physical participants.")
      [("participant_count", toString participants.length),
        ("maximum_participants", toString maxRedoParticipants)]
  else return (es, decisionEpoch, participants)

/-- `canonicalJson(intent.params)` throws for no JSON value -/
def validateIntent (index : Nat) (intent : JsonValue) : Checked Unit := do
  let es ← assertPlainObject (some intent) "intent"
  failIf (!isNumber (get es "intent_seq") index) .txEnvelopeInvalid
    "Redo intents must use contiguous zero-based intent_seq values."
  let _ ← assertNonEmptyString (get es "sql") "sql"
  let _ ← assertNonEmptyString (get es "tenant_id") "tenant_id"
  let _ ← assertNonEmptyString (get es "table_name") "table_name"
  let _ ← assertNonEmptyString (get es "partition_key") "partition_key"
  let _ ← assertArray (get es "params") "params must be an array of JSON values."
  assertVbucket (get es "vbucket")
  assertStructuredMutationKind (get es "operation")
  assertNullableNonEmptyString (get es "mirror_target_participant_id")
    "mirror_target_participant_id"

def validateIntents : Nat → List JsonValue → Checked Unit
  | _, [] => .ok ()
  | index, intent :: rest => do
    validateIntent index intent
    validateIntents (index + 1) rest

def assertBookmark (isV2 : Bool) (es : Entries) : Checked Unit :=
  if isV2 then do
    let _ ← assertNonEmptyString (get es "prepare_bookmark") "prepare_bookmark"
    return ()
  else failIf (has es "prepare_bookmark") .txEnvelopeInvalid
    "RedoEnvelopeV1 cannot contain a prepare_bookmark."

/-- a participant behind the one with the id `prior` -/
def validateParticipant (isV2 : Bool) (decisionEpoch : Int) (prior : JsString)
    (participant : JsonValue) : Checked (JsString × Entries) := do
  let es ← assertPlainObject (some participant) "participant"
  let id ← assertNonEmptyString (get es "participant_id") "participant_id"
  failIf (!codeUnitLt prior id) .txEnvelopeInvalid
    "Participants must be unique and sorted by participant_id."
  assertBookmark isV2 es
  let epoch ← assertEpoch (get es "epoch") "participant_epoch"
  failIf (epoch != decisionEpoch) .txEpochConflict
    "Every participant epoch must equal the envelope decision_epoch."
  let intents ← assertArray (get es "intents")
    "Every participant must contain a non-empty intents array."
  failIf intents.isEmpty .txEnvelopeInvalid
    "Every participant must contain a non-empty intents array."
  validateIntents 0 intents
  return (id, es)

def validateParticipants (isV2 : Bool) (decisionEpoch : Int) :
    JsString → List JsonValue → Checked (List Entries)
  | _, [] => .ok []
  | prior, participant :: rest => do
    let (id, es) ← validateParticipant isV2 decisionEpoch prior participant
    let validated ← validateParticipants isV2 decisionEpoch id rest
    return es :: validated

def assertEnvelopeBytes (es : Entries) : Checked Unit :=
  let bytes := canonicalByteLength (.obj es)
  if maxRedoEnvelopeBytes < bytes then
    fail .txEnvelopeTooLarge
      ("Serialized redo envelope is " ++ toString bytes ++ " bytes; the qualification ceiling is "
        ++ toString maxRedoEnvelopeBytes ++ " bytes.")
      [("actual_bytes", toString bytes), ("maximum_bytes", toString maxRedoEnvelopeBytes)]
  else .ok ()

/-- the envelope with its participants, as they are narrowed -/
def validateRedoEnvelopeStructure (value : Field) : Checked (Entries × List Entries) := do
  let (es, decisionEpoch, participants) ← redoEnvelopeHead D value
  let validated ← validateParticipants
    (isNumber (get es "format_version") redoEnvelopeV2FormatVersion) decisionEpoch [] participants
  assertEnvelopeBytes es
  return (es, validated)

/-- the only other format that got this far is 1 -/
def validateWritableRedoEnvelopeStructure (value : Field) : Checked (Entries × List Entries) := do
  let envelope ← validateRedoEnvelopeStructure D value
  failIf (!isNumber (get envelope.1 "format_version") currentRedoEnvelopeFormatVersion)
    .txVersionUnsupported
    ("Redo envelope format 1 is read-only; new writes require "
      ++ toString currentRedoEnvelopeFormatVersion ++ ".")
  return envelope

section
variable (sha256 : ByteArray → List UInt8)

/-- a property that `canonicalJson` is to encode -/
def defined (value : Field) : Checked JsonValue :=
  match value with
  | some v => .ok v
  | none => fail .txEnvelopeInvalid "Canonical JSON cannot encode undefined."

/-- `({ participant_id, epoch, intents })` -/
def operationOf (participant : Entries) : Checked JsonValue := do
  let participantId ← defined (get participant "participant_id")
  let epoch ← defined (get participant "epoch")
  let intents ← defined (get participant "intents")
  return .obj [(utf16 "participant_id", participantId), (utf16 "epoch", epoch),
    (utf16 "intents", intents)]

def operationsOf : List Entries → Checked (List JsonValue)
  | [] => .ok []
  | participant :: rest => do
    let operation ← operationOf participant
    let operations ← operationsOf rest
    return operation :: operations

def hashParticipantOperations (participants : List Entries) : Checked JsString := do
  let operations ← operationsOf participants
  return hashCanonicalJson sha256 (.arr operations)

/-- `const { commit_decided_at, retention_deadline, ...intent } = envelope` -/
def envelopeIntent (es : Entries) : Entries :=
  es.filter fun e => e.1 != utf16 "commit_decided_at" && e.1 != utf16 "retention_deadline"

def hashFinalizedRedoEnvelope (es : Entries) : JsString :=
  hashCanonicalJson sha256 (.obj (envelopeIntent es))

def hashRedoEnvelope (es : Entries) : JsString :=
  if isNumber (get es "format_version") redoEnvelopeV2FormatVersion then
    hashFinalizedRedoEnvelope sha256 es
  else hashCanonicalJson sha256 (.obj es)

def validateRedoEnvelope (value : Field) : Checked Entries := do
  let (es, participants) ← validateRedoEnvelopeStructure D value
  let expected ← hashParticipantOperations sha256 participants
  failIf (!strictEq (get es "operation_hash") (some (.str expected))) .txEnvelopeHashMismatch
    "operation_hash does not match the canonical participant operations."
  return es

end

/-! ## participants -/

def validateParticipantPhaseMessage (message : Field) : Checked Entries := do
  let es ← assertPlainObject message "participant_phase_message"
  assertWritableProtocolVersion (get es "protocol_version")
  let _ ← assertNonEmptyString (get es "tx_id") "tx_id"
  let _ ← assertEpoch (get es "epoch")
  assertParticipantPhase (get es "phase")
  let _ ← assertSha256Hex (get es "operation_hash") "operation_hash"
  return es

def validateParticipantTombstone (tombstone : Field) : Checked Entries := do
  let es ← assertPlainObject tombstone "participant_tombstone"
  assertReadableProtocolVersion (get es "protocol_version")
  if !isNumber (get es "format_version") participantTombstoneFormatVersion then
    unsupportedFormat (get es "format_version") "Participant tombstone format " " is unsupported."
  let _ ← assertNonEmptyString (get es "tx_id") "tx_id"
  let _ ← assertEpoch (get es "highest_epoch") "highest_epoch"
  assertParticipantDecision (get es "decision")
  let _ ← assertSha256Hex (get es "operation_hash") "operation_hash"
  assertRetentionWindow D (get es "decided_at") (get es "retention_deadline")
    participantTombstoneRetentionDays
  return es

/-- the decision of the tombstone contradicts the phase of the message -/
def contradicts (message tombstone : Entries) : Bool :=
  (isText (get tombstone "decision") "commit" && isOneOf (get message "phase") ["prepare", "abort"])
    || (isText (get tombstone "decision") "abort"
      && isOneOf (get message "phase") ["prepare", "commit"])

/-- the text of a field that is known to be a string -/
def fieldText : Field → String
  | some (.str s) => textOf s
  | _ => ""

/-- a message against a tombstone, both of them valid -/
def compareWithTombstone (message tombstone : Entries) : Checked Unit := do
  failIf (!strictEq (get message "tx_id") (get tombstone "tx_id")) .txIdRequestMismatch
    "Participant message and tombstone tx_id differ."
  let epoch ← assertEpoch (get message "epoch")
  let highest ← assertEpoch (get tombstone "highest_epoch") "highest_epoch"
  let details := [("message_epoch", toString epoch), ("highest_epoch", toString highest)]
  if epoch < highest then
    fail .txEpochStale "Participant message epoch is older than the durable decision tombstone."
      details
  else if highest < epoch then
    fail .txEpochConflict "A later epoch cannot replace an existing durable decision tombstone."
      details
  else do
    failIf (!strictEq (get message "operation_hash") (get tombstone "operation_hash"))
      .txEnvelopeHashMismatch
      "Participant message operation_hash conflicts with the durable tombstone."
    failIf (contradicts message tombstone) .txDecisionConflict
      ("Participant phase " ++ fieldText (get message "phase") ++ " contradicts durable "
        ++ fieldText (get tombstone "decision") ++ ".")

def validateParticipantMessageAgainstTombstone (message tombstone : Field) : Checked Unit := do
  let es ← validateParticipantPhaseMessage message
  let ts ← validateParticipantTombstone D tombstone
  compareWithTombstone es ts

/-! ## registrations -/

section
variable (sha256 : ByteArray → List UInt8)

/-- the route of `manifestRoute`: day, partition and key -/
def manifestRoute (record : Entries) : Checked (JsString × Int × JsString) := do
  let txId ← assertNonEmptyString (get record "tx_id") "tx_id"
  let timestamp ← parseCanonicalUtcTimestamp D (get record "commit_decided_at") "commit_decided_at"
  let day := (D.iso timestamp).take 10
  let partition := partitionOf sha256 txId
  return (day, partition, routingKey day partition)

/-- the two versions of a record -/
def recordVersions (registration : Field) : Checked (Entries × Entries) := do
  let es ← assertPlainObject registration "manifest_registration"
  let record ← assertPlainObject (get es "record") "manifest_record"
  assertWritableProtocolVersion (get record "protocol_version")
  if !isNumber (get record "format_version") manifestRecordFormatVersion then
    unsupportedFormat (get record "format_version") "Manifest record format " " is unsupported."
  return (es, record)

/-- a registration without its envelope; its record -/
def registeredRecord (registration : Field) : Checked Entries := do
  let (es, record) ← recordVersions registration
  let _ ← assertNonEmptyString (get record "fleet_id") "fleet_id"
  let _ ← assertNonEmptyString (get record "utc_day") "utc_day"
  failIf (safeValue (get record "partition")).isNone .txEnvelopeInvalid
    "partition must be a safe integer."
  failIf (!isNumber (get record "partition_count") manifestPartitionCount) .txManifestConflict
    partitionCountMessage
  let _ ← assertNonEmptyString (get record "routing_key") "routing_key"
  let _ ← assertNonEmptyString (get record "tx_id") "tx_id"
  let _ ← assertNonEmptyString (get record "coordinator_id") "coordinator_id"
  let _ ← assertNonEmptyString (get record "commit_decided_at") "commit_decided_at"
  let _ ← assertNonEmptyString (get record "retention_deadline") "retention_deadline"
  let _ ← assertSha256Hex (get record "envelope_hash") "envelope_hash"
  let _ ← assertSha256Hex (get es "record_hash") "record_hash"
  let _ ← assertEpoch (get record "decision_epoch") "decision_epoch"
  assertRetentionWindow D (get record "commit_decided_at") (get record "retention_deadline")
    coordinatorRetentionDays
  let (day, partition, key) ← manifestRoute D sha256 record
  failIf (!strictEq (get record "utc_day") (some (.str day))
      || safeValue (get record "partition") != some partition
      || !isNumber (get record "partition_count") manifestPartitionCount
      || !strictEq (get record "routing_key") (some (.str key))) .txManifestConflict
    "Manifest record does not match deterministic UTC-day/partition routing."
  failIf (!strictEq (get es "record_hash") (some (.str (hashCanonicalJson sha256 (.obj record)))))
    .txManifestConflict "Manifest record_hash does not match the immutable record content."
  return record

/-- the record identifies the envelope -/
def identifies (record envelope : Entries) : Bool :=
  (["tx_id", "fleet_id", "coordinator_id", "commit_decided_at", "decision_epoch",
      "retention_deadline"].all fun name => strictEq (get record name) (get envelope name))
    && strictEq (get record "envelope_hash") (some (.str (hashRedoEnvelope sha256 envelope)))

/-- without an envelope nothing more is checked -/
def validateManifestRegistration (registration envelope : Field) : Checked Unit := do
  let record ← registeredRecord D sha256 registration
  match envelope with
  | none => return ()
  | some v => do
    let _ ← validateRedoEnvelopeStructure D (some v)
    let es ← validateRedoEnvelope D sha256 (some v)
    failIf (!identifies sha256 record es) .txManifestConflict
      "Manifest record does not identify the supplied redo envelope."

def isNumeric : Field → Bool
  | some (.num _) => true
  | _ => false

/-- the service's own look at the versions of the record, before the contract is asked -/
def assertNumericVersions (value : Field) : Checked Unit :=
  match value with
  | some (.obj es) =>
    match get es "record" with
    | some (.obj record) =>
      failIf (!isNumeric (get record "protocol_version") || !isNumeric (get record "format_version"))
        .txEnvelopeInvalid "Manifest record version fields must be numbers."
    | _ => .ok ()
  | _ => .ok ()

def validatedManifestRegistration (value : Field) : Checked Unit := do
  assertNumericVersions value
  validateManifestRegistration D sha256 value none

end
end
end Wire
