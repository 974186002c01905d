import Mathlib.Data.List.Sort
import CloudflareShard.Contracts.Participant
import CloudflareShard.Json.Date

/-!
# The redo envelope and its validator

The envelope with the texts and the parameters that its bytes depend on.

* `BeginParticipant`, `Collator`, `redoParticipants`   the participants of a request, in order;
* `RedoEnvelope`, `RedoEnvelope.toValue`               the envelope and the JSON value it is;
* `validateRedoEnvelopeStructure`, `validateWritableRedoEnvelopeStructure`   the validators;
* `validate_ok_iff`                                    **what they accept**.
-/

namespace Redo
open Contracts Json

/-! ## requests -/

structure BeginIntent where
  sql : JsString
  params : Option (List JsonValue)
  tenantId : JsString
  table : JsString
  partitionKey : JsString
  mirrorTargetShardId : Option JsString
  vbucket : Option Number
  op : Option JsString

structure BeginParticipant where
  shardId : JsString
  intents : List BeginIntent

/-- `localeCompare` of a locale: a consistent order of all strings -/
structure Collator where
  localeCompare : JsString → JsString → Ordering
  swap : ∀ a b, localeCompare b a = (localeCompare a b).swap
  trans : ∀ a b c, localeCompare a b ≠ .gt → localeCompare b c ≠ .gt → localeCompare a c ≠ .gt

/-- `left.localeCompare(right) <= 0` -/
def Collator.le (C : Collator) (left right : JsString) : Bool := C.localeCompare left right != .gt

/-! ## envelopes -/

structure RedoIntent where
  intentSeq : Nat
  sql : JsString
  params : List JsonValue
  tenantId : JsString
  tableName : JsString
  partitionKey : JsString
  vbucket : Option Number
  operation : Option JsString
  mirrorTargetParticipantId : Option JsString

/-- `prepareBookmark` is a property of version 2 only -/
structure RedoParticipant where
  participantId : JsString
  epoch : Nat
  intents : List RedoIntent
  prepareBookmark : Option JsString

/-- times are epoch milliseconds; the decision is always `commit` -/
structure RedoEnvelope where
  protocolVersion : Nat
  formatVersion : Nat
  txId : JsString
  fleetId : JsString
  coordinatorId : JsString
  decisionEpoch : Nat
  commitDecidedAt : Nat
  retentionDeadline : Nat
  operationHash : Hash
  participants : List RedoParticipant

/-- an array has no more elements than there are safe integers -/
def numberOf (n : Nat) : JsonValue := .num (.safe ⟨min n Json.maxSafe, by omega⟩)

def nullable {α : Type} (toValue : α → JsonValue) : Option α → JsonValue
  | some a => toValue a
  | none => .null

def RedoIntent.toValue (intent : RedoIntent) : JsonValue :=
  .obj [(utf16 "intent_seq", numberOf intent.intentSeq), (utf16 "sql", .str intent.sql),
    (utf16 "params", .arr intent.params), (utf16 "tenant_id", .str intent.tenantId),
    (utf16 "table_name", .str intent.tableName), (utf16 "partition_key", .str intent.partitionKey),
    (utf16 "vbucket", nullable .num intent.vbucket), (utf16 "operation", nullable .str intent.operation),
    (utf16 "mirror_target_participant_id", nullable .str intent.mirrorTargetParticipantId)]

/-- `{ participant_id, epoch, intents }` -/
def RedoParticipant.operations (participant : RedoParticipant) : List (JsString × JsonValue) :=
  [(utf16 "participant_id", .str participant.participantId),
    (utf16 "epoch", numberOf participant.epoch),
    (utf16 "intents", .arr (participant.intents.map RedoIntent.toValue))]

def RedoParticipant.toValue (participant : RedoParticipant) : JsonValue :=
  .obj (participant.operations ++
    match participant.prepareBookmark with
    | some bookmark => [(utf16 "prepare_bookmark", .str bookmark)]
    | none => [])

def RedoEnvelope.toValue (envelope : RedoEnvelope) : JsonValue :=
  .obj [(utf16 "protocol_version", numberOf envelope.protocolVersion),
    (utf16 "format_version", numberOf envelope.formatVersion), (utf16 "tx_id", .str envelope.txId),
    (utf16 "fleet_id", .str envelope.fleetId), (utf16 "coordinator_id", .str envelope.coordinatorId),
    (utf16 "decision", .str (utf16 "commit")), (utf16 "decision_epoch", numberOf envelope.decisionEpoch),
    (utf16 "commit_decided_at", .str (toISOString envelope.commitDecidedAt)),
    (utf16 "retention_deadline", .str (toISOString envelope.retentionDeadline)),
    (utf16 "operation_hash", .str (utf16 envelope.operationHash)),
    (utf16 "participants", .arr (envelope.participants.map RedoParticipant.toValue))]

/-! ## validators -/

def redoEnvelopeV1FormatVersion : Nat := 1
def redoEnvelopeV2FormatVersion : Nat := 2
def currentRedoEnvelopeFormatVersion : Nat := redoEnvelopeV2FormatVersion
def maxRedoEnvelopeBytes : Nat := 256 * 1024
def maxRedoParticipants : Nat := 256
def maxVbucket : Int := 65535

def structuredMutationKinds : List JsString :=
  [utf16 "insert", utf16 "update", utf16 "delete", utf16 "upsert"]

def assertNonEmptyString (value : JsString) (field : String) : Except TransactionProtocolError Unit :=
  if value = [] then
    fail .txEnvelopeInvalid (field ++ " must be a non-empty string.") [("field", field)]
  else .ok ()

def assertNullableNonEmptyString (value : Option JsString) (field : String) :
    Except TransactionProtocolError Unit :=
  match value with
  | none => .ok ()
  | some value => assertNonEmptyString value field

def isVbucket : Number → Bool
  | .safe n => 0 ≤ n.val && n.val ≤ maxVbucket
  | .negativeZero => true
  | .other _ => false

def assertVbucket (value : Option Number) : Except TransactionProtocolError Unit :=
  if value.all isVbucket then .ok ()
  else fail .txEnvelopeInvalid
    ("vbucket must be null or an integer from 0 through " ++ toString maxVbucket ++ ".")

def assertStructuredMutationKind (value : Option JsString) : Except TransactionProtocolError Unit :=
  if value.all fun kind => structuredMutationKinds.contains kind then .ok ()
  else fail .txEnvelopeInvalid "operation must be null or an exact structured mutation kind."

def validateIntent (index : Nat) (intent : RedoIntent) : Except TransactionProtocolError Unit :=
  if intent.intentSeq ≠ index then
    fail .txEnvelopeInvalid "Redo intents must use contiguous zero-based intent_seq values."
  else do
    assertNonEmptyString intent.sql "sql"
    assertNonEmptyString intent.tenantId "tenant_id"
    assertNonEmptyString intent.tableName "table_name"
    assertNonEmptyString intent.partitionKey "partition_key"
    assertVbucket intent.vbucket
    assertStructuredMutationKind intent.operation
    assertNullableNonEmptyString intent.mirrorTargetParticipantId "mirror_target_participant_id"

def validateIntents : Nat → List RedoIntent → Except TransactionProtocolError Unit
  | _, [] => .ok ()
  | index, intent :: rest => do
    validateIntent index intent
    validateIntents (index + 1) rest

def assertBookmark (formatVersion : Nat) (prepareBookmark : Option JsString) :
    Except TransactionProtocolError Unit :=
  if formatVersion = redoEnvelopeV2FormatVersion then
    assertNonEmptyString (prepareBookmark.getD []) "prepare_bookmark"
  else if prepareBookmark.isSome then
    fail .txEnvelopeInvalid "RedoEnvelopeV1 cannot contain a prepare_bookmark."
  else .ok ()

/-- a participant behind the one with the id `prior` -/
def validateParticipant (formatVersion decisionEpoch : Nat) (prior : JsString)
    (participant : RedoParticipant) : Except TransactionProtocolError Unit := do
  assertNonEmptyString participant.participantId "participant_id"
  if !codeUnitLt prior participant.participantId then
    fail .txEnvelopeInvalid "Participants must be unique and sorted by participant_id."
  else
    assertBookmark formatVersion participant.prepareBookmark
    assertEpoch participant.epoch "participant_epoch"
    if participant.epoch ≠ decisionEpoch then
      fail .txEpochConflict "Every participant epoch must equal the envelope decision_epoch."
    else if participant.intents.isEmpty then
      fail .txEnvelopeInvalid "Every participant must contain a non-empty intents array."
    else validateIntents 0 participant.intents

def validateParticipants (formatVersion decisionEpoch : Nat) :
    JsString → List RedoParticipant → Except TransactionProtocolError Unit
  | _, [] => .ok ()
  | prior, participant :: rest => do
    validateParticipant formatVersion decisionEpoch prior participant
    validateParticipants formatVersion decisionEpoch participant.participantId rest

/-- the checks before the participants -/
def validateHeader (envelope : RedoEnvelope) : Except TransactionProtocolError Unit := do
  assertReadableProtocolVersion envelope.protocolVersion
  if envelope.formatVersion ≠ redoEnvelopeV1FormatVersion
      ∧ envelope.formatVersion ≠ redoEnvelopeV2FormatVersion then
    fail .txVersionUnsupported
      ("Redo envelope format " ++ toString envelope.formatVersion ++ " is unsupported.")
  else
    assertNonEmptyString envelope.txId "tx_id"
    assertNonEmptyString envelope.fleetId "fleet_id"
    assertNonEmptyString envelope.coordinatorId "coordinator_id"
    assertEpoch envelope.decisionEpoch "decision_epoch"
    assertSha256Hex envelope.operationHash "operation_hash"
    assertRetentionWindow envelope.commitDecidedAt envelope.retentionDeadline
      coordinatorRetentionDays
    if envelope.participants.length < 1 ∨ maxRedoParticipants < envelope.participants.length then
      fail .txEnvelopeInvalid
        ("Redo envelope must contain 1-" ++ toString maxRedoParticipants
          ++ " physical participants.")
        [("participant_count", toString envelope.participants.length),
          ("maximum_participants", toString maxRedoParticipants)]
    else .ok ()

def validateBytes (envelope : RedoEnvelope) : Except TransactionProtocolError Unit :=
  let bytes := canonicalByteLength envelope.toValue
  if maxRedoEnvelopeBytes < bytes then
    fail .txEnvelopeTooLarge
      ("Serialized redo envelope is " ++ toString bytes
        ++ " bytes; the qualification ceiling is " ++ toString maxRedoEnvelopeBytes ++ " bytes.")
      [("actual_bytes", toString bytes), ("maximum_bytes", toString maxRedoEnvelopeBytes)]
  else .ok ()

def validateRedoEnvelopeStructure (envelope : RedoEnvelope) : Except TransactionProtocolError Unit := do
  validateHeader envelope
  validateParticipants envelope.formatVersion envelope.decisionEpoch [] envelope.participants
  validateBytes envelope

def validateWritableRedoEnvelopeStructure (envelope : RedoEnvelope) :
    Except TransactionProtocolError Unit := do
  validateRedoEnvelopeStructure envelope
  if envelope.formatVersion ≠ currentRedoEnvelopeFormatVersion then
    fail .txVersionUnsupported
      ("Redo envelope format " ++ toString envelope.formatVersion
        ++ " is read-only; new writes require " ++ toString currentRedoEnvelopeFormatVersion ++ ".")
  else .ok ()

/-! ## producers -/

/-- participants in the order of the producer -/
def sortParticipants (C : Collator) (participants : List BeginParticipant) : List BeginParticipant :=
  participants.mergeSort fun a b => C.le a.shardId b.shardId

def redoIntent (intentSeq : Nat) (intent : BeginIntent) : RedoIntent :=
  { intentSeq, sql := intent.sql, params := intent.params.getD [], tenantId := intent.tenantId
    tableName := intent.table, partitionKey := intent.partitionKey, vbucket := intent.vbucket
    operation := intent.op, mirrorTargetParticipantId := intent.mirrorTargetShardId }

def redoParticipant (epoch : Nat) (participant : BeginParticipant) : RedoParticipant :=
  { participantId := participant.shardId, epoch
    intents := participant.intents.mapIdx redoIntent, prepareBookmark := none }

def redoParticipants (C : Collator) (participants : List BeginParticipant) (epoch : Nat) :
    List RedoParticipant :=
  (sortParticipants C participants).map (redoParticipant epoch)

def retentionDeadline (decidedAt : Nat) : Nat := decidedAt + coordinatorRetentionDays * dayMs

section
variable (sha256Hex : JsString → Hash)

def hashCanonicalJson (value : JsonValue) : Hash := sha256Hex (canonicalJson value)

/-- a prepare bookmark is not part of the requested operations -/
def hashParticipantOperations (participants : List RedoParticipant) : Hash :=
  hashCanonicalJson sha256Hex
    (.arr (participants.map fun participant => .obj participant.operations))

def validateRedoEnvelope (envelope : RedoEnvelope) : Except TransactionProtocolError Unit := do
  validateRedoEnvelopeStructure envelope
  if envelope.operationHash ≠ hashParticipantOperations sha256Hex envelope.participants then
    fail .txEnvelopeHashMismatch "operation_hash does not match the canonical participant operations."
  else .ok ()

/-- the envelope of version 1 that a request stands for -/
def envelopeOf (C : Collator) (txId fleetId coordinatorId : JsString)
    (participants : List BeginParticipant) (epoch commitDecidedAt : Nat) : RedoEnvelope :=
  let redoParticipants := redoParticipants C participants epoch
  { protocolVersion := currentProtocolVersion, formatVersion := redoEnvelopeV1FormatVersion, txId
    fleetId, coordinatorId, decisionEpoch := epoch, commitDecidedAt
    retentionDeadline := retentionDeadline commitDecidedAt
    operationHash := hashParticipantOperations sha256Hex redoParticipants
    participants := redoParticipants }

def envelopeFor (C : Collator) (txId fleetId coordinatorId : JsString)
    (participants : List BeginParticipant) (epoch commitDecidedAt : Nat) :
    Except TransactionProtocolError RedoEnvelope := do
  let envelope := envelopeOf sha256Hex C txId fleetId coordinatorId participants epoch commitDecidedAt
  validateRedoEnvelope sha256Hex envelope
  return envelope

end

/-! ## what is accepted -/

theorem seq_ok {ε α : Type} {x : Except ε Unit} {f : Unit → Except ε α} {a : α} :
    (x >>= f) = .ok a ↔ x = .ok () ∧ f () = .ok a := by
  cases x with
  | ok u => exact ⟨fun h => ⟨rfl, h⟩, fun h => h.2⟩
  | error e => exact ⟨nofun, nofun⟩

theorem ite_fail_ok {α : Type} {p : Prop} [Decidable p] {code : TransactionErrorCode}
    {message : String} {details : List (String × String)} {x : Except TransactionProtocolError α}
    {a : α} : (if p then fail code message details else x) = .ok a ↔ ¬ p ∧ x = .ok a := by
  by_cases h : p <;> simp [h, fail]

theorem assertNonEmptyString_ok {value : JsString} {field : String} :
    assertNonEmptyString value field = .ok () ↔ value ≠ [] := by
  rw [assertNonEmptyString, ite_fail_ok]
  simp

/-- all checks of a participant but its place -/
structure ParticipantOk (formatVersion decisionEpoch : Nat) (p : RedoParticipant) : Prop where
  named : p.participantId ≠ []
  bookmark : assertBookmark formatVersion p.prepareBookmark = .ok ()
  epoch : assertEpoch p.epoch "participant_epoch" = .ok ()
  decided : p.epoch = decisionEpoch
  intents : p.intents.isEmpty = false
  valid : validateIntents 0 p.intents = .ok ()

theorem validateParticipant_ok {formatVersion decisionEpoch : Nat} {prior : JsString}
    {p : RedoParticipant} : validateParticipant formatVersion decisionEpoch prior p = .ok () ↔
      ParticipantOk formatVersion decisionEpoch p ∧ codeUnitLt prior p.participantId := by
  unfold validateParticipant
  rw [seq_ok, assertNonEmptyString_ok, ite_fail_ok, seq_ok, seq_ok, ite_fail_ok, ite_fail_ok]
  constructor
  · rintro ⟨hn, hlt, hb, he, hd, hi, hv⟩
    exact ⟨⟨hn, hb, he, not_not.mp hd, by simpa using hi, hv⟩, by simpa using hlt⟩
  · rintro ⟨h, hlt⟩
    exact ⟨h.named, by simp [hlt], h.bookmark, h.epoch, not_not.mpr h.decided, by simp [h.intents],
      h.valid⟩

/-- the ids must grow -/
theorem validateParticipants_ok {formatVersion decisionEpoch : Nat} :
    ∀ {prior : JsString} {l : List RedoParticipant},
      validateParticipants formatVersion decisionEpoch prior l = .ok () ↔
        (∀ p ∈ l, ParticipantOk formatVersion decisionEpoch p) ∧
          (prior :: l.map (·.participantId)).Pairwise (codeUnitLt · ·)
  | prior, [] => by simp [validateParticipants]
  | prior, p :: l => by
    rw [validateParticipants, seq_ok, validateParticipant_ok, validateParticipants_ok]
    simp only [List.map_cons, List.pairwise_cons, List.mem_cons, forall_eq_or_imp]
    constructor
    · rintro ⟨⟨hp, hlt⟩, hl, hids, hrest⟩
      exact ⟨⟨hp, hl⟩, ⟨hlt, fun a ha => codeUnitLt_trans hlt (hids a ha)⟩, hids, hrest⟩
    · rintro ⟨⟨hp, hl⟩, ⟨hlt, -⟩, hids, hrest⟩
      exact ⟨⟨hp, hlt⟩, hl, hids, hrest⟩

theorem validateBytes_ok {envelope : RedoEnvelope} :
    validateBytes envelope = .ok () ↔ canonicalByteLength envelope.toValue ≤ maxRedoEnvelopeBytes := by
  unfold validateBytes
  dsimp only
  rw [ite_fail_ok]
  simp

theorem validateHeader_ok {e : RedoEnvelope} : validateHeader e = .ok () ↔
    assertReadableProtocolVersion e.protocolVersion = .ok () ∧
    (e.formatVersion = redoEnvelopeV1FormatVersion ∨ e.formatVersion = redoEnvelopeV2FormatVersion) ∧
    e.txId ≠ [] ∧ e.fleetId ≠ [] ∧ e.coordinatorId ≠ [] ∧
    assertEpoch e.decisionEpoch "decision_epoch" = .ok () ∧
    assertSha256Hex e.operationHash "operation_hash" = .ok () ∧
    assertRetentionWindow e.commitDecidedAt e.retentionDeadline coordinatorRetentionDays = .ok () ∧
    1 ≤ e.participants.length ∧ e.participants.length ≤ maxRedoParticipants := by
  unfold validateHeader
  rw [seq_ok, ite_fail_ok, seq_ok, seq_ok, seq_ok, seq_ok, seq_ok, seq_ok, ite_fail_ok]
  simp only [assertNonEmptyString_ok]
  constructor
  · rintro ⟨h₁, h₂, h₃, h₄, h₅, h₆, h₇, h₈, h₉, -⟩
    exact ⟨h₁, by tauto, h₃, h₄, h₅, h₆, h₇, h₈, by omega, by omega⟩
  · rintro ⟨h₁, h₂, h₃, h₄, h₅, h₆, h₇, h₈, h₉, h₁₀⟩
    exact ⟨h₁, by tauto, h₃, h₄, h₅, h₆, h₇, h₈, by omega, trivial⟩

/-- **an accepted envelope** -/
theorem validate_ok_iff {envelope : RedoEnvelope} :
    validateRedoEnvelopeStructure envelope = .ok () ↔
      validateHeader envelope = .ok () ∧
      (∀ p ∈ envelope.participants,
        ParticipantOk envelope.formatVersion envelope.decisionEpoch p) ∧
      (envelope.participants.map (·.participantId)).Pairwise (codeUnitLt · ·) ∧
      canonicalByteLength envelope.toValue ≤ maxRedoEnvelopeBytes := by
  rw [validateRedoEnvelopeStructure, seq_ok, seq_ok, validateParticipants_ok, validateBytes_ok,
    List.pairwise_cons]
  constructor
  · rintro ⟨hh, ⟨hp, -, hs⟩, hb⟩
    exact ⟨hh, hp, hs, hb⟩
  · rintro ⟨hh, hp, hs, hb⟩
    refine ⟨hh, ⟨hp, fun id hid => ?_, hs⟩, hb⟩
    obtain ⟨p, hmem, rfl⟩ := List.mem_map.mp hid
    cases h : p.participantId with
    | nil => exact absurd h (hp p hmem).named
    | cons c s => rfl

/-! ## bytes -/

/-- the members before `participants` in the canonical text -/
def RedoEnvelope.membersBefore (e : RedoEnvelope) : List (JsString × JsString) :=
  [(utf16 "commit_decided_at", canonicalJson (.str (toISOString e.commitDecidedAt))),
    (utf16 "coordinator_id", canonicalJson (.str e.coordinatorId)),
    (utf16 "decision", canonicalJson (.str (utf16 "commit"))),
    (utf16 "decision_epoch", canonicalJson (numberOf e.decisionEpoch)),
    (utf16 "fleet_id", canonicalJson (.str e.fleetId))]

/-- the members behind `format_version` -/
def RedoEnvelope.membersAfter (e : RedoEnvelope) : List (JsString × JsString) :=
  [(utf16 "protocol_version", canonicalJson (numberOf e.protocolVersion)),
    (utf16 "retention_deadline", canonicalJson (.str (toISOString e.retentionDeadline))),
    (utf16 "tx_id", canonicalJson (.str e.txId))]

theorem envelope_text (e : RedoEnvelope) : canonicalJson e.toValue =
    objectText (e.membersBefore ++ (utf16 "format_version", canonicalJson (numberOf e.formatVersion)) ::
      ((utf16 "operation_hash", canonicalJson (.str (utf16 e.operationHash))) ::
        (utf16 "participants", canonicalJson (.arr (e.participants.map RedoParticipant.toValue))) ::
          e.membersAfter)) := by
  rw [RedoEnvelope.toValue, canonicalJson_obj]
  rfl

/-- an empty array of participants is replaced by the participants, each with a comma or a bracket -/
theorem envelope_bytes {e : RedoEnvelope} (hne : e.participants ≠ []) :
    canonicalByteLength e.toValue + 1 = canonicalByteLength { e with participants := [] }.toValue +
      (e.participants.map fun p => 1 + canonicalByteLength p.toValue).sum := by
  have harr : canonicalByteLength (.arr (e.participants.map RedoParticipant.toValue)) =
      1 + (e.participants.map fun p => 1 + canonicalByteLength p.toValue).sum := by
    rw [length_array (by simpa using hne), List.map_map]
    rfl
  have hnil : canonicalByteLength (.arr []) = 2 := by decide +kernel
  have hset := length_object_set
    (e.membersBefore ++ [(utf16 "format_version", canonicalJson (numberOf e.formatVersion)),
      (utf16 "operation_hash", canonicalJson (.str (utf16 e.operationHash)))]) e.membersAfter
    (utf16 "participants") (canonicalJson (.arr (e.participants.map RedoParticipant.toValue)))
    (canonicalJson (.arr []))
  rw [List.append_assoc, List.append_assoc] at hset
  have h : canonicalByteLength e.toValue + canonicalByteLength (.arr []) =
      canonicalByteLength { e with participants := [] }.toValue +
        canonicalByteLength (.arr (e.participants.map RedoParticipant.toValue)) := by
    rw [canonicalByteLength, canonicalByteLength, canonicalByteLength, canonicalByteLength,
      envelope_text, envelope_text]
    exact hset
  rw [harr, hnil] at h
  omega

/-- both versions are written with one digit -/
theorem envelope_bytes_version (e : RedoEnvelope) {n m : Nat} (hn : n < 10) (hm : m < 10) :
    canonicalByteLength { e with formatVersion := n }.toValue =
      canonicalByteLength { e with formatVersion := m }.toValue := by
  have digit : ∀ k < 10, utf8Length (canonicalJson (numberOf k)) = 1 := by decide +kernel
  have h := length_object_set e.membersBefore
    ((utf16 "operation_hash", canonicalJson (.str (utf16 e.operationHash))) ::
      (utf16 "participants", canonicalJson (.arr (e.participants.map RedoParticipant.toValue))) ::
        e.membersAfter) (utf16 "format_version") (canonicalJson (numberOf n))
    (canonicalJson (numberOf m))
  rw [digit n hn, digit m hm] at h
  rw [canonicalByteLength, canonicalByteLength, envelope_text, envelope_text]
  exact Nat.add_right_cancel h

/-- a bookmark adds its member and the comma before it -/
theorem participant_bytes (p : RedoParticipant) (bookmark : JsString) :
    canonicalByteLength { p with prepareBookmark := some bookmark }.toValue =
      canonicalByteLength { p with prepareBookmark := none }.toValue
        + (20 + utf8Length (quote16 bookmark)) := by
  set members : List (JsString × JsString) :=
    [(utf16 "epoch", canonicalJson (numberOf p.epoch)),
      (utf16 "intents", canonicalJson (.arr (p.intents.map RedoIntent.toValue))),
      (utf16 "participant_id", canonicalJson (.str p.participantId))] with hmembers
  have hnone : canonicalJson { p with prepareBookmark := none }.toValue = objectText members := by
    rw [RedoParticipant.toValue, canonicalJson_obj]
    rfl
  have hsome : canonicalJson { p with prepareBookmark := some bookmark }.toValue =
      objectText (members ++ [(utf16 "prepare_bookmark", quote16 bookmark)]) := by
    rw [RedoParticipant.toValue, canonicalJson_obj]
    rfl
  have hname : utf8Length (quote16 (utf16 "prepare_bookmark")) = 18 := by decide +kernel
  have hne : members ≠ [] := by simp [hmembers]
  rw [canonicalByteLength, canonicalByteLength, hnone, hsome, length_object_concat hne, hname]

end Redo
