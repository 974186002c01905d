import CloudflareShard.Contracts.WireRedo

/-!
# Malformed values are rejected for good

A validator that throws a native exception makes its caller report an outage that is to be retried.

* `printable`, `plausibleDay`   the two places where JavaScript throws;
* `permanent_header`, `permanent_assertUtcDay`   the checks that reach them;
* `Message`, `Message.Sound`    what is validated, and when no such place is reached;
* `rejected_permanently_iff`    **a message is accepted or rejected for good iff it is sound**.
-/

namespace Wire
open Contracts Json

/-! ## checks that never throw natively -/

section plain
variable {value : Field} {field message : String}

theorem permanent_invalid {α : Type} (message : String) (details : List (String × String)) :
    Permanent (fail .txEnvelopeInvalid message details : Checked α) :=
  permanent_fail (by decide) message details

theorem permanent_badRequest {α : Type} (message : String) (details : List (String × String)) :
    Permanent (fail .manifestInvalidRequest message details : Checked α) :=
  permanent_fail (by decide) message details

@[simp] theorem permanent_pure {α : Type} (a : α) : Permanent (pure a : Checked α) := permanent_ok a

@[simp] theorem permanent_assertNonEmptyString : Permanent (assertNonEmptyString value field) := by
  unfold assertNonEmptyString
  split
  · exact permanent_ok _
  · exact permanent_invalid _ _

@[simp] theorem permanent_assertPlainObject : Permanent (assertPlainObject value field) := by
  unfold assertPlainObject
  split
  · exact permanent_ok _
  · exact permanent_invalid _ _

@[simp] theorem permanent_assertArray : Permanent (assertArray value message) := by
  unfold assertArray
  split
  · exact permanent_ok _
  · exact permanent_invalid _ _

@[simp] theorem permanent_assertNullableNonEmptyString :
    Permanent (assertNullableNonEmptyString value field) := by
  unfold assertNullableNonEmptyString
  exact .ite (permanent_ok _) (.bind permanent_assertNonEmptyString fun _ => permanent_ok _)

@[simp] theorem permanent_assertVbucket : Permanent (assertVbucket value) :=
  .ite (permanent_ok _) (permanent_invalid _ _)

@[simp] theorem permanent_assertStructuredMutationKind :
    Permanent (assertStructuredMutationKind value) :=
  .ite (permanent_ok _) (permanent_invalid _ _)

@[simp] theorem permanent_assertParticipantDecision : Permanent (assertParticipantDecision value) :=
  .ite (permanent_ok _) (permanent_invalid _ _)

@[simp] theorem permanent_assertParticipantPhase : Permanent (assertParticipantPhase value) :=
  .ite (permanent_ok _) (permanent_invalid _ _)

@[simp] theorem permanent_assertEpoch : Permanent (assertEpoch value field) := by
  unfold assertEpoch
  split
  · exact .ite (permanent_invalid _ _) (permanent_ok _)
  · exact permanent_invalid _ _

@[simp] theorem permanent_assertSha256Hex : Permanent (assertSha256Hex value field) := by
  unfold assertSha256Hex
  split
  · exact permanent_ok _
  · exact permanent_invalid _ _

@[simp] theorem permanent_assertExactKeys {es : Entries} {keys : List String} :
    Permanent (assertExactKeys es field keys) :=
  .ite (permanent_badRequest _ _) (.ite (permanent_badRequest _ _) (permanent_ok _))

@[simp] theorem permanent_assertSafeInteger {minimum : Nat} :
    Permanent (assertSafeInteger value field minimum) := by
  unfold assertSafeInteger
  split
  · exact .ite (permanent_badRequest _ _) (permanent_ok _)
  · exact permanent_badRequest _ _

@[simp] theorem permanent_assertNullableSafeInteger {minimum : Nat} :
    Permanent (assertNullableSafeInteger value field minimum) :=
  .ite (permanent_ok _) (.bind permanent_assertSafeInteger fun _ => permanent_ok _)

@[simp] theorem permanent_assertManifestString : Permanent (assertManifestString value field) := by
  unfold assertManifestString
  split
  · exact permanent_ok _
  · exact permanent_badRequest _ _

@[simp] theorem permanent_assertManifestHash : Permanent (assertManifestHash value field) := by
  unfold assertManifestHash
  split
  · exact permanent_ok _
  · exact permanent_badRequest _ _

@[simp] theorem permanent_assertNullableManifestHash :
    Permanent (assertNullableManifestHash value field) :=
  .ite (permanent_ok _) (.bind permanent_assertManifestHash fun _ => permanent_ok _)

@[simp] theorem permanent_invalidIf {condition : Bool} : Permanent (invalidIf condition message) :=
  .ite (permanent_badRequest _ _) (permanent_ok _)

theorem permanent_failIf {condition : Bool} {code : TransactionErrorCode}
    (hcode : retryableErrors.contains code = false) : Permanent (failIf condition code message) :=
  .ite (permanent_fail hcode _ _) (permanent_ok _)

@[simp] theorem permanent_assertManifestPageLimit : Permanent (assertManifestPageLimit value) :=
  .bind permanent_assertSafeInteger fun _ => permanent_invalidIf

variable {D : DateLib}

@[simp] theorem permanent_parseCanonicalUtcTimestamp :
    Permanent (parseCanonicalUtcTimestamp D value field) := by
  refine .bind permanent_assertNonEmptyString fun s => ?_
  split
  · exact permanent_ok _
  · exact permanent_invalid _ _

@[simp] theorem permanent_parseManifestTimestamp :
    Permanent (parseManifestTimestamp D value field) := by
  refine .bind permanent_assertManifestString fun s => ?_
  split
  · exact permanent_ok _
  · exact permanent_badRequest _ _

@[simp] theorem permanent_assertRetentionWindow {deadline : Field} {minimumDays : Nat} :
    Permanent (assertRetentionWindow D value deadline minimumDays) := by
  refine .bind permanent_parseCanonicalUtcTimestamp fun _ =>
    .bind permanent_parseCanonicalUtcTimestamp fun _ => ?_
  exact .ite (permanent_invalid _ _) (permanent_ok _)

@[simp] theorem permanent_validateCoverage {es : Entries} : Permanent (validateCoverage D es) :=
  .bind permanent_parseManifestTimestamp fun _ =>
    .bind permanent_parseManifestTimestamp fun _ => permanent_invalidIf

end plain

/-! ## where JavaScript throws -/

/-- `String(value)` has a text: no object in it has a `toString` of its own -/
def printable (value : Field) : Bool := value.all fun v => (toText v).isSome

@[simp] theorem permanent_stringOf {value : Field} : Permanent (stringOf value) ↔ printable value := by
  cases value with
  | none => exact ⟨fun _ => rfl, fun _ => permanent_ok _⟩
  | some v =>
    cases hv : toText v with
    | some text =>
      have hok : stringOf (some v) = .ok text := by simp [stringOf, hv]
      rw [hok]
      exact ⟨fun _ => by simp [printable, hv], fun _ => permanent_ok _⟩
    | none =>
      have hthrows : stringOf (some v) = .error (.native .typeError) := by simp [stringOf, hv]
      rw [hthrows]
      exact ⟨fun h => absurd h (not_permanent_native _), fun h => by simp [printable, hv] at h⟩

/-- a report that names a value -/
theorem permanent_report {α : Type} {value : Field} {f : JsString → Checked α}
    (hf : ∀ text, Permanent (f text)) : Permanent (stringOf value >>= f) ↔ printable value := by
  rw [permanent_bind, permanent_stringOf]
  exact ⟨fun h => h.1, fun h => ⟨h, fun text _ => hf text⟩⟩

theorem permanent_assertReadableProtocolVersion {value : Field} :
    Permanent (assertReadableProtocolVersion value)
      ↔ isReadableProtocolVersion value ∨ printable value := by
  unfold assertReadableProtocolVersion
  by_cases h : isReadableProtocolVersion value = true
  · rw [if_pos h]
    exact ⟨fun _ => Or.inl h, fun _ => permanent_ok _⟩
  · rw [if_neg h, permanent_report fun _ => permanent_fail (by decide) _ _]
    exact ⟨Or.inr, fun hor => hor.resolve_left h⟩

theorem permanent_assertWritableProtocolVersion {value : Field} :
    Permanent (assertWritableProtocolVersion value)
      ↔ isNumber value currentProtocolVersion ∨ printable value := by
  unfold assertWritableProtocolVersion
  by_cases h : isNumber value currentProtocolVersion = true
  · rw [if_pos h]
    exact ⟨fun _ => Or.inl h, fun _ => permanent_ok _⟩
  · rw [if_neg h, permanent_report fun _ => permanent_fail (by decide) _ _]
    exact ⟨Or.inr, fun hor => hor.resolve_left h⟩

theorem permanent_unsupportedFormat {value : Field} {before after : String} :
    Permanent (unsupportedFormat value before after) ↔ printable value :=
  permanent_report fun _ => permanent_fail (by decide) _ _

/-- the versions are the right ones, or can be reported -/
def versionsPrintable (es : Entries) : Bool :=
  printable (get es "protocol_version") && printable (get es "format_version")

theorem permanent_assertManifestVersion {es : Entries} {expectedFormat : Nat} {field : String} :
    Permanent (assertManifestVersion es expectedFormat field)
      ↔ hasManifestVersion es expectedFormat ∨ versionsPrintable es := by
  unfold assertManifestVersion
  by_cases h : hasManifestVersion es expectedFormat = true
  · rw [if_pos h]
    exact ⟨fun _ => Or.inl h, fun _ => permanent_ok _⟩
  · rw [if_neg h, permanent_bind, permanent_stringOf]
    unfold versionsPrintable
    rw [Bool.and_eq_true]
    constructor
    · intro hp
      have hprotocol := hp.1
      right
      cases ht : stringOf (get es "protocol_version") with
      | ok text =>
        exact ⟨hprotocol, (permanent_report fun _ => permanent_fail (by decide) _ _).mp
          (hp.2 text ht)⟩
      | error e =>
        have hperm := permanent_stringOf.mpr hprotocol
        obtain ⟨error, herror, _⟩ := hperm e ht
        unfold stringOf at ht
        split at ht
        · exact absurd ht (by simp)
        · split at ht
          · exact absurd ht (by simp)
          · cases ht
            exact absurd herror (by simp)
    · intro hor
      obtain ⟨hprotocol, hformat⟩ := hor.resolve_left h
      exact ⟨hprotocol, fun _ _ => (permanent_report fun _ => permanent_fail (by decide) _ _).mpr hformat⟩

/-- no text of the form of a day whose date is invalid -/
def plausibleDay (D : DateLib) (value : Field) : Bool :=
  match value with
  | some (.str s) => !isDayText s || (dayStart D s).isSome
  | _ => true

theorem permanent_assertUtcDay {D : DateLib} {value : Field} {field : String} :
    Permanent (assertUtcDay D value field) ↔ plausibleDay D value := by
  unfold assertUtcDay
  rw [permanent_bind]
  constructor
  · intro ⟨_, h⟩
    match value with
    | some (.str []) => exact rfl
    | some (.str (c :: s)) =>
      have hday := h (c :: s) rfl
      unfold plausibleDay
      by_cases htext : isDayText (c :: s) = true
      · simp only [htext, Bool.not_true, Bool.false_eq_true, if_false] at hday
        simp only [htext, Bool.not_true, Bool.false_or]
        cases hstart : dayStart D (c :: s) with
        | some ms => rfl
        | none =>
          simp only [hstart] at hday
          exact absurd hday (not_permanent_native _)
      · simp [htext]
    | none | some .null | some (.bool _) | some (.num _) | some (.arr _) | some (.obj _) => exact rfl
  · intro hday
    refine ⟨permanent_assertManifestString, fun s hs => ?_⟩
    have hvalue : value = some (.str s) := by
      unfold assertManifestString at hs
      split at hs
      · cases hs
        rfl
      · exact absurd hs (by simp [fail])
    subst hvalue
    unfold plausibleDay at hday
    by_cases htext : isDayText s = true
    · simp only [htext, Bool.not_true, Bool.false_or] at hday
      obtain ⟨ms, hms⟩ := Option.isSome_iff_exists.mp hday
      simp only [htext, Bool.not_true, Bool.false_eq_true, if_false, hms]
      exact .ite (permanent_badRequest _ _) (permanent_ok _)
    · simp only [htext, Bool.not_false, if_true]
      exact permanent_badRequest _ _

/-! ## checks in a row -/

/-- the last checks do not matter when they never throw natively -/
theorem permanent_then {α β : Type} {x : Checked α} {f : α → Checked β}
    (hf : ∀ a, Permanent (f a)) : Permanent (x >>= f) ↔ Permanent x :=
  ⟨fun h => (permanent_bind.mp h).1, fun h => .bind h hf⟩

/-- the first checks do not matter either, but that they pass -/
theorem permanent_after {α β : Type} {x : Checked α} {f : α → Checked β} (hx : Permanent x) :
    Permanent (x >>= f) ↔ ∀ a, x = .ok a → Permanent (f a) :=
  ⟨fun h => (permanent_bind.mp h).2, fun h => permanent_bind.mpr ⟨hx, h⟩⟩

theorem assertPlainObject_ok {value : Field} {field : String} {es : Entries} :
    assertPlainObject value field = .ok es ↔ value = some (.obj es) := by
  unfold assertPlainObject
  constructor
  · intro h
    split at h
    · cases h
      rfl
    · exact absurd h (by simp [fail])
  · intro h
    rw [h]

theorem permanent_object {α : Type} {value : Field} {field : String} {f : Entries → Checked α} :
    Permanent (assertPlainObject value field >>= f) ↔
      ∀ es, value = some (.obj es) → Permanent (f es) := by
  rw [permanent_after permanent_assertPlainObject]
  simp only [assertPlainObject_ok]

def hasExactKeys (es : Entries) (keys : List String) : Bool :=
  (unknownKeys es keys).isEmpty && (missingKeys es keys).isEmpty

theorem assertExactKeys_ok {es : Entries} {field : String} {keys : List String} :
    assertExactKeys es field keys = .ok () ↔ hasExactKeys es keys := by
  unfold assertExactKeys hasExactKeys
  split
  · rename_i h
    simp [fail, h]
  · rename_i h
    have hnil := not_not.mp h
    split
    · rename_i h'
      simp [fail, h']
    · rename_i h'
      simp [hnil, not_not.mp h']

theorem assertManifestVersion_ok {es : Entries} {expectedFormat : Nat} {field : String} :
    assertManifestVersion es expectedFormat field = .ok () ↔ hasManifestVersion es expectedFormat := by
  unfold assertManifestVersion
  constructor
  · intro h
    by_contra hnot
    rw [if_neg hnot] at h
    cases hp : stringOf (get es "protocol_version") with
    | error e =>
      rw [hp] at h
      exact absurd h (by nofun)
    | ok protocol =>
      cases hf : stringOf (get es "format_version") with
      | error e =>
        rw [hp, hf] at h
        exact absurd h (by nofun)
      | ok format =>
        rw [hp, hf] at h
        exact absurd h (by nofun)
  · intro h
    rw [if_pos h]

/-! ## the common beginnings -/

/-- the versions of an object with exactly these keys can be reported, if they are not the right ones -/
def HeaderSound (value : Field) (keys : List String) (expectedFormat : Nat) : Prop :=
  ∀ es, value = some (.obj es) → hasExactKeys es keys →
    hasManifestVersion es expectedFormat ∨ versionsPrintable es

theorem permanent_header {value : Field} {field : String} {keys : List String}
    {expectedFormat : Nat} : Permanent (header value field keys expectedFormat) ↔
      HeaderSound value keys expectedFormat := by
  unfold header HeaderSound
  rw [permanent_object]
  refine forall_congr' fun es => imp_congr_right fun _ => ?_
  rw [permanent_after permanent_assertExactKeys]
  constructor
  · intro h hkeys
    exact permanent_assertManifestVersion.mp
      ((permanent_then fun _ => permanent_ok _).mp (h () (assertExactKeys_ok.mpr hkeys)))
  · intro h _ hkeys
    exact (permanent_then fun _ => permanent_ok _).mpr
      (permanent_assertManifestVersion.mpr (h (assertExactKeys_ok.mp hkeys)))

theorem header_ok {value : Field} {field : String} {keys : List String} {expectedFormat : Nat}
    {es : Entries} : header value field keys expectedFormat = .ok es ↔
      value = some (.obj es) ∧ hasExactKeys es keys ∧ hasManifestVersion es expectedFormat := by
  unfold header
  cases hobj : assertPlainObject value field with
  | error e =>
    constructor
    · exact fun h => absurd h (by nofun)
    · intro h
      rw [assertPlainObject_ok.mpr h.1] at hobj
      exact absurd hobj (by simp)
  | ok es' =>
    have hvalue := assertPlainObject_ok.mp hobj
    show (assertExactKeys es' field keys >>= fun _ =>
      assertManifestVersion es' expectedFormat field >>= fun _ => pure es') = .ok es ↔ _
    rw [hvalue, ← @assertExactKeys_ok es field keys,
      ← @assertManifestVersion_ok es expectedFormat field]
    constructor
    · intro h
      cases hk : assertExactKeys es' field keys with
      | error e =>
        rw [hk] at h
        exact absurd h (by nofun)
      | ok u =>
        cases hv : assertManifestVersion es' expectedFormat field with
        | error e =>
          rw [hk, hv] at h
          exact absurd h (by nofun)
        | ok u' =>
          rw [hk, hv] at h
          cases h
          exact ⟨rfl, hk, hv⟩
    · intro ⟨hes, hk, hv⟩
      cases hes
      rw [hk, hv]
      rfl

/-- forgetting what a check returns -/
@[simp]
theorem permanent_map {α β : Type} {f : α → β} {x : Checked α} :
    Permanent (f <$> x) ↔ Permanent x := by
  cases x with
  | ok a => exact ⟨fun _ => permanent_ok a, fun _ => permanent_ok (f a)⟩
  | error e => exact ⟨fun h e' he' => h e' (by cases he'; rfl), fun h e' he' => h e' (by cases he'; rfl)⟩

section manifest
variable {D : DateLib} {sha256 : ByteArray → List UInt8} {value : Field} {field : String}
  {keys : List String} {expectedFormat : Nat} {es : Entries}

theorem permanent_validateManifestRouteFields : Permanent (validateManifestRouteFields D es) ↔
    plausibleDay D (get es "reservation_utc_day") := by
  unfold validateManifestRouteFields
  rw [permanent_then fun day => by simp [permanent_bind], permanent_assertUtcDay]

/-- a non-empty string -/
def isNonEmptyText : Field → Bool
  | some (.str (_ :: _)) => true
  | _ => false

theorem assertManifestString_isOk :
    (∃ s, assertManifestString value field = .ok s) ↔ isNonEmptyText value := by
  unfold assertManifestString
  constructor
  · intro ⟨s, hs⟩
    split at hs
    · rfl
    · exact absurd hs (by simp [fail])
  · intro h
    unfold isNonEmptyText at h
    split at h
    · exact ⟨_, rfl⟩
    · exact absurd h (by simp)

/-- the header is sound, and with the right versions and a fleet the day is plausible -/
def RouteSound (D : DateLib) (value : Field) (keys : List String) (expectedFormat : Nat) : Prop :=
  HeaderSound value keys expectedFormat ∧
    ∀ es, value = some (.obj es) → hasExactKeys es keys → hasManifestVersion es expectedFormat →
      isNonEmptyText (get es "fleet_id") → plausibleDay D (get es "reservation_utc_day")

theorem permanent_routeHeader : Permanent (routeHeader D value field keys expectedFormat) ↔
    RouteSound D value keys expectedFormat := by
  unfold routeHeader RouteSound
  rw [permanent_bind, permanent_header]
  refine and_congr_right fun _ => forall_congr' fun es => ?_
  rw [header_ok, permanent_after permanent_assertManifestString]
  constructor
  · intro h hvalue hkeys hversion hfleet
    obtain ⟨s, hs⟩ := assertManifestString_isOk.mpr hfleet
    exact permanent_validateManifestRouteFields.mp
      ((permanent_then fun _ => permanent_ok _).mp (h ⟨hvalue, hkeys, hversion⟩ s hs))
  · intro h hes s hs
    exact (permanent_then fun _ => permanent_ok _).mpr (permanent_validateManifestRouteFields.mpr
      (h hes.1 hes.2.1 hes.2.2 (assertManifestString_isOk.mp ⟨s, hs⟩)))

theorem permanent_reservation : Permanent (validateManifestReservation D value) ↔
    RouteSound D value reservationKeys manifestReservationFormatVersion := by
  unfold validateManifestReservation
  rw [permanent_then fun es => by simp [permanent_bind], permanent_routeHeader]

theorem permanent_hashManifestReservation : Permanent (hashManifestReservation D sha256 value) ↔
    RouteSound D value reservationKeys manifestReservationFormatVersion := by
  unfold hashManifestReservation manifestReservationRoute
  rw [permanent_then fun es => by simp [permanent_bind], permanent_reservation]

theorem permanent_finalizeIntent : Permanent (validateManifestFinalizeIntent value) ↔
    HeaderSound value finalizeIntentKeys manifestTerminalIntentFormatVersion := by
  unfold validateManifestFinalizeIntent
  rw [permanent_then fun es => by simp [permanent_bind], permanent_header]

theorem permanent_cancelIntent : Permanent (validateManifestCancelIntent value) ↔
    HeaderSound value cancelIntentKeys manifestTerminalIntentFormatVersion := by
  unfold validateManifestCancelIntent
  rw [permanent_then fun es => by simp [permanent_bind], permanent_header]

theorem permanent_recordV2 : Permanent (validateManifestRecordV2 D value) ↔
    RouteSound D value recordV2Keys manifestRecordV2FormatVersion := by
  unfold validateManifestRecordV2
  rw [permanent_then fun es => by simp [permanent_bind], permanent_routeHeader]

theorem permanent_catalogActivate : Permanent (validateManifestCatalogActivateRequest D value) ↔
    RouteSound D value catalogActivateKeys manifestCatalogFormatVersion := by
  unfold validateManifestCatalogActivateRequest
  rw [permanent_then fun es => by simp, permanent_routeHeader]

theorem permanent_catalogSnapshot : Permanent (validateManifestCatalogSnapshotRequest D value) ↔
    HeaderSound value catalogSnapshotKeys manifestCatalogFormatVersion := by
  unfold validateManifestCatalogSnapshotRequest
  rw [permanent_then fun es => by simp [permanent_bind], permanent_header]

theorem permanent_catalogRetire : Permanent (validateManifestCatalogRetireRequest D value) ↔
    RouteSound D value catalogRetireKeys manifestCatalogFormatVersion := by
  unfold validateManifestCatalogRetireRequest
  rw [permanent_then fun es => by simp [permanent_bind], permanent_routeHeader]

theorem permanent_sealRequest : Permanent (validateManifestSealRequest D value) ↔
    RouteSound D value sealRequestKeys manifestSealFormatVersion := by
  unfold validateManifestSealRequest
  rw [permanent_then fun es => by simp [permanent_bind], permanent_routeHeader]

theorem permanent_sealReceipt : Permanent (validateManifestSealReceipt D value) ↔
    RouteSound D value sealReceiptKeys manifestSealFormatVersion := by
  unfold validateManifestSealReceipt
  rw [permanent_then fun es => by simp [permanent_bind], permanent_routeHeader]

def ConfigSound (D : DateLib) (value : Field) : Prop :=
  HeaderSound value partitionConfigKeys manifestCatalogFormatVersion ∧
    ∀ es, value = some (.obj es) → hasExactKeys es partitionConfigKeys →
      hasManifestVersion es manifestCatalogFormatVersion →
        plausibleDay D (get es "effective_from_day")

theorem permanent_partitionConfig : Permanent (validatePartitionConfig D value) ↔
    ConfigSound D value := by
  unfold validatePartitionConfig ConfigSound
  rw [permanent_bind, permanent_header]
  refine and_congr_right fun _ => forall_congr' fun es => ?_
  rw [header_ok, permanent_then fun _ => by simp [permanent_bind], permanent_assertUtcDay]
  exact ⟨fun h h1 h2 h3 => h ⟨h1, h2, h3⟩, fun h hes => h hes.1 hes.2.1 hes.2.2⟩

/-! ## cursors -/

theorem permanent_localPageCursor : Permanent (validateManifestLocalPageCursor value) ↔
    HeaderSound value localPageCursorKeys manifestCursorFormatVersion := by
  unfold validateManifestLocalPageCursor
  rw [permanent_then fun es => by simp [permanent_bind], permanent_header]

def NullableCursorSound (value : Field) : Prop :=
  isNull value ∨ HeaderSound value localPageCursorKeys manifestCursorFormatVersion

theorem permanent_validateNullableLocalCursor : Permanent (validateNullableLocalCursor value) ↔
    NullableCursorSound value := by
  unfold validateNullableLocalCursor NullableCursorSound
  by_cases h : isNull value = true
  · rw [if_pos h]
    exact ⟨fun _ => Or.inl h, fun _ => permanent_ok _⟩
  · rw [if_neg h, permanent_then fun _ => permanent_pure _, permanent_localPageCursor]
    exact ⟨Or.inr, fun hor => hor.resolve_left h⟩

/-- a page request reaches its cursor when everything before it passes -/
def PageSound (D : DateLib) (value : Field) : Prop :=
  RouteSound D value localPageRequestKeys manifestPageFormatVersion ∧
    ∀ es, localPageFields D value = .ok es → NullableCursorSound (get es "cursor")

theorem permanent_localPageRequest : Permanent (validateManifestLocalPageRequest D value) ↔
    PageSound D value := by
  have hfields : Permanent (localPageFields D value) ↔
      RouteSound D value localPageRequestKeys manifestPageFormatVersion := by
    unfold localPageFields
    rw [permanent_then fun es => by simp [permanent_bind], permanent_routeHeader]
  unfold validateManifestLocalPageRequest PageSound
  rw [permanent_bind, hfields]
  refine and_congr_right fun _ => forall_congr' fun es => imp_congr_right fun _ => ?_
  rw [permanent_then fun _ => permanent_pure _, permanent_validateNullableLocalCursor]

/-- the format is a known one, or can be reported -/
def FormatSound (value : Field) (current first : Nat) : Prop :=
  ∀ es, value = some (.obj es) → isNumber (get es "protocol_version") currentProtocolVersion →
    isNumber (get es "format_version") current ∨ isNumber (get es "format_version") first ∨
      printable (get es "format_version")

theorem failIf_ok {condition : Bool} {code : TransactionErrorCode} {message : String} :
    failIf condition code message = .ok () ↔ condition = false := by
  unfold failIf
  cases condition with
  | true => simp [fail]
  | false => simp

theorem permanent_enumerationHeader {current first : Nat} {rootBound plain : List String} :
    Permanent (enumerationHeader value field current first rootBound plain) ↔
      FormatSound value current first := by
  unfold enumerationHeader FormatSound
  rw [permanent_object]
  refine forall_congr' fun es => imp_congr_right fun _ => ?_
  rw [permanent_after (permanent_failIf (by decide))]
  have hformat : Permanent (if isNumber (get es "format_version") current = true then do
        assertExactKeys es field rootBound
        let _ ← assertManifestHash (get es "catalog_close_key") "catalog_close_key"
        let _ ← assertManifestHash (get es "fleet_root_hash") "fleet_root_hash"
        return es
      else if isNumber (get es "format_version") first = true then do
        assertExactKeys es field plain
        return es
      else do
        let format ← stringOf (get es "format_version")
        fail .manifestVersionUnsupported (field ++ " uses an unsupported format version.")
          [("format_version", textOf format)]) ↔
      (isNumber (get es "format_version") current ∨ isNumber (get es "format_version") first ∨
        printable (get es "format_version")) := by
    by_cases hcurrent : isNumber (get es "format_version") current = true
    · simp [hcurrent, permanent_bind]
    · by_cases hfirst : isNumber (get es "format_version") first = true
      · simp [hcurrent, hfirst]
      · simp only [hcurrent, hfirst, if_false, false_or, Bool.false_eq_true]
        exact permanent_report fun _ => permanent_fail (by decide) _ _
  constructor
  · intro h hprotocol
    exact hformat.mp (h () (failIf_ok.mpr (by simp [hprotocol])))
  · intro h _ hprotocol
    have hversion := failIf_ok.mp hprotocol
    exact hformat.mpr (h (by simpa using hversion))

structure EnumerationCursorSound (D : DateLib) (value : Field) : Prop where
  format : FormatSound value manifestEnumerationCursorFormatVersion manifestCursorFormatVersion
  day : ∀ es, enumerationCursorHead value = .ok es → plausibleDay D (get es "reservation_utc_day")
  cursor : ∀ es, enumerationCursorFields D value = .ok es →
    NullableCursorSound (get es "local_cursor")

theorem permanent_enumerationCursorHead : Permanent (enumerationCursorHead value) ↔
    FormatSound value manifestEnumerationCursorFormatVersion manifestCursorFormatVersion := by
  unfold enumerationCursorHead
  rw [permanent_then fun es => by simp [permanent_bind], permanent_enumerationHeader]

theorem permanent_enumerationCursorFields : Permanent (enumerationCursorFields D value) ↔
    FormatSound value manifestEnumerationCursorFormatVersion manifestCursorFormatVersion ∧
      ∀ es, enumerationCursorHead value = .ok es →
        plausibleDay D (get es "reservation_utc_day") := by
  unfold enumerationCursorFields
  rw [permanent_bind, permanent_enumerationCursorHead]
  refine and_congr_right fun _ => forall_congr' fun es => imp_congr_right fun _ => ?_
  rw [permanent_then fun _ => by simp [permanent_bind], permanent_assertUtcDay]

theorem permanent_enumerationCursor : Permanent (validateManifestEnumerationCursor D value) ↔
    EnumerationCursorSound D value := by
  unfold validateManifestEnumerationCursor
  rw [permanent_bind, permanent_enumerationCursorFields]
  simp only [permanent_then fun _ => permanent_pure _, permanent_validateNullableLocalCursor]
  exact ⟨fun h => ⟨h.1.1, h.1.2, h.2⟩, fun h => ⟨⟨h.format, h.day⟩, h.cursor⟩⟩

structure EnumerationSound (D : DateLib) (value : Field) : Prop where
  format : FormatSound value currentManifestEnumerationFormatVersion
    manifestEnumerationV1FormatVersion
  cursor : ∀ es, enumerationRequestFields D value = .ok es →
    isNull (get es "cursor") ∨ EnumerationCursorSound D (get es "cursor")

theorem permanent_assertCursorOf {cursor : Entries} {formats close : String} :
    Permanent (assertCursorOf es cursor formats close) :=
  .bind (permanent_failIf (by decide)) fun _ => permanent_failIf (by decide)

theorem permanent_validateRequestCursor : Permanent (validateRequestCursor D es) ↔
    isNull (get es "cursor") ∨ EnumerationCursorSound D (get es "cursor") := by
  unfold validateRequestCursor
  by_cases h : isNull (get es "cursor") = true
  · rw [if_pos h]
    exact ⟨fun _ => Or.inl h, fun _ => permanent_ok _⟩
  · rw [if_neg h, permanent_then fun _ => permanent_assertCursorOf, permanent_enumerationCursor]
    exact ⟨Or.inr, fun hor => hor.resolve_left h⟩

theorem permanent_enumerationRequest : Permanent (validateManifestEnumerationRequest D value) ↔
    EnumerationSound D value := by
  have hfields : Permanent (enumerationRequestFields D value) ↔
      FormatSound value currentManifestEnumerationFormatVersion
        manifestEnumerationV1FormatVersion := by
    unfold enumerationRequestFields
    rw [permanent_then fun es => by simp [permanent_bind], permanent_enumerationHeader]
  unfold validateManifestEnumerationRequest
  rw [permanent_bind, hfields]
  simp only [permanent_then fun _ => permanent_pure _, permanent_validateRequestCursor]
  exact ⟨fun h => ⟨h.1, h.2⟩, fun h => ⟨h.format, h.cursor⟩⟩

end manifest

end Wire
