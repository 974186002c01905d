import CloudflareShard.Contracts.Transaction
import CloudflareShard.Json.Date

/-!
# Checks on untrusted JSON

The assertions that the contract validators are built of, on values that may be anything. A check
throws a contract violation, or a native exception where JavaScript does.

* `Thrown`, `Checked`           what a check throws;
* `stringOf`                    `String(value)`;
* `DateLib`                     `Date`, which reads other texts as the engine likes;
* `assertUtcDay` and the others the assertions;
* `asProtocolError`             what a caller is told;
* `Permanent`                   nothing is thrown but a violation that is not to be retried;
* `permanent_bind`              **checks one after the other**.
-/

namespace Wire
open Contracts Json

inductive NativeError where
  | rangeError
  | typeError
  deriving DecidableEq

inductive Thrown where
  | violation (error : TransactionProtocolError)
  | native (error : NativeError)

abbrev Checked (α : Type) := Except Thrown α

abbrev Entries := List (JsString × JsonValue)

/-- a property of an object, or `undefined` -/
abbrev Field := Option JsonValue

def fail {α : Type} (code : TransactionErrorCode) (message : String)
    (details : List (String × String) := []) : Checked α :=
  .error (.violation (transactionError code message details))

def get (es : Entries) (name : String) : Field :=
  (es.find? fun e => e.1 == utf16 name).map Prod.snd

def has (es : Entries) (name : String) : Bool := es.any fun e => e.1 == utf16 name

/-! ## texts of values -/

mutual

/-- `String(value)`: an own `toString` is no function, and `valueOf` gives the object back -/
def toText : JsonValue → Option JsString
  | .null => some (utf16 "null")
  | .bool true => some (utf16 "true")
  | .bool false => some (utf16 "false")
  | .num n => some n.text
  | .str s => some s
  | .arr values => (elementTexts values).map (List.intercalate [44])
  | .obj es => if has es "toString" then none else some (utf16 "[object Object]")

/-- what `join` puts between the commas -/
def elementTexts : List JsonValue → Option (List JsString)
  | [] => some []
  | .null :: rest => (elementTexts rest).map ([] :: ·)
  | v :: rest =>
    match toText v with
    | none => none
    | some text => (elementTexts rest).map (text :: ·)

end

def stringOf : Field → Checked JsString
  | none => .ok (utf16 "undefined")
  | some v =>
    match toText v with
    | some text => .ok text
    | none => .error (.native .typeError)

/-- the value of a safe integer -/
def safeValue : Field → Option Int
  | some (.num (.safe n)) => some n.val
  | some (.num .negativeZero) => some 0
  | _ => none

/-- `left === right`, where no two objects are one -/
def strictEq : Field → Field → Bool
  | none, none => true
  | some .null, some .null => true
  | some (.bool b), some (.bool c) => b == c
  | some (.str s), some (.str t) => s == t
  | some (.num (.other n)), some (.num (.other m)) => n == m
  | left, right => (safeValue left).isSome && safeValue left == safeValue right

/-- `value === n` -/
def isNumber (value : Field) (n : Nat) : Bool := safeValue value == some (n : Int)

/-- `value === text` -/
def isText (value : Field) (text : String) : Bool :=
  match value with
  | some (.str s) => s == utf16 text
  | _ => false

/-- `Date`, on texts in any format -/
structure DateLib where
  /-- `new Date(text).getTime()`, unless it is NaN -/
  parse : JsString → Option Int
  /-- `new Date(ms).toISOString()` -/
  iso : Int → JsString

/-- a `Date` that reads only what it writes, and no time before 1970 -/
def isoDates : DateLib where
  parse s := (parseISO s).map Int.ofNat
  iso ms := toISOString ms.toNat

/-! ## assertions of the transaction contracts -/

def assertNonEmptyString (value : Field) (field : String) : Checked JsString :=
  match value with
  | some (.str (c :: s)) => .ok (c :: s)
  | _ => fail .txEnvelopeInvalid (field ++ " must be a non-empty string.") [("field", field)]

def assertPlainObject (value : Field) (field : String) : Checked Entries :=
  match value with
  | some (.obj es) => .ok es
  | _ => fail .txEnvelopeInvalid (field ++ " must be a plain object.") [("field", field)]

def assertArray (value : Field) (message : String) : Checked (List JsonValue) :=
  match value with
  | some (.arr values) => .ok values
  | _ => fail .txEnvelopeInvalid message

def isNull : Field → Bool
  | some .null => true
  | _ => false

def assertNullableNonEmptyString (value : Field) (field : String) : Checked Unit :=
  if isNull value then .ok ()
  else do
    let _ ← assertNonEmptyString value field
    return ()

def maxVbucket : Int := 65535

def assertVbucket (value : Field) : Checked Unit :=
  if isNull value || (safeValue value).any fun n => 0 ≤ n && n ≤ maxVbucket then .ok ()
  else fail .txEnvelopeInvalid
    ("vbucket must be null or an integer from 0 through " ++ toString maxVbucket ++ ".")

/-- `typeof value === "string" && texts.includes(value)` -/
def isOneOf (value : Field) (texts : List String) : Bool := texts.any fun text => isText value text

def structuredMutationKinds : List String := ["insert", "update", "delete", "upsert"]

def assertStructuredMutationKind (value : Field) : Checked Unit :=
  if isNull value || isOneOf value structuredMutationKinds then .ok ()
  else fail .txEnvelopeInvalid "operation must be null or an exact structured mutation kind."

def assertParticipantDecision (value : Field) : Checked Unit :=
  if isOneOf value ["abort", "commit"] then .ok ()
  else fail .txEnvelopeInvalid "decision must be an exact participant decision."

def assertParticipantPhase (value : Field) : Checked Unit :=
  if isOneOf value ["prepare", "commit", "abort", "status", "recover"] then .ok ()
  else fail .txEnvelopeInvalid "phase must be an exact participant phase."

def assertEpoch (value : Field) (field : String := "epoch") : Checked Int :=
  match safeValue value with
  | some n =>
    if n < 1 then
      fail .txEnvelopeInvalid (field ++ " must be a positive safe integer.") [("field", field)]
    else .ok n
  | none => fail .txEnvelopeInvalid (field ++ " must be a positive safe integer.") [("field", field)]

def isSha256Hex (s : JsString) : Bool :=
  s.length == 64 && s.all fun c =>
    (97 ≤ c.val && c.val ≤ 102) || (48 ≤ c.val && c.val ≤ 57)

/-- a string that is a digest -/
def digestOf : Field → Option JsString
  | some (.str s) => if isSha256Hex s then some s else none
  | _ => none

def assertSha256Hex (value : Field) (field : String) : Checked JsString :=
  match digestOf value with
  | some s => .ok s
  | none => fail .txEnvelopeInvalid (field ++ " must be a lowercase SHA-256 hexadecimal digest.")
      [("field", field)]

section dates
variable (D : DateLib)

/-- the time of a text that is the canonical one of its time -/
def canonicalTime (s : JsString) : Option Int :=
  match D.parse s with
  | some ms => if D.iso ms = s then some ms else none
  | none => none

def parseCanonicalUtcTimestamp (value : Field) (field : String) : Checked Int := do
  let s ← assertNonEmptyString value field
  match canonicalTime D s with
  | some ms => return ms
  | none =>
    fail .txEnvelopeInvalid
      (field ++ " must be a canonical UTC timestamp with millisecond precision.") [("field", field)]

def assertRetentionWindow (decidedAt deadline : Field) (minimumDays : Nat) : Checked Unit := do
  let decided ← parseCanonicalUtcTimestamp D decidedAt "decided_at"
  let retention ← parseCanonicalUtcTimestamp D deadline "retention_deadline"
  if retention - decided < minimumDays * dayMs then
    fail .txEnvelopeInvalid
      ("retention_deadline must be at least " ++ toString minimumDays ++ " days after the decision.")
      [("minimum_days", toString minimumDays)]
  else return ()

end dates

def isReadableProtocolVersion (version : Field) : Bool :=
  (safeValue version).any fun n =>
    (minReadableProtocolVersion : Int) ≤ n && n ≤ (currentProtocolVersion : Int)

def assertReadableProtocolVersion (version : Field) : Checked Unit :=
  if isReadableProtocolVersion version then .ok ()
  else do
    let text ← stringOf version
    fail .txVersionUnsupported
      ("Protocol version " ++ textOf text ++ " is not readable; supported versions are "
        ++ toString minReadableProtocolVersion ++ "-" ++ toString currentProtocolVersion ++ ".")
      [("received_version", textOf text),
        ("min_readable_version", toString minReadableProtocolVersion),
        ("current_version", toString currentProtocolVersion)]

def assertWritableProtocolVersion (version : Field) : Checked Unit :=
  if isNumber version currentProtocolVersion then .ok ()
  else do
    let text ← stringOf version
    fail .txVersionUnsupported
      ("Protocol version " ++ textOf text ++ " is read-only or unsupported; new writes require version "
        ++ toString currentProtocolVersion ++ ".")
      [("received_version", textOf text), ("current_version", toString currentProtocolVersion)]

/-- a format version that is none of those that are read -/
def unsupportedFormat (format : Field) (before after : String) : Checked Unit := do
  let text ← stringOf format
  fail .txVersionUnsupported (before ++ textOf text ++ after)

/-! ## assertions of the manifest contracts -/

def unknownKeys (es : Entries) (keys : List String) : List JsString :=
  (es.map Prod.fst).filter fun name => !(keys.any fun key => name == utf16 key)

def missingKeys (es : Entries) (keys : List String) : List String :=
  keys.filter fun key => !has es key

def assertExactKeys (es : Entries) (field : String) (keys : List String) : Checked Unit :=
  if unknownKeys es keys ≠ [] then
    fail .manifestInvalidRequest (field ++ " contains unknown fields.")
      [("field", field),
        ("unknown_fields", String.intercalate "," ((unknownKeys es keys).map textOf))]
  else if missingKeys es keys ≠ [] then
    fail .manifestInvalidRequest (field ++ " is missing required fields.")
      [("field", field), ("missing_fields", String.intercalate "," (missingKeys es keys))]
  else .ok ()

def hasManifestVersion (es : Entries) (expectedFormat : Nat) : Bool :=
  isNumber (get es "protocol_version") currentProtocolVersion
    && isNumber (get es "format_version") expectedFormat

def assertManifestVersion (es : Entries) (expectedFormat : Nat) (field : String) : Checked Unit :=
  if hasManifestVersion es expectedFormat then .ok ()
  else do
    let protocol ← stringOf (get es "protocol_version")
    let format ← stringOf (get es "format_version")
    fail .manifestVersionUnsupported
      (field ++ " uses an unsupported protocol or format version.")
      [("protocol_version", textOf protocol), ("format_version", textOf format)]

def assertSafeInteger (value : Field) (field : String) (minimum : Nat := 0) : Checked Int :=
  match safeValue value with
  | some n =>
    if n < minimum then
      fail .manifestInvalidRequest
        (field ++ " must be a safe integer greater than or equal to " ++ toString minimum ++ ".")
        [("field", field)]
    else .ok n
  | none => fail .manifestInvalidRequest
      (field ++ " must be a safe integer greater than or equal to " ++ toString minimum ++ ".")
      [("field", field)]

def assertManifestString (value : Field) (field : String) : Checked JsString :=
  match value with
  | some (.str (c :: s)) => .ok (c :: s)
  | _ => fail .manifestInvalidRequest (field ++ " must be a non-empty string.") [("field", field)]

def assertManifestHash (value : Field) (field : String) : Checked JsString :=
  match digestOf value with
  | some s => .ok s
  | none => fail .manifestInvalidRequest
      (field ++ " must be a lowercase SHA-256 hexadecimal digest.") [("field", field)]

def assertNullableManifestHash (value : Field) (field : String) : Checked Unit :=
  if isNull value then .ok ()
  else do
    let _ ← assertManifestHash value field
    return ()

/-- `/^\d{4}-\d{2}-\d{2}$/` -/
def isDayText (s : JsString) : Bool :=
  match s with
  | [y₁, y₂, y₃, y₄, a, m₁, m₂, b, d₁, d₂] =>
    isDigit y₁ && isDigit y₂ && isDigit y₃ && isDigit y₄ && a == 45 && isDigit m₁ && isDigit m₂
      && b == 45 && isDigit d₁ && isDigit d₂
  | _ => false

section dates
variable (D : DateLib)

def parseManifestTimestamp (value : Field) (field : String) : Checked Int := do
  let s ← assertManifestString value field
  match canonicalTime D s with
  | some ms => return ms
  | none =>
    fail .manifestInvalidRequest
      (field ++ " must be a canonical UTC timestamp with millisecond precision.") [("field", field)]

/-- the time of the first millisecond of a day -/
def dayStart (s : JsString) : Option Int := D.parse (s ++ utf16 "T00:00:00.000Z")

/-- `toISOString` of an invalid date throws before anything is compared -/
def assertUtcDay (value : Field) (field : String) : Checked JsString := do
  let s ← assertManifestString value field
  let invalid : Checked JsString :=
    fail .manifestInvalidRequest (field ++ " must be a canonical UTC calendar day.")
      [("field", field)]
  if !isDayText s then invalid
  else
    match dayStart D s with
    | none => .error (.native .rangeError)
    | some ms => if (D.iso ms).take 10 ≠ s then invalid else return s

end dates

/-! ## what a caller is told -/

def asProtocolError : Thrown → TransactionProtocolError
  | .violation error => error
  | .native _ =>
    durableObjectUnavailableError
      { overloaded := false, retryable := false, retryAfterMs := none, message := "" }
      .txManifestUnavailable "Journal manifest service is temporarily unavailable."

/-- accepted, or rejected for good -/
def Permanent {α : Type} (r : Checked α) : Prop :=
  ∀ e, r = .error e → ∃ error, e = .violation error ∧ (asProtocolError e).retryable = false

theorem permanent_ok {α : Type} (a : α) : Permanent (.ok a : Checked α) := by
  intro e he
  exact absurd he (by simp)

theorem permanent_fail {α : Type} {code : TransactionErrorCode} (hcode : retryableErrors.contains code = false)
    (message : String) (details : List (String × String)) :
    Permanent (fail code message details : Checked α) := by
  intro e he
  cases he
  exact ⟨_, rfl, hcode⟩

theorem not_permanent_native {α : Type} (n : NativeError) :
    ¬ Permanent (.error (.native n) : Checked α) := by
  intro h
  obtain ⟨error, herror, _⟩ := h _ rfl
  exact absurd herror (by simp)

/-- **a check after a check** -/
theorem permanent_bind {α β : Type} {x : Checked α} {f : α → Checked β} :
    Permanent (x >>= f) ↔ Permanent x ∧ ∀ a, x = .ok a → Permanent (f a) := by
  cases x with
  | ok a =>
    constructor
    · intro h
      refine ⟨permanent_ok a, fun b hb => ?_⟩
      cases hb
      exact h
    · intro h
      exact h.2 a rfl
  | error e =>
    constructor
    · intro h
      exact ⟨fun e' he' => h e' (by cases he'; rfl), fun b hb => absurd hb (by simp)⟩
    · intro h e' he'
      exact h.1 e' (by cases he'; rfl)

/-- a check after a check that never throws natively -/
theorem Permanent.bind {α β : Type} {x : Checked α} {f : α → Checked β} (hx : Permanent x)
    (hf : ∀ a, Permanent (f a)) : Permanent (x >>= f) :=
  permanent_bind.mpr ⟨hx, fun a _ => hf a⟩

theorem Permanent.ite {α : Type} {p : Prop} [Decidable p] {x y : Checked α} (hx : Permanent x)
    (hy : Permanent y) : Permanent (if p then x else y) := by
  split
  · exact hx
  · exact hy

end Wire
