import Mathlib.Data.List.Infix
import CloudflareShard.Coordinator.Handlers

/-!
# How a restore reads the answers of other objects

* `RestoreErrorCode`, `RestoreProtocolError`   the errors of the restore contract;
* `Remote`, `remoteOf`                         the code and the message that an answer carries;
* `responseJson`, `postToStub`                 a refused answer as an error of the contract;
* `responseJson_retryable`                     **which refusals are worth another try**.
-/

namespace Contracts

/-- the code as it stands in an answer -/
def TransactionErrorCode.text : TransactionErrorCode → String
  | .txInvalidTransition => "TX_INVALID_TRANSITION"
  | .txCommitAlreadyDecided => "TX_COMMIT_ALREADY_DECIDED"
  | .txAbortAlreadyDecided => "TX_ABORT_ALREADY_DECIDED"
  | .txEpochStale => "TX_EPOCH_STALE"
  | .txEpochConflict => "TX_EPOCH_CONFLICT"
  | .txDecisionConflict => "TX_DECISION_CONFLICT"
  | .txIdRequestMismatch => "TX_ID_REQUEST_MISMATCH"
  | .txEnvelopeHashMismatch => "TX_ENVELOPE_HASH_MISMATCH"
  | .txEnvelopeInvalid => "TX_ENVELOPE_INVALID"
  | .txEnvelopeTooLarge => "TX_ENVELOPE_TOO_LARGE"
  | .txManifestConflict => "TX_MANIFEST_CONFLICT"
  | .txDecisionUnavailable => "TX_DECISION_UNAVAILABLE"
  | .txManifestUnavailable => "TX_MANIFEST_UNAVAILABLE"
  | .txVersionUnsupported => "TX_VERSION_UNSUPPORTED"
  | .txQuarantined => "TX_QUARANTINED"
  | .txAborted => "TX_ABORTED"
  | .manifestInvalidRequest => "MANIFEST_INVALID_REQUEST"
  | .manifestFutureCutoff => "MANIFEST_FUTURE_CUTOFF"
  | .manifestNonmonotonicCutoff => "MANIFEST_NONMONOTONIC_CUTOFF"
  | .manifestSealInProgress => "MANIFEST_SEAL_IN_PROGRESS"
  | .manifestReservationConflict => "MANIFEST_RESERVATION_CONFLICT"
  | .manifestTerminalConflict => "MANIFEST_TERMINAL_CONFLICT"
  | .manifestCursorMismatch => "MANIFEST_CURSOR_MISMATCH"
  | .manifestCoverageGap => "MANIFEST_COVERAGE_GAP"
  | .manifestVersionUnsupported => "MANIFEST_VERSION_UNSUPPORTED"
  | .manifestTemporarilyUnavailable => "MANIFEST_TEMPORARILY_UNAVAILABLE"
  | .manifestQuarantined => "MANIFEST_QUARANTINED"
  | .manifestRetentionExpired => "MANIFEST_RETENTION_EXPIRED"
  | .manifestUnprovenLegacyWindow => "MANIFEST_UNPROVEN_LEGACY_WINDOW"
  | .legacyCertificationUnavailable => "LEGACY_CERTIFICATION_UNAVAILABLE"
  | .v1Closed => "V1_CLOSED"

end Contracts

namespace Restore
open Contracts

inductive RestoreErrorCode where
  | invalidRequest
  | versionUnsupported
  | cutoffInFuture
  | cutoffOutsidePitrWindow
  | bookmarkMissing
  | enumerationIncomplete
  | planHashMismatch
  | planStale
  | conflict
  | interrupted
  | manifestGap
  | hashContradiction
  | invariantFailed
  | unavailable
  deriving DecidableEq

def restoreErrorHttpStatus : RestoreErrorCode → Nat
  | .invalidRequest => 400
  | .versionUnsupported => 400
  | .cutoffOutsidePitrWindow => 410
  | .interrupted => 503
  | .unavailable => 503
  | _ => 409

def retryableRestoreErrors : List RestoreErrorCode := [.interrupted, .unavailable]

inductive Detail where
  | httpStatus (status : Nat)
  | remoteCode (code : String)
  | txId (txId : TxId)
  deriving DecidableEq

structure RestoreProtocolError where
  code : RestoreErrorCode
  message : String
  httpStatus : Nat
  retryable : Bool
  details : List Detail
  deriving DecidableEq

def restoreError (code : RestoreErrorCode) (message : String) (details : List Detail := []) :
    RestoreProtocolError :=
  { code, message, details
    httpStatus := restoreErrorHttpStatus code
    retryable := retryableRestoreErrors.contains code }

def failure {α : Type} (code : RestoreErrorCode) (message : String) (details : List Detail := []) :
    Except RestoreProtocolError α :=
  .error (restoreError code message details)

@[simp] theorem failure_ne_ok {α : Type} {code : RestoreErrorCode} {message : String}
    {details : List Detail} {a : α} : (failure code message details = .ok a) = False := by
  simp [failure]

/-! ## refused answers -/

/-- the fields `code` and `message` of a body, where they are strings that are not empty -/
structure Remote where
  code : Option String
  message : Option String

def remoteOf : Coordinator.Body → Remote
  | .error error | .participantError error _ _ => ⟨some error.code.text, some error.message⟩
  | .failure code message => ⟨some code, some message⟩
  | .discardedByRestore _ =>
    ⟨some "TX_DISCARDED_BY_RESTORE",
      some "This post-cutoff coordinator was durably discarded by fleet restore."⟩
  | _ => ⟨none, none⟩

def includes (text word : String) : Bool := decide (word.toList <:+: text.toList)

/-- what a refusal with the status 409 is taken for -/
def conflictOf (remoteCode : String) : RestoreErrorCode :=
  if includes remoteCode "BOOKMARK" then .bookmarkMissing
  else if includes remoteCode "COVERAGE" || includes remoteCode "GAP"
      || includes remoteCode "INCOMPLETE" then .enumerationIncomplete
  else if includes remoteCode "HASH" || includes remoteCode "ENVELOPE" then .hashContradiction
  else if includes remoteCode "VERIFY" || includes remoteCode "INVARIANT" then .invariantFailed
  else if includes remoteCode "TOPOLOGY" || includes remoteCode "STALE" then .planStale
  else .conflict

def responseJson (status : Nat) (remote : Remote) (context : String) :
    Except RestoreProtocolError Unit :=
  if 200 ≤ status ∧ status < 300 then .ok ()
  else
    let remoteCode := remote.code.getD ""
    let remoteMessage := remote.message.getD (context ++ " rejected the restore operation.")
    let details := [.httpStatus status, .remoteCode remoteCode]
    if status = 408 ∨ status = 425 ∨ status = 429 then failure .unavailable remoteMessage details
    else if status = 404 ∧ context = "/redo-envelope" then
      failure .manifestGap "A manifest record references a redo envelope that is unavailable."
    else if 400 ≤ status ∧ status < 500 ∧ status ≠ 409 then
      if remoteCode.endsWith "VERSION_UNSUPPORTED" then failure .versionUnsupported remoteMessage
      else failure .invalidRequest remoteMessage details
    else if status = 409 then
      match conflictOf remoteCode with
      | .conflict => failure .conflict remoteMessage [.remoteCode remoteCode]
      | code => failure code remoteMessage
    else failure .unavailable remoteMessage details

theorem conflictOf_fatal (remoteCode : String) : conflictOf remoteCode ∉ retryableRestoreErrors := by
  unfold conflictOf
  repeat' split
  all_goals decide

/-- **a refusal is tried again unless the other object says that the request is at fault** -/
theorem responseJson_retryable {status : Nat} {remote : Remote} {context : String}
    {error : RestoreProtocolError} (h : responseJson status remote context = .error error) :
    error.retryable ↔ status ∈ [408, 425, 429] ∨ status < 400 ∨ 500 ≤ status := by
  have hfatal := conflictOf_fatal (remote.code.getD "")
  unfold responseJson failure at h
  dsimp only at h
  split at h
  · cases h
  split at h
  · rename_i hbusy
    cases h
    simpa [restoreError, retryableRestoreErrors] using .inl hbusy
  rename_i hbusy
  have hnot : status ∉ [408, 425, 429] := by simpa using hbusy
  split at h
  · rename_i hgap
    cases h
    simp [restoreError, retryableRestoreErrors, hgap.1]
  split at h
  · rename_i hrefused
    have hno : ¬(status ∈ [408, 425, 429] ∨ status < 400 ∨ 500 ≤ status) := by
      rintro (hb | hb | hb)
      · exact hnot hb
      · omega
      · omega
    split at h <;> cases h <;> simpa [restoreError, retryableRestoreErrors] using hno
  split at h
  · rename_i hconflict
    subst hconflict
    split at h
    · cases h
      simp [restoreError, retryableRestoreErrors]
    · cases h
      simp [restoreError, hfatal]
  · rename_i hrange hconflict
    cases h
    have hyes : status < 400 ∨ 500 ≤ status := by omega
    simpa [restoreError, retryableRestoreErrors] using .inr hyes

/-- the answer of a coordinator, or `none` when the call was rejected -/
def postToStub (answer : Option Coordinator.Response) (path : String) :
    Except RestoreProtocolError Coordinator.Body :=
  match answer with
  | none => failure .unavailable (path ++ " is temporarily unavailable.")
  | some response => do
    responseJson response.status (remoteOf response.body) path
    return response.body

end Restore
