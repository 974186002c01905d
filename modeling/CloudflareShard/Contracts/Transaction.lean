import Mathlib.Data.List.Basic
import Mathlib.Tactic.Linarith

/-!
# The transaction protocol

What the coordinator and the participants share: states, legal transitions and typed errors.

* `TransactionState`, `isTransactionTransitionAllowed`   states and the transition table;
* `isCommitDecidedOrLater`, `isAbortDecidedOrLater`      the two sides of a decision;
* `transactionError`, `classifyDurableObjectFailure`     typed errors.
-/

namespace Contracts

def currentProtocolVersion : Nat := 1
def minReadableProtocolVersion : Nat := 1
def transactionStateModelVersion : Nat := 2
def minReadableTransactionStateModelVersion : Nat := 1
def defaultDurableObjectRetryAfterMs : Nat := 5000
def defaultDurableObjectOverloadRetryAfterMs : Nat := 30000
def maxDurableObjectRetryAfterMs : Nat := 5 * 60000
def coordinatorRetentionDays : Nat := 35
def participantTombstoneRetentionDays : Nat := 35
def dayMs : Nat := 24 * 60 * 60 * 1000

/-! ## states -/

inductive TransactionState where
  | new
  | manifestReserving
  | preparing
  | abortDecided
  | aborting
  | aborted
  | abortedPendingManifestCancel
  | prepared
  | commitDeciding
  | commitDecided
  | commitPendingManifest
  | manifestRegistered
  | committing
  | committedPendingAck
  | committed
  | quarantined
  deriving DecidableEq

inductive TransactionDecision where
  | undecided
  | abort
  | commit
  | quarantined
  deriving DecidableEq

open TransactionState in
def TransactionState.text : TransactionState → String
  | new => "new"
  | manifestReserving => "manifest_reserving"
  | preparing => "preparing"
  | abortDecided => "abort_decided"
  | aborting => "aborting"
  | aborted => "aborted"
  | abortedPendingManifestCancel => "aborted_pending_manifest_cancel"
  | prepared => "prepared"
  | commitDeciding => "commit_deciding"
  | commitDecided => "commit_decided"
  | commitPendingManifest => "commit_pending_manifest"
  | manifestRegistered => "manifest_registered"
  | committing => "committing"
  | committedPendingAck => "committed_pending_ack"
  | committed => "committed"
  | quarantined => "quarantined"

open TransactionState in
def directTransitions : TransactionState → List TransactionState
  | new => [manifestReserving, preparing, quarantined]
  | manifestReserving =>
    [preparing, abortDecided, aborted, abortedPendingManifestCancel, quarantined]
  | preparing => [abortDecided, prepared, quarantined]
  | abortDecided => [aborting, quarantined]
  | aborting => [aborted, abortedPendingManifestCancel, quarantined]
  | aborted => [quarantined]
  | abortedPendingManifestCancel => [aborted, quarantined]
  | prepared => [abortDecided, commitDeciding, commitDecided, quarantined]
  | commitDeciding => [commitPendingManifest, manifestRegistered, quarantined]
  | commitDecided => [commitPendingManifest, manifestRegistered, quarantined]
  | commitPendingManifest => [manifestRegistered, quarantined]
  | manifestRegistered => [committing, quarantined]
  | committing => [committedPendingAck, committed, quarantined]
  | committedPendingAck => [committed, quarantined]
  | committed => [quarantined]
  -- only the audited quarantine repair takes these exits
  | quarantined => [manifestRegistered, aborted]

def isCommitDecidedOrLater (state : TransactionState) : Bool :=
  state == .commitDecided || state == .commitDeciding || state == .commitPendingManifest
    || state == .manifestRegistered || state == .committing || state == .committedPendingAck
    || state == .committed

def isAbortDecidedOrLater (state : TransactionState) : Bool :=
  state == .abortDecided || state == .aborting || state == .abortedPendingManifestCancel
    || state == .aborted

def isTransactionTransitionAllowed (fromState toState : TransactionState) : Bool :=
  fromState == toState || (directTransitions fromState).contains toState

/-! ## errors -/

inductive TransactionErrorCode where
  | txInvalidTransition
  | txCommitAlreadyDecided
  | txAbortAlreadyDecided
  | txEpochStale
  | txEpochConflict
  | txDecisionConflict
  | txIdRequestMismatch
  | txEnvelopeHashMismatch
  | txEnvelopeInvalid
  | txEnvelopeTooLarge
  | txManifestConflict
  | txDecisionUnavailable
  | txManifestUnavailable
  | txVersionUnsupported
  | txQuarantined
  | txAborted
  | manifestInvalidRequest
  | manifestFutureCutoff
  | manifestNonmonotonicCutoff
  | manifestSealInProgress
  | manifestReservationConflict
  | manifestTerminalConflict
  | manifestCursorMismatch
  | manifestCoverageGap
  | manifestVersionUnsupported
  | manifestTemporarilyUnavailable
  | manifestQuarantined
  | manifestRetentionExpired
  | manifestUnprovenLegacyWindow
  | legacyCertificationUnavailable
  | v1Closed
  deriving DecidableEq

open TransactionErrorCode in
def errorHttpStatus : TransactionErrorCode → Nat
  | txEnvelopeInvalid => 400
  | txEnvelopeTooLarge => 413
  | txDecisionUnavailable => 503
  | txManifestUnavailable => 503
  | txVersionUnsupported => 503
  | manifestInvalidRequest => 400
  | manifestCursorMismatch => 400
  | manifestVersionUnsupported => 503
  | manifestTemporarilyUnavailable => 503
  | manifestRetentionExpired => 410
  | legacyCertificationUnavailable => 503
  | _ => 409

open TransactionErrorCode in
def retryableErrors : List TransactionErrorCode :=
  [txDecisionUnavailable, txManifestUnavailable, manifestSealInProgress,
    manifestTemporarilyUnavailable, legacyCertificationUnavailable]

structure TransactionProtocolError where
  code : TransactionErrorCode
  message : String
  httpStatus : Nat
  retryable : Bool
  overloaded : Bool
  retryAfterMs : Option Nat
  details : List (String × String)

structure DurableObjectFailureClassification where
  overloaded : Bool
  retryable : Bool
  retryAfterMs : Nat

/-- the flags and the hint the platform puts on an exception -/
structure DurableObjectFailure where
  overloaded : Bool
  retryable : Bool
  retryAfterMs : Option Nat
  message : String

def boundedInteger (value : Option Nat) (fallback maximum : Nat) : Nat :=
  match value with
  | some (n + 1) => min maximum (max 1 (n + 1))
  | _ => fallback

def classifyDurableObjectFailure (error : DurableObjectFailure) :
    DurableObjectFailureClassification :=
  let fallback := if error.overloaded then defaultDurableObjectOverloadRetryAfterMs
    else defaultDurableObjectRetryAfterMs
  { overloaded := error.overloaded
    retryable := !error.overloaded && error.retryable
    retryAfterMs := boundedInteger error.retryAfterMs fallback maxDurableObjectRetryAfterMs }

def transactionError (code : TransactionErrorCode) (message : String)
    (details : List (String × String) := [])
    (transport : Option DurableObjectFailureClassification := none) : TransactionProtocolError :=
  { code, message, details
    httpStatus := errorHttpStatus code
    retryable := retryableErrors.contains code
    overloaded := transport.any (·.overloaded)
    retryAfterMs := transport.map (·.retryAfterMs) }

def durableObjectUnavailableError (error : DurableObjectFailure) (code : TransactionErrorCode)
    (message : String) : TransactionProtocolError :=
  transactionError code message [] (some (classifyDurableObjectFailure error))

def fail {α : Type} (code : TransactionErrorCode) (message : String)
    (details : List (String × String) := []) : Except TransactionProtocolError α :=
  .error (transactionError code message details)

def assertTransactionTransition (fromState toState : TransactionState) :
    Except TransactionProtocolError Unit :=
  let details := [("from", fromState.text), ("to", toState.text)]
  let path := "from " ++ fromState.text ++ " to " ++ toState.text
  if isTransactionTransitionAllowed fromState toState then .ok ()
  else if isCommitDecidedOrLater fromState && isAbortDecidedOrLater toState then
    fail .txCommitAlreadyDecided
      ("Transaction cannot transition " ++ path ++ " after commit was decided.") details
  else if isAbortDecidedOrLater fromState && isCommitDecidedOrLater toState then
    fail .txAbortAlreadyDecided
      ("Transaction cannot transition " ++ path ++ " after abort was decided.") details
  else
    fail .txInvalidTransition ("Illegal transaction transition " ++ path ++ ".") details

def assertReadableProtocolVersion (version : Nat) : Except TransactionProtocolError Unit :=
  if minReadableProtocolVersion ≤ version ∧ version ≤ currentProtocolVersion then .ok ()
  else
    fail .txVersionUnsupported
      ("Protocol version " ++ toString version ++ " is not readable; supported versions are "
        ++ toString minReadableProtocolVersion ++ "-" ++ toString currentProtocolVersion ++ ".")
      [("received_version", toString version),
        ("min_readable_version", toString minReadableProtocolVersion),
        ("current_version", toString currentProtocolVersion)]

def assertWritableProtocolVersion (version : Nat) : Except TransactionProtocolError Unit :=
  if version = currentProtocolVersion then .ok ()
  else
    fail .txVersionUnsupported
      ("Protocol version " ++ toString version
        ++ " is read-only or unsupported; new writes require version "
        ++ toString currentProtocolVersion ++ ".")
      [("received_version", toString version), ("current_version", toString currentProtocolVersion)]

def assertReadableTransactionStateModelVersion (version : Nat) :
    Except TransactionProtocolError Unit :=
  if minReadableTransactionStateModelVersion ≤ version
      ∧ version ≤ transactionStateModelVersion then .ok ()
  else
    fail .txVersionUnsupported
      ("Transaction state-model version " ++ toString version ++ " is unsupported.")

@[simp] theorem assertTransactionTransition_ok {fromState toState : TransactionState} :
    assertTransactionTransition fromState toState = .ok () ↔ isTransactionTransitionAllowed fromState toState := by
  unfold assertTransactionTransition
  by_cases h : isTransactionTransitionAllowed fromState toState = true
  · simp [h]
  · simp only [h, fail, Bool.false_eq_true, if_false]
    split_ifs <;> exact ⟨nofun, False.elim⟩

theorem not_abort_of_commit {state : TransactionState} (h : isCommitDecidedOrLater state) :
    isAbortDecidedOrLater state = false := by
  cases state <;> simp_all [isCommitDecidedOrLater, isAbortDecidedOrLater]

/-- the table never leads from one side of a decision to the other in one transition -/
theorem transition_keeps_decision {fromState toState : TransactionState}
    (h : isTransactionTransitionAllowed fromState toState) :
    (isCommitDecidedOrLater fromState → isAbortDecidedOrLater toState = false) ∧
      (isAbortDecidedOrLater fromState → isCommitDecidedOrLater toState = false) := by
  revert h
  cases fromState <;> cases toState <;> decide

end Contracts
