import CloudflareShard.Async.Run
import CloudflareShard.Contracts.Participant

/-!
# The durable state of a coordinator

One coordinator object owns one transaction row, its participants, at most one piece of recovery
work and the admission circuit.  Next to them stand the fields an object loses when it restarts.

* `TxRow`, `QueueRow`, `Store`       the tables, the alarm, the clock, the in-memory fields;
* `Ask`, `Ask.Answer`                the calls a coordinator awaits and what they answer;
* `Response`, `CoordinatorError`     what a handler returns or throws;
* `transition`, `reschedule`         the compare-and-set every state change goes through.
-/

namespace Coordinator
open Async Contracts

/-! ## rows -/

/-- the column `last_error` -/
inductive LastError where
  | protocol (error : TransactionProtocolError)
  | discardedByRestore (restoreId : String) (generation : Nat)
  | malformed (text : String)

structure TxRow where
  txId : TxId
  status : TransactionState
  createdAt : Nat
  operationJson : List BeginParticipant
  operationHash : Hash
  protocolVersion : Nat
  stateModelVersion : Nat
  epoch : Nat
  decision : TransactionDecision
  fleetId : String
  coordinatorId : String
  redoEnvelopeJson : Option RedoEnvelope
  manifestRegistrationJson : Option ManifestRegistration
  manifestRouteAssignmentRequestJson : Option ManifestRouteAssignmentRequest
  manifestReservationJson : Option ManifestReservation
  manifestReservationHash : Option Hash
  manifestFinalizeRequestJson : Option ManifestFinalizeRequest
  manifestCancelRequestJson : Option ManifestCancelRequest
  redoEnvelopeIntentJson : Option RedoEnvelope
  manifestRecordJson : Option ManifestRecordV2
  manifestRecordHash : Option Hash
  commitDecidedAtMs : Option Nat
  decisionSequence : Option Nat
  resultJson : Option TransactionState
  lastError : Option LastError

inductive PhaseStatus where
  | pending
  | prepared
  | committed
  deriving DecidableEq

structure ParticipantRow where
  shardId : ShardId
  phaseStatus : PhaseStatus
  epoch : Nat
  operationHash : Hash
  prepareBookmark : Option String

/-- the last two actions are the shard routes the predecessor schema queued -/
inductive RecoveryAction where
  | reserve
  | finalize
  | cancel
  | manifest
  | commit
  | abort
  | legacyAbort
  | release
  | commitRoute
  | abortRoute
  deriving DecidableEq

structure QueueRow where
  action : RecoveryAction
  nextAttemptAt : Nat
  attemptCount : Nat

structure Circuit where
  failureCount : Nat
  failureWindowStartedAtMs : Nat
  openUntilMs : Nat
  openCount : Nat
  halfOpenProbe : Bool
  halfOpenProbeUntilMs : Nat

structure RestoreDiscard where
  restoreId : String
  generation : Nat
  discardedAtMs : Nat

/-! ## calls -/

structure RestoreClaim where
  restoreId : String
  generation : Nat

/-- what a coordinator posts to a shard -/
inductive ShardRequest where
  | prepare (message : ParticipantMessage) (intents : List BeginIntent)
  | commit (message : ParticipantMessage)
  | abort (message : ParticipantMessage) (legacyPredecisionAbort : Bool)
  | recoverAbort (message : ParticipantMessage) (claim : Option RestoreClaim)
  | legacyCommit (coordinatorTxId : TxId)
  | legacyAbort (coordinatorTxId : TxId)

structure ShardBody where
  prepareBookmark : Option String
  prepareCheckpointExact : Bool
  text : String

inductive ShardOutcome where
  | rejected (message : String)
  | response (ok : Bool) (body : ShardBody)

def ShardOutcome.ok : ShardOutcome → Bool
  | .rejected _ => false
  | .response ok _ => ok

inductive GateReply where
  | refused (status : Nat)
  | malformed
  | snapshot (active : Bool) (restoreId : Option String) (generation : Nat)

inductive RegistryReply where
  | refused (status : Nat)
  | malformed
  | malformedDirective
  | registered
  | discardRequired (restoreId : String) (generation cutoff : Nat)

inductive Ask where
  | gate (fleetId : String) (claim : Option RestoreClaim)
  | registerCoordinator (fleetId coordinatorId : String) (existingCreatedAt : Option Nat)
  | assignManifestRoute (request : ManifestRouteAssignmentRequest)
  | reserveManifest (request : ManifestReserveRequest)
  | finalizeManifest (request : ManifestFinalizeRequest)
  | cancelManifest (request : ManifestCancelRequest)
  | resolveManifestQuarantine (request : QuarantineResolutionRequest)
  | releaseManifestV2 (request : ManifestV2ReleaseRequest)
  | registerManifest (registration : ManifestRegistration)
  | releaseManifestRetention (request : ManifestReleaseRequest)
  | checkManifestAdmission (request : ManifestAdmissionRequest)
  /-- one request to each of several shards at once -/
  | shards (messages : List (ShardId × ShardRequest))

/-- a call of another object answers or is rejected -/
def Ask.Answer : Ask → Type
  | gate .. => Except DurableObjectFailure GateReply
  | registerCoordinator .. => Except DurableObjectFailure RegistryReply
  | assignManifestRoute _ => Except DurableObjectFailure ManifestAssignResult
  | reserveManifest _ => Except DurableObjectFailure ManifestReserveResult
  | finalizeManifest _ => Except DurableObjectFailure ManifestFinalizeResult
  | cancelManifest _ => Except DurableObjectFailure ManifestCancelResult
  | resolveManifestQuarantine _ => Except DurableObjectFailure ManifestResolutionResult
  | releaseManifestV2 _ => Except DurableObjectFailure ManifestReleaseResult
  | registerManifest _ => Except DurableObjectFailure ManifestRegisterResult
  | releaseManifestRetention _ => Except DurableObjectFailure ManifestReleaseResult
  | checkManifestAdmission _ => Except DurableObjectFailure ManifestAdmissionResult
  | shards _ => Nat → ShardOutcome

/-- every answer is possible, only that the journal resolves a quarantine the way it was asked to -/
def Ask.possible : (q : Ask) → q.Answer → Bool
  | resolveManifestQuarantine request, .ok (.resolved resolution _ _ _) =>
    resolution == request.resolution
  | _, _ => true

/-! ## results -/

inductive CoordinatorError where
  | casLost (state : TransactionState)
  | contract (error : TransactionProtocolError)
  | gateDenied (message : String)
  | error (message : String)

inductive CandidateKind where
  | record
  | finalizeIntent
  | cancelIntent

structure TxStatusReply where
  status : TransactionState
  decision : TransactionDecision
  epoch : Nat
  operationHash : Hash
  commitAuthorized : Bool
  quarantineCandidates : List (CandidateKind × Hash)

structure LossEntry where
  txId : TxId
  operationHash : Hash
  decision : TransactionDecision
  commitDecidedAt : Nat
  envelopeHash : Option Hash

/-- the JSON body of a response -/
inductive Body where
  | error (error : TransactionProtocolError)
  | participantError (error : TransactionProtocolError) (participant : ShardId) (details : String)
  | failure (code message : String)
  | message (error : String)
  | status (status : TransactionState) (resolutionAttestationHash : Option Hash)
  | txAbsent
  | txStatus (reply : TxStatusReply)
  | txDiscarded (discard : RestoreDiscard)
  | discardedByRestore (discard : Option RestoreDiscard)
  | discardAck (discard : RestoreDiscard)
  | lossPage (closedThrough : Nat) (requiresDiscard : Bool) (entries : List LossEntry)
  | envelope (stateModelVersion : Nat) (envelope : RedoEnvelope)
  | stats (status : Option TransactionState) (recovery : Option (RecoveryAction × Nat))

structure Response where
  status : Nat
  body : Body

def json (body : Body) (status : Nat := 200) : Response := { status, body }

def statusResponse (state : TransactionState) (http : Nat := 200) : Response :=
  json (.status state none) http

def protocolResponse (error : TransactionProtocolError) : Response :=
  json (.error error) error.httpStatus

/-! ## the store -/

/-- `sent` and `replies` record what left the object; `drained` counts the drains that resolved -/
structure Store where
  transaction : Option TxRow
  participants : List ParticipantRow
  queue : Option QueueRow
  circuit : Circuit
  discard : Option RestoreDiscard
  alarm : Option Nat
  now : Nat
  sent : List (ShardId × ShardRequest)
  replies : List TxStatusReply
  activeMutations : Int
  mutationDrainWaiters : List Nat
  drained : Nat
  nextToken : Nat
  recoveryInFlight : Option Nat
  releaseRecoveryInFlight : Option Nat
  settled : List (Nat × Except CoordinatorError (Option Response))

def Circuit.closed : Circuit :=
  { failureCount := 0, failureWindowStartedAtMs := 0, openUntilMs := 0, openCount := 0
    halfOpenProbe := false, halfOpenProbeUntilMs := 0 }

def Store.empty : Store :=
  { transaction := none, participants := [], queue := none, circuit := .closed, discard := none
    alarm := none, now := 0, sent := [], replies := [], activeMutations := 0
    mutationDrainWaiters := [], drained := 0, nextToken := 0, recoveryInFlight := none
    releaseRecoveryInFlight := none, settled := [] }

/-- a restarted object has its tables, its alarm and what it sent -/
def Store.restart (s : Store) : Store :=
  { s with
    activeMutations := 0, mutationDrainWaiters := [], recoveryInFlight := none
    releaseRecoveryInFlight := none, settled := [] }

def Store.updateTx (f : TxRow → TxRow) (s : Store) : Store :=
  { s with transaction := s.transaction.map f }

def Store.queueRecovery (action : RecoveryAction) (at_ : Nat) (attemptCount : Nat := 0)
    (s : Store) : Store :=
  { s with queue := some { action, nextAttemptAt := at_, attemptCount } }

def Store.dropRecovery (s : Store) : Store := { s with queue := none }

/-- bindings and configuration of the object; `txId` is the transaction it is addressed by -/
structure Bindings where
  txId : TxId
  deploymentFleetId : String
  restoreCoordinator : Bool
  controlPlane : Bool
  resolvesQuarantine : Bool

abbrev Coord := Prog Store Ask Ask.Answer CoordinatorError

def liftContract {α : Type} : Except TransactionProtocolError α → Coord α
  | .ok a => .pure a
  | .error e => .throw (.contract e)

def gets {α : Type} (f : Store → α) : Coord α := .step id fun s => .pure (f s)

def loadTx : Coord (Option TxRow) := gets (·.transaction)

def dateNow : Coord Nat := gets (·.now)

/-- `loadTx` where the source throws when the row is gone -/
def loadTxOrThrow (message : String) : Coord TxRow := do
  match ← loadTx with
  | some row => return row
  | none => .throw (.error message)

def stateModel1States : List TransactionState :=
  [.new, .preparing, .abortDecided, .aborting, .aborted, .prepared, .commitDecided,
    .commitPendingManifest, .manifestRegistered, .committing, .committedPendingAck, .committed,
    .quarantined]

def stateOf (row : TxRow) : Except TransactionProtocolError TransactionState := do
  assertReadableProtocolVersion row.protocolVersion
  assertReadableTransactionStateModelVersion row.stateModelVersion
  if row.stateModelVersion = 1 ∧ row.status ∉ stateModel1States then
    fail .txVersionUnsupported
      ("Transaction state " ++ row.status.text ++ " requires a newer state model.")
  else
    return row.status

def isV2 (row : TxRow) : Bool := row.stateModelVersion == 2

/-- the body of a `transactionSync` that runs on the row when `expected` accepts it -/
def casTx (expected : TxRow → TransactionState → Bool) (upd : Store → Store) (s : Store) :
    Except CoordinatorError (Unit × Store) :=
  match s.transaction with
  | none => .error (.casLost .quarantined)
  | some current =>
    match stateOf current with
    | .error e => .error (.contract e)
    | .ok state => if expected current state then .ok ((), upd s) else .error (.casLost state)

/-- the compare-and-set of a state change; `extra` runs in the same storage transaction -/
def transitionSync (expected : List TransactionState) (next : TransactionState)
    (extra : Store → Store) (s : Store) : Except CoordinatorError (Unit × Store) :=
  match s.transaction with
  | none => .error (.error "Missing transaction.")
  | some current =>
    match stateOf current with
    | .error e => .error (.contract e)
    | .ok currentState =>
      if currentState ∉ expected then .error (.casLost currentState)
      else
        match assertTransactionTransition currentState next with
        | .error e => .error (.contract e)
        | .ok () => .ok ((), extra (s.updateTx ({ · with status := next })))

def transition (expected : List TransactionState) (next : TransactionState)
    (extra : Store → Store := id) : Coord TxRow := do
  .transact (transitionSync expected next extra)
  loadTxOrThrow "Missing transaction after transition."

/-- `try { p } catch` of a lost compare-and-set, then the rest of the function -/
def tryCas {α β : Type} (p : Coord α) (lost : TransactionState → Coord β) (k : α → Coord β) :
    Coord β := do
  match ← p.attempt with
  | .ok a => k a
  | .error (.casLost state) => lost state
  | .error e => .throw e

/-- storage `getAlarm` and `setAlarm` are awaited -/
def setAlarm (at_ : Nat) : Coord Unit := do
  .modify ({ · with alarm := some at_ })
  .pause

def ensureAlarmScheduled (atLeastByMs : Nat) : Coord Unit := do
  let existing ← gets (·.alarm)
  .pause
  if existing.all (atLeastByMs < ·) then setAlarm atLeastByMs else return ()

def recoveryBaseDelayMs : Nat := 5000
def recoveryMaxDelayMs : Nat := 60000

def recoveryDelay (priorAttempt : Nat) : Nat :=
  min recoveryMaxDelayMs (recoveryBaseDelayMs * 2 ^ min priorAttempt 10)

/-- the transaction of `reschedule`: `none` when the row has left the states in `onlyWhile` -/
def rescheduleSync (action : RecoveryAction) (onlyWhile : Option (List TransactionState))
    (s : Store) : Except CoordinatorError (Option Nat × Store) :=
  let queued : Option Nat × Store :=
    let priorAttempt := (s.queue.map (·.attemptCount)).getD 0
    let due := s.now + recoveryDelay priorAttempt
    (some due, s.queueRecovery action due (priorAttempt + 1))
  match onlyWhile with
  | none => .ok queued
  | some states =>
    match s.transaction with
    | none => .ok (none, s)
    | some current =>
      match stateOf current with
      | .error e => .error (.contract e)
      | .ok state => if state ∈ states then .ok queued else .ok (none, s)

def reschedule (action : RecoveryAction) (onlyWhile : Option (List TransactionState) := none) :
    Coord Bool := do
  match ← .transact (rescheduleSync action onlyWhile) with
  | none => return false
  | some due =>
    setAlarm due
    return true

end Coordinator
