import CloudflareShard.Coordinator.Store

/-!
# Gates, drains and single flights of a coordinator

* `assertRestoreGateOpen`, `registerPhysicalCoordinator`   the external restore authority;
* `enterMutation`, `leaveMutation`, `awaitMutationDrain`   the drain that restore handlers wait for;
* `runRecoveryExclusive`                                   one recovery at a time, its result shared;
* `beginAdmissionAttempt`, `checkManifestAdmission`        the manifest admission circuit;
* `coordinatorIdentity`, `participantMessage`              the identity a message carries.
-/

namespace Coordinator
open Async Contracts

/-! ## the restore gate -/

structure RestoreGateSnapshot where
  fenced : Bool
  restoreId : Option String
  generation : Nat

variable (E : Bindings) (C : ContractLib)

def fetchGate (fleetId : String) (claim : Option RestoreClaim) :
    Coord (Except DurableObjectFailure GateReply) := .call (.gate fleetId claim) .pure

def fetchRegistry (fleetId coordinatorId : String) (existingCreatedAt : Option Nat) :
    Coord (Except DurableObjectFailure RegistryReply) :=
  .call (.registerCoordinator fleetId coordinatorId existingCreatedAt) .pure

def restoreGateSnapshot (fleetId : String) (claim : Option RestoreClaim := none) :
    Coord (Option RestoreGateSnapshot) := do
  if !E.restoreCoordinator then
    .pause
    return none
  else
    match ← fetchGate fleetId claim with
    | .error failure => .throw (.error failure.message)
    | .ok (.refused status) => .throw (.gateDenied s!"restore gate responded {status}")
    | .ok .malformed => .throw (.gateDenied "restore gate returned a malformed snapshot")
    | .ok (.snapshot active restoreId generation) =>
      return some { fenced := active, restoreId, generation }

def CoordinatorError.message : CoordinatorError → String
  | .casLost state => "Coordinator state changed to " ++ state.text ++ "."
  | .contract e => e.message
  | .gateDenied message => message
  | .error message => message

def assertRestoreGateOpen (fleetId : String) : Coord Unit := do
  match ← (restoreGateSnapshot E fleetId).attempt with
  | .error e => .throw (.gateDenied (CoordinatorError.message e))
  | .ok none => return ()
  | .ok (some gate) =>
    if gate.fenced then .throw (.gateDenied "fleet restore is in progress") else return ()

def restoreGateResponse : Response :=
  json (.failure "RESTORE_GATE_UNAVAILABLE"
    "The external fleet restore gate denied coordinator mutation.") 503

inductive RegistrationResult where
  | registered
  | discardRequired (restoreId : String) (generation cutoff : Nat)

def registerPhysicalCoordinator (fleetId coordinatorId : String)
    (existingCreatedAt : Option Nat) : Coord RegistrationResult := do
  if !E.restoreCoordinator then
    .pause
    return .registered
  else
    match ← fetchRegistry fleetId coordinatorId existingCreatedAt with
    | .error failure => .throw (.gateDenied failure.message)
    | .ok (.refused status) => .throw (.gateDenied s!"coordinator registry responded {status}")
    | .ok .malformedDirective =>
      .throw (.gateDenied "coordinator registry returned a malformed discard directive")
    | .ok .malformed =>
      .throw (.gateDenied "coordinator registry returned malformed acknowledgement")
    | .ok (.discardRequired restoreId generation cutoff) =>
      return .discardRequired restoreId generation cutoff
    | .ok .registered =>
      assertRestoreGateOpen E fleetId
      return .registered

inductive RestoreFence where
  | gate
  | response (response : Response)

/-- the fence check of the restore endpoints; `none` is a missing or invalid field -/
def matchingRestoreFence (restoreId : Option String) (generation : Option Nat) :
    Coord RestoreFence := do
  match restoreId, generation with
  | some restoreId, some (generation + 1) =>
    let claim := { restoreId, generation := generation + 1 }
    match ← (restoreGateSnapshot E E.deploymentFleetId (some claim)).attempt with
    | .error _ => return .response restoreGateResponse
    | .ok none =>
      return .response
        (json (.failure "RESTORE_GATE_UNAVAILABLE" "RESTORE_COORDINATOR is not configured.") 503)
    | .ok (some gate) =>
      if !gate.fenced || gate.restoreId != some restoreId || gate.generation != generation + 1 then
        return .response (json (.failure "RESTORE_FENCE_MISMATCH"
          "External restore authority does not hold the requested fence.") 409)
      else
        return .gate
  | _, _ => return .response (json (.message "Missing/invalid restoreId or generation.") 400)

/-! ## the mutation drain -/

def enterMutation (s : Store) : Store := { s with activeMutations := s.activeMutations + 1 }

def leaveMutation (s : Store) : Store :=
  let active := s.activeMutations - 1
  if active = 0 then
    { s with
      activeMutations := active, mutationDrainWaiters := []
      drained := s.drained + s.mutationDrainWaiters.length }
  else { s with activeMutations := active }

/-- an awaited drain gets a token that `leaveMutation` takes out of the waiters -/
def enterDrain (s : Store) : Store :=
  if s.activeMutations = 0 then { s with drained := s.drained + 1 }
  else
    { s with
      mutationDrainWaiters := s.mutationDrainWaiters ++ [s.nextToken], nextToken := s.nextToken + 1 }

def awaitMutationDrain : Coord Unit :=
  .step enterDrain fun s =>
    if s.activeMutations = 0 then .pause
    else .wait (fun s' => s.nextToken ∉ s'.mutationDrainWaiters) (.pure ())

/-! ## single flights -/

def settledAs (promise : Nat) (s : Store) :
    Option (Except CoordinatorError (Option Response)) :=
  (s.settled.find? (·.1 == promise)).map (·.2)

/-- `await` of a promise of this object -/
def awaitPromise (promise : Nat) : Coord (Option Response) := do
  .wait (fun s => (settledAs promise s).isSome) (.pure ())
  match ← gets (settledAs promise) with
  | some (.ok response) => return response
  | some (.error e) => .throw e
  | none => .stuck

def settle (promise : Nat) (outcome : Except CoordinatorError (Option Response)) (s : Store) :
    Store := { s with settled := (promise, outcome) :: s.settled }

def responseFrom : Option Response → Coord Response
  | some response => .pure response
  | none => .stuck

/-- all callers share the response of the first one; its `work` writes nothing before it awaits -/
def runRecoveryExclusive (work : Coord Response) : Coord Response := do
  let s ← .read
  match s.recoveryInFlight with
  | some existing => awaitPromise existing >>= responseFrom
  | none =>
    let pending := s.nextToken
    .modify ({ · with recoveryInFlight := some pending, nextToken := pending + 1 })
    match ← work.attempt with
    | .ok response =>
      .pause
      .modify (settle pending (.ok (some response)))
    | .error e => .modify (settle pending (.error e))
    let response ← (awaitPromise pending).andFinally fun s =>
      if s.recoveryInFlight == some pending then { s with recoveryInFlight := none } else s
    responseFrom response

def runReleaseExclusive (work : Coord Unit) : Coord Unit := do
  let s ← .read
  match s.releaseRecoveryInFlight with
  | some existing => awaitPromise existing >>= fun _ => .pure ()
  | none =>
    let pending := s.nextToken
    .modify ({ · with releaseRecoveryInFlight := some pending, nextToken := pending + 1 })
    let outcome ← work.attempt
    .modify (settle pending (outcome.map fun _ => none))
    let _ ← (awaitPromise pending).andFinally fun s =>
      if s.releaseRecoveryInFlight == some pending then { s with releaseRecoveryInFlight := none }
      else s
    return ()

/-! ## the admission circuit -/

def circuitFailureThreshold : Nat := 3
def circuitFailureWindowMs : Nat := 30000
def circuitMaximumCooldownMs : Nat := 5 * 60000

inductive AdmissionAttempt where
  | closed
  | probe
  | opened (retryAfterMs : Nat)
  deriving DecidableEq

def beginAdmissionAttempt (now : Nat) (circuit : Circuit) : AdmissionAttempt × Circuit :=
  if now < circuit.openUntilMs then
    (.opened (min maxDurableObjectRetryAfterMs (max 1 (circuit.openUntilMs - now))), circuit)
  else if 0 < circuit.openUntilMs then
    if circuit.halfOpenProbe && now < circuit.halfOpenProbeUntilMs then
      (.opened (min defaultDurableObjectRetryAfterMs (max 1 (circuit.halfOpenProbeUntilMs - now))),
        circuit)
    else
      (.probe,
        { circuit with
          halfOpenProbe := true, halfOpenProbeUntilMs := now + circuitFailureWindowMs })
  else (.closed, circuit)

def recordAdmissionSuccess (_ : Circuit) : Circuit := .closed

def recordAdmissionNeutral (circuit : Circuit) : Circuit :=
  { circuit with halfOpenProbe := false, halfOpenProbeUntilMs := 0 }

def recordAdmissionFailure (now : Nat) (attempt : AdmissionAttempt) (circuit : Circuit) : Circuit :=
  let insideWindow := decide (0 < circuit.failureWindowStartedAtMs)
    && decide (now ≤ circuit.failureWindowStartedAtMs + circuitFailureWindowMs)
  let failureCount := if insideWindow then circuit.failureCount + 1 else 1
  if attempt = .probe || decide (circuitFailureThreshold ≤ failureCount) then
    { failureCount := 0, failureWindowStartedAtMs := 0
      openUntilMs := now + min circuitMaximumCooldownMs
        (circuitFailureWindowMs * 2 ^ min circuit.openCount 10)
      openCount := circuit.openCount + 1, halfOpenProbe := false, halfOpenProbeUntilMs := 0 }
  else
    { circuit with
      failureCount
      failureWindowStartedAtMs := if insideWindow then circuit.failureWindowStartedAtMs else now
      halfOpenProbe := false, halfOpenProbeUntilMs := 0 }

def updateCircuit (f : Circuit → Circuit) : Coord Unit :=
  .modify fun s => { s with circuit := f s.circuit }

def admissionAttempt (now : Nat) : Coord AdmissionAttempt :=
  .step (fun s => { s with circuit := (beginAdmissionAttempt now s.circuit).2 })
    fun s => .pure (beginAdmissionAttempt now s.circuit).1

def circuitOpenError (retryAfterMs : Nat) : TransactionProtocolError :=
  transactionError .txManifestUnavailable "Manifest admission circuit is open; retry later." []
    (some { overloaded := false, retryable := true, retryAfterMs })

/-- the exception of a missing `CONTROL_PLANE` binding -/
def controlPlaneMissing : DurableObjectFailure :=
  { overloaded := false, retryable := false, retryAfterMs := none
    message := "CONTROL_PLANE binding is unavailable." }

def askAdmission (request : ManifestAdmissionRequest) :
    Coord (Except DurableObjectFailure ManifestAdmissionResult) :=
  if E.controlPlane then .call (.checkManifestAdmission request) .pure
  else .pure (.error controlPlaneMissing)

def recordAdmission (now : Nat) (attempt : AdmissionAttempt) :
    ManifestAdmissionResult → Circuit → Circuit
  | .ready => recordAdmissionSuccess
  | .unavailable error =>
    if error.retryable || error.overloaded then recordAdmissionFailure now attempt
    else recordAdmissionNeutral

def checkManifestAdmission (request : ManifestAdmissionRequest) :
    Coord ManifestAdmissionResult := do
  let now ← dateNow
  match ← admissionAttempt now with
  | .opened retryAfterMs => return .unavailable (circuitOpenError retryAfterMs)
  | attempt =>
    let result := match ← askAdmission E request with
      | .ok result => result
      | .error failure => .unavailable (durableObjectUnavailableError failure
          .txManifestUnavailable "Manifest admission is unavailable before prepare.")
    updateCircuit (recordAdmission now attempt result)
    return result

/-- a control-plane call; `none` when the binding is missing or the call is rejected -/
def controlPlane {α : Type} (call : Coord (Except DurableObjectFailure α)) : Coord (Option α) := do
  if !E.controlPlane then return none
  else
    match ← call with
    | .ok result => return some result
    | .error _ => return none

def reserveManifest (request : ManifestReserveRequest) : Coord (Option ManifestReserveResult) :=
  controlPlane E (.call (.reserveManifest request) .pure)

def finalizeManifest (request : ManifestFinalizeRequest) : Coord (Option ManifestFinalizeResult) :=
  controlPlane E (.call (.finalizeManifest request) .pure)

def cancelManifest (request : ManifestCancelRequest) : Coord (Option ManifestCancelResult) :=
  controlPlane E (.call (.cancelManifest request) .pure)

def resolveManifestQuarantine (request : QuarantineResolutionRequest) :
    Coord (Option ManifestResolutionResult) := do
  if !E.resolvesQuarantine then return none
  else controlPlane E (.call (.resolveManifestQuarantine request) .pure)

def assignManifestRoute (request : ManifestRouteAssignmentRequest) :
    Coord (Option ManifestAssignResult) :=
  controlPlane E (.call (.assignManifestRoute request) .pure)

def registerManifest (registration : ManifestRegistration) :
    Coord (Option ManifestRegisterResult) :=
  controlPlane E (.call (.registerManifest registration) .pure)

def releaseManifestV2 (request : ManifestV2ReleaseRequest) : Coord (Option ManifestReleaseResult) :=
  controlPlane E (.call (.releaseManifestV2 request) .pure)

def releaseManifestRetention (request : ManifestReleaseRequest) :
    Coord (Option ManifestReleaseResult) :=
  controlPlane E (.call (.releaseManifestRetention request) .pure)

/-! ## identities and messages -/

inductive CoordinatorIdentity where
  | current
  | legacy
  | invalid
  deriving DecidableEq

def identityOf (row : TxRow) : CoordinatorIdentity :=
  let currentHash := C.hashParticipantOperations
    (C.redoParticipants row.operationJson (if row.epoch = 0 then 1 else row.epoch))
  if row.operationHash = currentHash then .current
  else if !(row.redoEnvelopeJson.isNone && row.manifestRegistrationJson.isNone) then .invalid
  else if row.operationHash = "" then .legacy
  else if row.operationHash = C.sha256Participants row.operationJson then .legacy
  else .invalid

/-- digests are awaited -/
def coordinatorIdentity (row : TxRow) : Coord CoordinatorIdentity := do
  .pause
  return identityOf C row

def participantMessage (row : TxRow) (phase : ParticipantPhase) : ParticipantMessage :=
  { protocolVersion := currentProtocolVersion, txId := row.txId, epoch := row.epoch, phase
    operationHash := row.operationHash }

/-- requests to several shards leave at once, their outcomes are awaited together -/
def callShards (messages : List (ShardId × ShardRequest)) : Coord (Nat → ShardOutcome) := do
  .modify fun s => { s with sent := s.sent ++ messages }
  .call (.shards messages) .pure

def allOk (count : Nat) (outcomes : Nat → ShardOutcome) : Bool :=
  (List.range count).all fun i => (outcomes i).ok

end Coordinator
