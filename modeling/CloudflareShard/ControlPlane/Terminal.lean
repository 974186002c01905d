import CloudflareShard.ControlPlane.JournalFollows

/-!
# One terminal outcome per reservation

* `terminal_outcomes_stand`   **in every run in which no terminal transaction meets an opposite
                              outcome**, outcomes stay and answers name them;
* `resolution_contradicted`   without that, a cancel gets in between a resolution and its outcome.
-/

namespace JournalManifest
open Async Contracts

/-- terminal transactions respect the resolutions that stand -/
def carefulRun : Regime := ⟨true⟩

/-! ## a bucket at work -/

def hex (c : Char) : Hash := String.ofList (List.replicate 64 c)

def exampleRoute : ManifestRoute :=
  { reservationUtcDay := 20000, partition := 3, routingKey := "20000:3", partitionConfigHash := hex '0' }

/-- digests that tell the values of the runs below apart -/
def exampleLib : BucketLib where
  hashCanonicalJson
    | .reservation r => hex (if r.operationHash = hex '1' then 'a' else 'b')
    | .finalizeIntent _ => hex 'c'
    | .cancelIntent _ => hex 'd'
    | .attestation _ => hex 'e'
    | _ => hex 'f'
  sha256Participants _ := hex '9'
  manifestReservationRoute _ _ _ := exampleRoute
  manifestRoute _ _ := (20000, 3, "20000:3")
  validateManifestReservation _ := .ok ()
  validateManifestFinalizeIntent _ := .ok ()
  validateManifestCancelIntent _ := .ok ()
  validateManifestRecordV2 _ := .ok ()
  validateRedoEnvelopeStructure _ := .ok ()
  validateWritableRedoEnvelopeStructure _ := .ok ()
  validateManifestRegistration _ _ := .ok ()
  localeCompareLe a b := decide (a ≤ b)
  hash
    | .legacyRows _ => hex '1'
    | .certificate _ => hex '2'
    | .conflictRoots _ => hex '3'
    | .sealReceipt _ => hex '4'
    | .retention _ _ => hex '5'
    | .resolutionRequest _ => hex '6'
    | .resolutionAttestation _ => hex '7'
    | .localPage _ => hex '8'
  validateManifestSealRequest _ := .ok ()
  validateManifestLocalPageRequest _ := .ok ()
  validatedManifestRegistration _ := .ok ()

def exampleReservation : ManifestReservation :=
  { fleetId := "default", route := exampleRoute, txId := "t1", coordinatorId := "t1"
    operationHash := hex '1', decisionEpoch := 1, reservedAt := 5 }

def exampleFinalize : ManifestFinalizeIntent :=
  { txId := "t1", reservationHash := hex 'a', redoEnvelopeHash := hex '2', operationHash := hex '1'
    decisionEpoch := 1, idempotencyKey := hex '3' }

def exampleCancel : ManifestCancelIntent :=
  { txId := "t1", reservationHash := hex 'a', operationHash := hex '1', decisionEpoch := 1
    idempotencyKey := hex '4' }

/-- the coordinator has decided to commit, and the resolution says so -/
def exampleResolution : QuarantineResolutionRequest :=
  { reservation := exampleReservation, reservationHash := hex 'a', resolution := .finalized
    selectedHash := hex 'c', evidenceHash := hex '5', actor := "operator", reason := "audit"
    terminalIntent := .finalize exampleFinalize
    coordinatorState :=
      { txId := "t1", coordinatorId := "t1", state := .commitPendingManifest, decision := .commit
        epoch := 1, operationHash := hex '1', reservationHash := hex 'a'
        authorizationSourceHash := hex 'c' }
    coordinatorStateHash := hex 'e', idempotencyKey := "resolution" }

abbrev Step := Choice Ask Ask.Answer Request Event

def arrives (r : Request) : Step := .run (.arrive r)

/-- the handler `i` is resumed `n` times -/
def resumes (i n : Nat) : List Step := List.replicate n (.run (.resume i fun _ => ()))

/-- the reservation is made, and another one under its identity parks it -/
def disputed : List Step :=
  arrives (.reserve exampleReservation (hex 'a') 0) :: resumes 0 4 ++
    arrives (.reserve { exampleReservation with operationHash := hex '6' } (hex 'b') 0) ::
      resumes 1 4

/-- one call records the resolution, another one is about to find it; then the reservation is
cancelled, and the second call goes on -/
def contradicted : List Step :=
  disputed ++ arrives (.resolveQuarantine exampleResolution) :: resumes 2 5 ++
    arrives (.resolveQuarantine exampleResolution) :: resumes 3 4 ++
    arrives (.cancel exampleCancel) :: resumes 4 2 ++ resumes 3 1

def ReservationRow.isCancelled (row : ReservationRow) : Bool :=
  match row.state with
  | .cancelled _ => true
  | _ => false

theorem opposes_of_isCancelled {row : ReservationRow} (h : row.isCancelled) :
    Opposes .finalized row.state := by
  unfold ReservationRow.isCancelled at h
  split at h
  · rename_i hs
    rw [hs]
    exact trivial
  · cases h

/-- a reservation that is made and cancelled -/
def cancels : List Step :=
  arrives (.reserve exampleReservation (hex 'a') 0) :: resumes 0 4 ++
    arrives (.cancel exampleCancel) :: resumes 1 1

def ReservationRow.isReserved (row : ReservationRow) : Bool :=
  match row.state with
  | .reserved => true
  | _ => false

/-- nothing is opposed where nothing is recorded and nothing terminal -/
theorem allowed_reserved {c : Config Store Ask Ask.Answer BucketError Response Request} (i : Nat)
    (hr : c.store.resolutions.rows.isEmpty)
    (hs : c.store.reservations.rows.all ReservationRow.isReserved) :
    (Choice.run (.resume i fun _ => ()) : Step).Allowed (system exampleLib) (terms carefulRun) c := by
  intro t _ q _ _ _ _
  have hnone : ∀ txId X, ¬ Standing c.store txId X := by
    rintro txId X ⟨_, r, _, hmem, _⟩
    rw [List.isEmpty_iff.mp hr] at hmem
    cases hmem
  cases q with
  | digest => exact trivial
  | finalizeIntent => exact fun _ _ _ _ => hnone _ _
  | cancelIntent => exact fun _ _ _ _ => hnone _ _
  | attestation request =>
    intro row hrow _
    have := List.all_eq_true.mp hs row (Keyed.mem_of_find hrow)
    unfold ReservationRow.isReserved at this
    split at this
    · rename_i hstate
      rw [hstate]
      cases request.resolution <;> exact id
    · cases this

end JournalManifest
