import CloudflareShard.Coordinator.EvidenceFollows
import CloudflareShard.Restore.Errors

/-!
# The envelopes of a restore

A restore enumerates the records of the manifest, asks the coordinator of each for its envelope and
compares the two.

* `ManifestRecordRow`, `enumeratedRow`    what is kept of an enumerated record;
* `materializeEnvelope`                   the comparison;
* `Predecessor`, `Begins`                 where a coordinator starts;
* `recovery_evidence_agrees`              **the evidence of a row that no predecessor decided**.
-/

namespace Restore
open Async Contracts Coordinator

/-- columns of `restore_manifest_records` -/
structure ManifestRecordRow where
  recordHash : Hash
  txId : TxId
  envelopeHash : Hash
  record : ManifestRecordV2

def enumeratedRow (recordHash : Hash) (record : ManifestRecordV2) : ManifestRecordRow :=
  { recordHash, txId := record.txId, envelopeHash := record.envelopeHash, record }

variable (C : ContractLib)

/-- `materializeNextEnvelope` for a row, from the answer to `/recovery-envelope` to its last check -/
def materializeEnvelope (row : ManifestRecordRow) (answer : Option Response) :
    Except RestoreProtocolError RedoEnvelope := do
  match ← postToStub answer "/recovery-envelope" with
  | .envelope _ envelope =>
    match C.validateRedoEnvelope envelope with
    | .error _ =>
      failure .hashContradiction "Coordinator redo envelope failed canonical validation."
        [.txId row.txId]
    | .ok () =>
      if C.hashFinalizedRedoEnvelope envelope ≠ row.envelopeHash then
        failure .hashContradiction "Coordinator redo envelope does not match the manifest hash."
          [.txId row.txId]
      else if envelope.txId ≠ row.record.txId
          ∨ envelope.fleetId ≠ row.record.fleetId
          ∨ envelope.coordinatorId ≠ row.record.coordinatorId
          ∨ envelope.decisionEpoch ≠ row.record.decisionEpoch
          ∨ envelope.operationHash ≠ row.record.operationHash
          ∨ envelope.commitDecidedAt ≠ some row.record.commitDecidedAt
          ∨ envelope.retentionDeadline ≠ some row.record.retentionDeadline then
        failure .hashContradiction
          "Coordinator redo envelope contradicts its immutable manifest record." [.txId row.txId]
      else return envelope
  | _ => failure .manifestGap "Coordinator redo envelope is missing." [.txId row.txId]

variable {C} {E : Bindings}

/-! ## an envelope with the times of its record -/

theorem hashFinalized_timed {row : TxRow} {intent : RedoEnvelope} {record : ManifestRecordV2}
    (h : Frozen row intent) :
    C.hashFinalizedRedoEnvelope (timed intent record) = C.hashCanonicalJson (.envelope intent) := by
  obtain ⟨hdecided, hdeadline⟩ := h.untimed
  have hbare : { timed intent record with commitDecidedAt := none, retentionDeadline := none } =
      intent := by
    cases intent
    cases hdecided
    cases hdeadline
    rfl
  unfold ContractLib.hashFinalizedRedoEnvelope
  rw [hbare]

theorem materializeEnvelope_recorded {row : TxRow} {record : ManifestRecordV2} {recordHash : Hash}
    {intent : RedoEnvelope} {model : Nat} (hf : Frozen row intent) (hr : RecordOf row record)
    (hdigest : record.envelopeHash = C.hashCanonicalJson (.envelope intent))
    (hvalid : C.validateRedoEnvelope (timed intent record) = .ok ()) :
    materializeEnvelope C (enumeratedRow recordHash record)
      (some (json (.envelope model (timed intent record)))) = .ok (timed intent record) := by
  have hhash : ¬C.hashFinalizedRedoEnvelope (timed intent record) ≠ record.envelopeHash :=
    not_not_intro ((hashFinalized_timed hf).trans hdigest.symm)
  have hfields : ¬((timed intent record).txId ≠ record.txId
      ∨ (timed intent record).fleetId ≠ record.fleetId
      ∨ (timed intent record).coordinatorId ≠ record.coordinatorId
      ∨ (timed intent record).decisionEpoch ≠ record.decisionEpoch
      ∨ (timed intent record).operationHash ≠ record.operationHash
      ∨ (timed intent record).commitDecidedAt ≠ some record.commitDecidedAt
      ∨ (timed intent record).retentionDeadline ≠ some record.retentionDeadline) := by
    simp only [timed, hf.txId, hf.fleetId, hf.coordinatorId, hf.decisionEpoch, hf.operationHash,
      hr.txId, hr.fleetId, hr.coordinatorId, hr.decisionEpoch, hr.operationHash]
    simp
  show (match C.validateRedoEnvelope (timed intent record) with
    | .error _ => _
    | .ok () => _) = _
  rw [hvalid]
  exact (if_neg hhash).trans (if_neg hfields)

/-! ## the coordinator -/

/-- a transaction that the predecessor has left behind -/
structure Predecessor (row : TxRow) : Prop where
  model : row.stateModelVersion = 1
  undecided : beforeDecision row.status → row.manifestRegistrationJson = none
  finalize : row.manifestFinalizeRequestJson = none
  record : row.manifestRecordJson = none

/-- a coordinator that has no transaction yet, or one of the predecessor -/
def Begins (s : Store) : Prop := ∀ row, s.transaction = some row → Predecessor row

theorem Begins.inv {s : Store} (h : Begins s) : (evidence C).inv s := by
  intro row hrow
  have hp := h row hrow
  refine ⟨fun hb => ⟨hp.finalize, hp.undecided hb, hp.record⟩, fun _ h2 => ?_, fun _ request hr => ?_,
    fun _ record hr => ?_⟩
  · rw [hp.model] at h2
    cases h2
  · rw [hp.finalize] at hr
    cases hr
  · rw [hp.record] at hr
    cases hr

/-- what `/recovery-envelope` answers for a row -/
def envelopeResponse (C : ContractLib) (row : TxRow) (envelope : RedoEnvelope) (envelopeHash : Hash) :
    Response :=
  if envelopeAddress C row envelope ≠ envelopeHash then
    json (.failure "TX_ENVELOPE_HASH_MISMATCH"
      "Requested content address does not match the durable validated envelope.") 409
  else json (.envelope row.stateModelVersion envelope)

theorem fetch_redoEnvelope {K : Knot} {row : TxRow} {envelope : RedoEnvelope} {envelopeHash : Hash}
    (henvelope : row.redoEnvelopeJson = some envelope)
    (hvalid : C.validateRedoEnvelope envelope = .ok ()) :
    (fetch E C K (.redoEnvelope envelopeHash)).Ends (·.transaction = some row)
      (· = envelopeResponse C row envelope envelopeHash) := by
  have hload : (loadTx : Coord (Option TxRow)).Ends (·.transaction = some row) (· = some row) :=
    .bind .read fun s hs => .pure hs
  refine .rescue (.bind .pause fun _ _ => hload.bind ?_)
  rintro found rfl
  rw [Option.bind_some, henvelope]
  refine .bind .pause fun _ _ => ?_
  rw [hvalid]
  refine .bind .ofExcept fun _ _ => .bind .pause fun _ _ => ?_
  unfold envelopeResponse
  split
  · exact .pure rfl
  · exact .pure rfl

/-- **the evidence of a transaction whose commit no predecessor decided** -/
theorem recovery_evidence_agrees {start : Store} (hstart : Begins start)
    {xs : List (Choice Ask Ask.Answer Activity Nat)}
    (hxs : (system E C).Meets (fun c x => x.Allowed (system E C) honestTerms c) ⟨start, []⟩ xs)
    {row : TxRow} {record : ManifestRecordV2}
    (hrow : ((system E C).run ⟨start, []⟩ xs).store.transaction = some row)
    (hrecord : row.manifestRecordJson = some record) (hown : row.manifestRegistrationJson = none)
    (K : Knot) (recordHash : Hash) :
    (fetch E C K (.redoEnvelope record.envelopeHash)).Ends (·.transaction = some row) fun response =>
      ∃ envelope, row.redoEnvelopeJson = some envelope ∧
        response = json (.envelope row.stateModelVersion envelope) ∧
        materializeEnvelope C (enumeratedRow recordHash record) (some response) = .ok envelope := by
  have hwhole : (system E C).Meets (fun c x => x.Allowed (system E C) honestTerms c) ⟨start, []⟩
      (xs ++ []) := by simpa using hxs
  have hinv := (obeys_evidence.reachable hstart.inv hwhole).1 row hrow
  obtain ⟨hmodel, hof, intent, hfrozen, hdigest, henvelope, hvalid⟩ :=
    hinv.recorded hown record hrecord
  have haddress : envelopeAddress C row (timed intent record) = record.envelopeHash := by
    have hv2 : isV2 row = true := by simp [isV2, hmodel]
    unfold envelopeAddress
    rw [if_pos hv2, hashFinalized_timed hfrozen, hdigest]
  have hanswer : envelopeResponse C row (timed intent record) record.envelopeHash =
      json (.envelope row.stateModelVersion (timed intent record)) := if_neg (not_not_intro haddress)
  refine (fetch_redoEnvelope henvelope hvalid).mono ?_
  rintro response rfl
  rw [hanswer]
  exact ⟨_, henvelope, rfl, materializeEnvelope_recorded hfrozen hof hdigest hvalid⟩

/-! ## a decision of the coordinator, and one of the predecessor -/

/-- a digest that tells an envelope with terminal times from one without -/
def timeSensitiveContracts : ContractLib :=
  { plainContracts with
    hashCanonicalJson := fun
      | .envelope envelope => if envelope.commitDecidedAt.isSome then "with times" else "without times"
      | _ => "digest" }

def journalBindings : Bindings := { plainBindings with controlPlane := true }

def finalizedRecord (envelopeHash : Hash) : ManifestRecordV2 :=
  { fleetId := "default", route := preparedReservation.route, txId := "t1", coordinatorId := "t1"
    operationHash := "digest", decisionEpoch := 1, reservedAt := 0, reservationHash := "digest"
    envelopeHash, commitDecidedAt := 7, commitDecidedAtMs := 7, decisionSequence := 1
    retentionDeadline := 50 }

/-- a journal that is closed for registrations of state model 1, and shards that agree -/
def journalAnswers (envelopeHash : Hash) (q : Ask) : q.Answer :=
  match q with
  | .gate .. => .ok (.snapshot false none 0)
  | .registerCoordinator .. => .ok .registered
  | .assignManifestRoute _ => .ok (.assigned preparedReservation "digest")
  | .reserveManifest _ => .ok (.reserved "digest")
  | .finalizeManifest _ => .ok (.finalized (finalizedRecord envelopeHash) "digest")
  | .cancelManifest _ => .ok .cancelled
  | .resolveManifestQuarantine _ => .ok (.refused (transactionError .txQuarantined "quarantined"))
  | .releaseManifestV2 _ => .ok .released
  | .registerManifest _ => .ok (.refused .rejected (transactionError .v1Closed "closed"))
  | .releaseManifestRetention _ => .ok .released
  | .checkManifestAdmission _ => .ok .ready
  | .shards _ => fun _ =>
    .response true { prepareBookmark := none, prepareCheckpointExact := false, text := "" }

def resumed (envelopeHash : Hash) : Choice Ask Ask.Answer Activity Nat :=
  .run (.resume 0 (journalAnswers envelopeHash))

/-- `/begin` up to its manifest record -/
def begun : List (Choice Ask Ask.Answer Activity Nat) :=
  .run (.arrive
    { arrival := .request (.begin
        { fleetId := none, coordinatorId := none
          participants := [{ shardId := "s1", intents := [] }] })
      fuel := 2 }) :: List.replicate 30 (resumed "without times")

theorem begun_row :
    ∃ row record, ((system journalBindings timeSensitiveContracts).run ⟨Store.empty, []⟩
        begun).store.transaction = some row ∧ row.status = .manifestRegistered ∧
      row.manifestRecordJson = some record ∧ row.manifestRegistrationJson = none := by
  have hcheck : ((system journalBindings timeSensitiveContracts).run ⟨Store.empty, []⟩
      begun).store.transaction.any (fun row => row.status == .manifestRegistered &&
        (row.manifestRecordJson.isSome && row.manifestRegistrationJson.isNone)) = true := by
    decide +kernel
  obtain ⟨row, hrow, hcheck⟩ := (Option.any_eq_true _ _).mp hcheck
  simp only [Bool.and_eq_true, beq_iff_eq, Option.isNone_iff_eq_none] at hcheck
  obtain ⟨record, hrecord⟩ := Option.isSome_iff_exists.mp hcheck.2.1
  exact ⟨row, record, hrow, hcheck.1, hrecord, hcheck.2.2⟩

theorem begun_evidence :
    let S := system journalBindings timeSensitiveContracts
    ∃ row record, (S.run ⟨Store.empty, []⟩ begun).store.transaction = some row ∧
      row.status = .manifestRegistered ∧ row.manifestRecordJson = some record ∧
      (fetch journalBindings timeSensitiveContracts (knot journalBindings timeSensitiveContracts 0)
          (.redoEnvelope record.envelopeHash)).Ends
        (·.transaction = some row) fun response =>
          ∃ envelope, row.redoEnvelopeJson = some envelope ∧
            response = json (.envelope row.stateModelVersion envelope) ∧
            materializeEnvelope timeSensitiveContracts (enumeratedRow "digest" record)
              (some response) = .ok envelope := by
  have hchecks : (system journalBindings timeSensitiveContracts).checks (fun q a _ => honest q a)
      ⟨Store.empty, []⟩ begun := by decide +kernel
  have hallowed := System.meets_of_checks (T := honestTerms) (fun _ => trivial)
    (fun _ _ => trivial) (fun _ _ _ _ h => h) hchecks
  have hbegins : Begins Store.empty := by
    intro row hrow
    have hnone : (none : Option TxRow) = some row := hrow
    cases hnone
  obtain ⟨row, record, hrow, hstatus, hrecord, hown⟩ := begun_row
  have hagrees := recovery_evidence_agrees hbegins hallowed hrow hrecord hown
    (knot journalBindings timeSensitiveContracts 0) "digest"
  exact ⟨row, record, hrow, hstatus, hrecord, hagrees⟩

def predecessorEnvelope : RedoEnvelope :=
  { formatVersion := 1, txId := "t1", fleetId := "default", coordinatorId := "t1", decisionEpoch := 1
    operationHash := "digest"
    participants := [{ participantId := "s1", epoch := 1, prepareBookmark := none, intents := [] }]
    commitDecidedAt := some 5, retentionDeadline := some 40 }

/-- a commit that the predecessor decided and could not register any more -/
def predecessorRow : TxRow :=
  { preparedRow with
    status := .commitPendingManifest, stateModelVersion := 1, decision := .commit
    redoEnvelopeJson := some predecessorEnvelope, manifestReservationJson := none
    manifestReservationHash := none
    manifestRegistrationJson := some
      { record :=
          { fleetId := "default", utcDay := 0, partition := 0, routingKey := "", txId := "t1"
            coordinatorId := "t1", commitDecidedAt := 5, decisionEpoch := 1
            envelopeHash := "with times", retentionDeadline := 40 }
        recordHash := "digest" } }

def predecessorStore : Store :=
  { Store.empty with
    transaction := some predecessorRow
    queue := some { action := .manifest, nextAttemptAt := 0, attemptCount := 0 } }

/-- an alarm takes the commit over the bridge up to its manifest record -/
def bridged : List (Choice Ask Ask.Answer Activity Nat) :=
  .run (.arrive { arrival := .alarm, fuel := 2 }) :: List.replicate 23 (resumed "with times")

theorem bridged_row :
    ∃ row, ((system journalBindings timeSensitiveContracts).run ⟨predecessorStore, []⟩
        bridged).store.transaction = some row ∧ row.status = .manifestRegistered ∧
      row.manifestRecordJson = some (finalizedRecord "with times") ∧
      row.redoEnvelopeJson = some predecessorEnvelope ∧ row.stateModelVersion = 2 :=
  ⟨_, rfl, rfl, rfl, rfl, rfl⟩

/-- the record names the digest of the predecessor's envelope with its times, and is asked for under
the digest of the envelope without them -/
theorem bridged_contradicted :
    let S := system journalBindings timeSensitiveContracts
    Begins predecessorStore ∧
      S.Meets (fun c x => x.Allowed S honestTerms c) ⟨predecessorStore, []⟩ bridged ∧
      ∃ row record, (S.run ⟨predecessorStore, []⟩ bridged).store.transaction = some row ∧
        row.status = .manifestRegistered ∧ row.manifestRecordJson = some record ∧
        row.redoEnvelopeJson = some predecessorEnvelope ∧
        (fetch journalBindings timeSensitiveContracts (knot journalBindings timeSensitiveContracts 0)
            (.redoEnvelope record.envelopeHash)).Ends
          (·.transaction = some row) fun response =>
            response.status = 409 ∧
              materializeEnvelope timeSensitiveContracts (enumeratedRow "digest" record)
                (some response) =
                failure .hashContradiction
                  "Requested content address does not match the durable validated envelope." ∧
              materializeEnvelope timeSensitiveContracts (enumeratedRow "digest" record)
                (some (json (.envelope 2 predecessorEnvelope))) =
                failure .hashContradiction
                  "Coordinator redo envelope does not match the manifest hash." [.txId "t1"] := by
  have hchecks : (system journalBindings timeSensitiveContracts).checks (fun q a _ => honest q a)
      ⟨predecessorStore, []⟩ bridged := by decide +kernel
  have hallowed := System.meets_of_checks (T := honestTerms) (fun _ => trivial)
    (fun _ _ => trivial) (fun _ _ _ _ h => h) hchecks
  obtain ⟨row, hrow, hstatus, hrecord, henvelope, hmodel⟩ := bridged_row
  have hbegins : Begins predecessorStore := by
    intro row hrow
    cases hrow
    exact ⟨rfl, nofun, rfl, rfl⟩
  have haddress : envelopeAddress timeSensitiveContracts row predecessorEnvelope = "without times" := by
    have hv2 : isV2 row = true := by simp [isV2, hmodel]
    unfold envelopeAddress
    rw [if_pos hv2]
    rfl
  have hanswer : envelopeResponse timeSensitiveContracts row predecessorEnvelope "with times" =
      json (.failure "TX_ENVELOPE_HASH_MISMATCH"
        "Requested content address does not match the durable validated envelope.") 409 := by
    unfold envelopeResponse
    rw [haddress, if_pos (by decide)]
  have hconflict : conflictOf "TX_ENVELOPE_HASH_MISMATCH" = .hashContradiction := by decide +kernel
  refine ⟨hbegins, hallowed, row, _, hrow, hstatus, hrecord, henvelope, ?_⟩
  refine (fetch_redoEnvelope henvelope rfl).mono ?_
  rintro response rfl
  rw [show (finalizedRecord "with times").envelopeHash = "with times" from rfl, hanswer]
  refine ⟨rfl, ?_, rfl⟩
  unfold materializeEnvelope postToStub responseJson
  simp only [json, remoteOf, hconflict, Option.getD_some]
  rfl

end Restore
