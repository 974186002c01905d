import CloudflareShard.Async.Only
import CloudflareShard.Coordinator.Moves

/-!
# The recovery evidence of a coordinator row

A decision under state model 2 freezes the envelope without its terminal times; the manifest record
names the digest of what is frozen, and the envelope is completed with the times of the record.

* `Frozen`, `RecordOf`        what an envelope and a record have in common with the row;
* `Evident`                   **the evidence of a row that was not decided under state model 1**;
* `Grown`                     what becomes of a row that a handler has read once;
* `evidence`                  both as the rules of the object;
* `Still`                     sections that do not touch the evidence.
-/

namespace Coordinator
open Async Contracts

/-- no commit can have been decided in these states -/
def beforeDecision (state : TransactionState) : Bool :=
  [TransactionState.new, .manifestReserving, .preparing, .prepared].contains state

/-- the envelope is the one of the row, without terminal times -/
structure Frozen (row : TxRow) (intent : RedoEnvelope) : Prop where
  txId : intent.txId = row.txId
  fleetId : intent.fleetId = row.fleetId
  coordinatorId : intent.coordinatorId = coordinatorIdOf row
  decisionEpoch : intent.decisionEpoch = row.epoch
  operationHash : intent.operationHash = row.operationHash
  untimed : intent.commitDecidedAt = none ∧ intent.retentionDeadline = none

structure RecordOf (row : TxRow) (record : ManifestRecordV2) : Prop where
  txId : record.txId = row.txId
  fleetId : record.fleetId = row.fleetId
  coordinatorId : record.coordinatorId = coordinatorIdOf row
  decisionEpoch : record.decisionEpoch = row.epoch
  operationHash : record.operationHash = row.operationHash

/-- the envelope with the times of the record -/
def timed (intent : RedoEnvelope) (record : ManifestRecordV2) : RedoEnvelope :=
  { intent with
    commitDecidedAt := some record.commitDecidedAt
    retentionDeadline := some record.retentionDeadline }

/-- the finalize request and the envelope it stands for -/
def Requested (C : ContractLib) (row : TxRow) (request : ManifestFinalizeRequest) : Prop :=
  row.stateModelVersion = 2 ∧ ∃ intent, row.redoEnvelopeIntentJson = some intent ∧
    Frozen row intent ∧ request.intent.redoEnvelopeHash = C.hashCanonicalJson (.envelope intent)

/-- the record and the envelope that was completed with it -/
def Recorded (C : ContractLib) (row : TxRow) (record : ManifestRecordV2) : Prop :=
  row.stateModelVersion = 2 ∧ RecordOf row record ∧ ∃ intent, Frozen row intent ∧
    record.envelopeHash = C.hashCanonicalJson (.envelope intent) ∧
    row.redoEnvelopeJson = some (timed intent record) ∧
    C.validateRedoEnvelope (timed intent record) = .ok ()

structure Evident (C : ContractLib) (row : TxRow) : Prop where
  undecided : beforeDecision row.status → row.manifestFinalizeRequestJson = none ∧
    row.manifestRegistrationJson = none ∧ row.manifestRecordJson = none
  current : beforeDecision row.status → row.stateModelVersion = 2 → row.epoch = 1 ∧
    row.operationHash = C.hashParticipantOperations (C.redoParticipants row.operationJson 1)
  requested : row.manifestRegistrationJson = none →
    ∀ request, row.manifestFinalizeRequestJson = some request → Requested C row request
  recorded : row.manifestRegistrationJson = none →
    ∀ record, row.manifestRecordJson = some record → Recorded C row record

/-! ## rows as time goes by -/

/-- what becomes of a row: its identity stays, and a request that was stored stays with its envelope
as long as no predecessor decision is bridged -/
structure Grown (row row' : TxRow) : Prop where
  txId : row'.txId = row.txId
  fleetId : row'.fleetId = row.fleetId
  coordinatorId : row'.coordinatorId = row.coordinatorId
  operationJson : row'.operationJson = row.operationJson
  registered : row'.manifestRegistrationJson = none → row.manifestRegistrationJson = none
  requested : row'.manifestRegistrationJson = none → row.manifestFinalizeRequestJson.isSome →
    row'.manifestFinalizeRequestJson = row.manifestFinalizeRequestJson ∧
      row'.redoEnvelopeIntentJson = row.redoEnvelopeIntentJson ∧
      row'.epoch = row.epoch ∧ row'.operationHash = row.operationHash
  before : beforeDecision row'.status → beforeDecision row.status ∧
    (row'.stateModelVersion = 2 ↔ row.stateModelVersion = 2) ∧
    (row.stateModelVersion = 2 → row'.epoch = row.epoch ∧ row'.operationHash = row.operationHash)

theorem Grown.refl (row : TxRow) : Grown row row :=
  ⟨rfl, rfl, rfl, rfl, id, fun _ _ => ⟨rfl, rfl, rfl, rfl⟩, fun h => ⟨h, .rfl, fun _ => ⟨rfl, rfl⟩⟩⟩

theorem Grown.trans {row row' row'' : TxRow} (h : Grown row row') (h' : Grown row' row'') :
    Grown row row'' where
  txId := h'.txId.trans h.txId
  fleetId := h'.fleetId.trans h.fleetId
  coordinatorId := h'.coordinatorId.trans h.coordinatorId
  operationJson := h'.operationJson.trans h.operationJson
  registered hr := h.registered (h'.registered hr)
  requested hr hf := by
    obtain ⟨hf₁, hi₁, he₁, ho₁⟩ := h.requested (h'.registered hr) hf
    obtain ⟨hf₂, hi₂, he₂, ho₂⟩ := h'.requested hr (hf₁ ▸ hf)
    exact ⟨hf₂.trans hf₁, hi₂.trans hi₁, he₂.trans he₁, ho₂.trans ho₁⟩
  before hb := by
    obtain ⟨hb', hv', hsame'⟩ := h'.before hb
    obtain ⟨hb₀, hv, hsame⟩ := h.before hb'
    refine ⟨hb₀, hv'.trans hv, fun h2 => ?_⟩
    obtain ⟨he, ho⟩ := hsame h2
    obtain ⟨he', ho'⟩ := hsame' (hv.mpr h2)
    exact ⟨he'.trans he, ho'.trans ho⟩

theorem Grown.coordinatorIdOf {row row' : TxRow} (h : Grown row row') :
    coordinatorIdOf row' = coordinatorIdOf row := by
  unfold Coordinator.coordinatorIdOf
  rw [h.coordinatorId, h.txId]

theorem Grown.frozen {row row' : TxRow} {intent : RedoEnvelope} (h : Grown row row')
    (hf : Frozen row intent) (he : row'.epoch = row.epoch)
    (ho : row'.operationHash = row.operationHash) : Frozen row' intent :=
  ⟨hf.txId.trans h.txId.symm, hf.fleetId.trans h.fleetId.symm,
    hf.coordinatorId.trans h.coordinatorIdOf.symm, hf.decisionEpoch.trans he.symm,
    hf.operationHash.trans ho.symm, hf.untimed⟩

def Grows (s s' : Store) : Prop :=
  ∀ row, s.transaction = some row → ∃ row', s'.transaction = some row' ∧ Grown row row'

theorem Grows.refl (s : Store) : Grows s s := fun row h => ⟨row, h, .refl row⟩

theorem Grows.trans {s s' s'' : Store} (h : Grows s s') (h' : Grows s' s'') : Grows s s'' := by
  intro row hrow
  obtain ⟨row', hrow', hg⟩ := h row hrow
  obtain ⟨row'', hrow'', hg'⟩ := h' row' hrow'
  exact ⟨row'', hrow'', hg.trans hg'⟩

/-- no handler spoils the evidence -/
def evidence (C : ContractLib) : Rules Store where
  inv s := ∀ row, s.transaction = some row → Evident C row
  move s s' := Grows s s' ∧ ((∀ row, s.transaction = some row → Evident C row) →
    ∀ row, s'.transaction = some row → Evident C row)
  move_refl s := ⟨.refl s, id⟩
  inv_move hi hm := hm.2 hi

/-- a row that a handler has read, and what has become of it -/
def Read (C : ContractLib) (row : TxRow) (s : Store) : Prop :=
  Evident C row ∧ ∃ row', s.transaction = some row' ∧ Grown row row'

section
variable {C : ContractLib} {row row' : TxRow} {s s' : Store}

theorem Read.later (h : Read C row s) (hl : (evidence C).Later s s') : Read C row s' := by
  have hgrows : Grows s s' :=
    hl.history Grows.refl Grows.trans fun _ (hm : Grows _ _ ∧ _) => hm.1
  obtain ⟨he, row', hrow', hg⟩ := h
  obtain ⟨row'', hrow'', hg'⟩ := hgrows row' hrow'
  exact ⟨he, row'', hrow'', hg.trans hg'⟩

theorem Read.of_eq (hi : (evidence C).inv s) (h : s.transaction = some row) : Read C row s :=
  ⟨hi row h, row, h, .refl row⟩

/-- a row that was read before this one -/
theorem Read.grown (h : Read C row s) (h' : s.transaction = some row') : Grown row row' := by
  obtain ⟨-, current, hcurrent, hg⟩ := h
  rw [h'] at hcurrent
  cases hcurrent
  exact hg

/-- a section that turns one row into another -/
theorem move_row (h : s.transaction = some row) (h' : s'.transaction = some row')
    (hg : Grown row row') (he : Evident C row → Evident C row') : (evidence C).move s s' := by
  refine ⟨fun r hr => ?_, fun hi r hr => ?_⟩
  · rw [h] at hr
    cases hr
    exact ⟨row', h', hg⟩
  · rw [h'] at hr
    cases hr
    exact he (hi row h)

/-! ## sections that do not touch the evidence -/

/-- the row without the columns that are no evidence -/
def TxRow.evidence (row : TxRow) : TxRow :=
  { row with
    status := .new, createdAt := 0, protocolVersion := 0, decision := .undecided
    manifestRouteAssignmentRequestJson := none, manifestReservationJson := none
    manifestReservationHash := none, manifestCancelRequestJson := none, manifestRecordHash := none
    commitDecidedAtMs := none, decisionSequence := none, resultJson := none, lastError := none }

structure Untouched (row row' : TxRow) : Prop where
  evidence : row'.evidence = row.evidence
  before : beforeDecision row'.status → beforeDecision row.status

/-- a column that the evidence consists of -/
theorem Untouched.column (h : Untouched row row') {α : Type} (column : TxRow → α)
    (hcolumn : ∀ row, column row.evidence = column row) : column row' = column row := by
  rw [← hcolumn row', ← hcolumn row, h.evidence]

theorem Untouched.grown (h : Untouched row row') : Grown row row' where
  txId := h.column (·.txId) fun _ => rfl
  fleetId := h.column (·.fleetId) fun _ => rfl
  coordinatorId := h.column (·.coordinatorId) fun _ => rfl
  operationJson := h.column (·.operationJson) fun _ => rfl
  registered hr := (h.column (·.manifestRegistrationJson) fun _ => rfl).symm.trans hr
  requested _ _ :=
    ⟨h.column (·.manifestFinalizeRequestJson) fun _ => rfl,
      h.column (·.redoEnvelopeIntentJson) fun _ => rfl, h.column (·.epoch) fun _ => rfl,
      h.column (·.operationHash) fun _ => rfl⟩
  before hb := by
    have hv : row'.stateModelVersion = row.stateModelVersion :=
      h.column (·.stateModelVersion) fun _ => rfl
    exact ⟨h.before hb, by rw [hv],
      fun _ => ⟨h.column (·.epoch) fun _ => rfl, h.column (·.operationHash) fun _ => rfl⟩⟩

theorem Untouched.evident (h : Untouched row row') (he : Evident C row) : Evident C row' := by
  have hg := h.grown
  have hv : row'.stateModelVersion = row.stateModelVersion :=
    h.column (·.stateModelVersion) fun _ => rfl
  have hepoch : row'.epoch = row.epoch := h.column (·.epoch) fun _ => rfl
  have hhash : row'.operationHash = row.operationHash := h.column (·.operationHash) fun _ => rfl
  have hfinalize : row'.manifestFinalizeRequestJson = row.manifestFinalizeRequestJson :=
    h.column (·.manifestFinalizeRequestJson) fun _ => rfl
  have hregistration : row'.manifestRegistrationJson = row.manifestRegistrationJson :=
    h.column (·.manifestRegistrationJson) fun _ => rfl
  have hrecord : row'.manifestRecordJson = row.manifestRecordJson :=
    h.column (·.manifestRecordJson) fun _ => rfl
  refine ⟨fun hb => ?_, fun hb h2 => ?_, fun hr request hreq => ?_, fun hr record hrec => ?_⟩
  · rw [hfinalize, hregistration, hrecord]
    exact he.undecided (h.before hb)
  · rw [hepoch, hhash, hg.operationJson]
    exact he.current (h.before hb) (hv ▸ h2)
  · obtain ⟨h2, intent, hintent, hfrozen, hdigest⟩ :=
      he.requested (hregistration ▸ hr) request (hfinalize ▸ hreq)
    exact ⟨hv.trans h2, intent, (h.column (·.redoEnvelopeIntentJson) fun _ => rfl).trans hintent,
      hg.frozen hfrozen hepoch hhash, hdigest⟩
  · obtain ⟨h2, hof, intent, hfrozen, hdigest, henvelope, hvalid⟩ :=
      he.recorded (hregistration ▸ hr) record (hrecord ▸ hrec)
    refine ⟨hv.trans h2, ?_, intent, hg.frozen hfrozen hepoch hhash, hdigest,
      (h.column (·.redoEnvelopeJson) fun _ => rfl).trans henvelope, hvalid⟩
    exact ⟨hof.txId.trans hg.txId.symm, hof.fleetId.trans hg.fleetId.symm,
      hof.coordinatorId.trans hg.coordinatorIdOf.symm, hof.decisionEpoch.trans hepoch.symm,
      hof.operationHash.trans hhash.symm⟩

def Still (s s' : Store) : Prop := Option.Rel Untouched s.transaction s'.transaction

theorem Untouched.refl (row : TxRow) : Untouched row row := ⟨rfl, id⟩

theorem Still.same (h : s'.transaction = s.transaction) : Still s s' := by
  unfold Still
  rw [h]
  cases s.transaction with
  | none => exact .none
  | some row => exact .some (.refl row)

theorem Still.refl (s : Store) : Still s s := .same rfl

theorem Still.map {f : TxRow → TxRow} (h : s'.transaction = s.transaction.map f)
    (hf : ∀ row, s.transaction = some row → Untouched row (f row)) : Still s s' := by
  unfold Still
  rw [h]
  cases hs : s.transaction with
  | none => exact .none
  | some row => exact .some (hf row hs)

theorem Still.move (h : Still s s') : (evidence C).move s s' := by
  unfold Still at h
  cases hs : s.transaction with
  | none =>
    rw [hs] at h
    cases hs' : s'.transaction with
    | none =>
      refine ⟨fun r hr => ?_, fun _ r hr => ?_⟩
      · rw [hs] at hr
        cases hr
      · rw [hs'] at hr
        cases hr
    | some row' => rw [hs'] at h; cases h
  | some row =>
    rw [hs] at h
    cases hs' : s'.transaction with
    | none => rw [hs'] at h; cases h
    | some row' =>
      rw [hs'] at h
      cases h with
      | some hu => exact move_row hs hs' hu.grown hu.evident

end

end Coordinator
