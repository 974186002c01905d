import CloudflareShard.Coordinator.EvidencePieces

/-!
# A coordinator keeps its evidence

* `persistCommitDeciding_does`, `reconcileFinalize_does`, `resolveFinalized_does`   what writes it;
* `adoptLegacyPredecision_does`, `beginV2Bridge_does`   what may only touch the rows of a predecessor;
* `knot_does`, `fetch_does`, `alarm_does`              the handlers;
* `obeys_evidence`                                     **the object as a whole keeps it**.
-/

namespace Coordinator
open Async Contracts

variable {E : Bindings} {C : ContractLib} {K : Knot} {s s' : Store} {row row' : TxRow}

/-! ## rows whose decision was registered by a predecessor -/

theorem grown_registered (htx : row'.txId = row.txId) (hfleet : row'.fleetId = row.fleetId)
    (hcoordinator : row'.coordinatorId = row.coordinatorId)
    (hoperation : row'.operationJson = row.operationJson)
    (hb : beforeDecision row'.status = false) (hr : row'.manifestRegistrationJson ≠ none) :
    Grown row row' :=
  ⟨htx, hfleet, hcoordinator, hoperation, fun h => absurd h hr, fun h => absurd h hr,
    fun h => absurd h (by simp [hb])⟩

theorem evident_registered (hb : beforeDecision row.status = false)
    (hr : row.manifestRegistrationJson ≠ none) : Evident C row :=
  ⟨fun h => absurd h (by simp [hb]), fun h => absurd h (by simp [hb]), fun h => absurd h hr,
    fun h => absurd h hr⟩

/-! ## the decisions -/

theorem persistAbortDecision_does {legacy : Bool} :
    Does C (persistAbortDecision E C row legacy) (fun row s' => Read C row s') s := by
  refine (does_of assertRestoreGateOpen_only).bind fun _ _ _ _ => (does_of gets_only).bind
    fun _ _ _ _ => (does_of ensureAlarmScheduled_only).bind fun _ _ _ _ => (does_of gets_only).bind
    fun _ _ _ _ => (does_of cancelRequestOf_only).bind fun cancel _ _ _ => ?_
  refine tryCas_does (transition_leaves (.update (recordAbort cancel) (fun _ => rfl)
    fun _ => ⟨rfl, rfl⟩) (fun h => by cases h)) (fun state s' _ => ?_) fun _ _ _ h => .pure h
  refine loadTx_does.bind fun found s₁ _ h => ?_
  split
  · refine (does_of liftContract_only).bind fun st s₂ hl _ => ?_
    split
    · exact .pure ((h _ rfl).later hl)
    · exact .throw
  · exact .throw

theorem commitDecidedMeanwhile_does {state : TransactionState} :
    Does C (commitDecidedMeanwhile state) (fun row s' => Read C row s') s := by
  refine loadTx_does.bind fun found s₁ _ h => ?_
  split
  · refine (does_of liftContract_only).bind fun st s₂ hl _ => ?_
    split
    · exact .pure ((h _ rfl).later hl)
    · exact .throw
  · exact .throw

/-- the decision freezes the envelope of the row that was read, which is still the row there is -/
theorem recordCommitV2_move {current : TxRow} {intent : RedoEnvelope}
    {request : ManifestFinalizeRequest} (hi : (evidence C).inv s) (hread : Read C row s)
    (hv : row.stateModelVersion = 2) (hcurrent : s.transaction = some current)
    (hstatus : current.status = .prepared) (hintent : Frozen row intent)
    (hrequest : request.intent.redoEnvelopeHash = C.hashCanonicalJson (.envelope intent))
    (hs' : s'.transaction =
      some (recordCommitV2 intent request { current with status := .commitDeciding })) :
    (evidence C).move s s' := by
  have hbefore : beforeDecision current.status := by rw [hstatus]; rfl
  obtain ⟨hnone, -, hrecord⟩ := (hi current hcurrent).undecided hbefore
  have hg := hread.grown hcurrent
  obtain ⟨-, hmodel, hsame⟩ := hg.before hbefore
  obtain ⟨hepoch, hhash⟩ := hsame hv
  refine move_row hcurrent hs' ⟨rfl, rfl, rfl, rfl, id, fun _ hsome => ?_, nofun⟩ fun _ => ?_
  · rw [hnone] at hsome
    cases hsome
  · refine ⟨nofun, nofun, fun _ req hreq => ?_, fun _ record hrec => ?_⟩
    · cases hreq
      have hf := hg.frozen hintent hepoch hhash
      exact ⟨hmodel.mpr hv, intent, rfl, ⟨hf.txId, hf.fleetId, hf.coordinatorId, hf.decisionEpoch,
        hf.operationHash, hf.untimed⟩, hrequest⟩
    · rw [show current.manifestRecordJson = some record from hrec] at hrecord
      cases hrecord

theorem persistCommitDeciding_does (hread : Read C row s) (hv : row.stateModelVersion = 2) :
    Does C (persistCommitDeciding E C row) (fun row s' => Read C row s') s := by
  refine (does_of assertRestoreGateOpen_only).bind fun _ s₁ hl₁ _ => (does_of gets_only).bind
    fun _ s₂ hl₂ _ => (does_of ensureAlarmScheduled_only).bind fun _ s₃ hl₃ _ =>
    (does_of reservationFor_only).bind fun request s₄ hl₄ _ => (does_of gets_only).bind
    fun rows s₅ hl₅ _ => (does_of liftContract_only).bind fun participants s₆ hl₆ _ =>
    (does_of gets_only).bind fun _ s₇ hl₇ _ => (does_of liftContract_only).bind
    fun _ s₈ hl₈ _ => (does_of Prog.Only.pause).bind fun _ s₉ hl₉ _ => ?_
  have hlater := hl₁.trans (hl₂.trans (hl₃.trans (hl₄.trans (hl₅.trans (hl₆.trans (hl₇.trans
    (hl₈.trans hl₉)))))))
  split
  · exact .throw
  refine (does_of Prog.Only.pause).bind fun _ t₁ ht₁ _ => (does_of Prog.Only.pause).bind
    fun _ t₂ ht₂ _ => (does_of liftContract_only).bind fun _ t₃ ht₃ _ => (does_of gets_only).bind
    fun now t₄ ht₄ _ => ?_
  have hread₄ := hread.later (hlater.trans (ht₁.trans (ht₂.trans (ht₃.trans ht₄))))
  refine tryCas_does (transition_does fun current hcurrent hexpected hi => ?_)
    (fun state s' _ => commitDecidedMeanwhile_does) fun _ _ _ h => .pure h
  refine recordCommitV2_move hi hread₄ hv hcurrent (by simpa using hexpected) ?_ ?_
    (updateTx_transaction (updateTx_transaction hcurrent))
  · exact ⟨rfl, rfl, rfl, rfl, rfl, rfl, rfl⟩
  · rfl

theorem persistCommitDecision_does (hread : Read C row s) :
    Does C (persistCommitDecision E C row) (fun row s' => Read C row s') s := by
  refine (does_of assertRestoreGateOpen_only).bind fun _ s₁ hl₁ _ => ?_
  split
  · rename_i hv
    exact persistCommitDeciding_does (hread.later hl₁) (by simpa [isV2] using hv)
  · refine (does_of gets_only).bind fun _ _ _ _ => (does_of ensureAlarmScheduled_only).bind
      fun _ _ _ _ => (does_of gets_only).bind fun _ _ _ _ => (does_of envelopeFor_only).bind
      fun envelope _ _ _ => (does_of Prog.Only.pause).bind fun _ _ _ _ =>
      (does_of liftContract_only).bind fun registration _ _ _ => (does_of gets_only).bind
      fun now _ _ _ => ?_
    refine tryCas_does (transition_does fun current hcurrent _ _ => ?_)
      (fun state s' _ => commitDecidedMeanwhile_does) fun _ _ _ h => .pure h
    exact move_row hcurrent (updateTx_transaction (updateTx_transaction hcurrent))
      (grown_registered rfl rfl rfl rfl rfl nofun) fun _ => evident_registered rfl nofun

/-! ## finalization -/

theorem completedEnvelope_untimed {intent : RedoEnvelope} {record : ManifestRecordV2}
    (h : intent.commitDecidedAt = none) : completedEnvelope intent record = timed intent record := by
  unfold completedEnvelope
  rw [h]
  rfl

/-- a section that stores a record and the envelope completed with it -/
theorem recorded_move {current current' : TxRow} {intent : RedoEnvelope} {record : ManifestRecordV2}
    (hcurrent : s.transaction = some current) (hs' : s'.transaction = some current')
    (hcolumns : current'.evidence =
      { current with
        redoEnvelopeJson := some (completedEnvelope intent record)
        manifestRecordJson := some record }.evidence)
    (hb : beforeDecision current'.status = false)
    (hvalid : C.validateRedoEnvelope (completedEnvelope intent record) = .ok ())
    (hrecord : current.manifestRegistrationJson = none →
      current.manifestFinalizeRequestJson.isSome ∧ current.redoEnvelopeIntentJson = some intent ∧
        RecordOf current record ∧ record.envelopeHash = C.hashCanonicalJson (.envelope intent)) :
    (evidence C).move s s' := by
  have column : ∀ {α : Type} (f : TxRow → α), (∀ row, f row.evidence = f row) → f current' =
      f { current with
          redoEnvelopeJson := some (completedEnvelope intent record)
          manifestRecordJson := some record } := by
    intro α f hf
    rw [← hf current', hcolumns, hf]
  have hreg : current'.manifestRegistrationJson = current.manifestRegistrationJson :=
    column (·.manifestRegistrationJson) fun _ => rfl
  have hfinalize : current'.manifestFinalizeRequestJson = current.manifestFinalizeRequestJson :=
    column (·.manifestFinalizeRequestJson) fun _ => rfl
  have hstored : current'.redoEnvelopeIntentJson = current.redoEnvelopeIntentJson :=
    column (·.redoEnvelopeIntentJson) fun _ => rfl
  have hepoch : current'.epoch = current.epoch := column (·.epoch) fun _ => rfl
  have hhash : current'.operationHash = current.operationHash := column (·.operationHash) fun _ => rfl
  have hmodel : current'.stateModelVersion = current.stateModelVersion :=
    column (·.stateModelVersion) fun _ => rfl
  have hg : Grown current current' :=
    ⟨column (·.txId) fun _ => rfl, column (·.fleetId) fun _ => rfl,
      column (·.coordinatorId) fun _ => rfl, column (·.operationJson) fun _ => rfl,
      fun hr => hreg ▸ hr, fun _ _ => ⟨hfinalize, hstored, hepoch, hhash⟩,
      fun h => absurd h (by simp [hb])⟩
  refine move_row hcurrent hs' hg fun he => ?_
  refine ⟨fun h => absurd h (by simp [hb]), fun h => absurd h (by simp [hb]),
    fun hr request hreq => ?_, fun hr record' hrec => ?_⟩
  · obtain ⟨h2, frozen, hintent, hf, hdigest⟩ := he.requested (hreg ▸ hr) request (hfinalize ▸ hreq)
    exact ⟨hmodel.trans h2, frozen, hstored.trans hintent, hg.frozen hf hepoch hhash, hdigest⟩
  · obtain ⟨hsome, hintent, hof, hdigest⟩ := hrecord (hreg ▸ hr)
    obtain ⟨request, hreq⟩ := Option.isSome_iff_exists.mp hsome
    obtain ⟨h2, frozen, hfrozen, hf, -⟩ := he.requested (hreg ▸ hr) request hreq
    obtain rfl : frozen = intent := Option.some.inj (hfrozen.symm.trans hintent)
    rw [column (·.manifestRecordJson) fun _ => rfl] at hrec
    cases hrec
    have htimed : completedEnvelope frozen record = timed frozen record :=
      completedEnvelope_untimed hf.untimed.1
    refine ⟨hmodel.trans h2, ?_, frozen, hg.frozen hf hepoch hhash, hdigest, ?_, htimed ▸ hvalid⟩
    · exact ⟨hof.txId.trans hg.txId.symm, hof.fleetId.trans hg.fleetId.symm,
        hof.coordinatorId.trans hg.coordinatorIdOf.symm, hof.decisionEpoch.trans hepoch.symm,
        hof.operationHash.trans hhash.symm⟩
    · rw [column (·.redoEnvelopeJson) fun _ => rfl, htimed]

/-! ## the recovery circle -/

structure KnotDoes (C : ContractLib) (K : Knot) : Prop where
  resume : RowDoes C K.resume
  resumeRecoveryOnce : RowDoes C K.resumeRecoveryOnce
  reconcileCommitOnce : RowDoes C K.reconcileCommitOnce

theorem rescheduleThen_does {action : RecoveryAction} {onlyWhile : Option (List TransactionState)}
    {response : Response} :
    Does C (do let _ ← reschedule action onlyWhile; return response) (fun _ _ => True) s :=
  (does_of reschedule_only).bind fun _ _ _ _ => .pure trivial

theorem quarantine_does {expected : List TransactionState} {error : TransactionProtocolError} :
    Does C (quarantine expected error) (fun row s' => Read C row s') s :=
  transition_leaves (.update (recordQuarantine error) (fun _ => rfl) fun _ => ⟨rfl, rfl⟩)
    fun h => by cases h

theorem aborted_does {expected : List TransactionState} {response : Response} :
    Does C (do
      let _ ← transition expected .aborted fun s => (s.updateTx recordAborted).dropRecovery
      return response) (fun _ _ => True) s :=
  (transition_leaves (.update recordAborted (fun _ => rfl) fun _ => ⟨rfl, rfl⟩)
    fun h => by cases h).bind fun _ _ _ _ => .pure trivial

theorem park_only {error : TransactionProtocolError} : Leaves (park error) :=
  .modify fun _ => .map rfl fun _ _ => ⟨rfl, id⟩

theorem reconcileCancelOnce_does (hK : KnotDoes C K) : RowDoes C (reconcileCancelOnce E C K) := by
  intro row s hread
  refine (does_of assertRestoreGateOpen_only).bind fun _ s₁ hl₁ _ =>
    (does_of liftContract_only).bind fun state s₂ hl₂ _ => ?_
  have hread₂ := hread.later (hl₁.trans hl₂)
  split
  · exact .pure trivial
  split
  · exact hK.resumeRecoveryOnce _ _ hread₂
  refine (does_of gets_only).bind fun queue _ _ _ => ?_
  split
  · exact .pure trivial
  refine (does_of cancelRequestFor_only).bind fun request _ _ _ =>
    (does_of (controlPlane_only (.call fun _ => .pure trivial))).bind fun reserve _ _ _ =>
    loadTxOrThrow_does.bind fun row₃ s₃ _ h₃ => (does_of liftContract_only).bind
    fun state₃ s₄ hl₄ _ => ?_
  split
  · exact hK.resumeRecoveryOnce _ _ (h₃.2.later hl₄)
  split
  · exact rescheduleThen_does
  · exact rescheduleThen_does
  · exact (does_of park_only).bind fun _ _ _ _ => .pure trivial
  · exact aborted_does
  refine (does_of (controlPlane_only (.call fun _ => .pure trivial))).bind fun result _ _ _ =>
    loadTxOrThrow_does.bind fun row₅ s₅ _ h₅ => (does_of liftContract_only).bind
    fun state₅ s₆ hl₆ _ => ?_
  split
  · exact hK.resumeRecoveryOnce _ _ (h₅.2.later hl₆)
  split
  · exact rescheduleThen_does
  · exact rescheduleThen_does
  · exact (does_of park_only).bind fun _ _ _ _ => .pure trivial
  · exact quarantine_does.bind fun _ _ _ _ => .pure trivial
  · exact aborted_does

theorem reconcileCancel_does (hK : KnotDoes C K) : RowDoes C (reconcileCancel E C K) :=
  fun _ _ hread => runRecoveryExclusive_does fun _ hl => reconcileCancelOnce_does hK _ _ (hread.later hl)

theorem isLegacyPredecision_only {known : Option Bool} :
    Leaves (isLegacyPredecision C row known) := by
  cases known with
  | some known => exact .pure trivial
  | none => exact coordinatorIdentity_only.bind fun _ _ => .pure trivial

theorem abortMessageRow_only {legacy : Bool} : Leaves (abortMessageRow C row legacy) := by
  unfold abortMessageRow
  split
  · exact Prog.Only.pause.bind fun _ _ => .pure trivial
  · exact .pure trivial

theorem sendAborts_does (hK : KnotDoes C K) {known : Option Bool} :
    Does C (sendAborts E C K row known) (fun _ _ => True) s := by
  refine (does_of isLegacyPredecision_only).bind fun legacy _ _ _ =>
    (does_of abortMessageRow_only).bind fun messageRow _ _ _ =>
    (does_of callShards_only).bind fun outcomes _ _ _ => ?_
  split
  · split
    · refine (does_of gets_only).bind fun now _ _ _ => ?_
      exact tryCasResume_does (transition_leaves (.same fun _ => rfl) fun h => by cases h) hK.resume
        fun _ _ _ _ => loadAndRun_does (reconcileCancel_does hK)
    · refine (transition_leaves (.update recordAborted (fun _ => rfl) fun _ => ⟨rfl, rfl⟩)
        fun h => by cases h).bind fun _ _ _ _ => .pure trivial
  · exact rescheduleThen_does

theorem reconcileAbort_does (hK : KnotDoes C K) {known : Option Bool} :
    RowDoes C (reconcileAbort E C K · known) := by
  intro row s hread
  refine (does_of assertRestoreGateOpen_only).bind fun _ s₁ hl₁ _ =>
    (does_of liftContract_only).bind fun state s₂ hl₂ _ => ?_
  split
  · exact tryCasResume_does (transition_leaves (.same fun _ => rfl) fun h => by cases h) hK.resume
      fun _ _ _ _ => sendAborts_does hK
  split
  · exact .pure trivial
  split
  · exact reconcileCancel_does hK _ _ (hread.later (hl₁.trans hl₂))
  split
  · exact .pure trivial
  · exact sendAborts_does hK

/-! ## commit -/

theorem recommit_does (hK : KnotDoes C K) : RowDoes C (recommit K) := by
  intro row s hread
  refine (does_of liftContract_only).bind fun state s' hl _ => ?_
  split
  · exact hK.reconcileCommitOnce _ _ (hread.later hl)
  · exact hK.resumeRecoveryOnce _ _ (hread.later hl)

theorem saveAcknowledgments_does {outcomes : Nat → ShardOutcome} {allAcknowledged : Bool}
    {latestState : TransactionState} {now : Nat} :
    Does C (saveAcknowledgments row outcomes allAcknowledged latestState now) (fun _ _ => True) s := by
  have hextra : ∀ queue, Idle (recordAcknowledgments row outcomes allAcknowledged queue now) := by
    intro queue
    cases allAcknowledged with
    | true => exact .update ({ · with resultJson := some .committed }) (fun _ => rfl) fun _ => ⟨rfl, rfl⟩
    | false => cases queue <;> exact .same fun _ => rfl
  unfold saveAcknowledgments
  dsimp only
  have hnext : beforeDecision (if allAcknowledged then .committed else .committedPendingAck) = false := by
    cases allAcknowledged <;> rfl
  generalize (if allAcknowledged then TransactionState.committed else .committedPendingAck) = next at hnext ⊢
  split
  · refine .done (.transact fun _ s' _ hs => ?_)
    obtain ⟨current, hcurrent, -, rfl⟩ := casTx_ok hs
    obtain ⟨g, htx, hg⟩ := hextra false s
    refine Still.move (.map htx fun r _ => ⟨(hg r).1, fun hb => ?_⟩)
    rw [(hg r).2] at hb
    exact hb
  · exact (transition_leaves (hextra true) fun h => absurd h (by simp [hnext])).bind
      fun _ _ _ _ => .pure trivial

theorem sendCommits_does (hK : KnotDoes C K) : Does C (sendCommits K row) (fun _ _ => True) s := by
  refine (does_of callShards_only).bind fun outcomes _ _ _ => ?_
  have halarm : Leaves (releaseAlarm (allOk row.operationJson.length outcomes)) := by
    unfold releaseAlarm
    split
    · exact gets_only.bind fun _ _ => ensureAlarmScheduled_only
    · exact .pure trivial
  refine (does_of halarm).bind fun _ _ _ _ => loadTxOrThrow_does.bind fun latest s₁ _ h₁ =>
    (does_of liftContract_only).bind fun latestState s₂ hl₂ _ => ?_
  split
  · exact .pure trivial
  split
  · exact hK.resumeRecoveryOnce _ _ (h₁.2.later hl₂)
  refine (does_of gets_only).bind fun now _ _ _ => ?_
  refine tryCasResume_does saveAcknowledgments_does (recommit_does hK) fun _ s' _ _ => ?_
  split
  · exact .pure trivial
  · refine (does_of reschedule_only).bind fun scheduled _ _ _ => ?_
    split
    · exact .pure trivial
    · refine loadTx_does.bind fun found _ _ h => ?_
      split
      · exact recommit_does hK _ _ (h _ rfl)
      · exact .pure trivial

theorem reconcileCommitOnce_does (hK : KnotDoes C K) : RowDoes C (reconcileCommitOnce E K) := by
  intro row s hread
  refine (does_of assertRestoreGateOpen_only).bind fun _ s₁ hl₁ _ =>
    (does_of liftContract_only).bind fun state s₂ hl₂ _ => ?_
  split
  · exact tryCasResume_does (transition_leaves (.same fun _ => rfl) fun h => by cases h)
      hK.reconcileCommitOnce fun _ _ _ _ => sendCommits_does hK
  split
  · exact .pure trivial
  split
  · exact hK.resumeRecoveryOnce _ _ (hread.later (hl₁.trans hl₂))
  · exact sendCommits_does hK

theorem reconcileCommit_does (hK : KnotDoes C K) : RowDoes C (reconcileCommit E K) :=
  fun _ _ hread => runRecoveryExclusive_does fun _ hl => reconcileCommitOnce_does hK _ _ (hread.later hl)

theorem resumeRecoveryOnce_does (hK : KnotDoes C K) : RowDoes C (resumeRecoveryOnce E C K) := by
  intro row s hread
  refine (does_of liftContract_only).bind fun state s' hl _ => ?_
  split
  · exact reconcileCancelOnce_does hK _ _ (hread.later hl)
  split
  · exact reconcileCommitOnce_does hK _ _ (hread.later hl)
  · exact hK.resume _ _ (hread.later hl)

/-! ## finalization and the bridge -/

theorem pendManifest_does {state decided : TransactionState} :
    Does C (pendManifest state decided) (fun _ _ => True) s := by
  unfold pendManifest
  split
  · exact (transition_leaves (.same fun _ => rfl) fun h => by cases h).bind fun _ _ _ _ => .pure trivial
  · exact .pure trivial

theorem recordOf_grown {record : ManifestRecordV2} (hg : Grown row row') (h : RecordOf row record)
    (he : row'.epoch = row.epoch) (ho : row'.operationHash = row.operationHash) :
    RecordOf row' record :=
  ⟨h.txId.trans hg.txId.symm, h.fleetId.trans hg.fleetId.symm,
    h.coordinatorId.trans hg.coordinatorIdOf.symm, h.decisionEpoch.trans he.symm,
    h.operationHash.trans ho.symm⟩

/-- the request was read from `row`, the envelope it is completed to from `row'` -/
theorem finalized_evidence {request : ManifestFinalizeRequest} {frozen intent : RedoEnvelope}
    {record : ManifestRecordV2} {current : TxRow} (hg : Grown row row') (hg' : Grown row' current)
    (hrequest : row.manifestFinalizeRequestJson = some request)
    (hfrozen : row.redoEnvelopeIntentJson = some frozen)
    (hdigest : request.intent.redoEnvelopeHash = C.hashCanonicalJson (.envelope frozen))
    (hintent : row'.redoEnvelopeIntentJson = some intent) (hof : RecordOf row' record)
    (hrecord : record.envelopeHash = request.intent.redoEnvelopeHash) :
    current.manifestRegistrationJson = none →
      current.manifestFinalizeRequestJson.isSome ∧ current.redoEnvelopeIntentJson = some intent ∧
        RecordOf current record ∧ record.envelopeHash = C.hashCanonicalJson (.envelope intent) := by
  intro hr
  have hr' := hg'.registered hr
  obtain ⟨hf₁, hi₁, -, -⟩ := hg.requested hr' (by rw [hrequest]; rfl)
  obtain ⟨hf₂, hi₂, he₂, ho₂⟩ := hg'.requested hr (by rw [hf₁, hrequest]; rfl)
  have hsame : frozen = intent := Option.some.inj (hfrozen.symm.trans (hi₁.symm.trans hintent))
  refine ⟨by rw [hf₂, hf₁, hrequest]; rfl, hi₂.trans hintent, recordOf_grown hg' hof he₂ ho₂, ?_⟩
  rw [hrecord, hdigest, hsame]

theorem reconcileFinalize_does (hK : KnotDoes C K) : RowDoes C (reconcileFinalize E C K) := by
  intro row s hread
  refine (does_of assertRestoreGateOpen_only).bind fun _ s₁ hl₁ _ =>
    (does_of liftContract_only).bind fun state s₂ hl₂ _ => ?_
  have hread₂ := hread.later (hl₁.trans hl₂)
  split
  · exact hK.resume _ _ hread₂
  rename_i hstate
  refine (does_of finalizeRequestFor_only).bind fun request s₃ hl₃ hrequest => ?_
  obtain ⟨hrequest, frozen, hfrozen, hdigest⟩ := hrequest
  refine (does_of (controlPlane_only (.call fun _ => .pure trivial))).bind fun result s₄ hl₄ _ =>
    loadTxOrThrow_does.bind fun row' s₅ hl₅ h₅ => (does_of liftContract_only).bind
    fun state' s₆ hl₆ _ => ?_
  have hg : Grown row row' := ((hread₂.later (hl₃.trans (hl₄.trans hl₅)))).grown h₅.1
  have hread₆ := h₅.2.later hl₆
  split
  · exact hK.resume _ _ hread₆
  split
  · exact tryCasResume_does pendManifest_does hK.resume fun _ _ _ _ => rescheduleThen_does
  · exact tryCasResume_does pendManifest_does hK.resume fun _ _ _ _ => rescheduleThen_does
  · exact quarantine_does.bind fun _ _ _ _ => .pure trivial
  · rename_i record recordHash
    refine (does_of liftContract_only).bind fun _ t₁ ht₁ _ => (does_of Prog.Only.pause).bind
      fun _ t₂ ht₂ _ => (does_of liftContract_only).bind fun _ t₃ ht₃ _ => ?_
    split
    · exact .throw
    rename_i hchecks
    simp only [not_or, not_not] at hchecks
    obtain ⟨-, htx, hfleet, hcoordinator, hoperation, hepoch, -, hrecord⟩ := hchecks
    split
    · exact .throw
    rename_i intent hintent
    refine (does_of Prog.Only.pause).bind fun _ t₄ ht₄ _ => (does_of liftContract_only).bind
      fun _ t₅ ht₅ hvalid => (does_of gets_only).bind fun now t₆ ht₆ _ => ?_
    have hread' := hread₆.later (ht₁.trans (ht₂.trans (ht₃.trans (ht₄.trans (ht₅.trans ht₆)))))
    refine tryCasResume_does (transition_does fun current hcurrent _ _ => ?_) hK.resume
      fun _ _ _ _ => loadAndRun_does (reconcileCommit_does hK)
    exact recorded_move hcurrent (updateTx_transaction (updateTx_transaction hcurrent)) rfl rfl hvalid
      (finalized_evidence hg (hread'.grown hcurrent) hrequest hfrozen hdigest hintent
        ⟨htx, hfleet, hcoordinator, hepoch, hoperation⟩ hrecord)

theorem reconcileV2BridgeReservation_does (hK : KnotDoes C K) :
    RowDoes C (reconcileV2BridgeReservation E C K) := by
  intro row s hread
  refine (does_of liftContract_only).bind fun state s₁ hl₁ _ => ?_
  split
  · exact .pure trivial
  split
  · exact reconcileFinalize_does hK _ _ (hread.later hl₁)
  split
  · rename_i envelope registration henvelope hregistration
    refine (does_of Prog.Only.pause).bind fun _ s₂ hl₂ _ => (does_of liftContract_only).bind
      fun _ s₃ hl₃ _ => (does_of Prog.Only.pause).bind fun _ s₄ hl₄ _ =>
      (does_of liftContract_only).bind fun _ s₅ hl₅ _ => (does_of Prog.Only.pause).bind
      fun _ s₆ hl₆ _ => ?_
    split
    · exact .throw
    refine (does_of reservationFor_only).bind fun request s₇ hl₇ _ =>
      (does_of (controlPlane_only (.call fun _ => .pure trivial))).bind fun reserve s₈ hl₈ _ =>
      loadTxOrThrow_does.bind fun row' s₉ hl₉ h₉ => (does_of liftContract_only).bind
      fun state' t hlt _ => ?_
    have hread' := hread.later (hl₁.trans (hl₂.trans (hl₃.trans (hl₄.trans (hl₅.trans (hl₆.trans
      (hl₇.trans (hl₈.trans (hl₉.trans hlt)))))))))
    split
    · exact hK.resume _ _ (h₉.2.later hlt)
    split
    · exact rescheduleThen_does
    · exact rescheduleThen_does
    · exact quarantine_does.bind fun _ _ _ _ => .pure trivial
    · split
      · exact .throw
      refine (does_of Prog.Only.pause).bind fun _ t₁ ht₁ _ => (does_of Prog.Only.pause).bind
        fun _ t₂ ht₂ _ => (does_of liftContract_only).bind fun _ t₃ ht₃ _ =>
        (does_of gets_only).bind fun now t₄ ht₄ _ => ?_
      have hread₄ := hread'.later (ht₁.trans (ht₂.trans (ht₃.trans ht₄)))
      refine tryCasResume_does (.done (.transact fun _ s' _ hs => ?_)) hK.resume
        fun _ _ _ _ => loadAndRun_does (reconcileFinalize_does hK)
      obtain ⟨current, hcurrent, hexpected, rfl⟩ := casTx_ok hs
      have hstatus : current.status = .commitPendingManifest := by
        simp only [Bool.and_eq_true, beq_iff_eq] at hexpected
        exact hexpected.1
      have hreg : current.manifestRegistrationJson ≠ none := fun hr => by
        have := (hread₄.grown hcurrent).registered hr
        rw [hregistration] at this
        cases this
      have hb : beforeDecision current.status = false := by rw [hstatus]; rfl
      exact move_row hcurrent (updateTx_transaction hcurrent) (grown_registered rfl rfl rfl rfl hb hreg)
        fun _ => evident_registered hb hreg
  · exact .throw

/-- the bridge is entered with the registration of a predecessor only -/
theorem beginV2Bridge_does (hK : KnotDoes C K) {state : TransactionState} {s : Store}
    (hread : Read C row s) (hreg : row.manifestRegistrationJson ≠ none) :
    Does C (beginV2Bridge E C K row state) (fun _ _ => True) s := by
  refine (does_of Prog.Only.pause).bind fun _ s₁ hl₁ _ =>
    (does_of (controlPlane_only (.call fun _ => .pure trivial))).bind fun assignment s₂ hl₂ _ =>
    loadTxOrThrow_does.bind fun row' s₃ hl₃ h₃ => (does_of liftContract_only).bind
    fun state' s₄ hl₄ _ => ?_
  split
  · exact hK.resume _ _ (h₃.2.later hl₄)
  split
  · exact rescheduleThen_does
  · exact rescheduleThen_does
  · exact quarantine_does.bind fun _ _ _ _ => .pure trivial
  · refine (does_of validateAssignedReservation_only).bind fun _ s₅ hl₅ _ =>
      (does_of liftContract_only).bind fun _ s₆ hl₆ _ => (does_of gets_only).bind
      fun now s₇ hl₇ _ => ?_
    have hread₇ := hread.later (hl₁.trans (hl₂.trans (hl₃.trans (hl₄.trans (hl₅.trans
      (hl₆.trans hl₇))))))
    refine tryCasResume_does (.done (.transact fun _ s' _ hs => ?_)) hK.resume
      fun _ _ _ _ => loadAndRun_does (reconcileV2BridgeReservation_does hK)
    obtain ⟨current, hcurrent, -, rfl⟩ := casTx_ok hs
    have hreg' : current.manifestRegistrationJson ≠ none :=
      fun hr => hreg ((hread₇.grown hcurrent).registered hr)
    exact move_row hcurrent (updateTx_transaction hcurrent)
      (grown_registered rfl rfl rfl rfl rfl hreg') fun _ => evident_registered rfl hreg'

theorem pendingManifest_does (hK : KnotDoes C K) :
    Does C (pendingManifest K) (fun _ _ => True) s := by
  refine (does_of reschedule_only).bind fun scheduled _ _ _ => ?_
  split
  · exact .pure trivial
  · refine loadTx_does.bind fun found _ _ h => ?_
    split
    · exact hK.resume _ _ (h _ rfl)
    · exact .pure trivial

theorem reconcileManifest_does (hK : KnotDoes C K) : RowDoes C (reconcileManifest E C K) := by
  intro row s hread
  refine (does_of assertRestoreGateOpen_only).bind fun _ s₁ hl₁ _ => ?_
  split
  · exact reconcileFinalize_does hK _ _ (hread.later hl₁)
  refine (does_of liftContract_only).bind fun state s₂ hl₂ _ => ?_
  have hread₂ := hread.later (hl₁.trans hl₂)
  split
  · exact hK.resume _ _ hread₂
  split
  · rename_i registration envelope hregistration henvelope
    refine (does_of Prog.Only.pause).bind fun _ s₃ hl₃ _ => (does_of liftContract_only).bind
      fun _ s₄ hl₄ _ => (does_of (controlPlane_only (.call fun _ => .pure trivial))).bind
      fun result s₅ hl₅ _ => loadTxOrThrow_does.bind fun row' s₆ hl₆ h₆ =>
      (does_of liftContract_only).bind fun state' s₇ hl₇ _ => ?_
    have hread₇ := h₆.2.later hl₇
    have hg : Grown row row' := (hread₂.later (hl₃.trans (hl₄.trans (hl₅.trans hl₆)))).grown h₆.1
    split
    · exact hK.resume _ _ hread₇
    have hpending : Does C (tryCas (pendManifest state .commitDecided) (resumeLatest K.resume)
        fun _ => pendingManifest K) (fun _ _ => True) s₇ :=
      tryCasResume_does pendManifest_does hK.resume fun _ _ _ _ => pendingManifest_does hK
    split
    · exact hpending
    · exact hpending
    · exact hpending
    · split
      · refine beginV2Bridge_does hK hread₇ fun hr => ?_
        have := hg.registered hr
        rw [hregistration] at this
        cases this
      · exact tryCasResume_does quarantine_does hK.resume fun _ _ _ _ => .pure trivial
    · refine (does_of gets_only).bind fun now _ _ _ => ?_
      exact tryCasResume_does (transition_leaves (.same fun _ => rfl) fun h => by cases h) hK.resume
        fun _ _ _ _ => loadAndRun_does (reconcileCommit_does hK)
  · exact .pure trivial

/-! ## release -/

theorem released_only {result : Option ManifestReleaseResult} :
    Leaves (reconcileManifestReleaseOnce.released result) := by
  unfold reconcileManifestReleaseOnce.released
  split
  · exact modify_only fun _ => rfl
  · refine (Prog.Only.modify fun _ => .map rfl fun _ _ => ⟨rfl, id⟩).bind fun _ _ => ?_
    exact reschedule_only.bind fun _ _ => .pure trivial
  · exact reschedule_only.bind fun _ _ => .pure trivial

theorem reconcileManifestReleaseOnce_only : Leaves (reconcileManifestReleaseOnce E C row) := by
  refine assertRestoreGateOpen_only.bind fun _ _ => liftContract_only.bind fun state _ => ?_
  split
  · exact .throw
  split
  · refine reservationFor_only.bind fun request _ => ?_
    split
    · refine liftContract_only.bind fun _ _ => Prog.Only.pause.bind fun _ _ =>
        liftContract_only.bind fun _ _ => ?_
      split
      · exact .throw
      · exact (controlPlane_only (.call fun _ => .pure trivial)).bind fun _ _ => released_only
    · exact .throw
  · split
    · exact modify_only fun _ => rfl
    · exact (controlPlane_only (.call fun _ => .pure trivial)).bind fun _ _ => released_only

theorem runReleaseExclusive_only {work : Coord Unit} (hwork : Leaves work) :
    Leaves (runReleaseExclusive work) := by
  refine (Prog.Only.read .refl).bind fun s₀ _ => ?_
  split
  · exact awaitPromise_only.bind fun _ _ => .pure trivial
  · refine (modify_only ?_).bind fun _ _ => hwork.attempt.bind fun outcome _ => ?_
    · exact fun _ => rfl
    refine (modify_only ?_).bind fun _ _ =>
      (awaitPromise_only.andFinally fun s => ?_).bind fun _ _ => .pure trivial
    · exact fun _ => rfl
    · split <;> exact .same rfl

/-! ## before the decision -/

theorem prepare_does (hK : KnotDoes C K) : RowDoes C (prepare E C K) := by
  intro row s hread
  refine (does_of callShards_only).bind fun answers _ _ _ => ?_
  dsimp only
  split
  · refine loadTxOrThrow_does.bind fun latest s₁ _ h₁ => (does_of liftContract_only).bind
      fun state s₂ hl₂ _ => ?_
    split
    · exact hK.resume _ _ (h₁.2.later hl₂)
    · exact persistAbortDecision_does.bind fun aborting _ _ h =>
        (reconcileAbort_does hK _ _ h).bind fun _ _ _ _ => .pure trivial
  · have hresume : ∀ s', Does C (do
        let latest ← loadTxOrThrow "Missing transaction."
        K.resume latest) (fun _ _ => True) s' := fun s' => loadAndRun_does hK.resume
    exact tryCas_does (transition_leaves (.same fun _ => rfl) (by decide)) (fun _ _ _ => hresume _)
      fun _ _ _ _ => hresume _

/-- a row that state model 2 has begun is never taken for one of the predecessor -/
theorem not_legacy (he : Evident C row) (hb : beforeDecision row.status)
    (hv : row.stateModelVersion = 2) : identityOf C row = .current := by
  obtain ⟨hepoch, hhash⟩ := he.current hb hv
  unfold identityOf
  rw [hepoch, hhash]
  exact if_pos rfl

theorem recordAdopted_move {current : TxRow} {operationHash : Hash} (hi : (evidence C).inv s)
    (hread : Read C row s) (hlegacy : identityOf C row = .legacy)
    (hcurrent : s.transaction = some current) (hb : beforeDecision current.status)
    (hs' : s'.transaction = some (recordAdopted operationHash current)) : (evidence C).move s s' := by
  obtain ⟨hb₀, hmodel, -⟩ := (hread.grown hcurrent).before hb
  have hv : current.stateModelVersion ≠ 2 := fun hv => by
    rw [not_legacy hread.1 hb₀ (hmodel.mp hv)] at hlegacy
    cases hlegacy
  obtain ⟨hf, hr, hrec⟩ := (hi current hcurrent).undecided hb
  refine move_row hcurrent hs' ⟨rfl, rfl, rfl, rfl, id, fun _ hsome => ?_, fun _ => ?_⟩ fun _ => ?_
  · rw [hf] at hsome
    cases hsome
  · exact ⟨hb, ⟨nofun, fun h => absurd h hv⟩, fun h => absurd h hv⟩
  · refine ⟨fun _ => ⟨hf, hr, hrec⟩, nofun, fun _ request hreq => ?_, fun _ record h => ?_⟩
    · rw [show current.manifestFinalizeRequestJson = some request from hreq] at hf
      cases hf
    · rw [show current.manifestRecordJson = some record from h] at hrec
      cases hrec

theorem adoptLegacyPredecision_does (hK : KnotDoes C K) : RowDoes C (adoptLegacyPredecision E C K) := by
  intro row s hread
  unfold adoptLegacyPredecision
  dsimp only
  split
  · exact .pure trivial
  refine (does_of Prog.Only.pause).bind fun _ s₁ hl₁ _ => (does_of coordinatorIdentity_only).bind
    fun identity s₂ hl₂ hidentity => ?_
  split
  · exact .pure trivial
  rename_i hlegacy
  refine (does_of gets_only).bind fun now s₃ hl₃ _ => (does_of checkManifestAdmission_only).bind
    fun admission s₄ hl₄ _ => ?_
  split
  · exact .pure trivial
  refine (does_of callShards_only).bind fun answers s₅ hl₅ _ => ?_
  have hread₅ := hread.later (hl₁.trans (hl₂.trans (hl₃.trans (hl₄.trans hl₅))))
  split
  · exact persistAbortDecision_does.bind fun aborting _ _ h =>
      (reconcileAbort_does hK _ _ h).bind fun _ _ _ _ => .pure trivial
  · have hresume : ∀ s', Does C (do
        let adopted ← loadTxOrThrow "Missing transaction after legacy adoption."
        K.resume adopted) (fun _ _ => True) s' := fun s' => loadAndRun_does hK.resume
    refine tryCas_does (.done (.transact fun _ s' hi hs => ?_))
      (fun _ _ _ => hresume _) fun _ _ _ _ => hresume _
    obtain ⟨current, hcurrent, hexpected, rfl⟩ := casTx_ok hs
    simp only [Bool.and_eq_true, Bool.or_eq_true, beq_iff_eq] at hexpected
    have hb : beforeDecision current.status := by
      rcases hexpected.1 with h | h <;> rw [h] <;> rfl
    exact recordAdopted_move hi hread₅ (hidentity.symm.trans (by simpa using hlegacy)) hcurrent hb
      (updateTx_transaction hcurrent)

theorem reconcileReservation_does (hK : KnotDoes C K) : RowDoes C (reconcileReservation E C K) := by
  intro row s hread
  refine (does_of assertRestoreGateOpen_only).bind fun _ s₁ hl₁ _ =>
    (does_of liftContract_only).bind fun state s₂ hl₂ _ => ?_
  split
  · exact hK.resume _ _ (hread.later (hl₁.trans hl₂))
  refine (does_of reservationFor_only).bind fun request _ _ _ =>
    (does_of (controlPlane_only (.call fun _ => .pure trivial))).bind fun result _ _ _ =>
    loadTxOrThrow_does.bind fun row' s₃ _ h₃ => (does_of liftContract_only).bind
    fun state' s₄ hl₄ _ => ?_
  split
  · exact hK.resume _ _ (h₃.2.later hl₄)
  split
  · exact rescheduleThen_does
  · exact rescheduleThen_does
  · split
    · exact .throw
    · exact tryCasResume_does (transition_leaves (.same fun _ => rfl) (by decide)) hK.resume
        fun _ _ _ _ => loadAndRun_does (prepare_does hK)
  · exact (transition_leaves (.update (recordRejected _) (fun _ => rfl) fun _ => ⟨rfl, rfl⟩)
      (by decide)).bind fun _ _ _ _ => .pure trivial
  · exact persistAbortDecision_does.bind fun aborting _ _ h => reconcileAbort_does hK _ _ h

theorem resume_does (hK : KnotDoes C K) : RowDoes C (resume E C K) := by
  intro row s hread
  refine (does_of gets_only).bind fun discard s₁ hl₁ _ => ?_
  split
  · exact .pure trivial
  refine (does_of liftContract_only).bind fun state s₂ hl₂ _ => ?_
  have hread := hread.later (hl₁.trans hl₂)
  have hpending : Does C (if isV2 row then
      if row.manifestFinalizeRequestJson.isSome then reconcileFinalize E C K row
      else reconcileV2BridgeReservation E C K row
    else reconcileManifest E C K row) (fun _ _ => True) s₂ := by
    split
    · split
      · exact reconcileFinalize_does hK _ _ hread
      · exact reconcileV2BridgeReservation_does hK _ _ hread
    · exact reconcileManifest_does hK _ _ hread
  split
  · exact .pure trivial
  · exact reconcileReservation_does hK _ _ hread
  · exact reconcileFinalize_does hK _ _ hread
  · exact reconcileCancel_does hK _ _ hread
  · refine (does_of coordinatorIdentity_only).bind fun identity s₃ hl₃ _ => ?_
    split
    · exact adoptLegacyPredecision_does hK _ _ (hread.later hl₃)
    · exact prepare_does hK _ _ (hread.later hl₃)
  · refine (does_of coordinatorIdentity_only).bind fun identity s₃ hl₃ _ => ?_
    split
    · exact adoptLegacyPredecision_does hK _ _ (hread.later hl₃)
    · exact .pure trivial
    · exact (persistCommitDecision_does (hread.later hl₃)).bind
        fun decided _ _ h => reconcileManifest_does hK _ _ h
  · exact reconcileAbort_does hK _ _ hread
  · exact reconcileAbort_does hK _ _ hread
  · exact .pure trivial
  · exact hpending
  · exact hpending
  · exact reconcileCommit_does hK _ _ hread
  · exact reconcileCommit_does hK _ _ hread
  · exact reconcileCommit_does hK _ _ hread
  · exact .pure trivial
  · exact .pure trivial

theorem knot_does : ∀ fuel, KnotDoes C (knot E C fuel)
  | 0 => ⟨fun _ _ _ => .stuck, fun _ _ _ => .stuck, fun _ _ _ => .stuck⟩
  | fuel + 1 =>
    ⟨resume_does (knot_does fuel), resumeRecoveryOnce_does (knot_does fuel),
      reconcileCommitOnce_does (knot_does fuel)⟩

/-! ## restore endpoints and reading ones -/

theorem abortParticipantsForRestore_only {claim : Option RestoreClaim} :
    Leaves (abortParticipantsForRestore row claim) := by
  refine callShards_only.bind fun outcomes _ => ?_
  split
  · exact .pure trivial
  · split
    · exact .throw
    · exact .throw

theorem persistRestoreDiscard_only {restoreId : String} {generation : Nat} :
    Leaves (persistRestoreDiscard restoreId generation) := by
  refine .step (fun s => ?_) fun _ => .pure trivial
  split
  · exact .refl s
  · exact .map rfl fun _ _ => ⟨rfl, fun h => by cases h⟩

theorem handleRestoreDiscard_only {restoreId : Option String} {generation : Option Nat} :
    Leaves (handleRestoreDiscard E restoreId generation) := by
  refine Prog.Only.pause.bind fun _ _ => matchingRestoreFence_only.bind fun fence _ => ?_
  split
  · exact .pure trivial
  · refine awaitMutationDrain_only.bind fun _ _ => ?_
    have habort : Leaves (abortStoredParticipants
        { restoreId := restoreId.getD "", generation := generation.getD 0 }) := by
      refine gets_only.bind fun found _ => ?_
      split
      · exact abortParticipantsForRestore_only
      · exact .pure trivial
    refine habort.bind fun _ _ => persistRestoreDiscard_only.bind fun discard _ => ?_
    split
    · exact .pure trivial
    · exact .pure trivial

theorem storedEnvelopeHash_only : Leaves (storedEnvelopeHash C row) := by
  unfold storedEnvelopeHash
  split
  · exact .pure trivial
  · exact Prog.Only.pause.bind fun _ _ => liftContract_only.bind fun _ _ =>
      Prog.Only.pause.bind fun _ _ => .pure trivial

theorem handleRestoreLossPage_only {restoreId : Option String} {generation : Option Nat}
    {cutoff through : Nat} :
    Leaves (handleRestoreLossPage E C restoreId generation cutoff through) := by
  refine Prog.Only.pause.bind fun _ _ => matchingRestoreFence_only.bind fun fence _ => ?_
  split
  · exact .pure trivial
  refine awaitMutationDrain_only.bind fun _ _ => gets_only.bind fun _ _ => ?_
  split
  · exact .pure trivial
  refine gets_only.bind fun found _ => ?_
  split
  · exact .pure trivial
  split
  · exact storedEnvelopeHash_only.bind fun _ _ => .pure trivial
  · exact .pure trivial

theorem quarantineCandidates_only : Leaves (quarantineCandidates C row) := by
  have hcancel : ∀ candidates, Leaves (quarantineCandidates.cancelCandidate C row candidates) := by
    intro candidates
    unfold quarantineCandidates.cancelCandidate
    split
    · exact Prog.Only.pause.bind fun _ _ => .pure trivial
    · exact .pure trivial
  unfold quarantineCandidates
  dsimp only
  split
  · exact Prog.Only.pause.bind fun _ _ => liftContract_only.bind fun _ _ => hcancel _
  · exact hcancel _

theorem handleTxStatus_only : Leaves (handleTxStatus C) := by
  refine Prog.Only.pause.bind fun _ _ => gets_only.bind fun discard _ => ?_
  split
  · exact .pure trivial
  refine gets_only.bind fun found _ => ?_
  split
  · exact .pure trivial
  refine liftContract_only.bind fun _ _ => quarantineCandidates_only.bind fun _ _ => ?_
  refine (modify_only ?_).bind fun _ _ => .pure trivial
  exact fun _ => rfl

theorem handleRedoEnvelope_only {envelopeHash : Hash} :
    Leaves (handleRedoEnvelope C envelopeHash) := by
  refine Prog.Only.pause.bind fun _ _ => gets_only.bind fun found _ => ?_
  split
  · exact .pure trivial
  · refine Prog.Only.pause.bind fun _ _ => liftContract_only.bind fun _ _ =>
      Prog.Only.pause.bind fun _ _ => ?_
    split
    · exact .pure trivial
    · exact .pure trivial

theorem handleStats_only : Leaves handleStats := (Prog.Only.read .refl).bind fun _ _ => .pure trivial

/-! ## begin -/

theorem insertTx_move {new : TxRow} {u : Unit} (hnew : Evident C new)
    (h : insertTx new s = .ok (u, s')) : (evidence C).move s s' := by
  unfold insertTx at h
  split at h
  · cases h
  · rename_i hnone
    split at h
    · cases h
    · cases h
      refine ⟨fun r hr => ?_, fun _ r hr => ?_⟩
      · rw [hr] at hnone
        exact absurd rfl hnone
      · cases hr
        exact hnew

theorem newTxRow_evident {fleetId coordinatorId : String} {participants : List BeginParticipant}
    {operationHash : Hash} {request : ManifestRouteAssignmentRequest}
    {reservation : ManifestReservation} {reservationHash : Hash} {now : Nat}
    (h : operationHash = C.hashParticipantOperations (C.redoParticipants participants 1)) :
    Evident C (newTxRow E fleetId coordinatorId participants operationHash request reservation
      reservationHash now) :=
  ⟨fun _ => ⟨rfl, rfl, rfl⟩, fun _ _ => ⟨rfl, h⟩, fun _ _ h => (nomatch h), fun _ _ h => (nomatch h)⟩

theorem assignRoute_only {request : ManifestRouteAssignmentRequest} :
    Leaves (assignRoute E request) := by
  refine gets_only.bind fun now _ => admissionAttempt_only.bind fun attempt _ => ?_
  split
  · exact .pure trivial
  have hask : Leaves (askRoute E request) := by
    unfold askRoute
    split
    · exact .call fun _ => .pure trivial
    · exact .pure trivial
  refine hask.bind fun answer _ => ?_
  split
  · exact updateCircuit_only.bind fun _ _ => .pure trivial
  · exact updateCircuit_only.bind fun _ _ => .pure trivial
  · refine updateCircuit_only.bind fun _ _ => ?_
    split
    · exact .pure trivial
    · exact .pure trivial
  · exact updateCircuit_only.bind fun _ _ => .pure trivial

theorem preflight_only {fleetId coordinatorId : String} {participants : List BeginParticipant} :
    (preflight E C fleetId coordinatorId participants).Only Still fun operationHash =>
      operationHash = C.hashParticipantOperations (C.redoParticipants participants 1) :=
  gets_only.bind fun _ _ => envelopeFor_only.bind fun _ h => liftContract_only.bind fun _ _ => .pure h

theorem beginNew_does (hK : KnotDoes C K) {fleetId coordinatorId : String}
    {participants : List BeginParticipant} {operationHash : Hash}
    (hhash : operationHash = C.hashParticipantOperations (C.redoParticipants participants 1)) :
    Does C (beginNew E C K fleetId coordinatorId participants operationHash) (fun _ _ => True) s := by
  refine (does_of Prog.Only.pause).bind fun _ _ _ _ => (does_of assignRoute_only).bind
    fun route _ _ _ => ?_
  split
  · exact .pure trivial
  refine (does_of validateAssignedReservation_only).bind fun _ _ _ _ => (does_of gets_only).bind
    fun _ _ _ _ => (does_of ensureAlarmScheduled_only).bind fun _ _ _ _ =>
    (does_of gets_only).bind fun now s₁ _ _ => ?_
  refine Rules.Does.bind (.done (.attempt (.transact fun _ s' _ hs =>
    insertTx_move (newTxRow_evident hhash) hs))) fun outcome s₂ _ _ => ?_
  split
  · refine loadTx_does.bind fun found _ _ h => ?_
    split
    · split
      · exact hK.resume _ _ (h _ rfl)
      · exact .throw
    · exact .throw
  · exact loadAndRun_does (reconcileReservation_does hK)

theorem retryBegin_does (hK : KnotDoes C K) {existing : TxRow} {operationHash : Hash}
    (hread : Read C existing s) :
    Does C (retryBegin C K existing operationHash) (fun _ _ => True) s := by
  refine (does_of coordinatorIdentity_only).bind fun identity s₁ hl₁ _ => ?_
  split
  · exact .pure trivial
  split
  · exact .pure trivial
  · exact hK.resume _ _ (hread.later hl₁)

theorem retryLegacyBegin_does (hK : KnotDoes C K) {existing : TxRow}
    {participants : List BeginParticipant} (hread : Read C existing s) :
    Does C (retryLegacyBegin C K existing participants) (fun _ _ => True) s := by
  refine (does_of liftContract_only).bind fun state s₁ hl₁ _ => ?_
  dsimp only
  split
  · exact .pure trivial
  split
  · exact hK.resume _ _ (hread.later hl₁)
  · exact .pure trivial

theorem beginRegistered_does (hK : KnotDoes C K) {existing : Option TxRow}
    {fleetId coordinatorId : String} {participants : List BeginParticipant}
    (hread : ∀ row, existing = some row → Read C row s) :
    Does C (beginRegistered E C K existing fleetId coordinatorId participants) (fun _ _ => True) s := by
  unfold beginRegistered
  split
  · refine (does_of coordinatorIdentity_only).bind fun identity s₁ hl₁ _ => ?_
    split
    · exact retryLegacyBegin_does hK ((hread _ rfl).later hl₁)
    · exact (does_of preflight_only).bind fun _ s₂ hl₂ _ =>
        retryBegin_does hK ((hread _ rfl).later (hl₁.trans hl₂))
  · exact (does_of preflight_only).bind fun _ _ _ h => beginNew_does hK h

theorem handleBegin_does (hK : KnotDoes C K) {payload : BeginPayload} :
    Does C (handleBegin E C K payload) (fun _ _ => True) s := by
  refine (does_of Prog.Only.pause).bind fun _ _ _ _ => ?_
  split
  · exact .pure trivial
  dsimp only
  split
  · exact .pure trivial
  refine loadTx_does.bind fun existing s₁ _ hread => (does_of registerPhysicalCoordinator_only).bind
    fun registration s₂ hl₂ _ => ?_
  split
  · exact .throw
  · split
    · refine (does_of abortParticipantsForRestore_only).bind fun _ _ _ _ =>
        (does_of persistRestoreDiscard_only).bind fun discard _ _ _ => ?_
      split
      · exact .pure trivial
      · exact .pure trivial
    · exact beginRegistered_does hK fun row h => (hread row h).later hl₂
  · exact beginRegistered_does hK fun row h => (hread row h).later hl₂

/-! ## force-abort -/

theorem abortingRow_does {legacy : Bool} (hread : Read C row s) :
    Does C (abortingRow E C row legacy) (fun row s' => Read C row s') s := by
  unfold abortingRow
  split
  · exact .pure hread
  · exact persistAbortDecision_does

theorem handleForceAbort_does (hK : KnotDoes C K) :
    Does C (handleForceAbort E C K) (fun _ _ => True) s := by
  refine (does_of Prog.Only.pause).bind fun _ _ _ _ => loadTx_does.bind fun found s₁ _ h => ?_
  split
  · exact .pure trivial
  rename_i row
  refine (does_of liftContract_only).bind fun state s₂ hl₂ _ => ?_
  have hread := (h row rfl).later hl₂
  split
  · exact .pure trivial
  split
  · exact .pure trivial
  split
  · exact .pure trivial
  split
  · exact reconcileCancel_does hK _ _ hread
  refine (does_of coordinatorIdentity_only).bind fun identity s₃ hl₃ _ => ?_
  split
  · exact .pure trivial
  · exact (abortingRow_does (hread.later hl₃)).bind fun aborting _ _ h =>
      (reconcileAbort_does hK _ _ h).bind fun _ _ _ _ => .pure trivial

/-! ## quarantine resolution -/

theorem commitNext_decided (state : TransactionState) : beforeDecision (commitNext state) = false := by
  cases state <;> rfl

/-- the request that authorizes the resolution and the envelope of its record are of the row read -/
theorem resolveFinalized_does (hK : KnotDoes C K) {attested : CoordinatorStateAttestation}
    {terminalIntent : TerminalIntent} {record : ManifestRecordV2} {recordHash : Hash}
    (hread : Read C row s) (hof : RecordOf row record)
    (hterminal : ∀ intent, terminalIntent = .finalize intent →
      ∃ request, row.manifestFinalizeRequestJson = some request ∧ request.intent = intent) :
    Does C (resolveFinalized E C K row attested terminalIntent record recordHash)
      (fun _ _ => True) s := by
  refine (does_of liftContract_only).bind fun _ s₁ hl₁ _ => (does_of Prog.Only.pause).bind
    fun _ s₂ hl₂ _ => (does_of liftContract_only).bind fun _ s₃ hl₃ _ => ?_
  split
  · exact .pure trivial
  rename_i hchecks
  simp only [not_or, not_not] at hchecks
  obtain ⟨-, -, -, hrecord⟩ := hchecks
  split
  · exact .pure trivial
  rename_i intent hintent
  refine (does_of Prog.Only.pause).bind fun _ s₄ hl₄ _ => (does_of liftContract_only).bind
    fun _ s₅ hl₅ hvalid => (does_of gets_only).bind fun now s₆ hl₆ _ => ?_
  have hread₆ := hread.later (hl₁.trans (hl₂.trans (hl₃.trans (hl₄.trans (hl₅.trans hl₆)))))
  refine tryCas_does (.done (.transact fun state s' _ hs => ?_))
    (fun _ _ _ => .pure trivial) fun _ _ _ _ => loadAndRun_does (reconcileCommit_does hK)
  obtain ⟨current, hcurrent, -, -, rfl, rfl⟩ := resolveSync_ok hs
  have hstored : ∀ s', s' = s₆.updateTx (recordResolvedCommit (commitNext current.status)
      (completedEnvelope intent record) record recordHash) → (if commitNext current.status =
        .manifestRegistered then s'.queueRecovery .commit now else s').transaction =
          some (recordResolvedCommit (commitNext current.status) (completedEnvelope intent record)
            record recordHash current) := by
    rintro s' rfl
    split
    · exact updateTx_transaction hcurrent
    · exact updateTx_transaction hcurrent
  refine recorded_move hcurrent (hstored _ rfl) rfl (commitNext_decided _) hvalid fun hr => ?_
  · have hg := hread₆.grown hcurrent
    cases hti : terminalIntent with
    | cancel cancelled =>
      rw [hti] at hrecord
      cases hrecord
    | finalize terminal =>
      obtain ⟨request, hrequest, rfl⟩ := hterminal terminal hti
      rw [hti] at hrecord
      obtain ⟨-, stored, hstored, -, hdigest⟩ := hread.1.requested (hg.registered hr) request hrequest
      exact finalized_evidence (.refl row) hg hrequest hstored hdigest hintent hof
        (Option.some.inj hrecord) hr

theorem resolveCancelled_does (hK : KnotDoes C K) {attested : CoordinatorStateAttestation}
    {attestationHash : Hash} :
    Does C (resolveCancelled E C K row attested attestationHash) (fun _ _ => True) s := by
  refine (does_of gets_only).bind fun now s₁ _ _ => ?_
  refine tryCas_does (.done (.transact fun state s' _ hs => ?_))
    (fun _ _ _ => .pure trivial) fun repaired s₂ _ _ => ?_
  · obtain ⟨current, hcurrent, -, -, rfl, rfl⟩ := resolveSync_ok hs
    refine Still.move (.map (f := recordResolvedAbort (abortNext current.status)) ?_ fun r hr => ⟨rfl, ?_⟩)
    · split <;> rfl
    · intro hb
      have hnext : ∀ state, beforeDecision (abortNext state) = false := by
        intro state
        cases state <;> rfl
      rw [show (recordResolvedAbort (abortNext current.status) r).status =
        abortNext current.status from rfl, hnext] at hb
      cases hb
  · split
    · exact .pure trivial
    · refine loadTxOrThrow_does.bind fun row s₃ _ h₃ => (reconcileAbort_does hK _ _ h₃.2).bind
        fun response _ _ _ => ?_
      split
      · exact .pure trivial
      · exact .pure trivial

theorem terminalIntentOf_finalize {resolution : Resolution} {intent : ManifestFinalizeIntent}
    (h : terminalIntentOf C resolution row = .ok (.ok (.finalize intent))) :
    ∃ request, row.manifestFinalizeRequestJson = some request ∧ request.intent = intent := by
  unfold terminalIntentOf at h
  split at h
  · split at h
    · cases h
    · rename_i request hrequest
      cases hv : C.validateManifestFinalizeIntent request.intent with
      | error e => rw [hv] at h; cases h
      | ok u =>
        rw [hv] at h
        cases h
        exact ⟨request, hrequest, rfl⟩
  · split at h
    · cases h
    · rename_i request hrequest
      cases hv : C.validateManifestCancelIntent request.intent with
      | error e => rw [hv] at h; cases h
      | ok u => rw [hv] at h; cases h

/-- the one place where the journal is relied on -/
theorem resolveManifestQuarantine_does {request : QuarantineResolutionRequest}
    (hreserved : ReservedFor row request.reservation) :
    Does C (resolveManifestQuarantine E request) (fun result _ =>
      ∀ attestationHash record recordHash,
        result = some (.resolved .finalized attestationHash (some record) recordHash) →
          RecordOf row record) s := by
  unfold resolveManifestQuarantine
  split
  · exact .pure nofun
  unfold controlPlane
  split
  · exact .pure nofun
  refine Rules.Does.bind Rules.Does.ask fun answer s' _ ha => ?_
  split
  · refine .pure fun attestationHash record recordHash hr => ?_
    cases hr
    simp only [honest, Bool.and_eq_true, beq_iff_eq] at ha
    obtain ⟨⟨⟨⟨htx, hfleet⟩, hcoordinator⟩, hoperation⟩, hepoch⟩ := ha
    exact ⟨htx.trans hreserved.txId, hfleet.trans hreserved.fleetId,
      hcoordinator.trans hreserved.coordinatorId, hepoch.trans hreserved.decisionEpoch,
      hoperation.trans hreserved.operationHash⟩
  · exact .pure nofun

theorem handleResolveManifestQuarantine_does (hK : KnotDoes C K) {body : ResolveBody} :
    Does C (handleResolveManifestQuarantine E C K body) (fun _ _ => True) s := by
  refine (does_of Prog.Only.pause).bind fun _ _ _ _ => ?_
  split
  · exact .pure trivial
  refine loadTx_does.bind fun found s₁ _ h => ?_
  split
  · exact .pure trivial
  rename_i row
  split
  · exact .pure trivial
  refine (does_of reservationFor_only).bind fun reserve s₂ hl₂ hreserved =>
    (does_of liftContract_only).bind fun terminal s₃ hl₃ hterminal => ?_
  split
  · exact .pure trivial
  rename_i terminalIntent
  refine (does_of Prog.Only.pause).bind fun _ s₄ hl₄ _ => (does_of liftContract_only).bind
    fun state s₅ hl₅ _ => (does_of Prog.Only.pause).bind fun _ s₆ hl₆ _ => ?_
  have hread := (h row rfl).later (hl₂.trans (hl₃.trans (hl₄.trans (hl₅.trans hl₆))))
  refine Rules.Does.bind (resolveManifestQuarantine_does hreserved) fun result s₇ hl₇ hof => ?_
  split
  · exact .pure trivial
  · exact .pure trivial
  · refine resolveFinalized_does hK (hread.later hl₇) (hof _ _ _ rfl) fun intent hi => ?_
    subst hi
    exact terminalIntentOf_finalize hterminal
  · exact .pure trivial
  · exact resolveCancelled_does hK

/-! ## alarm -/

theorem reconcileLegacyRecovery_only {commit : Bool} :
    Leaves (reconcileLegacyRecovery row commit) := by
  refine callShards_only.bind fun outcomes _ => ?_
  split
  · refine (modify_only ?_).bind fun _ _ => .pure trivial
    exact fun _ => rfl
  · exact .pure trivial

theorem alarmWork_does (hK : KnotDoes C K) {work : QueueRow} (hread : Read C row s) :
    Does C (alarmWork E C K work row) (fun _ _ => True) s := by
  unfold alarmWork
  split
  · refine (does_of reconcileLegacyRecovery_only).bind fun _ _ _ _ => ?_
    split
    · exact .pure trivial
    · exact (does_of reschedule_only).bind fun _ _ _ _ => .pure trivial
  · refine (does_of reconcileLegacyRecovery_only).bind fun _ _ _ _ => ?_
    split
    · exact .pure trivial
    · exact (does_of reschedule_only).bind fun _ _ _ _ => .pure trivial
  · exact does_of (runReleaseExclusive_only reconcileManifestReleaseOnce_only)
  · exact (hK.resume _ _ hread).bind fun _ _ _ _ => .pure trivial

theorem alarmDue_does (hK : KnotDoes C K) {work : QueueRow} (hread : Read C row s) :
    Does C (alarmDue E C K work row) (fun _ _ => True) s := by
  refine (does_of assertRestoreGateOpen_only).bind fun _ s₁ hl₁ _ => (does_of gets_only).bind
    fun queue s₂ hl₂ _ => ?_
  split
  · exact .pure trivial
  refine (does_of gets_only).bind fun now s₃ hl₃ _ => ?_
  split
  · exact does_of ensureAlarmScheduled_only
  split
  · exact does_of ensureAlarmScheduled_only
  refine Rules.Does.bind
    (.done (alarmWork_does hK (hread.later (hl₁.trans (hl₂.trans hl₃)))).attempt) fun outcome _ _ _ => ?_
  split
  · exact .pure trivial
  · exact (does_of reschedule_only).bind fun _ _ _ _ => .pure trivial

theorem alarmBody_does (hK : KnotDoes C K) : Does C (alarmBody E C K) (fun _ _ => True) s := by
  refine .of_inv fun hi => Rules.Does.read.bind ?_
  rintro seen s₁ - ⟨rfl, rfl⟩
  split
  · exact .pure trivial
  · exact .pure trivial
  split
  · refine (does_of assertRestoreGateOpen_only).bind fun _ _ _ _ => does_of (modify_only ?_)
    exact fun _ => rfl
  rename_i row hrow
  refine (does_of registerPhysicalCoordinator_only).bind fun registration s₂ hl₂ _ => ?_
  have hread := (Read.of_eq hi hrow).later hl₂
  split
  · exact alarmDue_does hK hread
  · split
    · refine (does_of abortParticipantsForRestore_only).bind fun _ _ _ _ =>
        (does_of persistRestoreDiscard_only).bind fun discard _ _ _ => ?_
      split
      · exact .pure trivial
      · exact .throw
    · exact alarmDue_does hK hread

theorem alarm_does (hK : KnotDoes C K) : Does C (alarm E C K) (fun _ _ => True) s := by
  refine (does_of (modify_only ?_)).bind fun _ _ _ _ => (does_of awaitMutationDrain_only).bind
    fun _ _ _ _ => (does_of (modify_only ?_)).bind fun _ _ _ _ => ?_
  · exact fun _ => rfl
  · exact fun _ => rfl
  refine Rules.Does.done (.andFinally (.rescue (alarmBody_does hK) fun e s' => ?_)
    fun _ => leaveMutation_still.move)
  split
  · exact (does_of gets_only).bind fun _ _ _ _ => does_of setAlarm_only
  · exact .throw

/-! ## the object -/

theorem route_does (hK : KnotDoes C K) {request : Request} :
    Does C (route E C K request) (fun _ _ => True) s := by
  cases request with
  | begin payload => exact handleBegin_does hK
  | forceAbort => exact handleForceAbort_does hK
  | resolveManifestQuarantine body => exact handleResolveManifestQuarantine_does hK
  | txStatus => exact does_of handleTxStatus_only
  | stats => exact does_of handleStats_only
  | redoEnvelope envelopeHash => exact does_of handleRedoEnvelope_only
  | restoreLossPage => exact does_of handleRestoreLossPage_only
  | restoreDiscard => exact does_of handleRestoreDiscard_only

theorem handle_does (hK : KnotDoes C K) {request : Request} :
    Does C (handle E C K request) (fun _ _ => True) s := by
  unfold handle
  split
  · refine (does_of (modify_only ?_)).bind fun _ _ _ _ =>
      (does_of assertRestoreGateOpen_only.attempt).bind fun gate _ _ _ => ?_
    · exact fun _ => rfl
    split
    · exact (does_of (.modify fun _ => leaveMutation_still)).bind fun _ _ _ _ => .throw
    · refine .unawaited (fun _ => leaveMutation_still.move) ?_
      refine (does_of gets_only).bind fun discard _ _ _ => ?_
      split
      · exact .pure trivial
      · exact route_does hK
  · exact route_does hK

/-- a coordinator takes every request, and a journal that is honest -/
def honestTerms : Terms Store Ask Ask.Answer Activity Nat where
  accept _ := True
  ok _ q a _ := honest q a
  event _ _ := True

/-- **a coordinator keeps its evidence**, whatever comes in -/
theorem obeys_evidence : Obeys (evidence C) (system E C) honestTerms where
  handler activity s _ := by
    have hK : KnotDoes C (knot E C activity.fuel) := knot_does activity.fuel
    show (evidence C).Does _ ((system E C).handler activity) _ s
    unfold system
    dsimp only
    split
    · exact (Rules.Does.rescue (handle_does hK) fun _ _ => .pure trivial).bind
        fun _ _ _ _ => .pure trivial
    · exact (alarm_does hK).bind fun _ _ _ _ => .pure trivial
  event _ _ _ _ := (Still.same rfl).move
  restart _ _ := (Still.same rfl).move

end Coordinator
