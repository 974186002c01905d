import CloudflareShard.Coordinator.Evidence

/-!
# Pieces of a handler and the evidence

* `Leaves`                        a piece that does not touch the evidence;
* `transition_only`, `reservationFor_only`, `finalizeRequestFor_only`   such pieces, with what they check;
* `honest`                        what the journal answers when it resolves a quarantine;
* `Does`, `RowDoes`               pieces that keep the evidence, handlers of a row that was read;
* `tryCasResume_does`, `runRecoveryExclusive_does`   the ways a handler goes on.
-/

namespace Coordinator
open Async Contracts

variable {E : Bindings} {C : ContractLib} {K : Knot} {s s' : Store} {row : TxRow}

/-- a piece that does not touch the evidence -/
abbrev Leaves {α : Type} (p : Coord α) : Prop := p.Only Still fun _ => True

/-! ## reading and scheduling -/

theorem gets_only {α : Type} {f : Store → α} : Leaves (gets f) :=
  .step .refl fun _ => .pure trivial

theorem liftContract_only {α : Type} {x : Except TransactionProtocolError α} :
    (liftContract x).Only Still fun a => x = .ok a := by
  cases x with
  | ok a => exact .pure rfl
  | error e => exact .throw

theorem modify_only {upd : Store → Store} (h : ∀ s, (upd s).transaction = s.transaction) :
    Leaves (.modify upd) := .modify fun s => .same (h s)

theorem setAlarm_only {at_ : Nat} : Leaves (setAlarm at_) := by
  refine (modify_only ?_).bind fun _ _ => .pause
  exact fun _ => rfl

theorem ensureAlarmScheduled_only {at_ : Nat} : Leaves (ensureAlarmScheduled at_) := by
  refine gets_only.bind fun existing _ => Prog.Only.pause.bind fun _ _ => ?_
  split
  · exact setAlarm_only
  · exact .pure trivial

theorem loadTxOrThrow_only {message : String} : Leaves (loadTxOrThrow message) := by
  refine gets_only.bind fun found _ => ?_
  cases found with
  | none => exact .throw
  | some row => exact .pure trivial

/-- what a section writes next to its change of state is no evidence -/
def Idle (f : Store → Store) : Prop :=
  ∀ s, ∃ g : TxRow → TxRow, (f s).transaction = s.transaction.map g ∧
    ∀ row, (g row).evidence = row.evidence ∧ (g row).status = row.status

theorem Idle.same {f : Store → Store} (h : ∀ s, (f s).transaction = s.transaction) : Idle f :=
  fun s => ⟨fun row => row, by simp [h], fun _ => ⟨rfl, rfl⟩⟩

theorem Idle.update {f : Store → Store} (g : TxRow → TxRow)
    (h : ∀ s, (f s).transaction = s.transaction.map g)
    (hg : ∀ row, (g row).evidence = row.evidence ∧ (g row).status = row.status) : Idle f :=
  fun s => ⟨g, h s, hg⟩

theorem transitionSync_still {expected : List TransactionState} {next : TransactionState}
    {extra : Store → Store} (hextra : Idle extra)
    (hnext : beforeDecision next → ∀ state ∈ expected, beforeDecision state) {u : Unit}
    (h : transitionSync expected next extra s = .ok (u, s')) : Still s s' := by
  obtain ⟨row, hrow, hexpected, -, rfl⟩ := transitionSync_ok h
  obtain ⟨g, htx, hg⟩ := hextra (s.updateTx ({ · with status := next }))
  refine .map (f := fun row => g { row with status := next }) ?_ fun r hr => ?_
  · rw [htx, Store.updateTx, Option.map_map]
    rfl
  · rw [hrow] at hr
    cases hr
    refine ⟨(hg _).1, fun hb => ?_⟩
    rw [(hg _).2] at hb
    exact hnext hb row.status hexpected

theorem transition_only {expected : List TransactionState} {next : TransactionState}
    {extra : Store → Store} (hextra : Idle extra)
    (hnext : beforeDecision next → ∀ state ∈ expected, beforeDecision state) :
    Leaves (transition expected next extra) :=
  (Prog.Only.transact (W := Still) .refl fun _ _ _ h => transitionSync_still hextra hnext h).bind
    fun _ _ => loadTxOrThrow_only

theorem rescheduleSync_same {action : RecoveryAction}
    {onlyWhile : Option (List TransactionState)} {due : Option Nat}
    (h : rescheduleSync action onlyWhile s = .ok (due, s')) : s'.transaction = s.transaction := by
  unfold rescheduleSync at h
  split at h
  · cases h
    rfl
  · split at h
    · cases h
      rfl
    · split at h
      · cases h
      · split at h <;> cases h <;> rfl

theorem reschedule_only {action : RecoveryAction} {onlyWhile : Option (List TransactionState)} :
    Leaves (reschedule action onlyWhile) := by
  refine (Prog.Only.transact (W := Still) .refl fun _ _ _ h => .same (rescheduleSync_same h)).bind
    fun due _ => ?_
  cases due with
  | none => exact .pure trivial
  | some due => exact setAlarm_only.bind fun _ _ => .pure trivial

theorem tryCas_only {α β : Type} {p : Coord α} {lost : TransactionState → Coord β} {k : α → Coord β}
    {post : β → Prop} (hp : Leaves p) (hlost : ∀ state, (lost state).Only Still post)
    (hk : ∀ a, (k a).Only Still post) : (tryCas p lost k).Only Still post := by
  refine hp.attempt.bind fun r _ => ?_
  split
  · exact hk _
  · exact hlost _
  · exact .throw

/-! ## calling -/

theorem restoreGateSnapshot_only {fleetId : String} {claim : Option RestoreClaim} :
    Leaves (restoreGateSnapshot E fleetId claim) := by
  unfold restoreGateSnapshot
  split
  · exact Prog.Only.pause.bind fun _ _ => .pure trivial
  · refine Prog.Only.ask.bind fun answer _ => ?_
    split
    · exact .throw
    · exact .throw
    · exact .throw
    · exact .pure trivial

theorem assertRestoreGateOpen_only {fleetId : String} : Leaves (assertRestoreGateOpen E fleetId) := by
  refine restoreGateSnapshot_only.attempt.bind fun r _ => ?_
  split
  · exact .throw
  · exact .pure trivial
  · split
    · exact .throw
    · exact .pure trivial

theorem registerPhysicalCoordinator_only {fleetId coordinatorId : String} {created : Option Nat} :
    Leaves (registerPhysicalCoordinator E fleetId coordinatorId created) := by
  unfold registerPhysicalCoordinator
  split
  · exact Prog.Only.pause.bind fun _ _ => .pure trivial
  · refine Prog.Only.ask.bind fun answer _ => ?_
    split
    · exact .throw
    · exact .throw
    · exact .throw
    · exact .throw
    · exact .pure trivial
    · exact assertRestoreGateOpen_only.bind fun _ _ => .pure trivial

theorem matchingRestoreFence_only {restoreId : Option String} {generation : Option Nat} :
    Leaves (matchingRestoreFence E restoreId generation) := by
  unfold matchingRestoreFence
  split
  · refine restoreGateSnapshot_only.attempt.bind fun r _ => ?_
    split
    · exact .pure trivial
    · exact .pure trivial
    · split
      · exact .pure trivial
      · exact .pure trivial
  · exact .pure trivial

theorem enterMutation_still : Still s (enterMutation s) := .same rfl

theorem leaveMutation_still : Still s (leaveMutation s) := by
  refine .same ?_
  unfold leaveMutation
  dsimp only
  split <;> rfl

theorem awaitMutationDrain_only : Leaves awaitMutationDrain := by
  refine .step (fun s => .same ?_) fun s => ?_
  · unfold enterDrain
    split <;> rfl
  · split
    · exact .pause
    · exact .wait (.pure trivial)

theorem awaitPromise_only {promise : Nat} : Leaves (awaitPromise promise) := by
  have hwait : Leaves (.wait (fun s => (settledAs promise s).isSome) (.pure ())) :=
    .wait (.pure trivial)
  refine hwait.bind fun _ _ => gets_only.bind fun outcome _ => ?_
  split
  · exact .pure trivial
  · exact .throw
  · exact .stuck

theorem controlPlane_only {α : Type} {call : Coord (Except DurableObjectFailure α)}
    (hcall : Leaves call) : Leaves (controlPlane E call) := by
  unfold controlPlane
  split
  · exact .pure trivial
  · refine hcall.bind fun answer _ => ?_
    split
    · exact .pure trivial
    · exact .pure trivial

theorem callShards_only {messages : List (ShardId × ShardRequest)} : Leaves (callShards messages) := by
  refine (modify_only ?_).bind fun _ _ => .call fun _ => .pure trivial
  exact fun _ => rfl

theorem updateCircuit_only {f : Circuit → Circuit} : Leaves (updateCircuit f) :=
  modify_only fun _ => rfl

theorem admissionAttempt_only {now : Nat} : Leaves (admissionAttempt now) :=
  .step (fun _ => .same rfl) fun _ => .pure trivial

theorem checkManifestAdmission_only {request : ManifestAdmissionRequest} :
    Leaves (checkManifestAdmission E request) := by
  refine gets_only.bind fun now _ => admissionAttempt_only.bind fun attempt _ => ?_
  split
  · exact .pure trivial
  · have hask : Leaves (askAdmission E request) := by
      unfold askAdmission
      split
      · exact .call fun _ => .pure trivial
      · exact .pure trivial
    exact hask.bind fun _ _ => updateCircuit_only.bind fun _ _ => .pure trivial

theorem coordinatorIdentity_only :
    (coordinatorIdentity C row).Only Still fun identity => identity = identityOf C row :=
  Prog.Only.pause.bind fun _ _ => .pure rfl

/-! ## requests -/

/-- the reservation is the one of the row -/
structure ReservedFor (row : TxRow) (reservation : ManifestReservation) : Prop where
  txId : reservation.txId = row.txId
  fleetId : reservation.fleetId = row.fleetId
  coordinatorId : reservation.coordinatorId = coordinatorIdOf row
  operationHash : reservation.operationHash = row.operationHash
  decisionEpoch : reservation.decisionEpoch = row.epoch

theorem reservationFor_only :
    (reservationFor C row).Only Still fun request => ReservedFor row request.reservation := by
  unfold reservationFor
  split
  · refine liftContract_only.bind fun _ _ => Prog.Only.pause.bind fun _ _ =>
      liftContract_only.bind fun _ _ => ?_
    split
    · exact .throw
    · rename_i h
      simp only [not_or, not_not] at h
      obtain ⟨-, htx, hfleet, hcoordinator, hoperation, hepoch⟩ := h
      exact .pure ⟨htx, hfleet, hcoordinator, hoperation, hepoch⟩
  · exact .throw

theorem cancelRequestFor_only : Leaves (cancelRequestFor C row) := by
  unfold cancelRequestFor
  split
  · exact .throw
  · refine liftContract_only.bind fun _ _ => liftContract_only.bind fun _ _ =>
      Prog.Only.pause.bind fun _ _ => liftContract_only.bind fun _ _ => ?_
    split
    · exact .throw
    · exact .pure trivial

theorem finalizeRequestFor_only : (finalizeRequestFor C row).Only Still fun request =>
    row.manifestFinalizeRequestJson = some request ∧ ∃ intent,
      row.redoEnvelopeIntentJson = some intent ∧
      request.intent.redoEnvelopeHash = C.hashCanonicalJson (.envelope intent) := by
  unfold finalizeRequestFor
  split
  · rename_i request intent hrequest hintent
    refine liftContract_only.bind fun _ _ => liftContract_only.bind fun _ _ =>
      Prog.Only.pause.bind fun _ _ => liftContract_only.bind fun _ _ =>
      Prog.Only.pause.bind fun _ _ => ?_
    dsimp only
    split
    · exact .throw
    · rename_i h
      simp only [not_or, not_not] at h
      exact .pure ⟨hrequest, intent, hintent, h.2.2.1⟩
  · exact .throw

theorem validateAssignedReservation_only {request : ManifestRouteAssignmentRequest}
    {reservation : ManifestReservation} {reservationHash : Hash} :
    Leaves (validateAssignedReservation C request reservation reservationHash) := by
  refine liftContract_only.bind fun _ _ => Prog.Only.pause.bind fun _ _ =>
    liftContract_only.bind fun _ _ => ?_
  split
  · exact .throw
  · exact .pure trivial

theorem envelopeFor_only {txId : TxId} {fleetId coordinatorId : String}
    {participants : List BeginParticipant} {epoch commitDecidedAt : Nat} :
    (envelopeFor C txId fleetId coordinatorId participants epoch commitDecidedAt).Only Still
      fun envelope => envelope.operationHash =
        C.hashParticipantOperations (C.redoParticipants participants epoch) :=
  Prog.Only.pause.bind fun _ _ => Prog.Only.pause.bind fun _ _ =>
    liftContract_only.bind fun _ _ => .pure rfl

theorem cancelRequestOf_only : Leaves (cancelRequestOf C row) := by
  unfold cancelRequestOf
  split
  · exact .pure trivial
  · exact reservationFor_only.bind fun _ _ => Prog.Only.pause.bind fun _ _ =>
      liftContract_only.bind fun _ _ => .pure trivial

/-! ## handlers and what they read -/

/-- the journal makes the record of a resolution from the reservation it was asked about -/
def honest : (q : Ask) → q.Answer → Bool
  | .resolveManifestQuarantine request, .ok (.resolved .finalized _ (some record) _) =>
    record.txId == request.reservation.txId && record.fleetId == request.reservation.fleetId
      && record.coordinatorId == request.reservation.coordinatorId
      && record.operationHash == request.reservation.operationHash
      && record.decisionEpoch == request.reservation.decisionEpoch
  | _, _ => true

/-- a piece of a handler keeps the evidence from `s` on, and ends with `post` -/
abbrev Does (C : ContractLib) {α : Type} (p : Coord α) (post : α → Store → Prop) (s : Store) : Prop :=
  (evidence C).Does (fun q a _ => honest q a) p post s

theorem does_of {α : Type} {p : Coord α} {post : α → Prop} (h : p.Only Still post) :
    Does C p (fun a _ => post a) s := .of_only h fun _ hs => hs.move

theorem loadTxOrThrow_does {message : String} :
    Does C (loadTxOrThrow message) (fun row s' => s'.transaction = some row ∧ Read C row s') s := by
  have hload : Does C loadTx (fun found s' => s' = s ∧ found = s.transaction) s :=
    .step (fun _ => (evidence C).move_refl s) (.pure ⟨rfl, rfl⟩)
  refine .of_inv fun hi => hload.bind ?_
  rintro found s' - ⟨rfl, rfl⟩
  split
  · rename_i row hrow
    exact .pure ⟨hrow, .of_eq hi hrow⟩
  · exact .throw

/-- a handler that is given a row it, or the one before it, has read -/
abbrev RowDoes (C : ContractLib) (f : TxRow → Coord Response) : Prop :=
  ∀ row s, Read C row s → Does C (f row) (fun _ _ => True) s

theorem loadAndRun_does {message : String} {f : TxRow → Coord Response} (hf : RowDoes C f) :
    Does C (do let latest ← loadTxOrThrow message; f latest) (fun _ _ => True) s :=
  loadTxOrThrow_does.bind fun latest s' _ h => hf latest s' h.2

theorem loadTx_does :
    Does C loadTx (fun found s' => ∀ row, found = some row → Read C row s') s := by
  refine .of_inv fun hi => .step (fun _ => (evidence C).move_refl s) (.pure ?_)
  exact fun row hrow => .of_eq hi hrow

theorem resumeLatest_does {f : TxRow → Coord Response} {state : TransactionState}
    (hf : RowDoes C f) : Does C (resumeLatest f state) (fun _ _ => True) s := by
  refine loadTx_does.bind fun found s' _ h => ?_
  split
  · exact hf _ _ (h _ rfl)
  · exact .throw

theorem tryCas_does {α β : Type} {p : Coord α} {lost : TransactionState → Coord β}
    {k : α → Coord β} {post : α → Store → Prop} {post' : β → Store → Prop} (hp : Does C p post s)
    (hlost : ∀ state s', (evidence C).Later s s' → Does C (lost state) post' s')
    (hk : ∀ a s', (evidence C).Later s s' → post a s' → Does C (k a) post' s') :
    Does C (tryCas p lost k) post' s := by
  refine hp.attempt.bind fun r s' hl h => ?_
  split
  · exact hk _ _ hl (h _ rfl)
  · exact hlost _ _ hl
  · exact .throw

/-- after a compare-and-set, or with the row that won it -/
theorem tryCasResume_does {α : Type} {p : Coord α} {post : α → Store → Prop}
    {f : TxRow → Coord Response} {k : α → Coord Response} (hp : Does C p post s) (hf : RowDoes C f)
    (hk : ∀ a s', (evidence C).Later s s' → post a s' → Does C (k a) (fun _ _ => True) s') :
    Does C (tryCas p (resumeLatest f) k) (fun _ _ => True) s :=
  tryCas_does hp (fun _ _ _ => resumeLatest_does hf) hk

theorem transition_does {expected : List TransactionState} {next : TransactionState}
    {extra : Store → Store}
    (h : ∀ row, s.transaction = some row → row.status ∈ expected → (evidence C).inv s →
      (evidence C).move s (extra (s.updateTx ({ · with status := next })))) :
    Does C (transition expected next extra) (fun row s' => Read C row s') s := by
  refine Rules.Does.bind (.done (.transact fun u s' hi hs => ?_))
    fun _ _ _ _ => loadTxOrThrow_does.mono fun _ _ h => h.2
  obtain ⟨row, hrow, hexpected, -, rfl⟩ := transitionSync_ok hs
  exact h row hrow hexpected hi

/-- a change of state that is no evidence -/
theorem transition_leaves {expected : List TransactionState} {next : TransactionState}
    {extra : Store → Store} (hextra : Idle extra)
    (hnext : beforeDecision next → ∀ state ∈ expected, beforeDecision state) :
    Does C (transition expected next extra) (fun row s' => Read C row s') s := by
  refine Rules.Does.bind (.done (.transact fun u s' hi hs => ?_))
    fun _ _ _ _ => loadTxOrThrow_does.mono fun _ _ h => h.2
  exact (transitionSync_still hextra hnext hs).move

theorem runRecoveryExclusive_does {work : Coord Response}
    (hwork : ∀ s', (evidence C).Later s s' → Does C work (fun _ _ => True) s') :
    Does C (runRecoveryExclusive work) (fun _ _ => True) s := by
  refine (does_of (.read .refl)).bind fun s₀ s₁ hl₁ _ => ?_
  have hresponse : ∀ (response : Option Response) s', Does C (responseFrom response) (fun _ _ => True) s' := by
    intro response s'
    cases response with
    | none => exact .stuck
    | some response => exact .pure trivial
  split
  · exact (does_of awaitPromise_only).bind fun _ _ _ _ => hresponse _ _
  · refine (does_of (modify_only ?_)).bind fun _ s₂ hl₂ _ => ?_
    · exact fun _ => rfl
    refine (hwork s₂ (hl₁.trans hl₂)).attempt.bind fun r s₃ _ _ => ?_
    have hfinish : ∀ s', Does C (do
        let response ← (awaitPromise s₀.nextToken).andFinally fun s =>
          if s.recoveryInFlight == some s₀.nextToken then { s with recoveryInFlight := none } else s
        responseFrom response) (fun _ _ => True) s' := by
      intro s'
      refine (does_of (awaitPromise_only.andFinally fun s => ?_)).bind fun _ _ _ _ => hresponse _ _
      split <;> exact .same rfl
    have hsettle : ∀ outcome s', Does C (do
        .modify (settle s₀.nextToken outcome)
        let response ← (awaitPromise s₀.nextToken).andFinally fun s =>
          if s.recoveryInFlight == some s₀.nextToken then { s with recoveryInFlight := none } else s
        responseFrom response) (fun _ _ => True) s' := by
      intro outcome s'
      refine (does_of (modify_only ?_)).bind fun _ _ _ _ => hfinish _
      exact fun _ => rfl
    split
    · exact (does_of Prog.Only.pause).bind fun _ _ _ _ => hsettle _ _
    · exact hsettle _ _

end Coordinator
