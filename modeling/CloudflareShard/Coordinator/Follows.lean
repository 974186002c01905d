import CloudflareShard.Coordinator.Moves

/-!
# All handlers of a coordinator keep to the moves

One lemma for each function, in the order of the source.  A function that starts from a row needs
that the row was durable once, and one that returns a row gives that back.

* `persistAbortDecision_ok`, `persistCommitDecision_ok`   the decisions;
* `reconcileCancelOnce_ok` .. `resume_ok`, `knot_ok`      the recovery circle;
* `fetch_ok`, `alarm_ok`                                  the entry points;
* `system_governs`                                        **every run of a coordinator is made of moves**.
-/

namespace Coordinator
open Async Contracts

variable {E : Bindings} {C : ContractLib} {d : Regime E.txId} {K : Knot} {s : Store} {row : TxRow}

abbrev Any {α : Type} : α → Store → Prop := fun _ _ => True

/-! ## gates -/

theorem asked_ok {q : Ask} : Ok C d (.call q .pure) Any s :=
  Ok.call fun _ _ _ _ => Ok.pure trivial

theorem restoreGateSnapshot_ok {fleetId : String} {claim : Option RestoreClaim} :
    Ok C d (restoreGateSnapshot E fleetId claim) Any s := by
  unfold restoreGateSnapshot
  split
  · exact Ok.pause.bind fun _ _ _ _ => Ok.pure trivial
  · refine Ok.seq asked_ok fun reply _ _ => ?_
    split
    · exact Ok.throw
    · exact Ok.throw
    · exact Ok.throw
    · exact Ok.pure trivial

theorem assertRestoreGateOpen_ok {fleetId : String} :
    Ok C d (assertRestoreGateOpen E fleetId) Any s := by
  refine restoreGateSnapshot_ok.attempt.bind fun r _ _ _ => ?_
  split
  · exact Ok.throw
  · exact Ok.pure trivial
  · split
    · exact Ok.throw
    · exact Ok.pure trivial

theorem registerPhysicalCoordinator_ok {fleetId coordinatorId : String} {at_ : Option Nat} :
    Ok C d (registerPhysicalCoordinator E fleetId coordinatorId at_) Any s := by
  unfold registerPhysicalCoordinator
  split
  · exact Ok.pause.bind fun _ _ _ _ => Ok.pure trivial
  · refine Ok.seq asked_ok fun reply _ _ => ?_
    split
    · exact Ok.throw
    · exact Ok.throw
    · exact Ok.throw
    · exact Ok.throw
    · exact Ok.pure trivial
    · exact assertRestoreGateOpen_ok.bind fun _ _ _ _ => Ok.pure trivial

theorem matchingRestoreFence_ok {restoreId : Option String} {generation : Option Nat} :
    Ok C d (matchingRestoreFence E restoreId generation) Any s := by
  unfold matchingRestoreFence
  split
  · refine restoreGateSnapshot_ok.attempt.bind fun r _ _ _ => ?_
    split
    · exact Ok.pure trivial
    · exact Ok.pure trivial
    · split
      · exact Ok.pure trivial
      · exact Ok.pure trivial
  · exact Ok.pure trivial

theorem enterMutation_section : Section C d s (enterMutation s) := .quiet rfl rfl rfl rfl rfl rfl

theorem leaveMutation_undrained : Undrained s (leaveMutation s) := by
  intro h
  unfold leaveMutation
  dsimp only
  split
  · exact ⟨rfl, by simp [h]⟩
  · exact ⟨h, rfl⟩

theorem leaveMutation_section : Section C d s (leaveMutation s) := by
  refine ⟨?_, ?_, ?_, .inr leaveMutation_undrained⟩ <;> unfold leaveMutation <;> dsimp only <;> split
  · exact .same rfl rfl
  · exact .same rfl rfl
  · exact ⟨[], by simp⟩
  · exact ⟨[], by simp⟩
  · exact ⟨[], by simp⟩
  · exact ⟨[], by simp⟩

theorem enterDrain_section (hd : d.drains) : Section C d s (enterDrain s) := by
  unfold enterDrain
  split
  · exact ⟨.same rfl rfl, ⟨[], by simp⟩, ⟨[], by simp⟩, .inl hd⟩
  · exact ⟨.same rfl rfl, ⟨[], by simp⟩, ⟨[], by simp⟩, .inl hd⟩

theorem awaitMutationDrain_ok (hd : d.drains) : Ok C d awaitMutationDrain Any s := by
  refine Ok.step (enterDrain_section hd) ?_
  split
  · exact Ok.pause
  · exact Ok.wait fun _ _ => Ok.pure trivial

/-! ## single flights -/

theorem awaitPromise_ok {promise : Nat} : Ok C d (awaitPromise promise) Any s := by
  refine Ok.seq (Ok.wait fun _ _ => Ok.pure trivial) fun _ _ _ => ?_
  refine Ok.gets.bind fun outcome _ _ _ => ?_
  split
  · exact Ok.pure trivial
  · exact Ok.throw
  · exact Ok.stuck

theorem responseFrom_ok {response : Option Response} : Ok C d (responseFrom response) Any s := by
  cases response with
  | some response => exact Ok.pure trivial
  | none => exact Ok.stuck

theorem settle_section {promise : Nat} {outcome : Except CoordinatorError (Option Response)} :
    Section C d s (settle promise outcome s) := .quiet rfl rfl rfl rfl rfl rfl

theorem runRecoveryExclusive_ok {work : Coord Response}
    (hwork : ∀ s', Later d s s' → Ok C d work Any s') : Ok C d (runRecoveryExclusive work) Any s := by
  refine Ok.read.bind ?_
  rintro s₀ _ _ ⟨rfl, rfl⟩
  split
  · exact awaitPromise_ok.bind fun _ _ _ _ => responseFrom_ok
  · refine (Ok.modify (.quiet rfl rfl rfl rfl rfl rfl)).bind fun _ s' hl _ => ?_
    refine (hwork s' hl).attempt.bind fun r s'' _ _ => ?_
    have hfinish : ∀ s₁, Ok C d (do
        let response ← (awaitPromise s₀.nextToken).andFinally fun s =>
          if s.recoveryInFlight == some s₀.nextToken then { s with recoveryInFlight := none } else s
        responseFrom response) Any s₁ := by
      intro s₁
      refine (awaitPromise_ok.andFinally fun s' => ?_).bind fun _ _ _ _ => responseFrom_ok
      split <;> exact .quiet rfl rfl rfl rfl rfl rfl
    split
    · exact Ok.pause.bind fun _ _ _ _ =>
        (Ok.modify settle_section).bind fun _ _ _ _ => hfinish _
    · exact (Ok.modify settle_section).bind fun _ _ _ _ => hfinish _

theorem runReleaseExclusive_ok {work : Coord Unit}
    (hwork : ∀ s', Later d s s' → Ok C d work Any s') : Ok C d (runReleaseExclusive work) Any s := by
  refine Ok.read.bind ?_
  rintro s₀ _ _ ⟨rfl, rfl⟩
  split
  · exact awaitPromise_ok.bind fun _ _ _ _ => Ok.pure trivial
  · refine (Ok.modify (.quiet rfl rfl rfl rfl rfl rfl)).bind fun _ s' hl _ => ?_
    refine (hwork s' hl).attempt.bind fun r _ _ _ => ?_
    refine (Ok.modify settle_section).bind fun _ _ _ _ => ?_
    refine (awaitPromise_ok.andFinally fun s' => ?_).bind fun _ _ _ _ => Ok.pure trivial
    split <;> exact .quiet rfl rfl rfl rfl rfl rfl

/-! ## calls -/

theorem updateCircuit_ok {f : Circuit → Circuit} : Ok C d (updateCircuit f) Any s :=
  (Ok.modify (.quiet rfl rfl rfl rfl rfl rfl)).done

theorem admissionAttempt_ok {now : Nat} : Ok C d (admissionAttempt now) Any s :=
  Ok.step (.quiet rfl rfl rfl rfl rfl rfl) (Ok.pure trivial)

theorem controlPlane_ok {α : Type} {call : Coord (Except DurableObjectFailure α)}
    {g : α → Prop} (hcall : Ok C d call (fun r _ => ∀ a, r = .ok a → g a) s) :
    Ok C d (controlPlane E call) (fun r _ => ∀ a, r = some a → g a) s := by
  unfold controlPlane
  split
  · exact Ok.pure (by simp)
  · refine hcall.bind fun r _ _ h => ?_
    cases r with
    | ok a => exact Ok.pure (by simpa using h a rfl)
    | error e => exact Ok.pure (by simp)

theorem controlPlane_any {α : Type} {call : Coord (Except DurableObjectFailure α)}
    (hcall : Ok C d call Any s) : Ok C d (controlPlane E call) Any s :=
  (controlPlane_ok (g := fun _ => True) (hcall.mono fun _ _ _ _ _ => trivial)).done

theorem checkManifestAdmission_ok {request : ManifestAdmissionRequest} :
    Ok C d (checkManifestAdmission E request) Any s := by
  refine dateNow_ok.bind fun now _ _ _ => admissionAttempt_ok.bind fun attempt _ _ _ => ?_
  split
  · exact Ok.pure trivial
  · refine Ok.seq ?_ fun answer _ _ =>
      updateCircuit_ok.bind fun _ _ _ _ => Ok.pure trivial
    unfold askAdmission
    split
    · exact asked_ok
    · exact Ok.pure trivial

theorem coordinatorIdentity_ok : Ok C d (coordinatorIdentity C row) Any s :=
  Ok.pause.bind fun _ _ _ _ => Ok.pure trivial

theorem callShards_ok {messages : List (ShardId × ShardRequest)}
    (h : ∀ m ∈ messages, Authorized C d s m.2) : Ok C d (callShards messages) Any s := by
  refine (Ok.modify ?_).bind fun _ _ _ _ => Ok.call fun _ _ _ _ => Ok.pure trivial
  exact ⟨.same rfl rfl, ⟨messages, rfl, h⟩, ⟨[], by simp⟩, .inr fun h => ⟨h, rfl⟩⟩

theorem reservationFor_ok : Ok C d (reservationFor C row) Any s := by
  unfold reservationFor
  split
  · refine Ok.liftContract.bind fun _ _ _ _ => Ok.pause.bind fun _ _ _ _ =>
      Ok.liftContract.bind fun _ _ _ _ => ?_
    split
    · exact Ok.throw
    · exact Ok.pure trivial
  · exact Ok.throw

theorem cancelRequestFor_ok : Ok C d (cancelRequestFor C row) Any s := by
  unfold cancelRequestFor
  split
  · exact Ok.throw
  · refine Ok.liftContract.bind fun _ _ _ _ => Ok.liftContract.bind fun _ _ _ _ =>
      Ok.pause.bind fun _ _ _ _ => Ok.liftContract.bind fun _ _ _ _ => ?_
    split
    · exact Ok.throw
    · exact Ok.pure trivial

theorem finalizeRequestFor_ok : Ok C d (finalizeRequestFor C row) Any s := by
  unfold finalizeRequestFor
  split
  · refine Ok.liftContract.bind fun _ _ _ _ => Ok.liftContract.bind fun _ _ _ _ =>
      Ok.pause.bind fun _ _ _ _ => Ok.liftContract.bind fun _ _ _ _ =>
      Ok.pause.bind fun _ _ _ _ => ?_
    dsimp only
    split
    · exact Ok.throw
    · exact Ok.pure trivial
  · exact Ok.throw

theorem validateAssignedReservation_ok {request : ManifestRouteAssignmentRequest}
    {reservation : ManifestReservation} {reservationHash : Hash} :
    Ok C d (validateAssignedReservation C request reservation reservationHash) Any s := by
  refine Ok.liftContract.bind fun _ _ _ _ => Ok.pause.bind fun _ _ _ _ =>
    Ok.liftContract.bind fun _ _ _ _ => ?_
  split
  · exact Ok.throw
  · exact Ok.pure trivial

theorem envelopeFor_ok {txId : TxId} {fleetId coordinatorId : String}
    {participants : List BeginParticipant} {epoch commitDecidedAt : Nat} :
    Ok C d (envelopeFor C txId fleetId coordinatorId participants epoch commitDecidedAt) Any s :=
  Ok.pause.bind fun _ _ _ _ => Ok.pause.bind fun _ _ _ _ =>
    Ok.liftContract.bind fun _ _ _ _ => Ok.pure trivial

/-- the latest row, after a lost compare-and-set -/
theorem resumeLatest_ok {f : TxRow → Coord Response} {state : TransactionState}
    (hf : ∀ row s', Seen d row s' → Ok C d (f row) Any s') : Ok C d (resumeLatest f state) Any s := by
  refine loadTx_ok.bind ?_
  rintro latest s' _ ⟨rfl, rfl⟩
  split
  · exact Ok.rooted fun hs => hf _ _ (.of_eq hs ‹_›)
  · exact Ok.throw

/-! ## the decisions -/

theorem cancelRequestOf_ok : Ok C d (cancelRequestOf C row) Any s := by
  unfold cancelRequestOf
  split
  · exact Ok.pure trivial
  · exact reservationFor_ok.bind fun _ _ _ _ => Ok.pause.bind fun _ _ _ _ =>
      Ok.liftContract.bind fun _ _ _ _ => Ok.pure trivial

theorem abortExpected_mem {state : TransactionState} (h : state ∈ abortExpected row) :
    state = .manifestReserving ∨ state = .preparing ∨ state = .prepared := by
  unfold abortExpected at h
  split at h <;> simp at h <;> tauto

theorem abortAction_plain (legacy : Bool) :
    (if legacy then RecoveryAction.legacyAbort else .abort) ≠ .commitRoute ∧
      (if legacy then RecoveryAction.legacyAbort else .abort) ≠ .abortRoute := by
  cases legacy <;> exact ⟨nofun, nofun⟩

/-- the row that comes out of the decision has been decided to abort -/
theorem persistAbortDecision_decided {legacy : Bool} :
    Ok C d (persistAbortDecision E C row legacy)
      (fun row s => Seen d row s ∧ isAbortDecidedOrLater row.status) s := by
  refine assertRestoreGateOpen_ok.bind fun _ _ _ _ => dateNow_ok.bind fun _ _ _ _ =>
    ensureAlarmScheduled_ok.bind fun _ _ _ _ => dateNow_ok.bind fun now _ _ _ =>
    cancelRequestOf_ok.bind fun cancel s₁ _ _ => ?_
  refine Ok.tryCas (transition_ok fun r hr hexp _ => ?_) (fun st s' _ => ?_) fun r s' _ h => ?_
  · exact .move hr (updateTx_transaction (updateTx_transaction hr))
      (.abort cancel _ now (plain_of (abortAction_plain legacy)) (abortExpected_mem hexp))
      rfl rfl rfl rfl
  · refine loadTx_ok.bind ?_
    rintro latest _ _ ⟨rfl, rfl⟩
    split
    · refine Ok.liftContract.bind ?_
      rintro state _ _ ⟨rfl, hstate⟩
      split
      · rename_i hdecided
        rw [stateOf_ok hstate] at hdecided
        exact Ok.rooted fun hs => Ok.pure ⟨.of_eq hs ‹_›, hdecided⟩
      · exact Ok.throw
    · exact Ok.throw
  · obtain ⟨hrow, rfl⟩ := h
    have hstatus : r.status = .abortDecided := by
      simp only [Store.queueRecovery, Store.updateTx, Option.map_eq_some_iff] at hrow
      obtain ⟨_, ⟨_, _, rfl⟩, rfl⟩ := hrow
      rfl
    exact Ok.rooted fun hs => Ok.pure ⟨.of_eq hs hrow, by rw [hstatus]; rfl⟩

theorem persistAbortDecision_ok {legacy : Bool} :
    Ok C d (persistAbortDecision E C row legacy) (Seen d) s :=
  persistAbortDecision_decided.mono fun _ _ h => h.1

theorem commitDecidedMeanwhile_ok {state : TransactionState} :
    Ok C d (commitDecidedMeanwhile state) (Seen d) s := by
  refine loadTx_ok.bind ?_
  rintro latest _ _ ⟨rfl, rfl⟩
  split
  · refine Ok.liftContract.bind ?_
    rintro state _ _ ⟨rfl, _⟩
    split
    · exact Ok.rooted fun hs => Ok.pure (.of_eq hs ‹_›)
    · exact Ok.throw
  · exact Ok.throw

theorem persistCommitDeciding_ok : Ok C d (persistCommitDeciding E C row) (Seen d) s := by
  refine assertRestoreGateOpen_ok.bind fun _ _ _ _ => dateNow_ok.bind fun _ _ _ _ =>
    ensureAlarmScheduled_ok.bind fun _ _ _ _ => reservationFor_ok.bind fun request _ _ _ =>
    Ok.gets.bind fun rows _ _ _ => Ok.liftContract.bind fun participants _ _ _ =>
    dateNow_ok.bind fun _ _ _ _ => Ok.liftContract.bind fun _ _ _ _ =>
    Ok.pause.bind fun _ _ _ _ => ?_
  split
  · exact Ok.throw
  · refine Ok.pause.bind fun _ _ _ _ => Ok.pause.bind fun _ _ _ _ =>
      Ok.liftContract.bind fun _ _ _ _ => dateNow_ok.bind fun now _ _ _ => ?_
    refine Ok.tryCas (transition_ok fun r hr hexp _ => ?_) (fun st s' _ => commitDecidedMeanwhile_ok)
      fun r s' _ h => Ok.rooted fun hs => Ok.pure (.of_eq hs h.1)
    exact .move hr (updateTx_transaction (updateTx_transaction hr))
      (.commitV2 _ _ now (by simpa using hexp)) rfl rfl rfl rfl

theorem persistCommitDecision_ok : Ok C d (persistCommitDecision E C row) (Seen d) s := by
  refine assertRestoreGateOpen_ok.bind fun _ _ _ _ => ?_
  split
  · exact persistCommitDeciding_ok
  · refine dateNow_ok.bind fun _ _ _ _ => ensureAlarmScheduled_ok.bind fun _ _ _ _ =>
      dateNow_ok.bind fun _ _ _ _ => envelopeFor_ok.bind fun envelope _ _ _ =>
      Ok.pause.bind fun _ _ _ _ => Ok.liftContract.bind fun registration _ _ _ =>
      dateNow_ok.bind fun now _ _ _ => ?_
    refine Ok.tryCas (transition_ok fun r hr hexp _ => ?_) (fun st s' _ => commitDecidedMeanwhile_ok)
      fun r s' _ h => Ok.rooted fun hs => Ok.pure (.of_eq hs h.1)
    exact .move hr (updateTx_transaction (updateTx_transaction hr))
      (.commitV1 envelope registration now (by simpa using hexp)) rfl rfl rfl rfl

/-! ## the recovery circle -/

structure KnotOk (C : ContractLib) {txId : TxId} (d : Regime txId) (K : Knot) : Prop where
  resume : ∀ row s, Seen d row s → Ok C d (K.resume row) Any s
  resumeRecoveryOnce : ∀ row s, Seen d row s → Ok C d (K.resumeRecoveryOnce row) Any s
  reconcileCommitOnce : ∀ row s, Seen d row s → Ok C d (K.reconcileCommitOnce row) Any s

/-- a function that is given a row that was durable once -/
abbrev RowOk (C : ContractLib) {txId : TxId} (d : Regime txId) (f : TxRow → Coord Response) : Prop :=
  ∀ row s, Seen d row s → Ok C d (f row) Any s

/-- the row right after a successful compare-and-set, or the one that won -/
theorem loadAndRun_ok {message : String} {f : TxRow → Coord Response} (hf : RowOk C d f) :
    Ok C d (do let latest ← loadTxOrThrow message; f latest) Any s := by
  refine loadTxOrThrow_ok.bind ?_
  rintro latest s' _ ⟨rfl, h⟩
  exact Ok.rooted fun hs => hf _ _ (.of_eq hs h)

theorem reserveManifest_ok {request : ManifestReserveRequest} :
    Ok C d (reserveManifest E request) Any s :=
  controlPlane_any asked_ok

theorem cancelManifest_ok {request : ManifestCancelRequest} :
    Ok C d (cancelManifest E request) Any s :=
  controlPlane_any asked_ok

theorem finalizeManifest_ok {request : ManifestFinalizeRequest} :
    Ok C d (finalizeManifest E request) Any s :=
  controlPlane_any asked_ok

theorem assignManifestRoute_ok {request : ManifestRouteAssignmentRequest} :
    Ok C d (assignManifestRoute E request) Any s :=
  controlPlane_any asked_ok

theorem registerManifest_ok {registration : ManifestRegistration} :
    Ok C d (registerManifest E registration) Any s :=
  controlPlane_any asked_ok

theorem releaseManifestV2_ok {request : ManifestV2ReleaseRequest} :
    Ok C d (releaseManifestV2 E request) Any s :=
  controlPlane_any asked_ok

theorem releaseManifestRetention_ok {request : ManifestReleaseRequest} :
    Ok C d (releaseManifestRetention E request) Any s :=
  controlPlane_any asked_ok

theorem rescheduleThen_ok {action : RecoveryAction} {states : List TransactionState}
    {response : Response} (ha : action ≠ .commitRoute ∧ action ≠ .abortRoute)
    (hrow : Seen d row s) :
    Ok C d (do let _ ← reschedule action (some states); return response) Any s :=
  (reschedule_ok ha hrow).bind fun _ _ _ _ => Ok.pure trivial

theorem quarantine_ok {expected : List TransactionState} {error : TransactionProtocolError}
    (h : ∀ st ∈ expected, st = .abortedPendingManifestCancel ∨ st = .commitDeciding ∨
      st = .commitDecided ∨ st = .commitPendingManifest) :
    Ok C d (quarantine expected error) (Seen d) s := by
  refine (transition_ok fun r hr hexp _ => ?_).seen fun r s' h => h.1
  exact .move hr (updateTx_transaction (updateTx_transaction hr))
    (.quarantine error (h _ hexp)) rfl rfl rfl rfl

theorem aborted_ok {expected : List TransactionState}
    (h : ∀ st ∈ expected, st = .aborting ∨ st = .abortedPendingManifestCancel) :
    Ok C d (transition expected .aborted fun s => (s.updateTx recordAborted).dropRecovery) Any s := by
  refine (transition_ok fun r hr hexp _ => ?_).done
  exact .move hr (updateTx_transaction (updateTx_transaction hr)) (.aborted (h _ hexp)) rfl rfl rfl rfl

theorem park_ok {error : TransactionProtocolError} (hrow : s.transaction = some row)
    (h : row.status = .abortedPendingManifestCancel) : Ok C d (park error) Any s := by
  have hpark : Section C d s ((s.updateTx (recordError error)).dropRecovery) :=
    .move hrow (updateTx_transaction hrow) (.park error h) rfl rfl rfl rfl
  exact (Ok.modify hpark).done

theorem reconcileCancelOnce_ok (hK : KnotOk C d K) : RowOk C d (reconcileCancelOnce E C K) := by
  intro row s hrow
  refine assertRestoreGateOpen_ok.bind fun _ s₁ hl₁ _ => Ok.liftContract.bind ?_
  rintro state _ _ ⟨rfl, hstate⟩
  split
  · exact Ok.pure trivial
  split
  · exact hK.resumeRecoveryOnce _ _ (hrow.later hl₁)
  refine Ok.gets.bind ?_
  rintro queue _ _ ⟨rfl, _⟩
  split
  · exact Ok.pure trivial
  refine cancelRequestFor_ok.bind fun request _ _ _ => reserveManifest_ok.bind fun reserve _ _ _ =>
    loadTxOrThrow_ok.bind ?_
  rintro row s₂ _ ⟨rfl, hr₂⟩
  refine Ok.liftContract.bind ?_
  rintro state₂ _ _ ⟨rfl, hstate₂⟩
  refine Ok.rooted fun hs => ?_
  have hseen := Seen.of_eq hs hr₂
  split
  · exact hK.resumeRecoveryOnce _ _ hseen
  have hst : row.status = .abortedPendingManifestCancel := by
    rw [← stateOf_ok hstate₂]; simpa using ‹¬ state₂ ≠ _›
  split
  · exact rescheduleThen_ok ⟨nofun, nofun⟩ hseen
  · exact rescheduleThen_ok ⟨nofun, nofun⟩ hseen
  · exact (park_ok hr₂ hst).bind fun _ _ _ _ => Ok.pure trivial
  · exact (aborted_ok (by simp)).bind fun _ _ _ _ => Ok.pure trivial
  refine cancelManifest_ok.bind fun result _ _ _ => loadTxOrThrow_ok.bind ?_
  rintro row s₃ _ ⟨rfl, hr₃⟩
  refine Ok.liftContract.bind ?_
  rintro state₃ _ _ ⟨rfl, hstate₃⟩
  refine Ok.rooted fun hs => ?_
  have hseen := Seen.of_eq hs hr₃
  split
  · exact hK.resumeRecoveryOnce _ _ hseen
  have hst : row.status = .abortedPendingManifestCancel := by
    rw [← stateOf_ok hstate₃]; simpa using ‹¬ state₃ ≠ _›
  split
  · exact rescheduleThen_ok ⟨nofun, nofun⟩ hseen
  · exact rescheduleThen_ok ⟨nofun, nofun⟩ hseen
  · exact (park_ok hr₃ hst).bind fun _ _ _ _ => Ok.pure trivial
  · exact (quarantine_ok (by simp)).bind fun _ _ _ _ => Ok.pure trivial
  · exact (aborted_ok (by simp)).bind fun _ _ _ _ => Ok.pure trivial

theorem reconcileCancel_ok (hK : KnotOk C d K) : RowOk C d (reconcileCancel E C K) :=
  fun _ _ hrow => runRecoveryExclusive_ok fun _ hl => reconcileCancelOnce_ok hK _ _ (hrow.later hl)

/-- the rest of a function after its compare-and-set, when the row that won is resumed -/
theorem tryCasResume_ok {α : Type} {p : Coord α} {post : α → Store → Prop}
    {f : TxRow → Coord Response} {k : α → Coord Response} (hp : Ok C d p post s) (hf : RowOk C d f)
    (hk : ∀ a s', Later d s s' → post a s' → Ok C d (k a) Any s') :
    Ok C d (tryCas p (resumeLatest f) k) Any s :=
  hp.tryCas (fun _ _ _ => resumeLatest_ok hf) hk

theorem isLegacyPredecision_ok {known : Option Bool} :
    Ok C d (isLegacyPredecision C row known) Any s := by
  cases known with
  | some known => exact Ok.pure trivial
  | none => exact coordinatorIdentity_ok.bind fun _ _ _ _ => Ok.pure trivial

theorem abortMessageRow_ok {legacy : Bool} :
    Ok C d (abortMessageRow C row legacy)
      (fun r _ => r = if legacy then legacyMessageRow C row else row) s := by
  unfold abortMessageRow
  split
  · exact Ok.pause.bind fun _ _ _ _ => Ok.pure rfl
  · exact Ok.pure rfl

theorem abortMessages_authorized {legacy : Bool} (hrow : Seen d row s) (h : row.status = .aborting) :
    ∀ m ∈ abortMessages row (if legacy then legacyMessageRow C row else row) legacy,
      Authorized C d s m.2 := by
  intro m hm
  obtain ⟨participant, _, rfl⟩ := List.mem_map.mp hm
  cases legacy with
  | false => exact .abort hrow h false
  | true => exact .legacyAbort hrow h

theorem sendAborts_ok (hK : KnotOk C d K) {known : Option Bool} (hrow : Seen d row s)
    (h : row.status = .aborting) : Ok C d (sendAborts E C K row known) Any s := by
  refine isLegacyPredecision_ok.bind fun legacy s₁ hl₁ _ => abortMessageRow_ok.bind ?_
  rintro _ s₂ hl₂ rfl
  have hrow₂ := (hrow.later hl₁).later hl₂
  refine (callShards_ok (abortMessages_authorized hrow₂ h)).bind fun outcomes s₃ hl₃ _ => ?_
  have hrow₃ := hrow₂.later hl₃
  split
  · split
    · refine dateNow_ok.bind ?_
      rintro now _ _ rfl
      refine tryCasResume_ok (transition_ok fun r hr hexp _ => ?_) hK.resume
        fun _ s' _ _ => loadAndRun_ok (reconcileCancel_ok hK)
      exact .move hr (updateTx_transaction hr) (.cancelPending now (by simpa using hexp)) rfl rfl rfl rfl
    · refine (transition_ok fun r hr hexp _ => ?_).bind fun _ _ _ _ => Ok.pure trivial
      exact .move hr (updateTx_transaction (updateTx_transaction hr))
        (.aborted (.inl (by simpa using hexp))) rfl rfl rfl rfl
  · exact (reschedule_ok (abortAction_plain legacy) hrow₃).bind fun _ _ _ _ => Ok.pure trivial

theorem reconcileAbort_ok (hK : KnotOk C d K) {known : Option Bool} :
    RowOk C d (reconcileAbort E C K · known) := by
  intro row s hrow
  refine assertRestoreGateOpen_ok.bind fun _ s₁ hl₁ _ => Ok.liftContract.bind ?_
  rintro state _ _ ⟨rfl, hstate⟩
  have hrow₁ := hrow.later hl₁
  split
  · refine tryCasResume_ok (transition_ok fun r hr hexp _ => ?_) hK.resume ?_
    · exact .move hr (updateTx_transaction hr) (.aborting (by simpa using hexp)) rfl rfl rfl rfl
    · rintro current s' _ ⟨hcur, rfl⟩
      refine Ok.rooted fun hs => sendAborts_ok hK (.of_eq hs hcur) ?_
      obtain ⟨r, hr⟩ := hrow₁.some
      rw [id_eq, updateTx_transaction hr] at hcur
      cases hcur
      rfl
  split
  · exact Ok.pure trivial
  split
  · exact reconcileCancel_ok hK _ _ hrow₁
  split
  · exact Ok.pure trivial
  · refine sendAborts_ok hK hrow₁ ?_
    rw [← stateOf_ok hstate]
    simpa using ‹¬ state ≠ .aborting›

/-! ## commit -/

theorem commitMessages_authorized (hrow : Seen d row s)
    (h : row.status = .committing ∨ row.status = .committedPendingAck) :
    ∀ m ∈ commitMessages row, Authorized C d s m.2 := by
  intro m hm
  obtain ⟨participant, _, rfl⟩ := List.mem_map.mp hm
  exact .commit hrow h

theorem recommit_ok (hK : KnotOk C d K) : RowOk C d (recommit K) := by
  intro row s hrow
  refine Ok.liftContract.bind ?_
  rintro state _ _ ⟨rfl, _⟩
  split
  · exact hK.reconcileCommitOnce _ _ hrow
  · exact hK.resumeRecoveryOnce _ _ hrow

theorem saveAcknowledgments_ok {outcomes : Nat → ShardOutcome} {allAcknowledged : Bool}
    {latest : TxRow} {now : Nat} (hrow : s.transaction = some latest)
    (h : latest.status = .committing ∨ latest.status = .committedPendingAck) :
    Ok C d (saveAcknowledgments row outcomes allAcknowledged latest.status now) Any s := by
  unfold saveAcknowledgments
  cases allAcknowledged with
  | true =>
    have hne : latest.status ≠ .committed := by rcases h with h | h <;> simp [h]
    rw [if_pos rfl, if_neg hne]
    refine (transition_ok fun r hr _ _ => ?_).bind fun _ _ _ _ => Ok.pure trivial
    cases hrow.symm.trans hr
    exact .move hr (updateTx_transaction (updateTx_transaction hr)) (.committed now h) rfl rfl rfl rfl
  | false =>
    rw [if_neg Bool.false_ne_true]
    dsimp only
    split
    · -- a second failed attempt finds `committed_pending_ack` and only keeps the acknowledgements
      refine (Ok.transact fun _ s' hs' => ?_).done
      obtain ⟨_, _, _, rfl⟩ := casTx_ok hs'
      exact .quiet rfl rfl rfl rfl rfl rfl
    · rename_i hne
      refine (transition_ok fun r hr _ _ => ?_).bind fun _ _ _ _ => Ok.pure trivial
      cases hrow.symm.trans hr
      exact .move hr (updateTx_transaction hr) (.pendingAck now (h.resolve_right hne)) rfl rfl rfl rfl

theorem sendCommits_ok (hK : KnotOk C d K) (hrow : Seen d row s)
    (h : row.status = .committing ∨ row.status = .committedPendingAck) :
    Ok C d (sendCommits K row) Any s := by
  refine (callShards_ok (commitMessages_authorized hrow h)).bind fun outcomes _ _ _ => ?_
  refine Ok.seq ?_ fun _ _ _ => loadTxOrThrow_ok.bind ?_
  · unfold releaseAlarm
    split
    · exact dateNow_ok.bind fun _ _ _ _ => ensureAlarmScheduled_ok
    · exact Ok.pure trivial
  rintro latest s₁ _ ⟨rfl, hlatest⟩
  refine Ok.liftContract.bind ?_
  rintro state _ _ ⟨rfl, hstate⟩
  cases stateOf_ok hstate
  split
  · exact Ok.pure trivial
  split
  · exact Ok.rooted fun hs => hK.resumeRecoveryOnce _ _ (.of_eq hs hlatest)
  have hst : latest.status = .committing ∨ latest.status = .committedPendingAck := by tauto
  refine dateNow_ok.bind ?_
  rintro now _ _ rfl
  refine Ok.rooted fun hs => ?_
  refine tryCasResume_ok (saveAcknowledgments_ok hlatest hst) (recommit_ok hK) fun _ s' hl' _ => ?_
  split
  · exact Ok.pure trivial
  · refine (reschedule_ok (by decide) ((Seen.of_eq hs hlatest).later hl')).bind fun scheduled _ _ _ => ?_
    split
    · exact Ok.pure trivial
    · refine loadTx_ok.bind ?_
      rintro latest _ _ ⟨rfl, rfl⟩
      split
      · exact Ok.rooted fun hs => recommit_ok hK _ _ (.of_eq hs ‹_›)
      · exact Ok.pure trivial

theorem reconcileCommitOnce_ok (hK : KnotOk C d K) : RowOk C d (reconcileCommitOnce E K) := by
  intro row s hrow
  refine assertRestoreGateOpen_ok.bind fun _ s₁ hl₁ _ => Ok.liftContract.bind ?_
  rintro state _ _ ⟨rfl, hstate⟩
  have hrow₁ := hrow.later hl₁
  split
  · refine tryCasResume_ok (transition_ok fun r hr hexp _ => ?_) hK.reconcileCommitOnce ?_
    · exact .move hr (updateTx_transaction hr) (.committing (by simpa using hexp)) rfl rfl rfl rfl
    · rintro current s' _ ⟨hcur, rfl⟩
      refine Ok.rooted fun hs => sendCommits_ok hK (.of_eq hs hcur) (.inl ?_)
      obtain ⟨r, hr⟩ := hrow₁.some
      rw [id_eq, updateTx_transaction hr] at hcur
      cases hcur
      rfl
  split
  · exact Ok.pure trivial
  split
  · exact hK.resumeRecoveryOnce _ _ hrow₁
  · refine sendCommits_ok hK hrow₁ ?_
    rw [← stateOf_ok hstate]
    tauto

theorem reconcileCommit_ok (hK : KnotOk C d K) : RowOk C d (reconcileCommit E K) :=
  fun _ _ hrow => runRecoveryExclusive_ok fun _ hl => reconcileCommitOnce_ok hK _ _ (hrow.later hl)

theorem resumeRecoveryOnce_ok (hK : KnotOk C d K) : RowOk C d (resumeRecoveryOnce E C K) := by
  intro row s hrow
  refine Ok.liftContract.bind ?_
  rintro state _ _ ⟨rfl, _⟩
  split
  · exact reconcileCancelOnce_ok hK _ _ hrow
  split
  · exact reconcileCommitOnce_ok hK _ _ hrow
  · exact hK.resume _ _ hrow

/-! ## finalization and the bridge -/

theorem pend_ok {state : TransactionState} {from_ : TransactionState}
    (hfrom : from_ = .commitDeciding ∨ from_ = .commitDecided) :
    Ok C d (pendManifest state from_) Any s := by
  unfold pendManifest
  split
  · refine (transition_ok fun r hr hexp _ => ?_).bind fun _ _ _ _ => Ok.pure trivial
    have hst : r.status = from_ := by simpa using hexp
    exact .move hr (updateTx_transaction hr) (.pend (by rw [hst]; exact hfrom)) rfl rfl rfl rfl
  · exact Ok.pure trivial

theorem reconcileFinalize_ok (hK : KnotOk C d K) : RowOk C d (reconcileFinalize E C K) := by
  intro row s hrow
  refine assertRestoreGateOpen_ok.bind fun _ s₁ hl₁ _ => Ok.liftContract.bind ?_
  rintro state _ _ ⟨rfl, hstate⟩
  split
  · exact hK.resume _ _ (hrow.later hl₁)
  have hdec : state = .commitDeciding ∨ state = .commitPendingManifest := by tauto
  refine finalizeRequestFor_ok.bind fun request _ _ _ => finalizeManifest_ok.bind fun result _ _ _ =>
    loadTxOrThrow_ok.bind ?_
  rintro row s₂ _ ⟨rfl, hr₂⟩
  refine Ok.liftContract.bind ?_
  rintro state₂ _ _ ⟨rfl, _⟩
  refine Ok.rooted fun hs => ?_
  have hseen := Seen.of_eq hs hr₂
  split
  · exact hK.resume _ _ hseen
  split
  · exact tryCasResume_ok (pend_ok (.inl rfl)) hK.resume fun _ s' hl _ =>
      rescheduleThen_ok ⟨nofun, nofun⟩ (hseen.later hl)
  · exact tryCasResume_ok (pend_ok (.inl rfl)) hK.resume fun _ s' hl _ =>
      rescheduleThen_ok ⟨nofun, nofun⟩ (hseen.later hl)
  · refine (quarantine_ok ?_).bind fun _ _ _ _ => Ok.pure trivial
    simp; tauto
  · refine Ok.liftContract.bind fun _ _ _ _ => Ok.pause.bind fun _ _ _ _ =>
      Ok.liftContract.bind fun _ _ _ _ => ?_
    split
    · exact Ok.throw
    split
    · exact Ok.throw
    refine Ok.pause.bind fun _ _ _ _ => Ok.liftContract.bind fun _ _ _ _ =>
      dateNow_ok.bind fun now _ _ _ => ?_
    refine tryCasResume_ok (transition_ok fun r hr hexp _ => ?_) hK.resume
      fun _ _ _ _ => loadAndRun_ok (reconcileCommit_ok hK)
    have hst : r.status = state := by simpa using hexp
    exact .move hr (updateTx_transaction (updateTx_transaction hr))
      (.finalized _ _ _ now (by rw [hst]; exact hdec)) rfl rfl rfl rfl

theorem reconcileV2BridgeReservation_ok (hK : KnotOk C d K) :
    RowOk C d (reconcileV2BridgeReservation E C K) := by
  intro row s hrow
  refine Ok.liftContract.bind ?_
  rintro state _ _ ⟨rfl, _⟩
  split
  · exact Ok.pure trivial
  split
  · exact reconcileFinalize_ok hK _ _ hrow
  split
  · refine Ok.pause.bind fun _ _ _ _ => Ok.liftContract.bind fun _ _ _ _ =>
      Ok.pause.bind fun _ _ _ _ => Ok.liftContract.bind fun _ _ _ _ =>
      Ok.pause.bind fun _ _ _ _ => ?_
    split
    · exact Ok.throw
    refine reservationFor_ok.bind fun request _ _ _ => reserveManifest_ok.bind fun reserve _ _ _ =>
      loadTxOrThrow_ok.bind ?_
    rintro row s₂ _ ⟨rfl, hr₂⟩
    refine Ok.liftContract.bind ?_
    rintro state₂ _ _ ⟨rfl, _⟩
    refine Ok.rooted fun hs => ?_
    have hseen := Seen.of_eq hs hr₂
    split
    · exact hK.resume _ _ hseen
    split
    · exact rescheduleThen_ok ⟨nofun, nofun⟩ hseen
    · exact rescheduleThen_ok ⟨nofun, nofun⟩ hseen
    · exact (quarantine_ok (by simp)).bind fun _ _ _ _ => Ok.pure trivial
    · split
      · exact Ok.throw
      refine Ok.pause.bind fun _ _ _ _ => Ok.pause.bind fun _ _ _ _ =>
        Ok.liftContract.bind fun _ _ _ _ => dateNow_ok.bind fun now _ _ _ => ?_
      refine tryCasResume_ok (Ok.transact fun _ s' hs' => ?_) hK.resume
        fun _ _ _ _ => loadAndRun_ok (reconcileFinalize_ok hK)
      obtain ⟨r, hr, hexp, rfl⟩ := casTx_ok hs'
      simp only [Bool.and_eq_true, beq_iff_eq] at hexp
      exact .move hr (updateTx_transaction hr) (.bridgeFinalize _ _ now hexp.1 hexp.2) rfl rfl rfl rfl
  · exact Ok.throw

theorem beginV2Bridge_ok (hK : KnotOk C d K) {state : TransactionState}
    (hst : state = .commitDecided ∨ state = .commitPendingManifest) :
    RowOk C d (beginV2Bridge E C K · state) := by
  intro row s hrow
  refine Ok.pause.bind fun _ _ _ _ => assignManifestRoute_ok.bind fun assignment _ _ _ =>
    loadTxOrThrow_ok.bind ?_
  rintro row s₂ _ ⟨rfl, hr₂⟩
  refine Ok.liftContract.bind ?_
  rintro state₂ _ _ ⟨rfl, _⟩
  refine Ok.rooted fun hs => ?_
  have hseen := Seen.of_eq hs hr₂
  split
  · exact hK.resume _ _ hseen
  split
  · exact rescheduleThen_ok ⟨nofun, nofun⟩ hseen
  · exact rescheduleThen_ok ⟨nofun, nofun⟩ hseen
  · refine (quarantine_ok ?_).bind fun _ _ _ _ => Ok.pure trivial
    simp; tauto
  · refine validateAssignedReservation_ok.bind fun _ _ _ _ => Ok.liftContract.bind fun _ _ _ _ =>
      dateNow_ok.bind fun now _ _ _ => ?_
    refine tryCasResume_ok (Ok.transact fun _ s' hs' => ?_) hK.resume
      fun _ _ _ _ => loadAndRun_ok (reconcileV2BridgeReservation_ok hK)
    obtain ⟨r, hr, hexp, rfl⟩ := casTx_ok hs'
    simp only [Bool.and_eq_true, beq_iff_eq] at hexp
    exact .move hr (updateTx_transaction hr)
      (.bridge _ _ _ now (by rw [hexp.1]; exact hst) hexp.2) rfl rfl rfl rfl

theorem reconcileManifest_ok (hK : KnotOk C d K) : RowOk C d (reconcileManifest E C K) := by
  intro row s hrow
  refine assertRestoreGateOpen_ok.bind fun _ s₁ hl₁ _ => ?_
  have hrow₁ := hrow.later hl₁
  split
  · exact reconcileFinalize_ok hK _ _ hrow₁
  refine Ok.liftContract.bind ?_
  rintro state _ _ ⟨rfl, _⟩
  split
  · exact hK.resume _ _ hrow₁
  have hdec : state = .commitDecided ∨ state = .commitPendingManifest := by tauto
  split
  · refine Ok.pause.bind fun _ _ _ _ => Ok.liftContract.bind fun _ _ _ _ =>
      registerManifest_ok.bind fun result _ _ _ => loadTxOrThrow_ok.bind ?_
    rintro row _ _ ⟨rfl, hr₂⟩
    refine Ok.liftContract.bind ?_
    rintro state₂ s₂ _ ⟨rfl, _⟩
    refine Ok.rooted fun hs => ?_
    have hseen := Seen.of_eq hs hr₂
    split
    · exact hK.resume _ _ hseen
    have hpending : Ok C d (tryCas (pendManifest state .commitDecided) (resumeLatest K.resume)
        fun _ => pendingManifest K) Any s₂ := by
      refine tryCasResume_ok (pend_ok (.inr rfl)) hK.resume fun _ s' hl _ => ?_
      refine (reschedule_ok (by decide) (hseen.later hl)).bind fun scheduled _ _ _ => ?_
      split
      · exact Ok.pure trivial
      · refine loadTx_ok.bind ?_
        rintro latest _ _ ⟨rfl, rfl⟩
        split
        · exact Ok.rooted fun hs => hK.resume _ _ (.of_eq hs ‹_›)
        · exact Ok.pure trivial
    split
    · exact hpending
    · exact hpending
    · exact hpending
    · split
      · exact beginV2Bridge_ok hK hdec _ _ hseen
      · refine tryCasResume_ok (quarantine_ok ?_) hK.resume fun _ _ _ _ => Ok.pure trivial
        simp; tauto
    · refine dateNow_ok.bind ?_
      rintro now _ _ rfl
      refine tryCasResume_ok (transition_ok fun r hr hexp _ => ?_) hK.resume
        fun _ _ _ _ => loadAndRun_ok (reconcileCommit_ok hK)
      have hst : r.status = state := by simpa using hexp
      exact .move hr (updateTx_transaction hr) (.registered now (by rw [hst]; exact hdec)) rfl rfl rfl rfl
  · exact Ok.pure trivial

/-! ## release -/

theorem released_ok {result : Option ManifestReleaseResult} (hrow : Seen d row s) :
    Ok C d (reconcileManifestReleaseOnce.released result) Any s := by
  obtain ⟨cur, hcur⟩ := hrow.some
  unfold reconcileManifestReleaseOnce.released
  split
  · exact (Ok.modify (.move hcur hcur .dropQueue rfl rfl rfl rfl)).done
  · refine (Ok.modify (.move hcur (updateTx_transaction hcur) (.releaseError _) rfl rfl rfl rfl)).bind ?_
    exact fun _ s' hl _ => (reschedule_ok (by decide) (hrow.later hl)).bind fun _ _ _ _ => Ok.pure trivial
  · exact (reschedule_ok (by decide) hrow).bind fun _ _ _ _ => Ok.pure trivial

theorem reconcileManifestReleaseOnce_ok (hrow : Seen d row s) :
    Ok C d (reconcileManifestReleaseOnce E C row) Any s := by
  refine assertRestoreGateOpen_ok.bind fun _ s₁ hl₁ _ => Ok.liftContract.bind ?_
  rintro state _ _ ⟨rfl, _⟩
  have hrow₁ := hrow.later hl₁
  split
  · exact Ok.throw
  split
  · refine reservationFor_ok.bind fun request s₂ hl₂ _ => ?_
    have hrow₂ := hrow₁.later hl₂
    split
    · refine Ok.liftContract.bind ?_
      rintro _ _ _ ⟨rfl, _⟩
      refine Ok.pause.bind fun _ s₃ hl₃ _ => Ok.liftContract.bind ?_
      rintro _ _ _ ⟨rfl, _⟩
      split
      · exact Ok.throw
      · exact releaseManifestV2_ok.bind fun _ _ hl₄ _ =>
          released_ok ((hrow₂.later hl₃).later hl₄)
    · exact Ok.throw
  · split
    · obtain ⟨cur, hcur⟩ := hrow₁.some
      exact (Ok.modify (.move hcur hcur .dropQueue rfl rfl rfl rfl)).done
    · exact releaseManifestRetention_ok.bind fun _ _ hl₂ _ => released_ok (hrow₁.later hl₂)

theorem reconcileManifestRelease_ok (hrow : Seen d row s) :
    Ok C d (reconcileManifestRelease E C row) Any s :=
  runReleaseExclusive_ok fun _ hl => reconcileManifestReleaseOnce_ok (hrow.later hl)

/-! ## before the decision -/

theorem prepareMessages_authorized (hrow : Seen d row s) :
    ∀ m ∈ prepareMessages row, Authorized C d s m.2 := by
  intro m hm
  obtain ⟨participant, _, rfl⟩ := List.mem_map.mp hm
  exact .prepare hrow _

theorem prepare_ok (hK : KnotOk C d K) : RowOk C d (prepare E C K) := by
  intro row s hrow
  refine (callShards_ok (prepareMessages_authorized hrow)).bind fun answers s₁ _ _ => ?_
  dsimp only
  split
  · refine loadTxOrThrow_ok.bind ?_
    rintro latest _ _ ⟨rfl, hlatest⟩
    refine Ok.liftContract.bind ?_
    rintro state _ _ ⟨rfl, _⟩
    split
    · exact Ok.rooted fun hs => hK.resume _ _ (.of_eq hs hlatest)
    · exact persistAbortDecision_ok.bind fun aborting _ _ h =>
        (reconcileAbort_ok hK _ _ h).bind fun _ _ _ _ => Ok.pure trivial
  · have hresume : ∀ s', Ok C d (do
        let latest ← loadTxOrThrow "Missing transaction."
        K.resume latest) Any s' := fun s' => loadAndRun_ok hK.resume
    refine Ok.tryCas (transition_ok fun r hr hexp _ => ?_) (fun _ _ _ => hresume _)
      fun _ _ _ _ => hresume _
    exact .move hr (updateTx_transaction hr) (.prepared (by simpa using hexp)) rfl rfl rfl rfl

theorem adoptMessages_authorized {provisional : TxRow} (hrow : Seen d row s)
    (h : provisional = { legacyMessageRow C row with stateModelVersion := 1 }) :
    ∀ m ∈ prepareMessages provisional, Authorized C d s m.2 := by
  subst h
  intro m hm
  obtain ⟨participant, _, rfl⟩ := List.mem_map.mp hm
  exact .adopt hrow _

theorem adoptLegacyPredecision_ok (hK : KnotOk C d K) : RowOk C d (adoptLegacyPredecision E C K) := by
  intro row s hrow
  unfold adoptLegacyPredecision
  dsimp only
  split
  · exact Ok.pure trivial
  refine Ok.pause.bind fun _ s₁ hl₁ _ => coordinatorIdentity_ok.bind fun identity s₂ hl₂ _ => ?_
  split
  · exact Ok.pure trivial
  refine dateNow_ok.bind ?_
  rintro now _ _ rfl
  refine checkManifestAdmission_ok.bind fun admission s₃ hl₃ _ => ?_
  have hrow₃ := ((hrow.later hl₁).later hl₂).later hl₃
  split
  · exact Ok.pure trivial
  refine (callShards_ok (adoptMessages_authorized hrow₃ rfl)).bind fun answers s₄ hl₄ _ => ?_
  split
  · exact persistAbortDecision_ok.bind fun aborting _ _ h =>
      (reconcileAbort_ok hK _ _ h).bind fun _ _ _ _ => Ok.pure trivial
  · have hresume : ∀ s', Ok C d (do
        let adopted ← loadTxOrThrow "Missing transaction after legacy adoption."
        K.resume adopted) Any s' := fun s' => loadAndRun_ok hK.resume
    refine Ok.tryCas (Ok.transact fun _ s' hs' => ?_) (fun _ _ _ => hresume _)
      fun _ _ _ _ => hresume _
    obtain ⟨r, hr, hexp, rfl⟩ := casTx_ok hs'
    simp only [Bool.and_eq_true, Bool.or_eq_true, beq_iff_eq] at hexp
    exact .move hr (updateTx_transaction hr) (.adopt _ hexp.1) rfl rfl rfl rfl

theorem reconcileReservation_ok (hK : KnotOk C d K) : RowOk C d (reconcileReservation E C K) := by
  intro row s hrow
  refine assertRestoreGateOpen_ok.bind fun _ s₁ hl₁ _ => Ok.liftContract.bind ?_
  rintro state _ _ ⟨rfl, _⟩
  split
  · exact hK.resume _ _ (hrow.later hl₁)
  refine reservationFor_ok.bind fun request _ _ _ => reserveManifest_ok.bind fun result _ _ _ =>
    loadTxOrThrow_ok.bind ?_
  rintro row s₂ _ ⟨rfl, hr₂⟩
  refine Ok.liftContract.bind ?_
  rintro state₂ _ _ ⟨rfl, _⟩
  refine Ok.rooted fun hs => ?_
  have hseen := Seen.of_eq hs hr₂
  split
  · exact hK.resume _ _ hseen
  split
  · exact rescheduleThen_ok ⟨nofun, nofun⟩ hseen
  · exact rescheduleThen_ok ⟨nofun, nofun⟩ hseen
  · split
    · exact Ok.throw
    refine tryCasResume_ok (transition_ok fun r hr hexp _ => ?_) hK.resume
      fun _ _ _ _ => loadAndRun_ok (prepare_ok hK)
    exact .move hr (updateTx_transaction hr) (.start (by simpa using hexp)) rfl rfl rfl rfl
  · refine (transition_ok fun r hr hexp _ => ?_).bind fun _ _ _ _ => Ok.pure trivial
    exact .move hr (updateTx_transaction (updateTx_transaction hr))
      (.reject _ (by simpa using hexp)) rfl rfl rfl rfl
  · exact persistAbortDecision_ok.bind fun aborting _ _ h => reconcileAbort_ok hK _ _ h

theorem resume_ok (hK : KnotOk C d K) : RowOk C d (resume E C K) := by
  intro row s hrow
  refine Ok.gets.bind ?_
  rintro discard _ _ ⟨rfl, _⟩
  split
  · exact Ok.pure trivial
  refine Ok.liftContract.bind ?_
  rintro state _ _ ⟨rfl, _⟩
  split
  · exact Ok.pure trivial
  · exact reconcileReservation_ok hK _ _ hrow
  · exact reconcileFinalize_ok hK _ _ hrow
  · exact reconcileCancel_ok hK _ _ hrow
  · refine coordinatorIdentity_ok.bind fun _ s₁ hl₁ _ => ?_
    split
    · exact adoptLegacyPredecision_ok hK _ _ (hrow.later hl₁)
    · exact prepare_ok hK _ _ (hrow.later hl₁)
  · refine coordinatorIdentity_ok.bind fun _ s₁ hl₁ _ => ?_
    split
    · exact adoptLegacyPredecision_ok hK _ _ (hrow.later hl₁)
    · exact Ok.pure trivial
    · exact persistCommitDecision_ok.bind fun decided _ _ h => reconcileManifest_ok hK _ _ h
  · exact reconcileAbort_ok hK _ _ hrow
  · exact reconcileAbort_ok hK _ _ hrow
  · exact Ok.pure trivial
  · split
    · split
      · exact reconcileFinalize_ok hK _ _ hrow
      · exact reconcileV2BridgeReservation_ok hK _ _ hrow
    · exact reconcileManifest_ok hK _ _ hrow
  · split
    · split
      · exact reconcileFinalize_ok hK _ _ hrow
      · exact reconcileV2BridgeReservation_ok hK _ _ hrow
    · exact reconcileManifest_ok hK _ _ hrow
  · exact reconcileCommit_ok hK _ _ hrow
  · exact reconcileCommit_ok hK _ _ hrow
  · exact reconcileCommit_ok hK _ _ hrow
  · exact Ok.pure trivial
  · exact Ok.pure trivial

theorem knot_ok : ∀ fuel, KnotOk C d (knot E C fuel)
  | 0 => ⟨fun _ _ _ => Ok.stuck, fun _ _ _ => Ok.stuck, fun _ _ _ => Ok.stuck⟩
  | fuel + 1 =>
    ⟨resume_ok (knot_ok fuel), resumeRecoveryOnce_ok (knot_ok fuel),
      reconcileCommitOnce_ok (knot_ok fuel)⟩

/-! ## restore discard -/

theorem recoverMessages_authorized {claim : Option RestoreClaim} (hrow : Seen d row s) :
    ∀ m ∈ recoverMessages row claim, Authorized C d s m.2 := by
  intro m hm
  obtain ⟨participant, _, rfl⟩ := List.mem_map.mp hm
  exact .recover hrow _

theorem abortParticipantsForRestore_ok {claim : Option RestoreClaim} (hrow : Seen d row s) :
    Ok C d (abortParticipantsForRestore row claim) Any s := by
  refine (callShards_ok (recoverMessages_authorized hrow)).bind fun outcomes _ _ _ => ?_
  split
  · exact Ok.pure trivial
  · split
    · exact Ok.throw
    · exact Ok.throw

theorem persistRestoreDiscard_ok {restoreId : String} {generation : Nat} :
    Ok C d (persistRestoreDiscard restoreId generation) Any s := by
  refine Ok.step ?_ (Ok.pure trivial)
  split
  · exact .refl
  · cases ht : s.transaction with
    | none =>
      have ht' : (s.updateTx (recordDiscard restoreId generation)).transaction = none := by
        simp [Store.updateTx, ht]
      exact ⟨.absent ht ht', ⟨[], by simp [Store.updateTx, Store.dropRecovery]⟩,
        ⟨[], by simp [Store.updateTx, Store.dropRecovery]⟩, .inr fun h => ⟨h, rfl⟩⟩
    | some row => exact .move ht (updateTx_transaction ht) (.discard _ _) rfl rfl rfl rfl

theorem discardDrained_ok {restoreId : String} {generation : Nat} :
    Ok C d (discardDrained restoreId generation) Any s := by
  refine Ok.seq ?_ fun _ _ _ => persistRestoreDiscard_ok.bind fun _ _ _ _ => ?_
  · refine loadTx_ok.bind ?_
    rintro row s₁ _ ⟨rfl, rfl⟩
    split
    · exact Ok.rooted fun hs => abortParticipantsForRestore_ok (.of_eq hs ‹_›)
    · exact Ok.pure trivial
  · split
    · exact Ok.pure trivial
    · exact Ok.pure trivial

theorem handleRestoreDiscard_ok (hd : d.drains) {restoreId : Option String}
    {generation : Option Nat} :
    Ok C d (handleRestoreDiscard E restoreId generation) Any s := by
  refine Ok.pause.bind fun _ _ _ _ => matchingRestoreFence_ok.bind fun fence _ _ _ => ?_
  split
  · exact Ok.pure trivial
  · exact (awaitMutationDrain_ok hd).bind fun _ _ _ _ => discardDrained_ok

theorem storedEnvelopeHash_ok : Ok C d (storedEnvelopeHash C row) Any s := by
  unfold storedEnvelopeHash
  split
  · exact Ok.pure trivial
  · exact Ok.pause.bind fun _ _ _ _ => Ok.liftContract.bind fun _ _ _ _ =>
      Ok.pause.bind fun _ _ _ _ => Ok.pure trivial

theorem lossPageDrained_ok {cutoff through : Nat} :
    Ok C d (lossPageDrained C cutoff through) Any s := by
  refine dateNow_ok.bind fun _ _ _ _ => ?_
  split
  · exact Ok.pure trivial
  refine loadTx_ok.bind fun row _ _ _ => ?_
  split
  · exact Ok.pure trivial
  split
  · exact storedEnvelopeHash_ok.bind fun _ _ _ _ => Ok.pure trivial
  · exact Ok.pure trivial

theorem handleRestoreLossPage_ok (hd : d.drains) {restoreId : Option String}
    {generation : Option Nat} {cutoff through : Nat} :
    Ok C d (handleRestoreLossPage E C restoreId generation cutoff through) Any s := by
  refine Ok.pause.bind fun _ _ _ _ => matchingRestoreFence_ok.bind fun fence _ _ _ => ?_
  split
  · exact Ok.pure trivial
  · exact (awaitMutationDrain_ok hd).bind fun _ _ _ _ => lossPageDrained_ok

/-! ## reading endpoints -/

theorem quarantineCandidates_ok : Ok C d (quarantineCandidates C row) Any s := by
  have hcancel : ∀ candidates s', Ok C d (quarantineCandidates.cancelCandidate C row candidates)
      Any s' := by
    intro candidates s'
    unfold quarantineCandidates.cancelCandidate
    split
    · exact Ok.pause.bind fun _ _ _ _ => Ok.pure trivial
    · exact Ok.pure trivial
  unfold quarantineCandidates
  dsimp only
  split
  · exact Ok.pause.bind fun _ _ _ _ => Ok.liftContract.bind fun _ _ _ _ => hcancel _ _
  · exact hcancel _ _

theorem handleTxStatus_ok : Ok C d (handleTxStatus C) Any s := by
  refine Ok.pause.bind fun _ _ _ _ => Ok.gets.bind fun discard _ _ _ => ?_
  split
  · exact Ok.pure trivial
  refine loadTx_ok.bind ?_
  rintro row s₁ _ ⟨rfl, hrow⟩
  split
  · exact Ok.pure trivial
  rename_i row
  refine Ok.rooted fun hs => Ok.liftContract.bind ?_
  rintro state _ _ ⟨rfl, hstate⟩
  refine quarantineCandidates_ok.bind fun candidates s₂ hl₂ _ => ?_
  refine (Ok.modify ?_).bind fun _ _ _ _ => Ok.pure trivial
  have hseen := (Seen.of_eq hs hrow.symm).later hl₂
  cases stateOf_ok hstate
  refine ⟨.same rfl rfl, ⟨[], by simp⟩, ⟨[_], rfl, ?_⟩, .inr fun h => ⟨h, rfl⟩⟩
  intro r hr
  cases List.mem_singleton.mp hr
  exact ⟨row, hseen, rfl, rfl, rfl, rfl, rfl⟩

theorem handleRedoEnvelope_ok {envelopeHash : Hash} :
    Ok C d (handleRedoEnvelope C envelopeHash) Any s := by
  refine Ok.pause.bind fun _ _ _ _ => loadTx_ok.bind fun row _ _ _ => ?_
  split
  · exact Ok.pure trivial
  · refine Ok.pause.bind fun _ _ _ _ => Ok.liftContract.bind fun _ _ _ _ =>
      Ok.pause.bind fun _ _ _ _ => ?_
    split
    · exact Ok.pure trivial
    · exact Ok.pure trivial

theorem handleStats_ok : Ok C d handleStats Any s := Ok.read.bind fun _ _ _ _ => Ok.pure trivial

/-! ## begin -/

theorem insertTx_section {s' : Store} {u : Unit} (hrow : NewRow E.txId row)
    (h : insertTx row s = .ok (u, s')) : Section C d s s' := by
  unfold insertTx at h
  split at h
  · cases h
  · rename_i hnone
    split at h
    · cases h
    · cases h
      exact ⟨.begin row hrow (by simpa using hnone) rfl, ⟨[], by simp [Store.queueRecovery]⟩,
        ⟨[], by simp [Store.queueRecovery]⟩, .inr fun h => ⟨h, rfl⟩⟩

theorem assignRoute_ok {request : ManifestRouteAssignmentRequest} :
    Ok C d (assignRoute E request) Any s := by
  refine dateNow_ok.bind fun now _ _ _ => admissionAttempt_ok.bind fun attempt _ _ _ => ?_
  split
  · exact Ok.pure trivial
  · refine Ok.seq ?_ fun answer _ _ => ?_
    · unfold askRoute
      split
      · exact Ok.call fun _ _ _ _ => Ok.pure trivial
      · exact Ok.pure trivial
    split
    · exact updateCircuit_ok.bind fun _ _ _ _ => Ok.pure trivial
    · exact updateCircuit_ok.bind fun _ _ _ _ => Ok.pure trivial
    · refine updateCircuit_ok.bind fun _ _ _ _ => ?_
      split
      · exact Ok.pure trivial
      · exact Ok.pure trivial
    · exact updateCircuit_ok.bind fun _ _ _ _ => Ok.pure trivial

theorem retryBegin_ok (hK : KnotOk C d K) {operationHash : Hash} :
    RowOk C d (retryBegin C K · operationHash) := by
  intro row s hrow
  refine coordinatorIdentity_ok.bind fun _ s₁ hl₁ _ => ?_
  split
  · exact Ok.pure trivial
  split
  · exact Ok.pure trivial
  · exact hK.resume _ _ (hrow.later hl₁)

theorem retryLegacyBegin_ok (hK : KnotOk C d K) {participants : List BeginParticipant} :
    RowOk C d (retryLegacyBegin C K · participants) := by
  intro row s hrow
  refine Ok.liftContract.bind ?_
  rintro state _ _ ⟨rfl, _⟩
  dsimp only
  split
  · exact Ok.pure trivial
  split
  · exact hK.resume _ _ hrow
  · exact Ok.pure trivial

theorem beginNew_ok (hK : KnotOk C d K) {fleetId coordinatorId : String}
    {participants : List BeginParticipant} {operationHash : Hash} :
    Ok C d (beginNew E C K fleetId coordinatorId participants operationHash) Any s := by
  refine Ok.pause.bind fun _ _ _ _ => assignRoute_ok.bind fun assigned _ _ _ => ?_
  split
  · exact Ok.pure trivial
  refine validateAssignedReservation_ok.bind fun _ _ _ _ => dateNow_ok.bind fun _ _ _ _ =>
    ensureAlarmScheduled_ok.bind fun _ _ _ _ => dateNow_ok.bind fun now _ _ _ => ?_
  refine (Ok.transact fun _ s' hs' => ?_).attempt.bind fun r _ _ _ => ?_
  · exact insertTx_section ⟨rfl, rfl, rfl, rfl, rfl, rfl, rfl, rfl, rfl⟩ hs'
  split
  · refine loadTx_ok.bind ?_
    rintro concurrent _ _ ⟨rfl, rfl⟩
    split
    · split
      · exact Ok.rooted fun hs => hK.resume _ _ (.of_eq hs ‹_›)
      · exact Ok.throw
    · exact Ok.throw
  · exact loadAndRun_ok (reconcileReservation_ok hK)

theorem preflight_ok {fleetId coordinatorId : String} {participants : List BeginParticipant} :
    Ok C d (preflight E C fleetId coordinatorId participants) Any s :=
  dateNow_ok.bind fun _ _ _ _ => envelopeFor_ok.bind fun _ _ _ _ =>
    Ok.liftContract.bind fun _ _ _ _ => Ok.pure trivial

theorem beginRegistered_ok (hK : KnotOk C d K) {existing : Option TxRow}
    {fleetId coordinatorId : String} {participants : List BeginParticipant}
    (hrow : ∀ row ∈ existing, Seen d row s) :
    Ok C d (beginRegistered E C K existing fleetId coordinatorId participants) Any s := by
  cases existing with
  | none => exact preflight_ok.bind fun _ _ _ _ => beginNew_ok hK
  | some row =>
    have hrow := hrow row rfl
    refine coordinatorIdentity_ok.bind fun _ s₁ hl₁ _ => ?_
    split
    · exact retryLegacyBegin_ok hK _ _ (hrow.later hl₁)
    · exact preflight_ok.bind fun _ s₂ hl₂ _ =>
        retryBegin_ok hK _ _ ((hrow.later hl₁).later hl₂)

theorem handleBegin_ok (hK : KnotOk C d K) {payload : BeginPayload} :
    Ok C d (handleBegin E C K payload) Any s := by
  refine Ok.pause.bind fun _ _ _ _ => ?_
  split
  · exact Ok.pure trivial
  dsimp only
  split
  · exact Ok.pure trivial
  refine loadTx_ok.bind ?_
  rintro existing s₁ _ ⟨rfl, hexisting⟩
  refine Ok.rooted fun hs => registerPhysicalCoordinator_ok.bind fun registration s₂ hl₂ _ => ?_
  have hrow : ∀ row ∈ existing, Seen d row s₂ := fun row hrow =>
    (Seen.of_eq hs (hexisting.symm.trans hrow)).later hl₂
  split
  · exact Ok.throw
  · split
    · refine (abortParticipantsForRestore_ok (hrow _ rfl)).bind fun _ _ _ _ =>
        persistRestoreDiscard_ok.bind fun discard _ _ _ => ?_
      split
      · exact Ok.pure trivial
      · exact Ok.pure trivial
    · exact beginRegistered_ok hK hrow
  · exact beginRegistered_ok hK hrow

/-! ## force-abort -/

theorem abortingRow_ok {legacy : Bool} (hrow : Seen d row s) :
    Ok C d (abortingRow E C row legacy) (Seen d) s := by
  unfold abortingRow
  split
  · exact Ok.pure hrow
  · exact persistAbortDecision_ok

theorem handleForceAbort_ok (hK : KnotOk C d K) : Ok C d (handleForceAbort E C K) Any s := by
  refine Ok.pause.bind fun _ _ _ _ => loadTx_ok.bind ?_
  rintro row s₁ _ ⟨rfl, hrow⟩
  split
  · exact Ok.pure trivial
  rename_i row
  refine Ok.rooted fun hs => ?_
  have hrow := Seen.of_eq hs hrow.symm
  refine Ok.liftContract.bind ?_
  rintro state _ _ ⟨rfl, _⟩
  split
  · exact Ok.pure trivial
  split
  · exact Ok.pure trivial
  split
  · exact Ok.pure trivial
  split
  · exact reconcileCancel_ok hK _ _ hrow
  refine coordinatorIdentity_ok.bind fun _ s₂ hl₂ _ => ?_
  split
  · exact Ok.pure trivial
  · dsimp only
    exact (abortingRow_ok (hrow.later hl₂)).bind fun _ _ _ h =>
      (reconcileAbort_ok hK _ _ h).bind fun _ _ _ _ => Ok.pure trivial

/-! ## quarantine resolution -/

/-- what the storage transaction of a resolution did when it went through -/
theorem resolveFinalized_ok (hK : KnotOk C d K) {attested : CoordinatorStateAttestation}
    {terminalIntent : TerminalIntent} {record : ManifestRecordV2} {recordHash : Hash}
    (hf : row.manifestFinalizeRequestJson.isSome) :
    Ok C d (resolveFinalized E C K row attested terminalIntent record recordHash) Any s := by
  refine Ok.liftContract.bind fun _ _ _ _ => Ok.pause.bind fun _ _ _ _ =>
    Ok.liftContract.bind fun _ _ _ _ => ?_
  split
  · exact Ok.pure trivial
  split
  · exact Ok.pure trivial
  refine Ok.pause.bind fun _ _ _ _ => Ok.liftContract.bind fun _ _ _ _ =>
    dateNow_ok.bind fun _ _ _ _ => Ok.tryCas (Ok.transact fun next s' h => ?_)
      (fun _ _ _ => Ok.pure trivial) fun _ _ _ _ => loadAndRun_ok (reconcileCommit_ok hK)
  obtain ⟨current, hcurrent, hsame, hallowed, rfl, rfl⟩ := resolveSync_ok h
  have hf' : current.manifestFinalizeRequestJson.isSome := by
    rw [eq_of_beq hsame]
    exact hf
  dsimp only
  split
  · exact .move hcurrent (updateTx_transaction hcurrent)
      (.resolveCommit _ _ _ _ (.inr (plain_of ⟨nofun, nofun⟩)) hf' hallowed) rfl rfl rfl rfl
  · exact .move hcurrent (updateTx_transaction hcurrent)
      (.resolveCommit _ _ _ _ (.inl rfl) hf' hallowed) rfl rfl rfl rfl

theorem resolveCancelled_ok (hK : KnotOk C d K) {attested : CoordinatorStateAttestation}
    {attestationHash : Hash} (hc : row.manifestCancelRequestJson.isSome) :
    Ok C d (resolveCancelled E C K row attested attestationHash) Any s := by
  refine dateNow_ok.bind fun _ _ _ _ => Ok.tryCas (Ok.transact fun next s' h => ?_)
    (fun _ _ _ => Ok.pure trivial) fun repaired _ _ _ => ?_
  · obtain ⟨current, hcurrent, hsame, hallowed, rfl, rfl⟩ := resolveSync_ok h
    have hc' : current.manifestCancelRequestJson.isSome := by
      rw [eq_of_beq hsame]
      exact hc
    dsimp only
    split
    · exact .move hcurrent (updateTx_transaction hcurrent)
        (.resolveAbort _ plain_none hc' hallowed) rfl rfl rfl rfl
    · exact .move hcurrent (updateTx_transaction hcurrent)
        (.resolveAbort _ (plain_of ⟨nofun, nofun⟩) hc' hallowed) rfl rfl rfl rfl
  · split
    · exact Ok.pure trivial
    · refine loadTxOrThrow_ok.bind ?_
      rintro resolved _ _ ⟨rfl, hresolved⟩
      refine Ok.rooted fun hs => (reconcileAbort_ok hK _ _ (.of_eq hs hresolved)).bind fun _ _ _ _ => ?_
      split
      · exact Ok.pure trivial
      · exact Ok.pure trivial

theorem terminalIntentOf_finalized {row : TxRow} {intent : TerminalIntent}
    (h : terminalIntentOf C .finalized row = .ok (.ok intent)) :
    row.manifestFinalizeRequestJson.isSome := by
  unfold terminalIntentOf at h
  dsimp only at h
  split at h
  · cases h
  · simp [*]

theorem terminalIntentOf_cancelled {row : TxRow} {intent : TerminalIntent}
    (h : terminalIntentOf C .cancelled row = .ok (.ok intent)) :
    row.manifestCancelRequestJson.isSome := by
  unfold terminalIntentOf at h
  dsimp only at h
  split at h
  · cases h
  · simp [*]

theorem resolveManifestQuarantine_ok {request : QuarantineResolutionRequest} :
    Ok C d (resolveManifestQuarantine E request)
      (fun result _ => ∀ resolution hash record recordHash,
        result = some (.resolved resolution hash record recordHash) →
          resolution = request.resolution) s := by
  unfold resolveManifestQuarantine
  split
  · exact Ok.pure (by simp)
  · refine (controlPlane_ok (g := fun result => ∀ resolution hash record recordHash,
      result = .resolved resolution hash record recordHash → resolution = request.resolution)
      (Ok.call fun s' answer _ hanswer => ?_)).mono ?_
    · refine Ok.pure ?_
      rintro _ rfl resolution hash record recordHash rfl
      exact eq_of_beq hanswer
    · intro result _ h resolution hash record recordHash hresult
      exact h _ hresult _ _ _ _ rfl

theorem handleResolveManifestQuarantine_ok (hK : KnotOk C d K) {body : ResolveBody} :
    Ok C d (handleResolveManifestQuarantine E C K body) Any s := by
  refine Ok.pause.bind fun _ _ _ _ => ?_
  split
  · exact Ok.pure trivial
  refine loadTx_ok.bind ?_
  rintro row s₁ _ ⟨rfl, hrow⟩
  split
  · exact Ok.pure trivial
  rename_i row
  split
  · exact Ok.pure trivial
  refine reservationFor_ok.bind fun reserve _ _ _ => Ok.liftContract.bind ?_
  rintro intent s₂ _ ⟨rfl, hintent⟩
  split
  · exact Ok.pure trivial
  rename_i terminalIntent
  refine Ok.pause.bind fun _ _ _ _ => Ok.liftContract.bind fun state _ _ _ => ?_
  dsimp only
  refine Ok.pause.bind fun _ _ _ _ => resolveManifestQuarantine_ok.bind fun result _ _ h => ?_
  split
  · exact Ok.pure trivial
  · exact Ok.pure trivial
  · have hresolution : Resolution.finalized = body.resolution := h _ _ _ _ rfl
    rw [← hresolution] at hintent
    exact resolveFinalized_ok hK (terminalIntentOf_finalized hintent)
  · exact Ok.pure trivial
  · have hresolution : Resolution.cancelled = body.resolution := h _ _ _ _ rfl
    rw [← hresolution] at hintent
    exact resolveCancelled_ok hK (terminalIntentOf_cancelled hintent)

/-! ## alarm -/

theorem legacyMessages_authorized {work : QueueRow} (hwork : Was d ⟨row, work⟩ s) {commit : Bool}
    (hc : work.action = if commit then .commitRoute else .abortRoute) :
    ∀ m ∈ legacyMessages row commit, Authorized C d s m.2 := by
  intro m hm
  obtain ⟨participant, _, rfl⟩ := List.mem_map.mp hm
  cases commit with
  | true => exact .commitRoute hwork hc
  | false => exact .abortRoute hwork hc

theorem dropRecovery_section : Section C d s s.dropRecovery := by
  cases ht : s.transaction with
  | none =>
    exact ⟨.absent ht ht, ⟨[], by simp [Store.dropRecovery]⟩, ⟨[], by simp [Store.dropRecovery]⟩,
      .inr fun h => ⟨h, rfl⟩⟩
  | some row => exact .move ht ht .dropQueue rfl rfl rfl rfl

theorem reconcileLegacyRecovery_ok {work : QueueRow} (hwork : Was d ⟨row, work⟩ s) (commit : Bool)
    (hc : work.action = if commit then .commitRoute else .abortRoute) :
    Ok C d (reconcileLegacyRecovery row commit) Any s := by
  refine (callShards_ok (legacyMessages_authorized hwork hc)).bind fun outcomes _ _ _ => ?_
  split
  · exact (Ok.modify dropRecovery_section).bind fun _ _ _ _ => Ok.pure trivial
  · exact Ok.pure trivial

theorem alarmWork_ok (hK : KnotOk C d K) {work : QueueRow} (hwork : Was d ⟨row, work⟩ s) :
    Ok C d (alarmWork E C K work row) Any s := by
  have hrow : Seen d row s := ⟨_, hwork⟩
  unfold alarmWork
  split
  · rename_i haction
    refine (reconcileLegacyRecovery_ok hwork true haction).bind fun _ s₁ hl₁ _ => ?_
    split
    · exact Ok.pure trivial
    · exact (reschedule_ok (by decide) (hrow.later hl₁)).bind fun _ _ _ _ => Ok.pure trivial
  · rename_i haction
    refine (reconcileLegacyRecovery_ok hwork false haction).bind fun _ s₁ hl₁ _ => ?_
    split
    · exact Ok.pure trivial
    · exact (reschedule_ok (by decide) (hrow.later hl₁)).bind fun _ _ _ _ => Ok.pure trivial
  · exact reconcileManifestRelease_ok hrow
  · exact (hK.resume _ _ hrow).bind fun _ _ _ _ => Ok.pure trivial

theorem normalizedAction_plain (action : RecoveryAction) :
    normalizedAction action ≠ .commitRoute ∧ normalizedAction action ≠ .abortRoute := by
  cases action <;> exact ⟨nofun, nofun⟩

theorem alarmDue_ok (hK : KnotOk C d K) {work : QueueRow} (hwork : Was d ⟨row, work⟩ s) :
    Ok C d (alarmDue E C K work row) Any s := by
  refine assertRestoreGateOpen_ok.bind fun _ s₁ hl₁ _ => Ok.gets.bind fun queue s₂ hl₂ _ => ?_
  split
  · exact Ok.pure trivial
  refine dateNow_ok.bind fun now s₃ hl₃ _ => ?_
  split
  · exact ensureAlarmScheduled_ok
  split
  · exact ensureAlarmScheduled_ok
  have hwork₃ := hl₃ _ (hl₂ _ (hl₁ _ hwork))
  refine (alarmWork_ok hK hwork₃).attempt.bind fun r s₄ hl₄ _ => ?_
  split
  · exact Ok.pure trivial
  · exact (reschedule_ok (normalizedAction_plain _) ⟨_, hl₄ _ hwork₃⟩).bind fun _ _ _ _ => Ok.pure trivial

theorem alarmBody_ok (hK : KnotOk C d K) : Ok C d (alarmBody E C K) Any s := by
  refine Ok.read.bind ?_
  rintro s₁ _ _ ⟨rfl, rfl⟩
  split
  · exact Ok.pure trivial
  · exact Ok.pure trivial
  · rename_i work _ hqueue
    split
    · exact assertRestoreGateOpen_ok.bind fun _ _ _ _ => (Ok.modify dropRecovery_section).done
    · rename_i row hrow
      refine Ok.rooted fun hs => ?_
      have hwork : Was d ⟨row, some work⟩ s₁ := hqueue ▸ .of_eq hs hrow
      refine registerPhysicalCoordinator_ok.bind fun registration s₂ hl₂ _ => ?_
      split
      · exact alarmDue_ok hK (hl₂ _ hwork)
      · split
        · refine (abortParticipantsForRestore_ok ⟨_, hl₂ _ hwork⟩).bind fun _ _ _ _ =>
            persistRestoreDiscard_ok.bind fun discard _ _ _ => ?_
          split
          · exact Ok.pure trivial
          · exact Ok.throw
        · exact alarmDue_ok hK (hl₂ _ hwork)

theorem alarmDrained_ok (hK : KnotOk C d K) : Ok C d (alarmDrained E C K) Any s := by
  refine (Ok.modify enterMutation_section).bind fun _ _ _ _ => ?_
  refine (Ok.andFinally ((alarmBody_ok hK).rescue fun e s' => ?_)
    fun _ => leaveMutation_section).done
  split
  · exact dateNow_ok.bind fun _ _ _ _ => setAlarm_ok
  · exact Ok.throw

theorem alarm_ok (hd : d.drains) (hK : KnotOk C d K) : Ok C d (alarm E C K) Any s :=
  (Ok.modify (.quiet rfl rfl rfl rfl rfl rfl)).bind fun _ _ _ _ => (awaitMutationDrain_ok hd).bind
    fun _ _ _ _ => alarmDrained_ok hK

/-! ## dispatch -/

theorem route_ok (hd : d.drains) (hK : KnotOk C d K) (request : Request) :
    Ok C d (route E C K request) Any s := by
  cases request with
  | begin payload => exact handleBegin_ok hK
  | forceAbort => exact handleForceAbort_ok hK
  | resolveManifestQuarantine body => exact handleResolveManifestQuarantine_ok hK
  | txStatus => exact handleTxStatus_ok
  | stats => exact handleStats_ok
  | redoEnvelope envelopeHash => exact handleRedoEnvelope_ok
  | restoreLossPage restoreId generation cutoff through => exact handleRestoreLossPage_ok hd
  | restoreDiscard restoreId generation => exact handleRestoreDiscard_ok hd

/-- a gated request enters no drain -/
theorem route_gated_ok (hK : KnotOk C d K) {request : Request} (hg : request.gated) :
    Ok C d (route E C K request) Any s := by
  cases request with
  | begin payload => exact handleBegin_ok hK
  | forceAbort => exact handleForceAbort_ok hK
  | resolveManifestQuarantine body => exact handleResolveManifestQuarantine_ok hK
  | _ => cases hg

theorem dispatch_ok (hK : KnotOk C d K) {request : Request} (hg : request.gated) :
    Ok C d (dispatch E C K request) Any s := by
  refine Ok.gets.bind fun discard _ _ _ => ?_
  split
  · exact Ok.pure trivial
  · exact route_gated_ok hK hg

theorem handle_ok (hd : d.drains) (hK : KnotOk C d K) (request : Request) :
    Ok C d (handle E C K request) Any s := by
  unfold handle
  split
  · refine (Ok.modify enterMutation_section).bind fun _ _ _ _ =>
      assertRestoreGateOpen_ok.attempt.bind fun r _ _ _ => ?_
    split
    · exact (Ok.modify leaveMutation_section).bind fun _ _ _ _ => Ok.throw
    · exact Ok.unawaited (fun _ => leaveMutation_section) (fun _ _ _ => trivial) (dispatch_ok hK ‹_›)
  · exact route_ok hd hK request

theorem fetch_ok (hd : d.drains) (hK : KnotOk C d K) (request : Request) :
    Ok C d (fetch E C K request) Any s :=
  (handle_ok hd hK request).rescue fun _ _ => Ok.pure trivial

/-! ## the object -/

theorem event_later {txId : TxId} {d : Regime txId} {now : Nat} : Later d s { s with now } :=
  fun _ h => h

theorem restart_later {txId : TxId} {d : Regime txId} : Later d s s.restart := fun _ h => h

/-- a coordinator takes every request and every possible answer -/
def terms : Terms Store Ask Ask.Answer Activity Nat where
  accept _ := True
  ok _ := Possible
  event _ _ := True

/-- **a coordinator makes sections only**, and its handlers may run side by side -/
theorem system_governs (hd : d.drains) :
    Governs (proto C d) (system E C) terms (fun _ _ => True) () fun _ => True where
  handler activity s _ hs := by
    have hK := knot_ok (E := E) (C := C) (d := d) activity.fuel
    show Keeps _ _ _ _ ((system E C).handler activity) _ _
    unfold system
    dsimp only
    split
    · exact (fetch_ok hd hK _).bind (fun _ _ _ _ => Ok.pure trivial) hs
    · exact (alarm_ok hd hK).bind (fun _ _ _ _ => Ok.pure trivial) hs
  share_new := fun _ => trivial
  share_move := fun _ _ _ hm => ⟨trivial, fun _ _ _ _ => hm.durable.later⟩
  event := fun _ _ _ _ hs _ => ⟨hs, trivial, fun _ => event_later⟩
  restart := fun hs => ⟨hs, trivial⟩

theorem allowed (c : Config Store Ask Ask.Answer CoordinatorError (Option Response) Activity)
    (x : Choice Ask Ask.Answer Activity Nat) :
    x.Allowed (system E C) terms c := by
  cases x with
  | event x => trivial
  | run a => cases a with
    | arrive r => trivial
    | resume i ans => exact fun _ _ _ _ _ h => h
  | crash a n => cases a with
    | arrive r => trivial
    | resume i ans => exact fun _ _ _ _ _ h => h

/-- what was durable once stays so -/
theorem hist_later {txId : TxId} (d : Regime txId) (E : Bindings) (C : ContractLib) :
    Hist (proto C d) (system E C) terms (Later d) where
  refl := .refl
  trans := .trans
  move _ hm := hm.durable.later
  event _ _ _ _ := event_later
  restart _ := restart_later

/-- nothing is known of the handlers of a fresh object -/
theorem follows_start (hs : Rooted d s) :
    Follows (proto C d) terms (fun _ _ => True) (fun _ => True)
      (⟨s, []⟩ : Config Store Ask Ask.Answer CoordinatorError (Option Response) Activity) [] :=
  ⟨hs, trivial, rfl, by simp⟩

end Coordinator
