import CloudflareShard.Async.Once
import CloudflareShard.Shard.Moves

/-!
# The requests that a shard has applied

Next to every direct write a shard keeps the identifier of its request, the digest of its content and
its result.  A request that comes again is answered from there, until the alarm drops the row.

* `Elsewhere`             a section that touches neither these rows nor the journal of direct writes;
* `Upkeep`                one of the barrier, the alarm or the checkpoints;
* `Applies`               all sections: elsewhere, a direct write, the pruning of old rows;
* `handlePrepare_only` .. `alarm_only`   every handler but `/invalidate-request` makes only these;
* `Accounted`             what holds of the rows and the journal; **every section keeps it**;
* `Remembered`            a row of an applied request, until its retention time is over.
-/

namespace Shard
open Async Contracts

variable {D : Type} {E : Engine D} {H : Digests} {B : Bindings} {s s' : Store D}

/-! ## sections -/

structure Elsewhere (s s' : Store D) : Prop where
  appliedRequests : s'.appliedRequests = s.appliedRequests
  journal : s'.journal ⊆ s.journal
  journalSequence : s'.journalSequence = s.journalSequence
  now : s'.now = s.now

theorem Elsewhere.refl (s : Store D) : Elsewhere s s := ⟨rfl, List.Subset.refl _, rfl, rfl⟩

/-- a section of tables that the requests do not speak about -/
theorem Elsewhere.of_eq (happ : s'.appliedRequests = s.appliedRequests)
    (hj : s'.journal = s.journal) (hseq : s'.journalSequence = s.journalSequence)
    (hnow : s'.now = s.now) : Elsewhere s s' :=
  ⟨happ, hj ▸ List.Subset.refl _, hseq, hnow⟩

inductive Applies (E : Engine D) (H : Digests) : Store D → Store D → Prop where
  | elsewhere {s s' : Store D} (h : Elsewhere s s') : Applies E H s s'
  | write {s s' : Store D} (payload : ExecutePayload) (writeHash execStart result)
      (h : executeSync E payload (H.requestHash payload.sql payload.params) writeHash execStart s =
        .ok (result, s')) : Applies E H s { s' with mutations := s'.mutations + 1 }
  | prune {s : Store D} : Applies E H s { pruneAppliedRequests s with mutations := s.mutations + 1 }
  | clock {s : Store D} (now : Nat) (h : s.now ≤ now) : Applies E H s { s with now }

/-- a piece that leaves the requests alone -/
abbrev Leaves {α : Type} (p : Sh D α) : Prop := p.Only Elsewhere fun _ => True

/-- a section of the tables that no handler works on: barrier, alarm and checkpoints -/
def Upkeep (s s' : Store D) : Prop :=
  ∃ barrier alarm checkpoints checkpointMeta,
    s' = { s with barrier, alarm, checkpoints, checkpointMeta }

theorem Upkeep.refl (s : Store D) : Upkeep s s := ⟨_, _, _, _, rfl⟩

theorem Upkeep.elsewhere (h : Upkeep s s') : Elsewhere s s' := by
  obtain ⟨_, _, _, _, rfl⟩ := h
  exact .of_eq rfl rfl rfl rfl

/-! ## pieces -/

section
variable {α : Type} {post : α → Prop}

theorem gets_upkeep {f : Store D → α} : (gets f : Sh D α).Only Upkeep fun _ => True :=
  .step .refl fun _ => .pure trivial

theorem setAlarm_upkeep {at_ : Nat} : (setAlarm at_ : Sh D Unit).Only Upkeep fun _ => True := by
  refine (Prog.Only.modify ?_).bind fun _ _ => .pause
  exact fun _ => ⟨_, _, _, _, rfl⟩

theorem setAlarmNoLater_upkeep {at_ : Nat} :
    (setAlarmNoLater at_ : Sh D Unit).Only Upkeep fun _ => True := by
  refine gets_upkeep.bind fun _ _ => Prog.Only.pause.bind fun _ _ => ?_
  split
  · exact setAlarm_upkeep
  · exact .pure trivial

theorem getCurrentBookmark_upkeep {use : BookmarkUse} :
    (getCurrentBookmark use : Sh D Bookmark).Only Upkeep fun _ => True := by
  refine gets_upkeep.bind fun bookmark _ => Prog.Only.ask.bind fun answer _ => ?_
  split
  · exact .pure trivial
  · exact .throw

theorem restoreGateSnapshot_upkeep {claim : Option (String × Nat)} :
    (restoreGateSnapshot B claim : Sh D _).Only Upkeep fun _ => True := by
  unfold restoreGateSnapshot
  split
  · exact Prog.Only.pause.bind fun _ _ => .pure trivial
  · refine Prog.Only.ask.bind fun answer _ => ?_
    split
    · exact .throw
    · exact .throw
    · exact .throw
    · exact .pure trivial

/-- a shut gate refuses with one status -/
theorem requireRestoreGateOpen_upkeep : (requireRestoreGateOpen B : Sh D _).Only Upkeep
    fun refused => ∀ response, refused = some response → response.status = 503 := by
  refine restoreGateSnapshot_upkeep.attempt.bind fun r _ => ?_
  split
  · exact .pure fun _ h => by cases h; rfl
  · exact .pure fun _ h => by cases h; rfl
  · exact .pure nofun

theorem markRestoreCheckpointDirty_upkeep :
    (markRestoreCheckpointDirty : Sh D Unit).Only Upkeep fun _ => True :=
  .modify fun _ => ⟨_, _, _, _, rfl⟩

theorem certifyRestoreCheckpoint_upkeep :
    (certifyRestoreCheckpoint : Sh D Checkpoint).Only Upkeep fun _ => True := by
  refine gets_upkeep.bind fun due _ => ?_
  split
  · exact .pure trivial
  · refine getCurrentBookmark_upkeep.bind fun bookmark _ =>
      gets_upkeep.bind fun now _ => ?_
    refine (Prog.Only.modify ?_).bind fun _ _ => .pure trivial
    exact fun _ => ⟨_, _, _, _, rfl⟩

theorem leaves_of_upkeep {p : Sh D α} (h : p.Only Upkeep post) : Leaves p :=
  h.done.widen fun _ _ => Upkeep.elsewhere

theorem gets_only {f : Store D → α} : Leaves (gets f) := leaves_of_upkeep gets_upkeep

theorem read_only : Leaves (.read : Sh D (Store D)) := .read .refl

theorem liftContract_only {x : Except TransactionProtocolError α} :
    Leaves (liftContract x : Sh D α) := by
  cases x with
  | ok a => exact .pure trivial
  | error e => exact .throw

theorem modify_only {f : Store D → Store D} (h : ∀ s, Elsewhere s (f s)) : Leaves (.modify f) :=
  .modify h

theorem mutation_only {f : Store D → Except ShardError (α × Store D)}
    (h : ∀ s a s', f s = .ok (a, s') → Elsewhere s s') : Leaves (mutation f) := by
  refine .transact .refl fun s a s' hf => ?_
  cases hfs : f s with
  | error e =>
    rw [hfs] at hf
    cases hf
  | ok r =>
    rw [hfs] at hf
    cases hf
    obtain ⟨happ, hj, hseq, hnow⟩ := h s r.1 r.2 hfs
    exact ⟨happ, hj, hseq, hnow⟩

theorem mutate_only {f : Store D → Store D} (h : ∀ s, Elsewhere s (f s)) : Leaves (mutate f) := by
  refine mutation_only fun s a s' hf => ?_
  cases hf
  exact h s

theorem setAlarmNoLater_only {at_ : Nat} : Leaves (setAlarmNoLater at_ : Sh D Unit) :=
  leaves_of_upkeep setAlarmNoLater_upkeep

theorem setAlarm_only {at_ : Nat} : Leaves (setAlarm at_ : Sh D Unit) :=
  leaves_of_upkeep setAlarm_upkeep

theorem mirrorSoon_only {enqueued : Bool} : Leaves (mirrorSoon enqueued : Sh D Unit) := by
  unfold mirrorSoon
  split
  · exact gets_only.bind fun _ _ => setAlarmNoLater_only
  · exact .pure trivial

theorem getCurrentBookmark_only {use : BookmarkUse} :
    Leaves (getCurrentBookmark use : Sh D Bookmark) := leaves_of_upkeep getCurrentBookmark_upkeep

theorem restoreGateSnapshot_only {claim : Option (String × Nat)} :
    Leaves (restoreGateSnapshot B claim : Sh D _) := leaves_of_upkeep restoreGateSnapshot_upkeep

theorem requireRestoreGateOpen_only : Leaves (requireRestoreGateOpen B : Sh D _) :=
  leaves_of_upkeep requireRestoreGateOpen_upkeep

theorem matchingRestoreFence_only {restoreId : Option String} {generation : Option Nat} :
    Leaves (matchingRestoreFence B restoreId generation : Sh D _) := by
  unfold matchingRestoreFence
  split
  · split
    · exact .pure trivial
    · refine restoreGateSnapshot_only.attempt.bind fun r _ => ?_
      split
      · exact .pure trivial
      · exact .pure trivial
      · split <;> exact .pure trivial
  · exact .pure trivial

theorem markRestoreCheckpointDirty_only : Leaves (markRestoreCheckpointDirty : Sh D Unit) :=
  leaves_of_upkeep markRestoreCheckpointDirty_upkeep

theorem certifyRestoreCheckpoint_only : Leaves (certifyRestoreCheckpoint : Sh D Checkpoint) :=
  leaves_of_upkeep certifyRestoreCheckpoint_upkeep

theorem pruneDirectWriteLossJournal_only : Leaves (pruneDirectWriteLossJournal : Sh D Unit) :=
  modify_only fun _ => ⟨rfl, List.filter_subset_self _, rfl, rfl⟩

end

/-! ## the participant -/

theorem tombstone_only {txId : TxId} : Leaves (tombstone txId : Sh D _) := by
  refine gets_only.bind fun found _ => ?_
  split
  · exact .pure trivial
  · exact liftContract_only.bind fun _ _ => .pure trivial

theorem legacyOperationHash_only {txId : TxId} {phase : ParticipantPhase}
    {intents : List BeginIntent} {durable : Option ParticipantTombstone}
    {pending : Option PendingIntent} :
    Leaves (legacyOperationHash H txId phase intents durable pending : Sh D Hash) := by
  unfold legacyOperationHash
  split
  · refine Prog.Only.pause.bind fun _ _ => ?_
    split <;> exact .pure trivial
  · split
    · exact .pure trivial
    · exact .pure trivial
    · exact Prog.Only.pause.bind fun _ _ => .pure trivial

theorem participantPayload_only {raw : RawMessage} {phase : ParticipantPhase}
    {intents : List BeginIntent} : Leaves (participantPayload H raw phase intents : Sh D _) := by
  unfold participantPayload
  split
  · refine liftContract_only.bind fun _ _ => ?_
    split
    · exact .throw
    · exact .pure trivial
  · dsimp only
    split
    · exact .throw
    · refine tombstone_only.bind fun durable _ => gets_only.bind fun pending _ => ?_
      exact legacyOperationHash_only.bind fun _ _ => .pure trivial

theorem assertMessageCompatible_only {message : ParticipantPayload} :
    Leaves (assertMessageCompatible message : Sh D Unit) := by
  refine tombstone_only.bind fun found _ => ?_
  split
  · refine liftContract_only.bind fun _ _ => ?_
    split
    · exact .throw
    · exact .pure trivial
  · refine gets_only.bind fun pending _ => ?_
    split
    · exact .pure trivial
    · refine gets_only.bind fun stored _ => ?_
      split
      · exact .throw
      · split
        · exact .throw
        · dsimp only
          split
          · exact .throw
          · exact .pure trivial

theorem persistTombstone_only {message : ParticipantMessage} {decision : ParticipantDecision} :
    Leaves (persistTombstone message decision : Sh D _) := by
  refine tombstone_only.bind fun found _ => ?_
  split
  · refine liftContract_only.bind fun _ _ => ?_
    split
    · exact .throw
    · exact .pure trivial
  · refine gets_only.bind fun now _ => liftContract_only.bind fun _ _ => ?_
    refine (mutate_only ?_).bind fun _ _ => .pure trivial
    exact fun _ => .of_eq rfl rfl rfl rfl

theorem applyCommittedIntents_only {txId : TxId} {intents : List PendingIntent} :
    Leaves (applyCommittedIntents E txId intents) := by
  refine mutation_only fun s b s' h => ?_
  obtain ⟨t, _, rfl⟩ := applySync_ok h
  exact .of_eq rfl rfl rfl rfl

theorem forget_only {txId : TxId} : Leaves (mutate (Store.forget txId) : Sh D Unit) :=
  mutate_only fun _ => .of_eq rfl rfl rfl rfl

theorem certifiedPrepareResponse_only {txId : TxId} {prepared : Nat} {adopted : Option Bool} :
    Leaves (certifiedPrepareResponse B txId prepared adopted : Sh D Response) := by
  unfold certifiedPrepareResponse
  split
  · exact .pure trivial
  · refine getCurrentBookmark_only.bind fun _ _ => gets_only.bind fun _ _ => ?_
    refine (mutate_only ?_).bind fun _ _ => getCurrentBookmark_only.bind fun _ _ => .pure trivial
    intro s
    split
    · exact .refl s
    · exact .of_eq rfl rfl rfl rfl

theorem prepareNew_only {message : ParticipantPayload} {intents : List BeginIntent} :
    Leaves (prepareNew E B message intents) := by
  refine assertMessageCompatible_only.bind fun _ _ => read_only.bind fun s _ => ?_
  split
  · exact .pure trivial
  · split
    · exact .pure trivial
    · split
      · exact .pure trivial
      · refine (mutate_only ?_).bind fun _ _ => certifiedPrepareResponse_only
        exact fun _ => .of_eq rfl rfl rfl rfl

theorem adoptLegacyPrepared_only {message : ParticipantMessage} {intents : List BeginIntent} :
    Leaves (adoptLegacyPrepared message intents : Sh D Nat) := by
  refine mutation_only fun s a s' h => ?_
  dsimp only at h
  split at h
  · cases h
  · cases h
    exact .of_eq rfl rfl rfl rfl

theorem handlePrepare_only {raw : RawMessage} {intents : Option (List BeginIntent)} :
    Leaves (handlePrepare E H B raw intents) := by
  refine Prog.Only.pause.bind fun _ _ => ?_
  split
  · exact .pure trivial
  · exact .pure trivial
  · refine participantPayload_only.bind fun message _ => gets_only.bind fun existing _ => ?_
    split
    · exact prepareNew_only
    · split
      · split
        · exact .pure trivial
        · split
          · exact adoptLegacyPrepared_only.bind fun _ _ => certifiedPrepareResponse_only
          · exact certifiedPrepareResponse_only
      · exact assertMessageCompatible_only.bind fun _ _ => certifiedPrepareResponse_only

theorem handleCommit_only {raw : RawMessage} : Leaves (handleCommit E H raw) := by
  refine Prog.Only.pause.bind fun _ _ => participantPayload_only.bind fun message _ =>
    assertMessageCompatible_only.bind fun _ _ => gets_only.bind fun intents _ => ?_
  split
  · refine tombstone_only.bind fun durable _ => ?_
    split
    · split <;> exact .pure trivial
    · exact .pure trivial
  · exact persistTombstone_only.bind fun _ _ => .pure trivial
  · exact .pure trivial
  · exact persistTombstone_only.bind fun _ _ => applyCommittedIntents_only.bind fun _ _ =>
      mirrorSoon_only.bind fun _ _ => .pure trivial

theorem discardUnadoptedLegacy_only {message : ParticipantMessage} :
    Leaves (discardUnadoptedLegacy message : Sh D Nat) := by
  refine gets_only.bind fun now _ => liftContract_only.bind fun _ _ => ?_
  refine mutation_only fun s a s' h => ?_
  dsimp only at h
  split at h
  · cases h
  · cases h
    exact .of_eq rfl rfl rfl rfl

theorem handleAbort_only {raw : RawMessage} {legacy : Bool} :
    Leaves (handleAbort H raw legacy : Sh D Response) := by
  have hdurable : ∀ txId, Leaves (if legacy then tombstone txId else .pure none : Sh D _) := by
    intro txId
    split
    · exact tombstone_only
    · exact .pure trivial
  refine Prog.Only.pause.bind fun _ _ => participantPayload_only.bind fun message _ =>
    gets_only.bind fun pending _ => (hdurable _).bind fun durable _ => ?_
  split
  · exact discardUnadoptedLegacy_only.bind fun _ _ => .pure trivial
  · refine assertMessageCompatible_only.bind fun _ _ => gets_only.bind fun intents _ => ?_
    split
    · refine tombstone_only.bind fun durable _ => ?_
      split
      · split
        · exact .pure trivial
        · exact persistTombstone_only.bind fun _ _ => .pure trivial
      · exact persistTombstone_only.bind fun _ _ => .pure trivial
    · split
      · exact .pure trivial
      · exact persistTombstone_only.bind fun _ _ => forget_only.bind fun _ _ => .pure trivial

theorem handleTxStatus_only {raw : RawMessage} {asks : Bool} :
    Leaves (handleTxStatus H raw asks : Sh D Response) := by
  refine Prog.Only.pause.bind fun _ _ => participantPayload_only.bind fun message _ =>
    assertMessageCompatible_only.bind fun _ _ => tombstone_only.bind fun durable _ =>
    read_only.bind fun s _ => ?_
  dsimp only
  split <;> exact .pure trivial

theorem handleRecover_only {raw : RawMessage} {decision : Option ParticipantDecision} :
    Leaves (handleRecover E H raw decision) := by
  refine Prog.Only.pause.bind fun _ _ => participantPayload_only.bind fun message _ =>
    assertMessageCompatible_only.bind fun _ _ => tombstone_only.bind fun durable _ => ?_
  split
  · exact .pure trivial
  · exact persistTombstone_only.bind fun _ _ => forget_only.bind fun _ _ => .pure trivial
  · refine persistTombstone_only.bind fun _ _ => gets_only.bind fun intents _ => ?_
    split
    · exact .pure trivial
    · exact .pure trivial
    · exact applyCommittedIntents_only.bind fun _ _ => mirrorSoon_only.bind fun _ _ => .pure trivial

theorem queryCoordinatorDecision_only {txId : TxId} :
    Leaves (queryCoordinatorDecision txId : Sh D _) :=
  Prog.Only.ask.bind fun _ _ => .pure trivial

theorem sweepOne_only {txId : TxId} : Leaves (sweepOne E txId) := by
  refine queryCoordinatorDecision_only.bind fun recovery _ => ?_
  split
  · refine gets_only.bind fun metadata _ => ?_
    split
    · exact .pure trivial
    · exact persistTombstone_only.bind fun _ _ => gets_only.bind fun _ _ =>
        applyCommittedIntents_only.bind fun _ _ => mirrorSoon_only
  · refine gets_only.bind fun metadata _ => ?_
    split
    · exact .pure trivial
    · exact persistTombstone_only.bind fun _ _ => forget_only
  · exact .pure trivial

theorem sweepAll_only : ∀ stale : List TxId, Leaves (sweepAll E stale)
  | [] => .pure trivial
  | _ :: stale => (sweepOne_only.rescue fun _ => .pure trivial).bind fun _ _ => sweepAll_only stale

/-! ## restores, fences and mirrors -/

theorem handlePitrPreview_only {cutoff : Option Nat} {claim : RestoreClaim} :
    Leaves (handlePitrPreview B cutoff claim : Sh D Response) := by
  have hgate : Leaves (if claim.generation.isSome then
      matchingRestoreFence B claim.restoreId claim.generation
    else requireRestoreGateOpen B : Sh D _) := by
    split
    · exact matchingRestoreFence_only
    · exact requireRestoreGateOpen_only
  refine Prog.Only.pause.bind fun _ _ => hgate.bind fun refused _ => ?_
  split
  · exact .pure trivial
  · exact .pure trivial
  · refine pruneDirectWriteLossJournal_only.bind fun _ _ =>
      certifyRestoreCheckpoint_only.bind fun _ _ => read_only.bind fun s _ => ?_
    split
    · exact .throw
    · dsimp only
      split
      · exact .pure trivial
      · split
        · exact .pure trivial
        · exact getCurrentBookmark_only.bind fun _ _ => .pure trivial

theorem handleRestoreFence_only {claim : RestoreClaim} {action : Option String} :
    Leaves (handleRestoreFence B claim action : Sh D Response) := by
  refine Prog.Only.pause.bind fun _ _ => matchingRestoreFence_only.bind fun refused _ => ?_
  split
  · exact .pure trivial
  · refine gets_only.bind fun existing _ => ?_
    dsimp only
    split
    · exact .pure trivial
    · split
      · split
        · exact .pure trivial
        · refine (modify_only ?_).bind fun _ _ => .pure trivial
          exact fun _ => .of_eq rfl rfl rfl rfl
      · refine getCurrentBookmark_only.bind fun _ _ => (modify_only ?_).bind fun _ _ =>
          getCurrentBookmark_only.bind fun _ _ => gets_only.bind fun _ _ => .pure trivial
        exact fun _ => .of_eq rfl rfl rfl rfl

/-- the endpoints that check one field and set one column -/
theorem mutate_return_only {f : Store D → Store D} {response : Response}
    (h : ∀ s, Elsewhere s (f s)) : Leaves (do
      mutate f
      return response) :=
  (mutate_only h).bind fun _ _ => .pure trivial

theorem handleFenceVbucket_only {vbucket : Option Nat} :
    Leaves (handleFenceVbucket vbucket : Sh D Response) := by
  refine Prog.Only.pause.bind fun _ _ => ?_
  split
  · exact .pure trivial
  · exact mutate_return_only fun _ => .of_eq rfl rfl rfl rfl

theorem handleUnfenceVbucket_only {vbucket : Option Nat} :
    Leaves (handleUnfenceVbucket vbucket : Sh D Response) := by
  refine Prog.Only.pause.bind fun _ _ => ?_
  split
  · exact .pure trivial
  · exact mutate_return_only fun _ => .of_eq rfl rfl rfl rfl

theorem handleFenceIndexRing_only {indexName : Option String} :
    Leaves (handleFenceIndexRing indexName : Sh D Response) := by
  refine Prog.Only.pause.bind fun _ _ => ?_
  split
  · exact .pure trivial
  · exact .pure trivial
  · exact mutate_return_only fun _ => .of_eq rfl rfl rfl rfl

theorem handleUnfenceIndexRing_only {indexName : Option String} :
    Leaves (handleUnfenceIndexRing indexName : Sh D Response) := by
  refine Prog.Only.pause.bind fun _ _ => ?_
  split
  · exact .pure trivial
  · exact .pure trivial
  · exact mutate_return_only fun _ => .of_eq rfl rfl rfl rfl

/-- `acquireMutationBarrier` and the release afterwards touch the barrier only -/
theorem insideBarrier_only {α : Type} {p : Sh D α} {W : Store D → Store D → Prop}
    (hp : p.Only W fun _ => True) (hW : ∀ s s', Elsewhere s s' → W s s') :
    (insideBarrier p).Only W fun _ => True := by
  refine .step (fun s => hW _ _ (.of_eq rfl rfl rfl rfl)) fun s => .wait ?_
  exact hp.andFinally fun s => hW _ _ (.of_eq rfl rfl rfl rfl)

theorem mutateAlarmQueue_only {work : Store D → Store D} (h : ∀ s, Elsewhere s (work s)) :
    Leaves (mutateAlarmQueue B work) := by
  refine insideBarrier_only ?_ fun _ _ h => h
  refine requireRestoreGateOpen_only.bind fun refused _ => gets_only.bind fun state _ => ?_
  split
  · exact .pure trivial
  · exact markRestoreCheckpointDirty_only.bind fun _ _ => (mutate_only h).bind fun _ _ =>
      certifyRestoreCheckpoint_only.bind fun _ _ => .pure trivial

theorem commitQueueMutation_only {fromAlarm : Bool} {work : Store D → Store D}
    (h : ∀ s, Elsewhere s (work s)) : Leaves (commitQueueMutation B fromAlarm work) := by
  unfold commitQueueMutation
  split
  · exact mutateAlarmQueue_only h
  · exact (mutate_only h).bind fun _ _ => .pure trivial

theorem deliverMirrorJob_only {job : MirrorJob} {fromAlarm : Bool} :
    Leaves (deliverMirrorJob B job fromAlarm : Sh D Bool) := by
  refine Prog.Only.ask.bind fun answer _ => ?_
  split
  · exact commitQueueMutation_only fun _ => .of_eq rfl rfl rfl rfl
  · refine (commitQueueMutation_only ?_).bind fun _ _ => .pure trivial
    exact fun _ => .of_eq rfl rfl rfl rfl

theorem alarmDeliveryBlocked_only : Leaves (alarmDeliveryBlocked B : Sh D Bool) :=
  requireRestoreGateOpen_only.bind fun _ _ => gets_only.bind fun _ _ => .pure trivial

theorem deliverDue_only : ∀ jobs : List MirrorJob, Leaves (deliverDue B jobs : Sh D Bool)
  | [] => .pure trivial
  | job :: jobs => by
    refine alarmDeliveryBlocked_only.bind fun blocked _ => ?_
    split
    · exact .pure trivial
    · refine deliverMirrorJob_only.bind fun delivered _ => ?_
      have hagain : Leaves (if delivered then .pure false else alarmDeliveryBlocked B : Sh D _) := by
        split
        · exact .pure trivial
        · exact alarmDeliveryBlocked_only
      refine hagain.bind fun blocked _ => ?_
      split
      · exact .pure trivial
      · exact deliverDue_only jobs

theorem processMirrorPendingJobs_only : Leaves (processMirrorPendingJobs B : Sh D _) := by
  refine gets_only.bind fun due _ => (deliverDue_only due).bind fun blocked _ =>
    read_only.bind fun s _ => ?_
  split <;> exact .pure trivial

theorem deliverAll_only : ∀ jobs : List MirrorJob, Leaves (deliverAll B jobs : Sh D Unit)
  | [] => .pure trivial
  | _ :: jobs => deliverMirrorJob_only.bind fun _ _ => deliverAll_only jobs

theorem handleDrainMirrorJobs_only {vbucket : Option Nat} :
    Leaves (handleDrainMirrorJobs B vbucket : Sh D Response) := by
  refine Prog.Only.pause.bind fun _ _ => ?_
  split
  · exact .pure trivial
  · exact gets_only.bind fun _ _ => (deliverAll_only _).bind fun _ _ => gets_only.bind fun _ _ =>
      .pure trivial

/-! ## direct writes and the alarm -/

/-- a piece that applies requests, or leaves them alone -/
abbrev Serves {α : Type} (E : Engine D) (H : Digests) (p : Sh D α) : Prop :=
  p.Only (Applies E H) fun _ => True

theorem Leaves.serves {α : Type} {p : Sh D α} (h : Leaves p) : Serves E H p :=
  h.widen fun _ _ => .elsewhere

theorem executeSync_serves {payload : ExecutePayload} {writeHash : Hash} {execStart : Nat} :
    Serves E H (mutation (executeSync E payload (H.requestHash payload.sql payload.params) writeHash
      execStart)) := by
  refine .transact (fun s => .elsewhere (.refl s)) fun s a s' h => ?_
  dsimp only at h
  cases hexec : executeSync E payload (H.requestHash payload.sql payload.params) writeHash
      execStart s with
  | error e =>
    rw [hexec] at h
    cases h
  | ok r =>
    rw [hexec] at h
    cases h
    exact .write payload writeHash execStart r.1 hexec

theorem executeMutation_serves {payload : ExecutePayload} {execStart : Nat} :
    Serves E H (executeMutation E H payload execStart) := by
  refine Prog.Only.pause.bind fun _ _ => Prog.Only.ask.bind fun _ _ =>
    (Leaves.serves read_only).bind fun s _ => ?_
  split
  · split <;> exact .pure trivial
  · split
    · exact .pure trivial
    · exact executeSync_serves.bind fun _ _ => (Leaves.serves mirrorSoon_only).bind fun _ _ =>
        .pure trivial

theorem handleExecute_serves {payload : ExecutePayload} :
    Serves E H (handleExecute E H payload) := by
  refine Prog.Only.pause.bind fun _ _ => ?_
  split
  · exact .pure trivial
  · refine (Leaves.serves gets_only).bind fun execStart _ => Prog.Only.rescue ?_ fun _ => .pure trivial
    split
    · exact executeMutation_serves
    · refine (Leaves.serves read_only).bind fun s _ => ?_
      split
      · exact .throw
      · exact .pure trivial

theorem maintain_serves : Serves E H (maintain E) := by
  have hprune : Serves E H (mutate pruneAppliedRequests) := by
    refine .step (fun s => ?_) fun s => .pure trivial
    exact .prune
  have htombstones : Leaves (mutate pruneTombstones : Sh D Unit) :=
    mutate_only fun _ => .of_eq rfl rfl rfl rfl
  have hsweep : Leaves (sweepStalePendingIntents E) := gets_only.bind fun stale _ => sweepAll_only stale
  exact hprune.bind fun _ _ => htombstones.serves.bind fun _ _ =>
    (Leaves.serves pruneDirectWriteLossJournal_only).bind fun _ _ => hsweep.serves

theorem alarmMaintenance_serves : Serves E H (alarmMaintenance E B) := by
  have hshut : Serves E H (do
      let now ← dateNow
      setAlarm (now + pruneIntervalMs)
      return true : Sh D Bool) :=
    (Leaves.serves gets_only).bind fun _ _ => (Leaves.serves setAlarm_only).bind fun _ _ => .pure trivial
  refine (Leaves.serves requireRestoreGateOpen_only).bind fun refused _ => ?_
  split
  · exact hshut
  · refine (Leaves.serves gets_only).bind fun state _ => ?_
    split
    · exact hshut
    · exact (Leaves.serves markRestoreCheckpointDirty_only).bind fun _ _ => maintain_serves.bind fun _ _ =>
        (Leaves.serves certifyRestoreCheckpoint_only).bind fun _ _ => .pure trivial

theorem alarm_serves : Serves E H (alarm E B) := by
  have harm : Leaves (.modify ({ · with alarm := none }) : Sh D Unit) :=
    modify_only fun _ => .of_eq rfl rfl rfl rfl
  refine harm.serves.bind fun _ _ =>
    (insideBarrier_only alarmMaintenance_serves fun _ _ => .elsewhere).bind fun fenced _ => ?_
  split
  · exact .pure trivial
  · exact (Leaves.serves processMirrorPendingJobs_only).bind fun _ _ =>
      (Leaves.serves gets_only).bind fun _ _ => (Leaves.serves setAlarmNoLater_only)

/-! ## the object -/

/-- the requests that do not take rows of applied requests away on purpose -/
def Activity.keepsRequests : Activity → Bool
  | .request (.invalidateRequest _) => false
  | _ => true

theorem route_serves {request : Request} (hr : (Activity.request request).keepsRequests) :
    Serves E H (route E H B request) := by
  cases request with
  | execute payload => exact handleExecute_serves
  | prepare raw intents claim => exact Leaves.serves handlePrepare_only
  | commit raw => exact Leaves.serves handleCommit_only
  | abort raw legacy => exact Leaves.serves handleAbort_only
  | recover raw decision claim => exact Leaves.serves handleRecover_only
  | txStatus raw asks => exact Leaves.serves handleTxStatus_only
  | invalidateRequest requestId => cases hr
  | fenceVbucket vbucket => exact Leaves.serves handleFenceVbucket_only
  | unfenceVbucket vbucket => exact Leaves.serves handleUnfenceVbucket_only
  | fenceIndexRing indexName => exact Leaves.serves handleFenceIndexRing_only
  | unfenceIndexRing indexName => exact Leaves.serves handleUnfenceIndexRing_only
  | drainMirrorJobs vbucket => exact Leaves.serves handleDrainMirrorJobs_only
  | restoreFence claim action => exact Leaves.serves handleRestoreFence_only
  | pitrPreview cutoff claim => exact Leaves.serves handlePitrPreview_only

theorem mutationGate_only {request : Request} : Leaves (mutationGate B request : Sh D _) := by
  unfold mutationGate
  dsimp only
  split
  · refine Prog.Only.pause.bind fun _ _ => ?_
    split
    · exact matchingRestoreFence_only
    · exact requireRestoreGateOpen_only
  · split
    · exact matchingRestoreFence_only
    · exact requireRestoreGateOpen_only

theorem handleMutation_serves {request : Request}
    (hr : (Activity.request request).keepsRequests) :
    Serves E H (handleMutation E H B request) := by
  refine (Leaves.serves mutationGate_only).bind fun refused _ => ?_
  split
  · exact .pure trivial
  · refine (Leaves.serves gets_only).bind fun state _ => ?_
    split
    · exact .pure trivial
    · refine (Leaves.serves markRestoreCheckpointDirty_only).bind fun _ _ =>
        (route_serves hr).attempt.bind fun result _ =>
        (Leaves.serves certifyRestoreCheckpoint_only).bind fun _ _ => ?_
      exact Prog.Only.ofExcept.done

theorem handle_serves {request : Request} (hr : (Activity.request request).keepsRequests) :
    Serves E H (handle E H B request) := by
  unfold handle
  split
  · exact insideBarrier_only (handleMutation_serves hr) fun _ _ => .elsewhere
  · split
    · refine .step (fun s => .elsewhere (.of_eq rfl rfl rfl rfl)) fun s => .wait ?_
      exact (route_serves hr).unawaited fun s => .elsewhere (.of_eq rfl rfl rfl rfl)
    · exact route_serves hr

theorem handler_serves {activity : Activity} (ha : activity.keepsRequests) :
    Serves E H ((system E H B).handler activity) := by
  cases activity with
  | request request =>
    have hfetch : Serves E H (fetch E H B request) := (handle_serves ha).rescue fun _ => .pure trivial
    exact hfetch.bind fun _ _ => .pure trivial
  | alarm => exact alarm_serves.bind fun _ _ => .pure trivial

/-! ## the account -/

/-- the row of a direct write -/
def appliedRow (payload : ExecutePayload) (hash : Hash) (result : MutationResult) (now : Nat) :
    AppliedRequest :=
  { requestId := payload.requestId, requestHash := hash, result, appliedAt := now }

def entryOf (payload : ExecutePayload) (hash writeHash : Hash) (s : Store D) : JournalEntry :=
  { sequence := s.journalSequence + 1, requestId := payload.requestId, requestHash := hash, writeHash
    kind := directWriteKind payload, appliedAtMs := s.now
    expiresAtMs := s.now + directWriteLossRetentionMs }

theorem recordClientRequest_applied (payload : ExecutePayload) (hash : Hash)
    (result : MutationResult) (s : Store D) :
    ∃ client, (recordClientRequest payload hash result s).appliedRequests =
        s.appliedRequests ++ client ∧
      ((s.appliedRequests.map (·.requestId)).Nodup →
        ((s.appliedRequests ++ client).map (·.requestId)).Nodup) := by
  unfold recordClientRequest
  split
  · rename_i clientRequestId _
    split
    · exact ⟨[], by simp, by simp⟩
    · rename_i hnew
      have hnew : s.appliedRequests.any (·.requestId == clientRequestId) = false := by
        cases h : s.appliedRequests.any (·.requestId == clientRequestId) with
        | false => rfl
        | true => exact absurd (.inr (.inr h)) hnew
      refine ⟨_, rfl, fun hids => ?_⟩
      rw [List.map_append, List.nodup_append]
      refine ⟨hids, by simp, ?_⟩
      rintro _ hid _ hclient rfl
      obtain ⟨row, hrow, rfl⟩ := List.mem_map.mp hid
      have hclient : row.requestId = clientRequestId := by simpa using hclient
      have := List.any_eq_false.mp hnew row hrow
      simp [hclient] at this
  · exact ⟨[], by simp, by simp⟩

/-- a mirrored write leaves a row of its client's request, which may be an older one -/
theorem recordClientRequest_client {payload : ExecutePayload} {id : String}
    (hmirror : payload.isMirror = true) (hid : payload.clientRequestId = some id) (hne : id ≠ "")
    (hash : Hash) (result : MutationResult) (s : Store D) :
    ∃ row ∈ (recordClientRequest payload hash result s).appliedRequests, row.requestId = id := by
  unfold recordClientRequest
  rw [hid]
  dsimp only
  split
  · rename_i hignored
    rcases hignored with h | h | h
    · rw [hmirror] at h
      cases h
    · exact absurd h hne
    · obtain ⟨row, hrow, hrowid⟩ := List.any_eq_true.mp h
      exact ⟨row, hrow, by simpa using hrowid⟩
  · exact ⟨_, List.mem_append_right _ List.mem_cons_self, rfl⟩

/-- what a direct write leaves in the tables of requests -/
structure Journaled (payload : ExecutePayload) (hash writeHash : Hash) (result : MutationResult)
    (s s' : Store D) : Prop where
  new : ∀ row ∈ s.appliedRequests, row.requestId ≠ payload.requestId
  rows : ∃ client, s'.appliedRequests =
    s.appliedRequests ++ appliedRow payload hash result s.now :: client
  client : payload.isMirror = true → ∀ id, payload.clientRequestId = some id → id ≠ "" →
    ∃ row ∈ s'.appliedRequests, row.requestId = id
  ids : (s.appliedRequests.map (·.requestId)).Nodup → (s'.appliedRequests.map (·.requestId)).Nodup
  journal : s'.journal = s.journal ++ [entryOf payload hash writeHash s]
  journalSequence : s'.journalSequence = s.journalSequence + 1
  now : s'.now = s.now

theorem executeSync_journaled {payload : ExecutePayload} {hash writeHash : Hash} {execStart : Nat}
    {result : MutationResult × Bool}
    (h : executeSync E payload hash writeHash execStart s = .ok (result, s')) :
    Journaled payload hash writeHash result.1 s s' := by
  unfold executeSync at h
  split at h
  · cases h
  · rename_i data n hexec
    dsimp only at h
    split at h
    · cases h
    · rename_i hnew
      have hnew : ∀ row ∈ s.appliedRequests, row.requestId ≠ payload.requestId := by
        simpa using hnew
      cases h
      let applied : Store D :=
        { s with
          data
          appliedRequests := s.appliedRequests ++
            [appliedRow payload hash ⟨n, s.now - execStart⟩ s.now] }
      obtain ⟨client, hrows, hids⟩ :=
        recordClientRequest_applied payload hash ⟨n, s.now - execStart⟩ applied
      obtain ⟨requests, hclient⟩ :=
        recordClientRequest_requests payload hash ⟨n, s.now - execStart⟩ applied
      obtain ⟨t, _, ht⟩ := recordDirectWrite_tables (E := E) payload n
        (recordClientRequest payload hash ⟨n, s.now - execStart⟩ applied)
      have hwritten : (recordDirectWrite E payload n
          (recordClientRequest payload hash ⟨n, s.now - execStart⟩ applied)).1 =
            { applied.withTables t with appliedRequests := requests } := by
        rw [ht, hclient]
        rfl
      show Journaled payload hash writeHash _ s (journalWrite payload hash writeHash
        (recordDirectWrite E payload n
          (recordClientRequest payload hash ⟨n, s.now - execStart⟩ applied)).1)
      rw [hwritten]
      have hrows : requests = applied.appliedRequests ++ client := by
        rw [← hrows, hclient]
      have hmirrored : payload.isMirror = true → ∀ id, payload.clientRequestId = some id → id ≠ "" →
          ∃ row ∈ requests, row.requestId = id := by
        intro hmirror id hid hne
        have := recordClientRequest_client hmirror hid hne hash ⟨n, s.now - execStart⟩ applied
        rwa [hclient] at this
      subst hrows
      refine ⟨hnew, ⟨client, List.append_assoc ..⟩, hmirrored, fun hs => hids ?_, rfl, rfl, rfl⟩
      show ((s.appliedRequests ++
        [appliedRow payload hash ⟨n, s.now - execStart⟩ s.now]).map (·.requestId)).Nodup
      rw [List.map_append, List.nodup_append]
      refine ⟨hs, by simp, ?_⟩
      rintro _ hid _ hrow rfl
      obtain ⟨row, hrow', rfl⟩ := List.mem_map.mp hid
      exact hnew row hrow' (by simpa [appliedRow] using hrow)

/-- the rows and the journal of a shard, up to the retention time -/
structure Accounted (s : Store D) : Prop where
  ids : (s.appliedRequests.map (·.requestId)).Nodup
  numbered : ∀ e ∈ s.journal, e.sequence ≤ s.journalSequence
  recorded : ∀ e ∈ s.journal, s.now ≤ e.appliedAtMs + appliedRequestsTtlMs →
    ∃ row ∈ s.appliedRequests, row.requestId = e.requestId ∧ row.requestHash = e.requestHash ∧
      row.appliedAt = e.appliedAtMs
  /-- a request is applied again only after its row may have been dropped -/
  once : ∀ e ∈ s.journal, ∀ e' ∈ s.journal, e.requestId = e'.requestId → e.sequence < e'.sequence →
    e.appliedAtMs + appliedRequestsTtlMs < e'.appliedAtMs

theorem accounted_empty (data : D) : Accounted (Store.empty data) := by
  constructor <;> simp [Store.empty]

theorem Elsewhere.accounted (h : Elsewhere s s') (hs : Accounted s) : Accounted s' where
  ids := h.appliedRequests ▸ hs.ids
  numbered e he := h.journalSequence ▸ hs.numbered e (h.journal he)
  recorded e he hnow := by
    rw [h.appliedRequests]
    exact hs.recorded e (h.journal he) (h.now ▸ hnow)
  once e he e' he' := hs.once e (h.journal he) e' (h.journal he')

theorem Journaled.accounted {payload : ExecutePayload} {hash writeHash : Hash}
    {result : MutationResult} (h : Journaled payload hash writeHash result s s')
    (hs : Accounted s) : Accounted s' := by
  obtain ⟨client, hrows⟩ := h.rows
  have hold : ∀ e ∈ s.journal, e.requestId = payload.requestId →
      e.appliedAtMs + appliedRequestsTtlMs < s.now := by
    intro e he hid
    by_contra hlate
    obtain ⟨row, hrow, hrowid, -⟩ := hs.recorded e he (by omega)
    exact h.new row hrow (hrowid.trans hid)
  refine ⟨h.ids hs.ids, fun e he => ?_, fun e he hnow => ?_, fun e he e' he' hid hlt => ?_⟩
  · rw [h.journalSequence]
    rw [h.journal] at he
    rcases List.mem_append.mp he with he | he
    · exact Nat.le_succ_of_le (hs.numbered e he)
    · cases List.mem_singleton.mp he
      exact Nat.le_refl _
  · rw [hrows]
    rw [h.journal] at he
    rcases List.mem_append.mp he with he | he
    · obtain ⟨row, hrow, hfacts⟩ := hs.recorded e he (h.now ▸ hnow)
      exact ⟨row, List.mem_append_left _ hrow, hfacts⟩
    · cases List.mem_singleton.mp he
      exact ⟨_, List.mem_append_right _ List.mem_cons_self, rfl, rfl, rfl⟩
  · rw [h.journal] at he he'
    rcases List.mem_append.mp he with he | he <;> rcases List.mem_append.mp he' with he' | he'
    · exact hs.once e he e' he' hid hlt
    · cases List.mem_singleton.mp he'
      exact hold e he hid
    · cases List.mem_singleton.mp he
      have := hs.numbered e' he'
      simp only [entryOf] at hlt
      omega
    · cases List.mem_singleton.mp he
      cases List.mem_singleton.mp he'
      exact absurd hlt (Nat.lt_irrefl _)

/-- **every section keeps the account** -/
theorem Applies.accounted (h : Applies E H s s') (hs : Accounted s) : Accounted s' := by
  cases h with
  | elsewhere h => exact h.accounted hs
  | write payload writeHash execStart result h =>
    have hwrite := (executeSync_journaled h).accounted hs
    exact ⟨hwrite.ids, hwrite.numbered, hwrite.recorded, hwrite.once⟩
  | prune =>
    refine ⟨?_, hs.numbered, fun e he hnow => ?_, hs.once⟩
    · exact (List.filter_sublist.map _).nodup hs.ids
    · obtain ⟨row, hrow, hid, hhash, hat⟩ := hs.recorded e he hnow
      refine ⟨row, List.mem_filter.mpr ⟨hrow, ?_⟩, hid, hhash, hat⟩
      rw [hat]
      exact decide_eq_true hnow
  | clock now h =>
    refine ⟨hs.ids, hs.numbered, fun e he hnow => ?_, hs.once⟩
    exact hs.recorded e he (Nat.le_trans h hnow)

/-! ## runs -/

/-- a row of the table, or one whose retention time is over -/
def Remembered (row : AppliedRequest) (s : Store D) : Prop :=
  row ∈ s.appliedRequests ∨ row.appliedAt + appliedRequestsTtlMs < s.now

theorem Applies.now (h : Applies E H s s') : s.now ≤ s'.now := by
  cases h with
  | elsewhere h => exact Nat.le_of_eq h.now.symm
  | write payload writeHash execStart result h => exact Nat.le_of_eq (executeSync_journaled h).now.symm
  | prune => exact Nat.le_refl _
  | clock now h => exact h

theorem Remembered.applies {row : AppliedRequest} (h : Applies E H s s') (hrow : Remembered row s) :
    Remembered row s' := by
  by_cases hold : row.appliedAt + appliedRequestsTtlMs < s.now
  · exact .inr (Nat.lt_of_lt_of_le hold h.now)
  have hmem : row ∈ s.appliedRequests := hrow.resolve_right hold
  cases h with
  | elsewhere h => exact .inl (h.appliedRequests ▸ hmem)
  | write payload writeHash execStart result h =>
    obtain ⟨client, hrows⟩ := (executeSync_journaled h).rows
    refine .inl ?_
    show row ∈ Store.appliedRequests _
    rw [hrows]
    exact List.mem_append_left _ hmem
  | prune => exact .inl (List.mem_filter.mpr ⟨hmem, decide_eq_true (Nat.not_lt.mp hold)⟩)
  | clock now h => exact .inl hmem

/-- the moves of a shard, seen from its requests -/
def requestRules (E : Engine D) (H : Digests) : Rules (Store D) where
  inv := Accounted
  move := Applies E H
  move_refl s := .elsewhere (.refl s)
  inv_move hs hm := hm.accounted hs

/-- no request takes rows away on purpose, and the clock does not go back -/
def requestTerms : Terms (Store D) Ask Ask.Answer Activity Nat where
  accept activity := activity.keepsRequests
  ok _ _ _ _ := True
  event now s := s.now ≤ now

theorem requests_obey : Obeys (requestRules E H) (system E H B) requestTerms where
  handler _ _ ha := Rules.Does.of_only (handler_serves ha) fun _ h => h
  event now _ h _ := .clock now h
  restart _ _ := .elsewhere (.of_eq rfl rfl rfl rfl)

theorem remembered_stable (row : AppliedRequest) : (requestRules E H).Stable (Remembered row) :=
  fun _ hm h => h.applies hm

end Shard
