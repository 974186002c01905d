import CloudflareShard.Shard.Pieces

/-!
# All handlers of a shard keep to the barrier

One lemma for each function, in the order of the source.

* `handlePrepare_does` .. `sweepStalePendingIntents_does`   the participant;
* `certify_inside`, `certify_outside`                       checkpoints, with and without the barrier;
* `handleMutation_does`, `fetch_does`, `alarm_does`         the entry points;
* `system_governs`                                          **every run of a shard is made of moves**.
-/

namespace Shard
open Async Contracts Barrier

variable {D : Type} {E : Engine D} {H : Digests} {B : Bindings} {ρ : Regime} {I : Invariant E ρ}
  {activity : Activity} {pre : Store D → Prop} {g : Option Nat} {txId : TxId} {s s' : Store D}

/-- a piece of the handler of `activity` -/
abbrev Acts {α : Type} (I : Invariant E ρ) (activity : Activity) (pre : Store D → Prop)
    (g : Option Nat) (p : Sh D α) (s : Store D) : Prop :=
  Does I ((terms D ρ).ok activity) pre g p Any s

theorem Acts.pure {α : Type} {a : α} :
    Acts I activity pre g (Pure.pure a : Sh D α) s := Guarded.Stays.pure trivial

/-! ## alarms, bookmarks and gates -/

theorem setAlarm_does (hc : Context I pre g) {at_ : Nat} : Acts I activity pre g (setAlarm at_) s :=
  (Does.aside hc ⟨rfl, rfl, rfl, rfl, rfl, rfl, rfl, rfl, rfl⟩).bind fun _ _ _ => Does.pause hc

theorem setAlarmNoLater_does (hc : Context I pre g) {at_ : Nat} :
    Acts I activity pre g (setAlarmNoLater at_) s := by
  refine Does.gets.bind fun _ _ _ => (Does.pause hc).bind fun _ _ _ => ?_
  split
  · exact setAlarm_does hc
  · exact Acts.pure

theorem mirrorSoon_does (hc : Context I pre g) {enqueuedMirror : Bool} :
    Acts I activity pre g (mirrorSoon enqueuedMirror) s := by
  unfold mirrorSoon
  split
  · exact Does.gets.bind fun _ _ _ => setAlarmNoLater_does hc
  · exact Acts.pure

theorem getCurrentBookmark_does (hc : Context I pre g) {use : BookmarkUse} :
    Acts I activity pre g (getCurrentBookmark use) s := by
  refine Does.gets.bind fun bookmark _ _ => (Does.ask hc).bind fun answer _ _ => ?_
  split
  · exact Acts.pure
  · exact Guarded.Stays.throw

theorem restoreGateSnapshot_does (hc : Context I pre g) {claim : Option (String × Nat)} :
    Acts I activity pre g (restoreGateSnapshot B claim) s := by
  unfold restoreGateSnapshot
  split
  · exact (Does.pause hc).bind fun _ _ _ => Acts.pure
  · refine (Does.ask hc).bind fun reply _ _ => ?_
    split
    · exact Guarded.Stays.throw
    · exact Guarded.Stays.throw
    · exact Guarded.Stays.throw
    · exact Acts.pure

theorem requireRestoreGateOpen_does (hc : Context I pre g) :
    Acts I activity pre g (requireRestoreGateOpen B) s := by
  refine (restoreGateSnapshot_does hc).attempt.bind fun r _ _ => ?_
  split <;> exact Acts.pure

theorem matchingRestoreFence_does (hc : Context I pre g) {restoreId : Option String}
    {generation : Option Nat} :
    Acts I activity pre g (matchingRestoreFence B restoreId generation) s := by
  unfold matchingRestoreFence
  split
  · split
    · exact Acts.pure
    · refine (restoreGateSnapshot_does hc).attempt.bind fun r _ _ => ?_
      split
      · exact Acts.pure
      · exact Acts.pure
      · split <;> exact Acts.pure
  · exact Acts.pure

/-! ## prepare -/

theorem certifiedPrepareResponse_does (hb : Inner I pre g txId) {prepared : Nat}
    {legacyAdopted : Option Bool} :
    Acts I activity pre g (certifiedPrepareResponse B txId prepared legacyAdopted) s := by
  unfold certifiedPrepareResponse
  split
  · exact Acts.pure
  · refine (getCurrentBookmark_does hb.toContext).bind fun bookmark _ _ => ?_
    refine Does.gets.bind fun _ _ _ => ?_
    refine (Does.mutateAside hb ?_).bind fun _ _ _ => ?_
    · split <;> exact ⟨rfl, rfl, rfl, rfl, rfl, rfl, rfl, rfl, rfl⟩
    · exact (getCurrentBookmark_does hb.toContext).bind fun _ _ _ => Acts.pure

theorem prepareNew_does (hb : Inner I pre g txId) {message : ParticipantPayload}
    {intents : List BeginIntent} (hid : message.txId = txId) (hp : message.phase = .prepare)
    (hrows : s.intentsOf txId = []) :
    Acts I activity pre g (prepareNew E B message intents) s := by
  subst hid
  refine assertMessageCompatible_does.bind fun _ _ h => ?_
  obtain ⟨rfl, hin⟩ := h
  refine Does.read.bind fun s₀ _ h => ?_
  obtain ⟨rfl, rfl⟩ := h
  split
  · exact Acts.pure
  · split
    · exact Acts.pure
    · rename_i hlocked
      split
      · exact Acts.pure
      · rename_i data hvalid
        have hchange : Change E ρ s₀ (recordPrepared message.toParticipantMessage intents s₀) :=
          .prepare _ _ data hrows (hin.no_tombstone hp) hlocked hvalid
        exact (Does.mutate hb hchange (recordPrepared_frame rfl)).bind fun _ _ _ =>
          certifiedPrepareResponse_does hb

theorem adoptLegacyPrepared_does (hb : Inner I pre g txId) {message : ParticipantMessage}
    {intents : List BeginIntent} (hid : message.txId = txId) :
    Acts I activity pre g (adoptLegacyPrepared message intents) s := by
  refine (Does.mutation hb fun a s' h => ?_).done
  dsimp only at h
  split at h
  · cases h
  · cases h
    exact ⟨.adopt message, adopt_frame hid⟩

theorem handlePrepare_does (hb : ∀ txId, Inner I pre g txId) {raw : RawMessage}
    {intents : Option (List BeginIntent)} :
    Acts I activity pre g (handlePrepare E H B raw intents) s := by
  have hc := (hb "").toContext
  refine (Does.pause hc).bind fun _ _ _ => ?_
  split
  · exact Acts.pure
  · exact Acts.pure
  · refine (participantPayload_does hc).bind fun message _ hm => ?_
    refine storedIntentIdentity_does.bind fun existing s₁ h => ?_
    obtain ⟨rfl, rfl⟩ := h
    split
    · rename_i hempty
      exact prepareNew_does (hb _) rfl hm.2 (by simpa using hempty)
    · split
      · split
        · exact Acts.pure
        · split
          · exact (adoptLegacyPrepared_does (hb _) rfl).bind fun _ _ _ =>
              certifiedPrepareResponse_does (hb _)
          · exact certifiedPrepareResponse_does (hb _)
      · exact assertMessageCompatible_does.bind fun _ _ _ => certifiedPrepareResponse_does (hb _)

/-! ## commit and abort -/

theorem head_of_headStatus {intents : List PendingIntent} {status : IntentStatus}
    (h : headStatus intents = some status) : ∃ row ∈ intents, row.status = status := by
  obtain ⟨row, hrow, hstatus⟩ := Option.map_eq_some_iff.mp h
  exact ⟨row, List.mem_of_mem_head? hrow, hstatus⟩

/-- the tombstone of a decided commit, and then its effects -/
theorem commit_does (hb : Inner I pre g txId) {message : ParticipantMessage} {α : Type} {a : α}
    (hid : message.txId = txId) (he : s.tombstoneOf txId = none → ρ.evidence txId .commit)
    (hr : ∃ row ∈ s.intentsOf txId, row.status ≠ .committed) :
    Acts I activity pre g (do
      let _ ← persistTombstone message .commit
      let intents ← storedIntentIdentity txId
      let enqueuedMirror ← applyCommittedIntents E txId intents
      mirrorSoon enqueuedMirror
      return a) s := by
  refine (persistTombstone_does hb hid he).bind fun _ s₁ h => ?_
  obtain ⟨hpending, record, ht, hd⟩ := h
  refine storedIntentIdentity_does.bind fun intents s₂ h => ?_
  obtain ⟨rfl, rfl⟩ := h
  have hrows : s₂.intentsOf txId = s.intentsOf txId := by
    unfold Store.intentsOf
    rw [hpending]
  refine (applyCommittedIntents_does hb ht hd rfl (hrows ▸ hr)).bind fun _ _ _ => ?_
  exact (mirrorSoon_does hb.toContext).bind fun _ _ _ => Acts.pure

/-- the tombstone of a decided abort, and then the rows are dropped -/
theorem abort_does (hb : Inner I pre g txId) {message : ParticipantMessage} {α : Type} {a : α}
    (hid : message.txId = txId) (he : s.tombstoneOf txId = none → ρ.evidence txId .abort) :
    Acts I activity pre g (do
      let _ ← persistTombstone message .abort
      mutate (Store.forget txId)
      return a) s := by
  refine (persistTombstone_does hb hid he).bind fun _ s₁ h => ?_
  obtain ⟨-, record, ht, hd⟩ := h
  exact (forget_does hb ht hd).bind fun _ _ _ => Acts.pure

theorem handleCommit_does (hb : ∀ txId, Inner I pre g txId) {raw : RawMessage}
    (he : ρ.evidence raw.txId .commit) : Acts I activity pre g (handleCommit E H raw) s := by
  have hc := (hb "").toContext
  refine (Does.pause hc).bind fun _ _ _ => ?_
  refine (participantPayload_does hc).bind fun message _ hm => ?_
  have he' : ρ.evidence message.txId .commit := hm.1 ▸ he
  refine assertMessageCompatible_does.bind fun _ _ h => ?_
  obtain ⟨rfl, hin⟩ := h
  refine storedIntentIdentity_does.bind fun intents s₀ h => ?_
  obtain ⟨rfl, rfl⟩ := h
  split
  · refine tombstone_does.bind fun durable _ _ => ?_
    split
    · split <;> exact Acts.pure
    · exact Acts.pure
  · exact (persistTombstone_does (hb _) rfl fun _ => he').bind fun _ _ _ => Acts.pure
  · exact Acts.pure
  · rename_i hstatus
    obtain ⟨row, hrow, hprepared⟩ := head_of_headStatus hstatus
    refine (persistTombstone_does (hb _) rfl fun _ => he').bind fun _ s₁ h => ?_
    obtain ⟨hpending, record, ht, hd⟩ := h
    have hrows : s₁.intentsOf message.txId = s₀.intentsOf message.txId := by
      unfold Store.intentsOf
      rw [hpending]
    refine (applyCommittedIntents_does (hb _) ht hd hrows.symm ⟨row, ?_, ?_⟩).bind fun _ _ _ => ?_
    · rw [hrows]
      exact hrow
    · rw [hprepared]
      nofun
    · exact (mirrorSoon_does hc).bind fun _ _ _ => Acts.pure

theorem discardUnadoptedLegacy_does (hb : Inner I pre g txId) {message : ParticipantMessage}
    (hid : message.txId = txId) (ht : s.tombstoneOf txId = none) (he : ρ.evidence txId .abort) :
    Acts I activity pre g (discardUnadoptedLegacy message) s := by
  subst hid
  refine Does.gets.bind fun decidedAt _ h => ?_
  obtain ⟨rfl, rfl⟩ := h
  refine Does.liftContract.bind fun _ s₀ h => ?_
  obtain ⟨rfl, -⟩ := h
  refine (Does.mutation hb fun a s' h => ?_).done
  dsimp only at h
  split at h
  · cases h
  · cases h
    exact ⟨.discard (newTombstone message .abort s₀.now) ht rfl he,
      ⟨rfl, rfl, fun _ hne => intentsOf_filter hne s₀.pending⟩⟩

theorem handleAbort_does (hb : ∀ txId, Inner I pre g txId) {raw : RawMessage}
    {legacyPredecisionAbort : Bool} (he : ρ.evidence raw.txId .abort) :
    Acts I activity pre g (handleAbort H raw legacyPredecisionAbort) s := by
  have hc := (hb "").toContext
  refine (Does.pause hc).bind fun _ _ _ => ?_
  refine (participantPayload_does hc).bind fun message _ hm => ?_
  have he' : ρ.evidence message.txId .abort := hm.1 ▸ he
  refine storedIntentIdentity_does.bind fun pending s₀ h => ?_
  obtain ⟨rfl, rfl⟩ := h
  have hdurable : Does I ((terms D ρ).ok activity) pre g
      (if legacyPredecisionAbort then tombstone message.txId else .pure none)
      (fun durable s' => s' = s₀ ∧
        (legacyPredecisionAbort → durable = s₀.tombstoneOf message.txId)) s₀ := by
    split
    · exact tombstone_does.mono fun _ _ h => ⟨h.1, fun _ => h.2⟩
    · rename_i hno
      exact Guarded.Stays.pure ⟨rfl, fun h => absurd h hno⟩
  refine hdurable.bind fun durable s₁ h => ?_
  obtain ⟨rfl, hd⟩ := h
  split
  · rename_i hlegacy
    simp only [Bool.and_eq_true] at hlegacy
    have ht : s₁.tombstoneOf message.txId = none := by
      rw [← hd hlegacy.1.1.1]
      simpa using hlegacy.1.1.2
    exact (discardUnadoptedLegacy_does (hb _) rfl ht he').bind fun _ _ _ => Acts.pure
  · refine assertMessageCompatible_does.bind fun _ _ _ => ?_
    refine storedIntentIdentity_does.bind fun intents _ _ => ?_
    split
    · refine tombstone_does.bind fun durable _ _ => ?_
      split
      · split
        · exact Acts.pure
        · exact (persistTombstone_does (hb _) rfl fun _ => he').bind fun _ _ _ => Acts.pure
      · exact (persistTombstone_does (hb _) rfl fun _ => he').bind fun _ _ _ => Acts.pure
    · split
      · exact Acts.pure
      · exact abort_does (hb _) rfl fun _ => he'

/-! ## status and recovery -/

theorem handleTxStatus_does (hc : Context I pre g) {raw : RawMessage} {asksBookmark : Bool} :
    Acts I activity pre g (handleTxStatus H raw asksBookmark) s := by
  refine (Does.pause hc).bind fun _ _ _ => ?_
  refine (participantPayload_does hc).bind fun message _ _ => ?_
  refine assertMessageCompatible_does.bind fun _ _ _ => tombstone_does.bind fun _ _ _ => ?_
  refine Does.read.bind fun _ _ _ => ?_
  dsimp only
  split <;> exact Acts.pure

theorem handleRecover_does (hb : ∀ txId, Inner I pre g txId) {raw : RawMessage}
    {requestedDecision : Option ParticipantDecision}
    (he : ∀ d, requestedDecision = some d → ρ.evidence raw.txId d) :
    Acts I activity pre g (handleRecover E H raw requestedDecision) s := by
  have hc := (hb "").toContext
  refine (Does.pause hc).bind fun _ _ _ => ?_
  refine (participantPayload_does hc).bind fun message _ hm => ?_
  refine assertMessageCompatible_does.bind fun _ _ h => ?_
  obtain ⟨rfl, -⟩ := h
  refine tombstone_does.bind fun durable s₀ h => ?_
  obtain ⟨rfl, rfl⟩ := h
  -- what is durable comes before what was requested
  have hev : ∀ d, ((s₀.tombstoneOf message.txId).map (·.decision)).or requestedDecision = some d →
      s₀.tombstoneOf message.txId = none → ρ.evidence message.txId d := by
    intro d hd hnone
    rw [hnone] at hd
    exact hm.1 ▸ he d hd
  split
  · exact Acts.pure
  · rename_i hd
    exact abort_does (hb _) rfl (hev _ hd)
  · rename_i hd
    refine (persistTombstone_does (hb _) rfl (hev _ hd)).bind fun _ s₁ h => ?_
    obtain ⟨-, record, ht, hcommit⟩ := h
    refine storedIntentIdentity_does.bind fun intents s₂ h => ?_
    obtain ⟨rfl, rfl⟩ := h
    split
    · exact Acts.pure
    · exact Acts.pure
    · rename_i hsome hne
      cases hstatus : headStatus (s₂.intentsOf message.txId) with
      | none => exact absurd hstatus hsome
      | some status =>
        obtain ⟨row, hrow, hs⟩ := head_of_headStatus hstatus
        have hr : row.status ≠ .committed := fun h => hne (hstatus.trans (by rw [← hs, h]))
        refine (applyCommittedIntents_does (hb _) ht hcommit rfl ⟨row, hrow, hr⟩).bind ?_
        exact fun _ _ _ => (mirrorSoon_does hc).bind fun _ _ _ => Acts.pure

/-! ## the sweep -/

/-- a row that the sweep found, still to be decided -/
def Undecided (txId : TxId) (s : Store D) : Prop :=
  ∃ row ∈ s.intentsOf txId, row.status ≠ .committed

theorem Undecided.of_pending (h : Undecided txId s) (hp : s'.pending = s.pending) :
    Undecided txId s' := by
  unfold Undecided Store.intentsOf
  rw [hp]
  exact h

theorem Undecided.quiet (h : Undecided txId s) (hq : Quiet ρ s s') : Undecided txId s' :=
  h.of_pending (congrArg Participant.pending hq.participant)

theorem sweepOne_does (hb : Inner I pre g txId) (h : Undecided txId s) :
    Acts I activity pre g (sweepOne E txId) s := by
  have hq : Does I ((terms D ρ).ok activity) pre g (queryCoordinatorDecision txId)
      (fun recovery s' => Undecided txId s' ∧
        ∀ d, recovery.decision.decided = some d → ρ.evidence txId d) s :=
    (Does.askInside hb.toContext hb.holds).bind fun _ _ ha =>
      Guarded.Stays.pure ⟨h.quiet ha.1, ha.2⟩
  refine hq.bind fun recovery s₁ h₁ => ?_
  obtain ⟨hu, hev⟩ := h₁
  split
  · rename_i hd
    refine pendingMetadata_does.bind fun metadata s₂ h₂ => ?_
    obtain ⟨rfl, rfl⟩ := h₂
    split
    · exact Acts.pure
    · refine (persistTombstone_does hb rfl fun _ => hev _ (by rw [hd]; rfl)).bind fun _ s₃ h₃ => ?_
      obtain ⟨hpending, record, ht, hcommit⟩ := h₃
      refine storedIntentIdentity_does.bind fun intents s₄ h₄ => ?_
      obtain ⟨rfl, rfl⟩ := h₄
      exact (applyCommittedIntents_does hb ht hcommit rfl (hu.of_pending hpending)).bind
        fun _ _ _ => mirrorSoon_does hb.toContext
  · rename_i hd
    refine pendingMetadata_does.bind fun metadata s₂ h₂ => ?_
    obtain ⟨rfl, rfl⟩ := h₂
    split
    · exact Acts.pure
    · refine (persistTombstone_does hb rfl fun _ => hev _ (by rw [hd]; rfl)).bind fun _ s₃ h₃ => ?_
      obtain ⟨-, record, ht, habort⟩ := h₃
      exact forget_does hb ht habort
  · exact Acts.pure

/-- inside, with the rest of the sweep still to be decided -/
def Sweeping (ρ : Regime) (g : Option Nat) (rest : List TxId) : Store D → Prop := fun s =>
  Working ρ g s ∧ ∀ other ∈ rest, Undecided other s

theorem inner_sweeping {rest : List TxId} (h : txId ∉ rest) : Inner I (Sweeping ρ g rest) g txId where
  env hs he := ⟨(inner_working txId).env hs.1 he, fun other ho =>
    (hs.2 other ho).quiet (he.holds hs.1.1).2⟩
  aside hs ha := ⟨(inner_working (I := I) txId).aside hs.1 ha, fun other ho =>
    (hs.2 other ho).of_pending (congrArg Participant.pending ha.participant)⟩
  holds hs := hs.1.1
  dirty hs := hs.1.2
  frame hs hf := ⟨(inner_working (I := I) txId).frame hs.1 hf, fun other ho => by
    have hne : other ≠ txId := fun heq => h (heq ▸ ho)
    unfold Undecided
    rw [hf.others other hne]
    exact hs.2 other ho⟩

theorem sweepAll_does : ∀ (rest : List TxId), rest.Nodup → ∀ {s : Store D},
    (∀ other ∈ rest, Undecided other s) → Acts I activity (Working ρ g) g (sweepAll E rest) s
  | [], _, _, _ => Acts.pure
  | txId :: rest, hnodup, s, hu => by
    obtain ⟨hnotin, hrest⟩ := List.nodup_cons.mp hnodup
    have hone : Acts I activity (Sweeping ρ g rest) g
        ((sweepOne E txId).rescue fun _ => .pure ()) s :=
      (sweepOne_does (inner_sweeping hnotin) (hu txId List.mem_cons_self)).rescue
        fun _ _ => Acts.pure
    refine (hone.strengthen (fun _ h => h.1) fun h => ?_).bind fun _ s₁ h₁ => ?_
    · exact ⟨h, fun other ho => hu other (List.mem_cons_of_mem _ ho)⟩
    · exact sweepAll_does rest hrest h₁.2.2

theorem staleTransactions_undecided {other : TxId} (h : other ∈ staleTransactions s) :
    Undecided other s := by
  have h := List.mem_dedup.mp h
  obtain ⟨row, hrow, rfl⟩ := List.mem_map.mp h
  obtain ⟨hmem, hstale⟩ := List.mem_filter.mp hrow
  simp only [Bool.and_eq_true, beq_iff_eq] at hstale
  refine ⟨row, List.mem_filter.mpr ⟨hmem, by simp⟩, ?_⟩
  rw [hstale.1]
  nofun

theorem sweepStalePendingIntents_does :
    Acts I activity (Working ρ g) g (sweepStalePendingIntents E) s := by
  refine Does.gets.bind fun stale s₁ h => ?_
  obtain ⟨rfl, rfl⟩ := h
  exact sweepAll_does _ (List.nodup_dedup _) fun other ho => staleTransactions_undecided ho

/-! ## checkpoints -/

/-- a checkpoint that is taken inside the barrier -/
theorem certify_inside : Acts I activity (Inside g) g certifyRestoreCheckpoint s := by
  refine Does.gets.bind fun due _ _ => ?_
  split
  · exact Acts.pure
  · have hbookmark : ∀ s : Store D, Does I ((terms D ρ).ok activity) (Inside g) g
        (getCurrentBookmark .checkpoint) (fun bookmark s' => bookmark = s'.bookmark) s := by
      intro s
      refine Does.gets.bind fun bookmark s₁ h => ?_
      obtain ⟨rfl, rfl⟩ := h
      refine (Does.askInside context_inside fun h => h).bind fun answer s₂ h => ?_
      split
      · exact Guarded.Stays.pure h.1.bookmark.symm
      · exact Guarded.Stays.throw
    refine (hbookmark _).bind fun bookmark s₁ h => ?_
    subst h
    refine Does.gets.bind fun at_ s₂ h => ?_
    obtain ⟨rfl, rfl⟩ := h
    exact (Does.modifyBy fun hpre => ⟨.work hpre .certify rfl, hpre⟩).bind fun _ _ _ => Acts.pure

theorem recordCheckpoint_side {bookmark : Bookmark} {at_ : Nat} (hc : ¬ρ.certified) :
    Side ρ s (recordCheckpoint bookmark at_ s) :=
  ⟨rfl, rfl, List.Subset.refl _, rfl, fun h => absurd h hc, fun h => absurd h hc,
    fun h => absurd h hc⟩

/-- a checkpoint that a preview takes without the barrier -/
theorem certify_outside (hp : activity.isPreview) :
    Acts I activity Outside none certifyRestoreCheckpoint s := by
  refine Does.gets.bind fun due _ _ => ?_
  split
  · exact Acts.pure
  · have hbookmark : ∀ s : Store D, Does I ((terms D ρ).ok activity) Outside none
        (getCurrentBookmark .checkpoint) (fun bookmark s' =>
          ρ.certified → bookmark = s'.bookmark ∧ ∀ g, ¬Holds g s'.barrier) s := by
      intro s
      refine Does.gets.bind fun bookmark s₁ _ => ?_
      refine (Does.ask context_outside).bind fun answer s₂ h => ?_
      split
      · exact Guarded.Stays.pure fun hc => h hc hp
      · exact Guarded.Stays.throw
    refine (hbookmark _).bind fun bookmark s₁ h => ?_
    refine Does.gets.bind fun at_ s₂ hs => ?_
    obtain ⟨rfl, rfl⟩ := hs
    refine (Does.modifyBy fun hpre => ⟨?_, hpre⟩).bind fun _ _ _ => Acts.pure
    by_cases hc : ρ.certified
    · obtain ⟨rfl, hfree⟩ := h hc
      exact .alone hfree .certify rfl
    · exact .side (recordCheckpoint_side hc) rfl

theorem prune_side {keep : JournalEntry → Bool} {coverage : Coverage} :
    Side ρ s { s with journal := s.journal.filter keep, coverage } :=
  ⟨rfl, rfl, List.filter_subset_self _, rfl, fun _ => rfl, fun _ => rfl, fun _ => Nat.le_refl _⟩

theorem handlePitrPreview_does (hp : activity.isPreview) {cutoff : Option Nat}
    {claim : RestoreClaim} : Acts I activity Outside none (handlePitrPreview B cutoff claim) s := by
  have hc := context_outside (I := I)
  refine (Does.pause hc).bind fun _ s₁ _ => ?_
  have hrefused : Acts I activity Outside none
      (if claim.generation.isSome then matchingRestoreFence B claim.restoreId claim.generation
        else requireRestoreGateOpen B) s₁ := by
    split
    · exact matchingRestoreFence_does hc
    · exact requireRestoreGateOpen_does hc
  refine hrefused.bind fun refused _ _ => ?_
  split
  · exact Acts.pure
  · exact Acts.pure
  · refine (Does.modify prune_side rfl fun h => h).bind fun _ _ _ => ?_
    refine (certify_outside hp).bind fun _ _ _ => Does.read.bind fun _ _ _ => ?_
    split
    · exact Guarded.Stays.throw
    · dsimp only
      split
      · exact Acts.pure
      · split
        · exact Acts.pure
        · exact (getCurrentBookmark_does hc).bind fun _ _ _ => Acts.pure

theorem restoreState_side {state : Option RestoreState} :
    Side ρ s { s with restoreState := state } :=
  ⟨rfl, rfl, List.Subset.refl _, rfl, fun _ => rfl, fun _ => rfl, fun _ => Nat.le_refl _⟩

theorem handleRestoreFence_does {claim : RestoreClaim} {action : Option String} :
    Acts I activity Outside none (handleRestoreFence B claim action) s := by
  have hc := context_outside (I := I)
  refine (Does.pause hc).bind fun _ _ _ => (matchingRestoreFence_does hc).bind fun refused _ _ => ?_
  split
  · exact Acts.pure
  · refine Does.gets.bind fun existing _ _ => ?_
    dsimp only
    split
    · exact Acts.pure
    · split
      · split
        · exact Acts.pure
        · exact (Does.modify restoreState_side rfl fun h => h).bind fun _ _ _ => Acts.pure
      · refine (getCurrentBookmark_does hc).bind fun _ _ _ => ?_
        refine (Does.modify restoreState_side rfl fun h => h).bind fun _ _ _ => ?_
        refine (getCurrentBookmark_does hc).bind fun _ _ _ => ?_
        exact Does.gets.bind fun _ _ _ => Acts.pure

/-! ## direct writes -/

theorem executeMutation_does (hb : Inner I pre g txId) {payload : ExecutePayload} {execStart : Nat} :
    Acts I activity pre g (executeMutation E H payload execStart) s := by
  refine (Does.pause hb.toContext).bind fun _ _ _ => ?_
  refine (Does.ask hb.toContext).bind fun _ s₁ hpast => ?_
  refine Does.read.bind fun s₂ _ h => ?_
  obtain ⟨rfl, rfl⟩ := h
  split
  · split <;> exact Acts.pure
  · split
    · exact Acts.pure
    · rename_i hnone
      refine (Does.mutation hb fun a s' h => ⟨.write hnone hpast h, ?_⟩).bind ?_
      · obtain ⟨t, requests, n, -, rfl⟩ := executeSync_ok h
        exact ⟨rfl, rfl, fun _ _ => rfl⟩
      · exact fun _ _ _ => (mirrorSoon_does hb.toContext).bind fun _ _ _ => Acts.pure

theorem handleExecute_does (hb : Inner I pre g txId) {payload : ExecutePayload} :
    Acts I activity pre g (handleExecute E H payload) s := by
  refine (Does.pause hb.toContext).bind fun _ s₁ _ => ?_
  split
  · exact Acts.pure
  · refine Does.gets.bind fun execStart s₂ _ => ?_
    have hrun : Acts I activity pre g (if E.isMutation payload.sql then
        executeMutation E H payload execStart else executeQuery E payload execStart) s₂ := by
      split
      · exact executeMutation_does hb
      · refine Does.read.bind fun _ _ _ => ?_
        split
        · exact Guarded.Stays.throw
        · exact Acts.pure
    exact hrun.rescue fun _ _ => Acts.pure

/-! ## small endpoints and mirrors -/

/-- the endpoints that check one field and set one column -/
theorem mutateAside_does (hb : Inner I pre g txId) {f : Store D → Store D} {response : Response}
    (h : ∀ s, Aside s (f s)) :
    Acts I activity pre g (do
      mutate f
      return response) s :=
  (Does.mutateAside hb (h _)).bind fun _ _ _ => Acts.pure

theorem handleInvalidateRequest_does (hb : Inner I pre g txId) {requestId : Option String} :
    Acts I activity pre g (handleInvalidateRequest requestId) s := by
  refine (Does.pause hb.toContext).bind fun _ _ _ => ?_
  split
  · exact Acts.pure
  · exact Acts.pure
  · exact mutateAside_does hb fun _ => ⟨rfl, rfl, rfl, rfl, rfl, rfl, rfl, rfl, rfl⟩

theorem handleFenceVbucket_does (hb : Inner I pre g txId) {vbucket : Option Nat} :
    Acts I activity pre g (handleFenceVbucket vbucket) s := by
  refine (Does.pause hb.toContext).bind fun _ _ _ => ?_
  split
  · exact Acts.pure
  · exact mutateAside_does hb fun _ => ⟨rfl, rfl, rfl, rfl, rfl, rfl, rfl, rfl, rfl⟩

theorem handleUnfenceVbucket_does (hb : Inner I pre g txId) {vbucket : Option Nat} :
    Acts I activity pre g (handleUnfenceVbucket vbucket) s := by
  refine (Does.pause hb.toContext).bind fun _ _ _ => ?_
  split
  · exact Acts.pure
  · exact mutateAside_does hb fun _ => ⟨rfl, rfl, rfl, rfl, rfl, rfl, rfl, rfl, rfl⟩

theorem handleFenceIndexRing_does (hb : Inner I pre g txId) {indexName : Option String} :
    Acts I activity pre g (handleFenceIndexRing indexName) s := by
  refine (Does.pause hb.toContext).bind fun _ _ _ => ?_
  split
  · exact Acts.pure
  · exact Acts.pure
  · exact mutateAside_does hb fun _ => ⟨rfl, rfl, rfl, rfl, rfl, rfl, rfl, rfl, rfl⟩

theorem handleUnfenceIndexRing_does (hb : Inner I pre g txId) {indexName : Option String} :
    Acts I activity pre g (handleUnfenceIndexRing indexName) s := by
  refine (Does.pause hb.toContext).bind fun _ _ _ => ?_
  split
  · exact Acts.pure
  · exact Acts.pure
  · exact mutateAside_does hb fun _ => ⟨rfl, rfl, rfl, rfl, rfl, rfl, rfl, rfl, rfl⟩

theorem barrier_side {barrier : Barrier} : Side ρ s { s with barrier } :=
  ⟨rfl, rfl, List.Subset.refl _, rfl, fun _ => rfl, fun _ => rfl, fun _ => Nat.le_refl _⟩

theorem acquire_does {α : Type} {ok : ∀ q : Ask, q.Answer → Store D → Prop}
    {post : α → Option Nat → Store D → Prop} {epost : ShardError → Option Nat → Store D → Prop}
    {k : Nat → Sh D α} (hs : (guarded I).proto.inv s)
    (hk : ∀ n s', Holds (some n) s'.barrier → (guarded I).proto.inv s' →
      Keeps (guarded I).proto ok post epost (k n) (some n) s') :
    Keeps (guarded I).proto ok post epost (acquireMutationBarrier k) none s := by
  have hside : Side ρ s { s with barrier := s.barrier.take } := barrier_side
  exact Guarded.acquire_keeps (W := guarded I) hs hside rfl hk

theorem release_move {n : Nat} (hh : Holds (some n) s.barrier) :
    (guarded I).Move (some n) s (releaseMutationBarrier n s) none := .release hh barrier_side rfl

/-- what joins the barrier, works inside and leaves it -/
theorem insideBarrier_does {α : Type} {p : Sh D α}
    (hp : ∀ n s, Acts I activity (Inside (some n)) (some n) p s) :
    Acts I activity Outside none (insideBarrier p) s := by
  intro _ hs
  refine acquire_does hs fun n s' hh hs' => ?_
  have hp' : Keeps (guarded I).proto ((terms D ρ).ok activity)
      (fun _ g' s => g' = some n ∧ Inside (some n) s) (fun _ g' s => g' = none ∧ Outside s)
      p.attempt (some n) s' :=
    Keeps.attempt (fun _ _ _ h => ⟨h.1, h.2.1⟩) (fun _ _ _ h => h) (hp n s' hh hs')
  refine Keeps.bind ?_ hp'
  rintro r _ s'' ⟨rfl, hin⟩
  refine ⟨none, release_move hin, ?_⟩
  cases r with
  | ok a => exact ⟨rfl, trivial, trivial⟩
  | error e => exact ⟨rfl, trivial⟩

theorem markDirty_does {α : Type} {p : Sh D α} {β : Type} {f : α → Sh D β}
    (hp : ∀ s, Acts I activity (Working ρ g) g p s)
    (hf : ∀ a s, Acts I activity (Inside g) g (f a) s) :
    Acts I activity (Inside g) g (do
      markRestoreCheckpointDirty
      let a ← p
      f a) s := by
  refine Guarded.Stays.step (fun hpre _ => ⟨.work hpre .dirty rfl, hpre⟩) ?_
  have hsub : ∀ s : Store D, Working ρ g s → Inside g s := fun _ h => h.1
  have hp' := (hp { s with checkpointMeta := { s.checkpointMeta with dirty := true } }).strengthen
    hsub fun h => ⟨h, fun _ => rfl⟩
  exact hp'.bind fun a s' _ => hf a s'

theorem mutateAlarmQueue_does {work : Store D → Store D} (h : ∀ s, Aside s (work s)) :
    Acts I activity Outside none (mutateAlarmQueue B work) s := by
  refine insideBarrier_does fun n s => ?_
  refine (requireRestoreGateOpen_does context_inside).bind fun _ _ _ => ?_
  refine Does.gets.bind fun _ _ _ => ?_
  split
  · exact Acts.pure
  · exact markDirty_does
      (fun s => (Does.mutateAside (inner_working "") (h s)))
      fun _ _ => certify_inside.bind fun _ _ _ => Acts.pure

theorem dropJob_aside {job : MirrorJob} (s : Store D) : Aside s (dropJob job s) :=
  ⟨rfl, rfl, rfl, rfl, rfl, rfl, rfl, rfl, rfl⟩

theorem postponeJob_aside {job : MirrorJob} (s : Store D) : Aside s (postponeJob job s) :=
  ⟨rfl, rfl, rfl, rfl, rfl, rfl, rfl, rfl, rfl⟩

theorem deliverMirrorJob_does (hc : Context I pre g) {job : MirrorJob} {fromAlarm : Bool}
    (hcommit : ∀ {work : Store D → Store D} {s}, (∀ s, Aside s (work s)) →
      Acts I activity pre g (commitQueueMutation B fromAlarm work) s) :
    Acts I activity pre g (deliverMirrorJob B job fromAlarm) s := by
  refine (Does.ask hc).bind fun answer _ _ => ?_
  split
  · exact hcommit dropJob_aside
  · exact (hcommit postponeJob_aside).bind fun _ _ _ => Acts.pure

theorem alarmDeliveryBlocked_does (hc : Context I pre g) :
    Acts I activity pre g (alarmDeliveryBlocked B) s :=
  (requireRestoreGateOpen_does hc).bind fun _ _ _ => Does.gets.bind fun _ _ _ => Acts.pure

theorem deliverDue_does : ∀ (jobs : List MirrorJob) {s : Store D},
    Acts I activity Outside none (deliverDue B jobs) s
  | [], _ => Acts.pure
  | job :: jobs, s => by
    have hc := context_outside (I := I)
    refine (alarmDeliveryBlocked_does hc).bind fun blocked _ _ => ?_
    split
    · exact Acts.pure
    · refine (deliverMirrorJob_does hc fun h => mutateAlarmQueue_does h).bind fun delivered s₁ _ => ?_
      have hblocked : Acts I activity Outside none
          (if delivered then .pure false else alarmDeliveryBlocked B) s₁ := by
        split
        · exact Acts.pure
        · exact alarmDeliveryBlocked_does hc
      refine hblocked.bind fun blocked _ _ => ?_
      split
      · exact Acts.pure
      · exact deliverDue_does jobs

theorem deliverAll_does (hb : Inner I pre g txId) : ∀ (jobs : List MirrorJob) {s : Store D},
    Acts I activity pre g (deliverAll B jobs) s
  | [], _ => Acts.pure
  | job :: jobs, s => by
    refine (deliverMirrorJob_does hb.toContext fun h => ?_).bind fun _ _ _ => deliverAll_does hb jobs
    exact (Does.mutateAside hb (h _)).bind fun _ _ _ => Acts.pure

theorem handleDrainMirrorJobs_does (hb : Inner I pre g txId) {vbucket : Option Nat} :
    Acts I activity pre g (handleDrainMirrorJobs B vbucket) s := by
  refine (Does.pause hb.toContext).bind fun _ _ _ => ?_
  split
  · exact Acts.pure
  · refine Does.gets.bind fun _ _ _ => (deliverAll_does hb _).bind fun _ _ _ => ?_
    exact Does.gets.bind fun _ _ _ => Acts.pure

/-! ## entry points -/

theorem route_does (hb : ∀ txId, Inner I pre g txId) {request : Request} (hm : request.mutating)
    (he : ∀ txId d, request.decides = some (txId, d) → ρ.evidence txId d) :
    Acts I activity pre g (route E H B request) s := by
  cases request with
  | execute payload => exact handleExecute_does (hb "")
  | prepare raw intents claim => exact handlePrepare_does hb
  | commit raw => exact handleCommit_does hb (he _ _ rfl)
  | abort raw legacyPredecisionAbort => exact handleAbort_does hb (he _ _ rfl)
  | recover raw decision claim =>
    refine handleRecover_does hb fun d hd => he _ _ ?_
    subst hd
    rfl
  | invalidateRequest requestId => exact handleInvalidateRequest_does (hb "")
  | fenceVbucket vbucket => exact handleFenceVbucket_does (hb "")
  | unfenceVbucket vbucket => exact handleUnfenceVbucket_does (hb "")
  | fenceIndexRing indexName => exact handleFenceIndexRing_does (hb "")
  | unfenceIndexRing indexName => exact handleUnfenceIndexRing_does (hb "")
  | drainMirrorJobs vbucket => exact handleDrainMirrorJobs_does (hb "")
  | txStatus => cases hm
  | restoreFence => cases hm
  | pitrPreview => cases hm

theorem mutationGate_does (hc : Context I pre g) {request : Request} :
    Acts I activity pre g (mutationGate B request) s := by
  unfold mutationGate
  dsimp only
  split
  · refine (Does.pause hc).bind fun _ _ _ => ?_
    split
    · exact matchingRestoreFence_does hc
    · exact requireRestoreGateOpen_does hc
  · split
    · exact matchingRestoreFence_does hc
    · exact requireRestoreGateOpen_does hc

theorem handleMutation_does {request : Request} (hm : request.mutating)
    (he : ∀ txId d, request.decides = some (txId, d) → ρ.evidence txId d) :
    Acts I activity (Inside g) g (handleMutation E H B request) s := by
  refine (mutationGate_does context_inside).bind fun refused _ _ => ?_
  split
  · exact Acts.pure
  · refine Does.gets.bind fun state _ _ => ?_
    split
    · exact Acts.pure
    · refine markDirty_does (fun s => ((route_does inner_working hm he).attempt).done) ?_
      intro result s
      refine certify_inside.bind fun _ _ _ => ?_
      cases result with
      | ok response => exact Acts.pure
      | error e => exact Guarded.Stays.throw

/-- a handler that gives the barrier back before it has done anything -/
theorem unawaited_does {p : Sh D Response} {rest : Sh D Response} (hp : p = .wait (fun _ => true) rest)
    (hrest : ∀ s, Acts I activity Outside none p s) :
    Acts I activity Outside none (acquireMutationBarrier fun ticket =>
      p.unawaited (releaseMutationBarrier ticket)) s := by
  intro _ hs
  refine acquire_does hs fun n s' hh hs' => ?_
  have hun : p.unawaited (releaseMutationBarrier n) = .step (releaseMutationBarrier n) fun _ => p := by
    rw [hp]
    rfl
  rw [hun]
  exact ⟨none, release_move hh, hrest _ trivial ((release_move hh).inv hs')⟩

theorem handle_does {request : Request} (hactivity : activity = .request request)
    (he : ∀ txId d, request.decides = some (txId, d) → ρ.evidence txId d) :
    Acts I activity Outside none (handle E H B request) s := by
  unfold handle
  split
  · rename_i hm
    exact insideBarrier_does fun n s => handleMutation_does hm he
  · split
    · rename_i hm hbarrier
      cases request with
      | restoreFence claim action => exact unawaited_does rfl fun _ => handleRestoreFence_does
      | pitrPreview cutoff claim =>
        exact unawaited_does rfl fun _ => handlePitrPreview_does (by rw [hactivity]; rfl)
      | txStatus => cases hbarrier
      | _ => exact absurd rfl hm
    · rename_i hm hbarrier
      cases request with
      | txStatus raw asksBookmark => exact handleTxStatus_does context_outside
      | restoreFence => exact absurd rfl hbarrier
      | pitrPreview => exact absurd rfl hbarrier
      | _ => exact absurd rfl hm

theorem pruneAppliedRequests_aside (s : Store D) : Aside s (pruneAppliedRequests s) :=
  ⟨rfl, rfl, rfl, rfl, rfl, rfl, rfl, rfl, rfl⟩

theorem maintain_does : Acts I activity (Working ρ g) g (maintain E) s := by
  have hb : Inner I (Working ρ g) g "" := inner_working ""
  refine (Does.mutateAside hb (pruneAppliedRequests_aside s)).bind fun _ _ _ => ?_
  refine (Does.mutate hb .prune ⟨rfl, rfl, fun _ _ => rfl⟩).bind fun _ _ _ => ?_
  exact (Does.modify prune_side rfl fun h => h).bind fun _ _ _ => sweepStalePendingIntents_does

theorem alarmMaintenance_does : Acts I activity (Inside g) g (alarmMaintenance E B) s := by
  refine (requireRestoreGateOpen_does context_inside).bind fun refused _ _ => ?_
  split
  · exact Does.gets.bind fun _ _ _ => (setAlarm_does context_inside).bind fun _ _ _ => Acts.pure
  · refine Does.gets.bind fun state _ _ => ?_
    split
    · exact Does.gets.bind fun _ _ _ => (setAlarm_does context_inside).bind fun _ _ _ => Acts.pure
    · exact markDirty_does (fun _ => maintain_does) fun _ _ =>
        certify_inside.bind fun _ _ _ => Acts.pure

theorem alarm_does : Acts I activity Outside none (alarm E B) s := by
  have hc := context_outside (I := I)
  refine (Does.aside hc ⟨rfl, rfl, rfl, rfl, rfl, rfl, rfl, rfl, rfl⟩).bind fun _ _ _ => ?_
  refine (insideBarrier_does fun n s => alarmMaintenance_does).bind fun fenced _ _ => ?_
  split
  · exact Acts.pure
  · have hmirrors : ∀ s, Acts I activity Outside none (processMirrorPendingJobs B) s := by
      intro s
      refine Does.gets.bind fun due _ _ => (deliverDue_does due).bind fun blocked _ _ => ?_
      refine Does.read.bind fun _ _ _ => ?_
      split <;> exact Acts.pure
    refine (hmirrors _).bind fun _ _ _ => Does.gets.bind fun _ _ _ => ?_
    exact setAlarmNoLater_does hc

theorem fetch_does {request : Request} (hactivity : activity = .request request)
    (he : ∀ txId d, request.decides = some (txId, d) → ρ.evidence txId d) :
    Acts I activity Outside none (fetch E H B request) s :=
  (handle_does hactivity he).rescue fun _ _ => Acts.pure

/-- **a shard makes moves only**, whatever comes in on the terms of the regime -/
theorem system_governs (hrestart : ∀ s, I.holds s → I.holds s.restart) :
    Governs (guarded I).proto (system E H B) (terms D ρ) (guarded I).Share none fun _ => True := by
  refine Guarded.governs ?_ ?_ ?_
  · intro activity s haccept hs
    have hdone : ∀ {α : Type} {p : Sh D α}, Acts I activity Outside none p s →
        Keeps (guarded I).proto ((terms D ρ).ok activity) (fun _ _ _ => True)
          (fun _ _ _ => True) p none s := fun h =>
      Keeps.mono (fun _ _ _ _ => trivial) (fun _ _ _ _ => trivial) (h trivial hs)
    cases activity with
    | request request =>
      exact hdone ((fetch_does rfl haccept).bind fun _ _ _ => Acts.pure)
    | alarm => exact hdone (alarm_does.bind fun _ _ _ => Acts.pure)
  · intro now s hnow
    exact ⟨⟨rfl, rfl, List.Subset.refl _, rfl, fun _ => rfl, fun _ => rfl, hnow⟩, rfl⟩
  · exact fun s hs => ⟨hrestart s hs, rfl⟩

end Shard
