import CloudflareShard.Shard.Moves

/-!
# Pieces of shard handlers

* `Context`, `Inner`   what a piece may rely on: at any time, and on behalf of a transaction inside;
* `Does`              a piece keeps to it, with one rule for each primitive;
* `tombstone_does` .. `applyCommittedIntents_does`   the steps that the participant handlers share.
-/

namespace Shard
open Async Contracts Barrier

variable {D : Type} {E : Engine D} {H : Digests} {B : Bindings} {ρ : Regime}

/-! ## contexts -/

/-- what others do, and what does not matter to a transaction, leaves `pre` true -/
structure Context (I : Invariant E ρ) (pre : Store D → Prop) (g : Option Nat) : Prop where
  env : ∀ {s s'}, pre s → (guarded I).Env g s s' → pre s'
  aside : ∀ {s s'}, pre s → Aside s s' → pre s'

/-- at most the rows of `txId` differ -/
structure Frame (txId : TxId) (s s' : Store D) : Prop where
  barrier : s'.barrier = s.barrier
  checkpointMeta : s'.checkpointMeta = s.checkpointMeta
  others : ∀ other, other ≠ txId → s'.intentsOf other = s.intentsOf other

/-- a piece that works inside the barrier on behalf of `txId`, between the two ends of the
checkpoint bracket -/
structure Inner (I : Invariant E ρ) (pre : Store D → Prop) (g : Option Nat) (txId : TxId) : Prop
    extends Context I pre g where
  holds : ∀ {s}, pre s → Holds g s.barrier
  dirty : ∀ {s}, pre s → ρ.certified → s.checkpointMeta.dirty = true
  frame : ∀ {s s'}, pre s → Frame txId s s' → pre s'

def Outside : Store D → Prop := fun _ => True

def Inside (g : Option Nat) : Store D → Prop := fun s => Holds g s.barrier

/-- inside, with the checkpoint marked as stale -/
def Working (ρ : Regime) (g : Option Nat) : Store D → Prop := fun s =>
  Holds g s.barrier ∧ (ρ.certified → s.checkpointMeta.dirty = true)

section
variable {I : Invariant E ρ} {g : Option Nat} {txId : TxId} {s s' : Store D}

theorem Aside.frame (h : Aside s s') : Frame txId s s' := by
  refine ⟨h.barrier, h.checkpointMeta, fun other _ => ?_⟩
  have hp : s'.pending = s.pending := congrArg Participant.pending h.participant
  unfold Store.intentsOf
  rw [hp]

theorem context_outside : Context I Outside none := ⟨fun _ _ => trivial, fun _ _ => trivial⟩

theorem context_inside : Context I (Inside g) g where
  env h he := (he.holds h).1
  aside h ha := show Holds g _ from ha.barrier ▸ h

theorem inner_working (txId : TxId) : Inner I (Working ρ g) g txId where
  env h he := by
    obtain ⟨hh, hq⟩ := he.holds h.1
    refine ⟨hh, fun hc => ?_⟩
    rw [hq.checkpointMeta hc]
    exact h.2 hc
  aside h ha := ⟨ha.barrier ▸ h.1, fun hc => ha.checkpointMeta ▸ h.2 hc⟩
  holds h := h.1
  dirty h := h.2
  frame h hf := ⟨hf.barrier ▸ h.1, fun hc => hf.checkpointMeta ▸ h.2 hc⟩

end

/-! ## rules -/

/-- a piece of a shard handler -/
abbrev Does {α : Type} (I : Invariant E ρ) (ok : ∀ q : Ask, q.Answer → Store D → Prop)
    (pre : Store D → Prop) (g : Option Nat) (p : Sh D α) (post : α → Store D → Prop)
    (s : Store D) : Prop :=
  (guarded I).Stays ok pre g p post s

abbrev Any {α : Type} : α → Store D → Prop := fun _ _ => True

section
variable {I : Invariant E ρ} {ok : ∀ q : Ask, q.Answer → Store D → Prop} {pre : Store D → Prop}
  {g : Option Nat} {txId : TxId} {s s' : Store D} {α β : Type} {p : Sh D α}
  {post : α → Store D → Prop}

theorem side_refl (s : Store D) : Side ρ s s :=
  ⟨rfl, rfl, List.Subset.refl _, rfl, fun _ => rfl, fun _ => rfl, fun _ => Nat.le_refl _⟩

theorem Does.gets {f : Store D → α} :
    Does I ok pre g (gets f) (fun a s' => s' = s ∧ a = f s) s :=
  Guarded.Stays.step (fun h _ => ⟨.side (side_refl s) rfl, h⟩)
    (Guarded.Stays.pure ⟨rfl, rfl⟩)

theorem Does.read : Does I ok pre g .read (fun a s' => s' = s ∧ a = s) s :=
  Guarded.Stays.step (fun h _ => ⟨.side (side_refl s) rfl, h⟩)
    (Guarded.Stays.pure ⟨rfl, rfl⟩)

theorem Does.liftContract {x : Except TransactionProtocolError α} :
    Does I ok pre g (liftContract x) (fun a s' => s' = s ∧ x = .ok a) s := by
  cases x with
  | ok a => exact Guarded.Stays.pure ⟨rfl, rfl⟩
  | error e => exact Guarded.Stays.throw

theorem Does.contractViolation {code : TransactionErrorCode} {message : String} :
    Does I ok pre g (contractViolation code message : Sh D α) post s := Guarded.Stays.throw

theorem Does.pause (hc : Context I pre g) : Does I ok pre g .pause Any s :=
  Guarded.Stays.wait hc.env fun _ _ _ => Guarded.Stays.pure trivial

theorem Does.ask (hc : Context I pre g) {q : Ask} :
    Does I ok pre g (.call q .pure) (fun a s' => ok q a s') s :=
  Guarded.Stays.call hc.env fun _ _ _ _ ha => Guarded.Stays.pure ha

/-- what others do while the one inside waits for an answer -/
theorem Does.askInside (hc : Context I pre g) (hh : ∀ {s}, pre s → Holds g s.barrier) {q : Ask} :
    Does I ok pre g (.call q .pure) (fun a s' => Quiet ρ s s' ∧ ok q a s') s :=
  Guarded.Stays.call hc.env fun _ _ hpre he ha =>
    Guarded.Stays.pure ⟨(he.holds (hh hpre)).2, ha⟩

theorem Does.modifyBy {upd : Store D → Store D}
    (h : pre s → (guarded I).Move g s (upd s) g ∧ pre (upd s)) :
    Does I ok pre g (.modify upd) (fun _ s' => s' = upd s) s :=
  Guarded.Stays.step (fun hpre _ => h hpre) (Guarded.Stays.pure rfl)

theorem Does.modify {upd : Store D → Store D} (h : Side ρ s (upd s))
    (hb : (upd s).barrier = s.barrier) (hpre : pre s → pre (upd s)) :
    Does I ok pre g (.modify upd) (fun _ s' => s' = upd s) s :=
  Does.modifyBy fun h' => ⟨.side h hb, hpre h'⟩

theorem Does.aside (hc : Context I pre g) {upd : Store D → Store D} (h : Aside s (upd s)) :
    Does I ok pre g (.modify upd) (fun _ s' => s' = upd s) s :=
  Does.modify h.side h.barrier fun h' => hc.aside h' h

/-- a write inside the barrier, on behalf of `txId` -/
theorem Does.mutation (hb : Inner I pre g txId) {f : Store D → Except ShardError (α × Store D)}
    (h : ∀ a s', f s = .ok (a, s') → Change E ρ s s' ∧ Frame txId s s') :
    Does I ok pre g (mutation f)
      (fun a s' => ∃ s₁, f s = .ok (a, s₁) ∧ s' = { s₁ with mutations := s₁.mutations + 1 }) s := by
  unfold Shard.mutation Prog.transact
  cases hf : f s with
  | error e =>
    refine Guarded.Stays.step (fun h' _ => ?_) ?_
    · simp only [hf, Except.map]
      exact ⟨.side (side_refl s) rfl, h'⟩
    · simp only [hf, Except.map]
      exact Guarded.Stays.throw
  | ok r =>
    obtain ⟨hchange, hframe⟩ := h r.1 r.2 hf
    refine Guarded.Stays.step (fun h' _ => ?_) ?_
    · simp only [hf, Except.map]
      refine ⟨.work (hb.holds h') (.mutation (hb.dirty h') hchange) hchange.barrier, ?_⟩
      exact hb.frame h' ⟨hframe.barrier, hframe.checkpointMeta, hframe.others⟩
    · simp only [hf, Except.map]
      exact Guarded.Stays.pure ⟨r.2, rfl, rfl⟩

theorem Does.mutate (hb : Inner I pre g txId) {f : Store D → Store D} (h : Change E ρ s (f s))
    (hf : Frame txId s (f s)) :
    Does I ok pre g (mutate f) (fun _ s' => s' = { f s with mutations := (f s).mutations + 1 }) s := by
  refine (Does.mutation hb fun a s' heq => ?_).mono ?_
  · cases heq
    exact ⟨h, hf⟩
  · rintro a s' ⟨s₁, heq, rfl⟩
    cases heq
    rfl

/-- a write of what no transaction depends on -/
theorem Does.mutateAside (hb : Inner I pre g txId) {f : Store D → Store D} (h : Aside s (f s)) :
    Does I ok pre g (Shard.mutate f) Any s := (Does.mutate hb (.other h) h.frame).done

/-! ## reading rows -/

theorem tombstone_does :
    Does I ok pre g (tombstone txId) (fun r s' => s' = s ∧ r = s.tombstoneOf txId) s := by
  refine Does.gets.bind fun r s' h => ?_
  obtain ⟨rfl, rfl⟩ := h
  split
  · rename_i hnone
    exact Guarded.Stays.pure ⟨rfl, hnone.symm⟩
  · rename_i candidate hsome
    refine Does.liftContract.bind fun _ s'' h => ?_
    obtain ⟨rfl, -⟩ := h
    exact Guarded.Stays.pure ⟨rfl, hsome.symm⟩

theorem storedIntentIdentity_does : Does I ok pre g (storedIntentIdentity txId)
    (fun r s' => s' = s ∧ r = s.intentsOf txId) s := Does.gets

theorem pendingMetadata_does : Does I ok pre g (pendingMetadata txId)
    (fun r s' => s' = s ∧ r = (s.intentsOf txId).head?) s := Does.gets

theorem legacyOperationHash_does (hc : Context I pre g) {phase : ParticipantPhase}
    {intents : List BeginIntent} {durable : Option ParticipantTombstone}
    {pending : Option PendingIntent} :
    Does I ok pre g (legacyOperationHash H txId phase intents durable pending) Any s := by
  unfold legacyOperationHash
  split
  · refine (Does.pause hc).bind fun _ _ _ => ?_
    split <;> exact Guarded.Stays.pure trivial
  · split
    · exact Guarded.Stays.pure trivial
    · exact Guarded.Stays.pure trivial
    · exact (Does.pause hc).bind fun _ _ _ => Guarded.Stays.pure trivial

theorem participantPayload_does (hc : Context I pre g) {raw : RawMessage}
    {phase : ParticipantPhase} {intents : List BeginIntent} :
    Does I ok pre g (participantPayload H raw phase intents)
      (fun message _ => message.txId = raw.txId ∧ message.phase = phase) s := by
  cases raw with
  | versioned message =>
    refine Does.liftContract.bind fun _ _ _ => ?_
    split
    · exact Guarded.Stays.throw
    · rename_i hphase
      exact Guarded.Stays.pure ⟨rfl, not_not.mp hphase⟩
  | legacy legacyTxId =>
    show Does I ok pre g (if legacyTxId.getD "" = "" then _ else _) _ s
    split
    · exact Guarded.Stays.throw
    · refine tombstone_does.bind fun durable _ _ => ?_
      refine pendingMetadata_does.bind fun pending _ _ => ?_
      refine (legacyOperationHash_does hc).bind fun _ _ _ => ?_
      exact Guarded.Stays.pure ⟨rfl, rfl⟩

/-- a message that is in time: no tombstone speaks against its phase -/
def InTime (message : ParticipantPayload) (s : Store D) : Prop :=
  ∀ record, s.tombstoneOf message.txId = some record → message.phase ≠ .prepare ∧
    (message.phase = .commit → record.decision = .commit) ∧
    (message.phase = .abort → record.decision = .abort)

theorem InTime.no_tombstone {message : ParticipantPayload} (h : InTime message s)
    (hp : message.phase = .prepare) : s.tombstoneOf message.txId = none := by
  cases ht : s.tombstoneOf message.txId with
  | none => rfl
  | some record => exact absurd hp (h record ht).1

theorem assertMessageCompatible_does {message : ParticipantPayload} :
    Does I ok pre g (assertMessageCompatible message) (fun _ s' => s' = s ∧ InTime message s) s := by
  refine tombstone_does.bind fun durable _ h => ?_
  obtain ⟨rfl, rfl⟩ := h
  split
  · rename_i record hrecord
    refine Does.liftContract.bind fun _ _ h => ?_
    obtain ⟨rfl, -⟩ := h
    split
    · exact Does.contractViolation
    · rename_i hphase
      push Not at hphase
      refine Guarded.Stays.pure ⟨rfl, fun record' h => ?_⟩
      cases hrecord.symm.trans h
      exact ⟨hphase.1, hphase.2.1, hphase.2.2⟩
  · rename_i hnone
    have hin : InTime message _ := fun record h => nomatch hnone.symm.trans h
    refine pendingMetadata_does.bind fun pending _ h => ?_
    obtain ⟨rfl, rfl⟩ := h
    split
    · exact Guarded.Stays.pure ⟨rfl, hin⟩
    · refine storedIntentIdentity_does.bind fun stored _ h => ?_
      obtain ⟨rfl, rfl⟩ := h
      split
      · exact Does.contractViolation
      · split
        · exact Does.contractViolation
        · dsimp only
          split
          · exact Does.contractViolation
          · exact Guarded.Stays.pure ⟨rfl, hin⟩

/-! ## durable steps -/

theorem tombstoneOf_snoc (record : ParticipantTombstone)
    (h : s.tombstoneOf record.txId = none) :
    ({ s with tombstones := s.tombstones ++ [record] }).tombstoneOf record.txId = some record := by
  have hnone : s.tombstones.find? (·.txId == record.txId) = none := h
  unfold Store.tombstoneOf
  rw [List.find?_append, hnone]
  simp

theorem persistTombstone_does (hb : Inner I pre g txId) {message : ParticipantMessage}
    {decision : ParticipantDecision} (hid : message.txId = txId)
    (he : s.tombstoneOf txId = none → ρ.evidence txId decision) :
    Does I ok pre g (persistTombstone message decision) (fun _ s' =>
      s'.pending = s.pending ∧
        ∃ record, s'.tombstoneOf txId = some record ∧ record.decision = decision) s := by
  subst hid
  refine tombstone_does.bind fun durable _ h => ?_
  obtain ⟨rfl, rfl⟩ := h
  split
  · rename_i existing hexisting
    refine Does.liftContract.bind fun _ _ h => ?_
    obtain ⟨rfl, -⟩ := h
    split
    · exact Does.contractViolation
    · rename_i hdecision
      exact Guarded.Stays.pure ⟨rfl, existing, hexisting, not_not.mp hdecision⟩
  · rename_i hnone
    refine Does.gets.bind fun decidedAt _ h => ?_
    obtain ⟨rfl, rfl⟩ := h
    refine Does.liftContract.bind fun _ s₁ h => ?_
    obtain ⟨rfl, -⟩ := h
    have hnone' : s₁.tombstoneOf (newTombstone message decision s₁.now).txId = none := hnone
    refine (Does.mutate hb (.decide _ hnone' (he hnone)) ⟨rfl, rfl, fun _ _ => rfl⟩).bind ?_
    intro _ s' h
    rw [h]
    exact Guarded.Stays.pure ⟨rfl, _, tombstoneOf_snoc _ hnone', rfl⟩

theorem intentsOf_filter {other : TxId} (hne : other ≠ txId) (rows : List PendingIntent) :
    (rows.filter (·.coordinatorTxId != txId)).filter (·.coordinatorTxId == other) =
      rows.filter (·.coordinatorTxId == other) := by
  rw [List.filter_filter]
  refine List.filter_congr fun row _ => ?_
  by_cases h : row.coordinatorTxId = other
  · simp [h, hne]
  · simp [h]

theorem intentsOf_map {other : TxId} {f : PendingIntent → PendingIntent}
    (hid : ∀ row, (f row).coordinatorTxId = row.coordinatorTxId)
    (hsame : ∀ row, row.coordinatorTxId = other → f row = row) (rows : List PendingIntent) :
    (rows.map f).filter (·.coordinatorTxId == other) =
      rows.filter (·.coordinatorTxId == other) := by
  induction rows with
  | nil => rfl
  | cons row rows ih =>
    rw [List.map_cons, List.filter_cons, List.filter_cons, hid, ih]
    split
    · rename_i h
      rw [hsame row (by simpa using h)]
    · rfl

theorem forget_frame : Frame txId s (s.forget txId) :=
  ⟨rfl, rfl, fun _ hne => intentsOf_filter hne s.pending⟩

theorem markCommitted_frame {t : Tables D} {locks : List RowLock} {applied : List TxId} :
    Frame txId s { s.withTables t with
      pending := s.pending.map (markCommitted txId), locks, applied } := by
  refine ⟨rfl, rfl, fun other hne => intentsOf_map (fun row => ?_) (fun row h => ?_) s.pending⟩
  · unfold markCommitted
    split <;> rfl
  · unfold markCommitted
    rw [if_neg (h ▸ hne)]

theorem adopt_frame {message : ParticipantMessage} (hid : message.txId = txId) :
    Frame txId s { s with pending := s.pending.map (PendingIntent.adopt message) } := by
  refine ⟨rfl, rfl, fun other hne => intentsOf_map (fun row => ?_) (fun row h => ?_) s.pending⟩
  · unfold PendingIntent.adopt
    split <;> rfl
  · unfold PendingIntent.adopt
    have hrow : (row.coordinatorTxId == message.txId) = false := by
      rw [h, hid]
      simpa using hne
    rw [hrow]
    rfl

theorem recordPrepared_frame {message : ParticipantMessage} {intents : List BeginIntent}
    (hid : message.txId = txId) : Frame txId s (recordPrepared message intents s) := by
  refine ⟨rfl, rfl, fun other hne => ?_⟩
  show List.filter _ (s.pending ++ _) = _
  rw [List.filter_append]
  refine (congrArg _ (List.filter_eq_nil_iff.mpr fun row hrow => ?_)).trans (List.append_nil _)
  have hown := ((preparedRow_vote message s.now intents).own row hrow).1
  rw [hown, hid]
  simpa using fun h : txId = other => hne h.symm

theorem applyCommittedIntents_does (hb : Inner I pre g txId) {intents : List PendingIntent}
    {record : ParticipantTombstone} (ht : s.tombstoneOf txId = some record)
    (hd : record.decision = .commit) (hi : intents = s.intentsOf txId)
    (hr : ∃ row ∈ s.intentsOf txId, row.status ≠ .committed) :
    Does I ok pre g (applyCommittedIntents E txId intents) Any s := by
  subst hi
  refine (Does.mutation hb fun a s' h => ⟨.apply ht hd hr h, ?_⟩).done
  obtain ⟨t, -, rfl⟩ := applySync_ok h
  exact markCommitted_frame

theorem forget_does (hb : Inner I pre g txId) {record : ParticipantTombstone}
    (ht : s.tombstoneOf txId = some record) (hd : record.decision = .abort) :
    Does I ok pre g (mutate (Store.forget txId)) Any s :=
  (Does.mutate hb (.forget ht hd) forget_frame).done

end

end Shard
