import Mathlib.Logic.Relation
import CloudflareShard.Shard.Handlers

/-!
# What one section of a shard can do

Inside the barrier a section makes one of the changes listed here; outside of it, it touches neither
transactions nor base tables.

* `Regime`           what a run relies on: decisions with evidence, checkpoints taken by the rules;
* `Participant`      the rows a shard keeps of transactions, `Participant.Step` their changes;
* `Change`, `Work`   one section inside the barrier;
* `Side`, `Quiet`    one section at any time, and what the handler inside sees of others;
* `guarded`          the shard as a store with a barrier, `Terms` what comes in from outside;
* `Change.steps`     **every change of a shard is made of steps of a participant**.
-/

namespace Shard
open Async Contracts Barrier

/-- which decisions a message may bring, and whether checkpoints are certified by the rules -/
structure Regime where
  evidence : TxId → ParticipantDecision → Prop
  certified : Prop

variable {D : Type}

/-! ## the participant -/

structure Participant where
  pending : List PendingIntent
  locks : List RowLock
  tombstones : List ParticipantTombstone
  applied : List TxId
  pruned : List TxId

def Store.participant (s : Store D) : Participant :=
  { pending := s.pending, locks := s.locks, tombstones := s.tombstones, applied := s.applied
    pruned := s.pruned }

namespace Participant

def intentsOf (p : Participant) (txId : TxId) : List PendingIntent :=
  p.pending.filter (·.coordinatorTxId == txId)

def tombstoneOf (p : Participant) (txId : TxId) : Option ParticipantTombstone :=
  p.tombstones.find? (·.txId == txId)

def lockOf (p : Participant) (lockKey : RowKey) : Option RowLock :=
  p.locks.find? (·.lockKey == lockKey)

/-- the rows of a new prepare, with the keys they lock -/
structure Vote (txId : TxId) (rows : List PendingIntent) (keys : List RowKey) : Prop where
  own : ∀ row ∈ rows, row.coordinatorTxId = txId ∧ row.status = .prepared
  locked : ∀ key, key ∈ keys ↔ ∃ row ∈ rows, key ∈ row.lockKeys

inductive Step (evidence : TxId → ParticipantDecision → Prop) : Participant → Participant → Prop where
  | prepare {p} (txId rows keys now) (hv : Vote txId rows keys) (hrows : p.intentsOf txId = [])
      (ht : p.tombstoneOf txId = none)
      (hl : ∀ key ∈ keys, ∀ lock, p.lockOf key = some lock → lock.coordinatorTxId = txId) :
      Step evidence p { p with
        pending := p.pending ++ rows, locks := keys.foldl (acquireLock txId now) p.locks }
  | adopt {p} (message) :
      Step evidence p { p with pending := p.pending.map (PendingIntent.adopt message) }
  | decide {p} (record) (ht : p.tombstoneOf record.txId = none)
      (he : evidence record.txId record.decision) :
      Step evidence p { p with tombstones := p.tombstones ++ [record] }
  | apply {p} (txId record) (ht : p.tombstoneOf txId = some record)
      (hd : record.decision = .commit) (hr : ∃ row ∈ p.intentsOf txId, row.status ≠ .committed) :
      Step evidence p { p with
        pending := p.pending.map (markCommitted txId)
        locks := p.locks.filter (·.coordinatorTxId != txId)
        applied := p.applied ++ [txId] }
  | forget {p} (txId record) (ht : p.tombstoneOf txId = some record)
      (hd : record.decision = .abort) :
      Step evidence p { p with
        pending := p.pending.filter (·.coordinatorTxId != txId)
        locks := p.locks.filter (·.coordinatorTxId != txId) }
  | prune {p} (now : Nat) :
      Step evidence p { p with
        tombstones := p.tombstones.filter fun t => now ≤ t.retentionDeadline
        pruned := p.pruned ++
          (p.tombstones.filter fun t => t.retentionDeadline < now).map (·.txId) }

end Participant

/-! ## changes of the store -/

/-- a change of fences, mirrors, markers, recorded requests or the alarm -/
structure Aside (s s' : Store D) : Prop where
  participant : s'.participant = s.participant
  data : s'.data = s.data
  journal : s'.journal = s.journal
  journalSequence : s'.journalSequence = s.journalSequence
  checkpoints : s'.checkpoints = s.checkpoints
  checkpointMeta : s'.checkpointMeta = s.checkpointMeta
  now : s'.now = s.now
  mutations : s'.mutations = s.mutations
  barrier : s'.barrier = s.barrier

section
variable (E : Engine D) (ρ : Regime)

inductive Change : Store D → Store D → Prop where
  | prepare {s} (message intents) (data : D) (hrows : s.intentsOf message.txId = [])
      (ht : s.tombstoneOf message.txId = none)
      (hl : lockedBy s message.txId (intents.map lockKeyOf) = none)
      (hv : validateIntents E s.data intents = .ok data) :
      Change s (recordPrepared message intents s)
  | adopt {s} (message) :
      Change s { s with pending := s.pending.map (PendingIntent.adopt message) }
  | decide {s} (record) (ht : s.tombstoneOf record.txId = none)
      (he : ρ.evidence record.txId record.decision) :
      Change s { s with tombstones := s.tombstones ++ [record] }
  | apply {s s' txId record enqueuedMirror} (ht : s.tombstoneOf txId = some record)
      (hd : record.decision = .commit) (hr : ∃ row ∈ s.intentsOf txId, row.status ≠ .committed)
      (h : applySync E txId (s.intentsOf txId) s = .ok (enqueuedMirror, s')) : Change s s'
  | forget {s txId record} (ht : s.tombstoneOf txId = some record)
      (hd : record.decision = .abort) : Change s (s.forget txId)
  | discard {s} (record) (ht : s.tombstoneOf record.txId = none) (hd : record.decision = .abort)
      (he : ρ.evidence record.txId .abort) :
      Change s (({ s with tombstones := s.tombstones ++ [record] }).forget record.txId)
  | prune {s} : Change s (pruneTombstones s)
  | write {s s' payload incomingHash writeHash execStart result}
      (hr : refusedWrite payload s = none)
      (ht : ρ.certified → ∀ c ∈ s.checkpoints, c.checkpointAtMs < s.now)
      (h : executeSync E payload incomingHash writeHash execStart s = .ok (result, s')) :
      Change s s'
  | other {s s'} (h : Aside s s') : Change s s'

inductive Work : Store D → Store D → Prop where
  | mutation {s s'} (hd : ρ.certified → s.checkpointMeta.dirty = true) (h : Change E ρ s s') :
      Work s { s' with mutations := s'.mutations + 1 }
  | dirty {s} : Work s { s with checkpointMeta := { s.checkpointMeta with dirty := true } }
  | certify {s} : Work s (recordCheckpoint s.bookmark s.now s)

end

structure Side (ρ : Regime) (s s' : Store D) : Prop where
  participant : s'.participant = s.participant
  data : s'.data = s.data
  journal : s'.journal ⊆ s.journal
  bookmark : s'.bookmark = s.bookmark
  checkpoints : ρ.certified → s'.checkpoints = s.checkpoints
  checkpointMeta : ρ.certified → s'.checkpointMeta = s.checkpointMeta
  now : ρ.certified → s.now ≤ s'.now

structure Quiet (ρ : Regime) (s s' : Store D) : Prop where
  participant : s'.participant = s.participant
  data : s'.data = s.data
  bookmark : s'.bookmark = s.bookmark
  checkpointMeta : ρ.certified → s'.checkpointMeta = s.checkpointMeta

theorem Aside.side {ρ : Regime} {s s' : Store D} (h : Aside s s') : Side ρ s s' where
  participant := h.participant
  data := h.data
  journal := h.journal ▸ List.Subset.refl _
  bookmark := by
    show Bookmark.mk _ _ = Bookmark.mk _ _
    rw [h.journalSequence, h.mutations]
  checkpoints _ := h.checkpoints
  checkpointMeta _ := h.checkpointMeta
  now _ := Nat.le_of_eq h.now.symm

/-! ## what the storage transactions change -/

/-- what the base tables' own bookkeeping may change next to them -/
structure Tables (D : Type) where
  data : D
  owners : List RowOwner
  mirrors : List MirrorJob
  nextJobId : Nat

def Store.withTables (s : Store D) (t : Tables D) : Store D :=
  { s with data := t.data, owners := t.owners, mirrors := t.mirrors, nextJobId := t.nextJobId }

def Store.tables (s : Store D) : Tables D :=
  { data := s.data, owners := s.owners, mirrors := s.mirrors, nextJobId := s.nextJobId }

section
variable {E : Engine D} {ρ : Regime} {s s' : Store D} {txId : TxId}

theorem recordCommittedIntent_tables (txId : TxId) (intent : PendingIntent) (n : Nat) (s : Store D) :
    ∃ t : Tables D, t.data = s.data ∧
      (recordCommittedIntent E txId intent n s).1 = s.withTables t := by
  unfold recordCommittedIntent
  split
  · dsimp only
    split
    · exact ⟨s.tables, rfl, rfl⟩
    · split
      · split
        · exact ⟨⟨_, _, _, _⟩, rfl, rfl⟩
        · exact ⟨⟨_, _, _, _⟩, rfl, rfl⟩
      · exact ⟨⟨_, _, _, _⟩, rfl, rfl⟩
  · exact ⟨s.tables, rfl, rfl⟩

theorem applyIntents_tables (intents : List PendingIntent) : ∀ {s s' : Store D} {b},
    applyIntents E txId intents s = .ok (b, s') → ∃ t, s' = s.withTables t := by
  induction intents with
  | nil =>
    intro s s' b h
    cases h
    exact ⟨s.tables, rfl⟩
  | cons intent intents ih =>
    intro s s' b h
    simp only [applyIntents] at h
    split at h
    · cases h
    · rename_i data n hexec
      obtain ⟨t, -, ht⟩ :=
        recordCommittedIntent_tables (E := E) txId intent n { s with data }
      rw [ht] at h
      split at h
      · cases h
      · rename_i b' s'' hrest
        cases h
        obtain ⟨t', ht'⟩ := ih hrest
        exact ⟨t', ht'⟩

/-- the effect of a commit, base tables apart -/
theorem applySync_ok {intents : List PendingIntent} {b : Bool}
    (h : applySync E txId intents s = .ok (b, s')) : ∃ t : Tables D,
    applyIntents E txId intents s = .ok (b, s.withTables t) ∧
      s' = { s.withTables t with
        pending := s.pending.map (markCommitted txId)
        locks := s.locks.filter (·.coordinatorTxId != txId)
        applied := s.applied ++ [txId] } := by
  unfold applySync at h
  split at h
  · cases h
  · rename_i b' s'' happly
    cases h
    obtain ⟨t, rfl⟩ := applyIntents_tables intents happly
    exact ⟨t, happly, rfl⟩

theorem recordDirectWrite_tables (payload : ExecutePayload) (n : Nat) (s : Store D) :
    ∃ t : Tables D, t.data = s.data ∧
      (recordDirectWrite E payload n s).1 = s.withTables t := by
  unfold recordDirectWrite
  split
  · dsimp only
    split
    · exact ⟨s.tables, rfl, rfl⟩
    · split
      · split
        · exact ⟨⟨_, _, _, _⟩, rfl, rfl⟩
        · exact ⟨⟨_, _, _, _⟩, rfl, rfl⟩
      · exact ⟨⟨_, _, _, _⟩, rfl, rfl⟩
  · exact ⟨s.tables, rfl, rfl⟩

theorem recordClientRequest_requests (payload : ExecutePayload) (hash : Hash)
    (result : MutationResult) (s : Store D) : ∃ requests,
    recordClientRequest payload hash result s = { s with appliedRequests := requests } := by
  unfold recordClientRequest
  split
  · split
    · exact ⟨_, rfl⟩
    · exact ⟨_, rfl⟩
  · exact ⟨_, rfl⟩

/-- the effect of a direct write, and the statement that was run -/
theorem executeSync_ok {payload : ExecutePayload} {incomingHash writeHash : Hash} {execStart : Nat}
    {result : MutationResult × Bool}
    (h : executeSync E payload incomingHash writeHash execStart s = .ok (result, s')) :
    ∃ (t : Tables D) (requests : List AppliedRequest) (n : Nat),
      E.exec payload.sql payload.params s.data = .ok (t.data, n) ∧
      s' = journalWrite payload incomingHash writeHash
        { s.withTables t with appliedRequests := requests } := by
  unfold executeSync at h
  split at h
  · cases h
  · rename_i data n hexec
    dsimp only at h
    split at h
    · cases h
    · obtain ⟨requests, hreq⟩ := recordClientRequest_requests payload incomingHash
        (MutationResult.mk n (s.now - execStart))
        { s with
          data
          appliedRequests := s.appliedRequests ++
            [{ requestId := payload.requestId, requestHash := incomingHash
               result := ⟨n, s.now - execStart⟩, appliedAt := s.now }] }
      rw [hreq] at h
      obtain ⟨t, hdata, ht⟩ := recordDirectWrite_tables (E := E) payload n
        { s with data, appliedRequests := requests }
      cases h
      refine ⟨t, requests, n, ?_, ?_⟩
      · rw [hexec, hdata]
      · rw [ht]
        rfl

/-! ## changes are steps of a participant -/

theorem preparedRow_vote (message : ParticipantMessage) (now : Nat) (intents : List BeginIntent) :
    Participant.Vote message.txId
      (intents.zipIdx.map fun (intent, seq) => preparedRow message now intent seq)
      (intents.map lockKeyOf) := by
  constructor
  · intro row hrow
    obtain ⟨p, -, rfl⟩ := List.mem_map.mp hrow
    exact ⟨rfl, rfl⟩
  · intro key
    constructor
    · intro hkey
      obtain ⟨intent, hintent, rfl⟩ := List.mem_map.mp hkey
      obtain ⟨i, hi, rfl⟩ := List.getElem_of_mem hintent
      refine ⟨preparedRow message now intents[i] i, ?_, by simp [preparedRow]⟩
      exact List.mem_map.mpr ⟨(intents[i], i), by simp [List.mem_zipIdx_iff_getElem?], rfl⟩
    · rintro ⟨row, hrow, hkey⟩
      obtain ⟨p, hp, rfl⟩ := List.mem_map.mp hrow
      have hkey : key = lockKeyOf p.1 := by simpa [preparedRow] using hkey
      rw [hkey]
      exact List.mem_map_of_mem (List.fst_mem_of_mem_zipIdx hp)

theorem lock_of_lockedBy_none {keys : List RowKey} (h : lockedBy s txId keys = none) :
    ∀ key ∈ keys, ∀ lock, s.participant.lockOf key = some lock → lock.coordinatorTxId = txId := by
  intro key hkey lock hlock
  have hnone := List.find?_eq_none.mp h lock (List.mem_filterMap.mpr ⟨key, hkey, hlock⟩)
  simpa using hnone

/-- **every change of a shard is made of steps of a participant** -/
theorem Change.steps (h : Change E ρ s s') :
    Relation.ReflTransGen (Participant.Step ρ.evidence) s.participant s'.participant := by
  cases h with
  | prepare message intents data hrows ht hl hv =>
    exact .single (.prepare message.txId _ _ s.now (preparedRow_vote message s.now intents) hrows ht
      (lock_of_lockedBy_none hl))
  | adopt message => exact .single (.adopt message)
  | decide record ht he => exact .single (.decide record ht he)
  | apply ht hd hr h =>
    obtain ⟨t, -, rfl⟩ := applySync_ok h
    exact .single (.apply _ _ ht hd hr)
  | forget ht hd => exact .single (.forget _ _ ht hd)
  | discard record ht hd he =>
    have hfound : Participant.tombstoneOf
        { s.participant with tombstones := s.tombstones ++ [record] } record.txId = some record := by
      unfold Participant.tombstoneOf
      rw [List.find?_append]
      have hnone : s.tombstones.find? (·.txId == record.txId) = none := ht
      simp [hnone]
    exact (Relation.ReflTransGen.single (.decide record ht (hd ▸ he))).tail
      (.forget record.txId record hfound hd)
  | prune => exact .single (.prune s.now)
  | write hr ht h =>
    obtain ⟨t, requests, n, -, rfl⟩ := executeSync_ok h
    exact .refl
  | other h => rw [h.participant]

theorem Work.steps (h : Work E ρ s s') :
    Relation.ReflTransGen (Participant.Step ρ.evidence) s.participant s'.participant := by
  cases h with
  | mutation hd h => exact h.steps
  | dirty => exact .refl
  | certify => exact .refl

theorem Change.barrier (h : Change E ρ s s') : s'.barrier = s.barrier := by
  cases h with
  | apply _ _ _ h =>
    obtain ⟨t, -, rfl⟩ := applySync_ok h
    rfl
  | write _ _ h =>
    obtain ⟨t, requests, n, -, rfl⟩ := executeSync_ok h
    rfl
  | other h => exact h.barrier
  | _ => rfl

theorem Change.checkpointMeta (h : Change E ρ s s') : s'.checkpointMeta = s.checkpointMeta := by
  cases h with
  | apply _ _ _ h =>
    obtain ⟨t, -, rfl⟩ := applySync_ok h
    rfl
  | write _ _ h =>
    obtain ⟨t, requests, n, -, rfl⟩ := executeSync_ok h
    rfl
  | other h => exact h.checkpointMeta
  | _ => rfl

end

/-! ## the shard as a guarded store -/

/-- what the sections of a shard keep true -/
structure Invariant (E : Engine D) (ρ : Regime) where
  holds : Store D → Prop
  work : ∀ {s s'}, holds s → Work E ρ s s' → holds s'
  side : ∀ {s s'}, holds s → Side ρ s s' → holds s'

def guarded {E : Engine D} {ρ : Regime} (I : Invariant E ρ) : Guarded (Store D) where
  barrier := Store.barrier
  inv := I.holds
  work := Work E ρ
  side := Side ρ
  quiet := Quiet ρ
  later _ _ := True
  quiet_refl _ := ⟨rfl, rfl, rfl, fun _ => rfl⟩
  quiet_trans h h' :=
    ⟨h'.participant.trans h.participant, h'.data.trans h.data, h'.bookmark.trans h.bookmark,
      fun hc => (h'.checkpointMeta hc).trans (h.checkpointMeta hc)⟩
  later_refl _ := trivial
  later_trans _ _ := trivial
  side_quiet h := ⟨h.participant, h.data, h.bookmark, h.checkpointMeta⟩
  quiet_later _ := trivial
  work_later _ _ := trivial
  inv_work := I.work
  inv_side := I.side

/-! ## what comes in -/

def RawMessage.txId : RawMessage → TxId
  | .versioned message => message.txId
  | .legacy coordinatorTxId => coordinatorTxId.getD ""

/-- the decision that a poll of the coordinator brings -/
def CoordinatorDecision.decided : CoordinatorDecision → Option ParticipantDecision
  | .committed => some .commit
  | .aborted => some .abort
  | _ => none

/-- the decision that a request asks a participant to record -/
def Request.decides : Request → Option (TxId × ParticipantDecision)
  | .commit raw => some (raw.txId, .commit)
  | .abort raw _ => some (raw.txId, .abort)
  | .recover raw decision _ => decision.map (raw.txId, ·)
  | _ => none

def Activity.isPreview : Activity → Bool
  | .request (.pitrPreview ..) => true
  | _ => false

/-- decisions come with evidence, and in a certified run a preview records a checkpoint only when
nobody is inside the barrier and nothing was written since its bookmark, a direct write comes later
than every checkpoint, and the clock does not go back -/
def terms (D : Type) (ρ : Regime) : Terms (Store D) Ask Ask.Answer Activity Nat where
  accept
    | .request request => ∀ txId d, request.decides = some (txId, d) → ρ.evidence txId d
    | .alarm => True
  ok activity
    | .coordinatorDecision txId, answer, _ =>
      ∀ d, (decisionOf answer).decision.decided = some d → ρ.evidence txId d
    | .currentBookmark .checkpoint bookmark, _, s =>
      ρ.certified → activity.isPreview → bookmark = s.bookmark ∧ ∀ g, ¬Holds g s.barrier
    | .writeHash, _, s => ρ.certified → ∀ c ∈ s.checkpoints, c.checkpointAtMs < s.now
    | _, _, _ => True
  event now s := ρ.certified → s.now ≤ now

end Shard
