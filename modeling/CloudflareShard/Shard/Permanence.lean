import CloudflareShard.Shard.Follows

/-!
# A participant keeps its word

* `Exact`, `Sound`            locks are the prepared rows, and effects come with a commit tombstone;
* `Step.sound`, `Step.kept`   what one step of a participant preserves;
* `participant_keeps_word`    **locks, effects and tombstones over every run of a shard**;
* `aborted_then_applied`      a transaction that is applied after its abort tombstone was dropped.
-/

namespace Shard
open Async Contracts

namespace Participant
variable {evidence : TxId → ParticipantDecision → Prop} {p p' : Participant} {txId : TxId}

/-- a key is locked for a transaction exactly when it has a prepared row with that key -/
def Exact (p : Participant) : Prop := ∀ key txId,
  (∃ lock ∈ p.locks, lock.lockKey = key ∧ lock.coordinatorTxId = txId) ↔
    ∃ row ∈ p.pending, row.coordinatorTxId = txId ∧ row.status = .prepared ∧ key ∈ row.lockKeys

/-- the effects of a transaction whose tombstones were all kept -/
structure Effects (p : Participant) (txId : TxId) : Prop where
  once : p.applied.count txId ≤ 1
  committed : txId ∈ p.applied →
    (∃ record, p.tombstoneOf txId = some record ∧ record.decision = .commit) ∧
      ∀ row ∈ p.intentsOf txId, row.status = .committed

structure Sound (p : Participant) : Prop where
  exact : Exact p
  unique : (p.locks.map (·.lockKey)).Nodup
  effects : ∀ txId, txId ∉ p.pruned → Effects p txId

/-- a tombstone that was not dropped is still there, and what it aborted was not applied since -/
def Kept (p p' : Participant) : Prop := ∀ txId, p.pruned.count txId ≤ p'.pruned.count txId ∧
  ∀ record, p.tombstoneOf txId = some record → p'.pruned.count txId = p.pruned.count txId →
    p'.tombstoneOf txId = some record ∧
      (record.decision = .abort → p'.applied.count txId = p.applied.count txId)

/-! ## locks -/

theorem acquireLock_nodup {now : Nat} {locks : List RowLock} {key : RowKey}
    (h : (locks.map (·.lockKey)).Nodup) :
    ((acquireLock txId now locks key).map (·.lockKey)).Nodup := by
  unfold acquireLock
  split
  · exact h
  · rename_i hfree
    rw [List.map_append, List.nodup_append]
    refine ⟨h, List.nodup_singleton _, ?_⟩
    intro k hk k' hk' heq
    obtain ⟨lock, hlock, rfl⟩ := List.mem_map.mp hk
    have hk' : k' = key := by simpa using hk'
    exact hfree (List.any_eq_true.mpr ⟨lock, hlock, by simp [heq, hk']⟩)

theorem acquireLocks_nodup {now : Nat} (keys : List RowKey) : ∀ {locks : List RowLock},
    (locks.map (·.lockKey)).Nodup →
      ((keys.foldl (acquireLock txId now) locks).map (·.lockKey)).Nodup := by
  induction keys with
  | nil => exact fun h => h
  | cons key keys ih => exact fun h => ih (acquireLock_nodup h)

/-- the locks of a prepare: the old ones, and its own on keys that were free -/
theorem acquireLocks_mem {now : Nat} (keys : List RowKey) : ∀ {locks : List RowLock},
    (∀ key ∈ keys, ∀ lock ∈ locks, lock.lockKey = key → lock.coordinatorTxId = txId) →
    ∀ key other,
      (∃ lock ∈ keys.foldl (acquireLock txId now) locks,
          lock.lockKey = key ∧ lock.coordinatorTxId = other) ↔
        (∃ lock ∈ locks, lock.lockKey = key ∧ lock.coordinatorTxId = other) ∨
          other = txId ∧ key ∈ keys := by
  induction keys with
  | nil => simp
  | cons first keys ih =>
    intro locks hfree key other
    have hone : ∀ lock, lock ∈ acquireLock txId now locks first ↔ lock ∈ locks ∨
        (¬∃ l ∈ locks, l.lockKey = first) ∧ lock = ⟨first, txId, now⟩ := by
      intro lock
      unfold acquireLock
      split
      · rename_i hany
        obtain ⟨l, hl, heq⟩ := List.any_eq_true.mp hany
        exact ⟨.inl, fun h => h.elim id fun h' => absurd ⟨l, hl, by simpa using heq⟩ h'.1⟩
      · rename_i hnone
        have hnone : ¬∃ l ∈ locks, l.lockKey = first := by
          rintro ⟨l, hl, heq⟩
          exact hnone (List.any_eq_true.mpr ⟨l, hl, by simpa using heq⟩)
        simp [hnone]
    have hfree' : ∀ key ∈ keys, ∀ lock ∈ acquireLock txId now locks first, lock.lockKey = key →
        lock.coordinatorTxId = txId := by
      intro key hkey lock hlock heq
      rcases (hone lock).mp hlock with h | ⟨-, rfl⟩
      · exact hfree key (List.mem_cons_of_mem _ hkey) lock h heq
      · rfl
    rw [List.foldl_cons, ih hfree' key other]
    constructor
    · rintro (⟨lock, hlock, rfl, rfl⟩ | ⟨rfl, hkey⟩)
      · rcases (hone lock).mp hlock with h | ⟨-, rfl⟩
        · exact .inl ⟨lock, h, rfl, rfl⟩
        · exact .inr ⟨rfl, List.mem_cons_self⟩
      · exact .inr ⟨rfl, List.mem_cons_of_mem _ hkey⟩
    · rintro (⟨lock, hlock, rfl, rfl⟩ | ⟨rfl, hkey⟩)
      · exact .inl ⟨lock, (hone lock).mpr (.inl hlock), rfl, rfl⟩
      · rcases List.mem_cons.mp hkey with rfl | hkey
        · by_cases hheld : ∃ l ∈ locks, l.lockKey = key
          · obtain ⟨l, hl, heq⟩ := hheld
            exact .inl ⟨l, (hone l).mpr (.inl hl), heq, hfree key List.mem_cons_self l hl heq⟩
          · exact .inl ⟨⟨key, other, now⟩, (hone _).mpr (.inr ⟨hheld, rfl⟩), rfl, rfl⟩
        · exact .inr ⟨rfl, hkey⟩

theorem lockOf_of_mem {lock : RowLock} (hu : (p.locks.map (·.lockKey)).Nodup)
    (h : lock ∈ p.locks) : p.lockOf lock.lockKey = some lock := by
  cases hl : p.lockOf lock.lockKey with
  | none =>
    have := List.find?_eq_none.mp hl lock h
    simp at this
  | some found =>
    have hkey : found.lockKey = lock.lockKey := by simpa using List.find?_some hl
    exact congrArg some (List.inj_on_of_nodup_map hu (List.mem_of_find?_eq_some hl) h hkey)

/-- dropping the rows of a transaction, or marking them, drops its locks and nobody else's -/
theorem Exact.release {rows : List PendingIntent} (h : Exact p)
    (hrows : ∀ key other, (∃ row ∈ rows, row.coordinatorTxId = other ∧ row.status = .prepared ∧
        key ∈ row.lockKeys) ↔ other ≠ txId ∧ ∃ row ∈ p.pending, row.coordinatorTxId = other ∧
          row.status = .prepared ∧ key ∈ row.lockKeys) :
    Exact { p with pending := rows, locks := p.locks.filter (·.coordinatorTxId != txId) } := by
  intro key other
  have hlocks : (∃ lock ∈ p.locks.filter (·.coordinatorTxId != txId),
      lock.lockKey = key ∧ lock.coordinatorTxId = other) ↔
        other ≠ txId ∧ ∃ lock ∈ p.locks, lock.lockKey = key ∧ lock.coordinatorTxId = other := by
    constructor
    · rintro ⟨lock, hlock, hkey, rfl⟩
      obtain ⟨hmem, hne⟩ := List.mem_filter.mp hlock
      exact ⟨by simpa using hne, lock, hmem, hkey, rfl⟩
    · rintro ⟨hne, lock, hmem, hkey, rfl⟩
      exact ⟨lock, List.mem_filter.mpr ⟨hmem, by simpa using hne⟩, hkey, rfl⟩
  exact hlocks.trans ((and_congr_right fun _ => h key other).trans (hrows key other).symm)

theorem markCommitted_prepared (rows : List PendingIntent) (key : RowKey) (other : TxId) :
    (∃ row ∈ rows.map (markCommitted txId), row.coordinatorTxId = other ∧ row.status = .prepared ∧
        key ∈ row.lockKeys) ↔ other ≠ txId ∧ ∃ row ∈ rows, row.coordinatorTxId = other ∧
          row.status = .prepared ∧ key ∈ row.lockKeys := by
  constructor
  · rintro ⟨_, hrow, rfl, hs, hk⟩
    obtain ⟨row, hmem, rfl⟩ := List.mem_map.mp hrow
    by_cases hid : row.coordinatorTxId = txId
    · rw [markCommitted, if_pos hid] at hs
      cases hs
    · rw [markCommitted, if_neg hid] at hs hk ⊢
      exact ⟨hid, row, hmem, rfl, hs, hk⟩
  · rintro ⟨hne, row, hmem, rfl, hs, hk⟩
    refine ⟨row, List.mem_map.mpr ⟨row, hmem, ?_⟩, rfl, hs, hk⟩
    rw [markCommitted, if_neg hne]

theorem forget_prepared (rows : List PendingIntent) (key : RowKey) (other : TxId) :
    (∃ row ∈ rows.filter (·.coordinatorTxId != txId), row.coordinatorTxId = other ∧
        row.status = .prepared ∧ key ∈ row.lockKeys) ↔ other ≠ txId ∧ ∃ row ∈ rows,
          row.coordinatorTxId = other ∧ row.status = .prepared ∧ key ∈ row.lockKeys := by
  constructor
  · rintro ⟨row, hrow, rfl, hs, hk⟩
    obtain ⟨hmem, hne⟩ := List.mem_filter.mp hrow
    exact ⟨by simpa using hne, row, hmem, rfl, hs, hk⟩
  · rintro ⟨hne, row, hmem, rfl, hs, hk⟩
    exact ⟨row, List.mem_filter.mpr ⟨hmem, by simpa using hne⟩, rfl, hs, hk⟩

theorem adopt_fields (message : ParticipantMessage) (row : PendingIntent) :
    (row.adopt message).coordinatorTxId = row.coordinatorTxId ∧
      (row.adopt message).status = row.status ∧ (row.adopt message).lockKeys = row.lockKeys := by
  unfold PendingIntent.adopt
  split <;> exact ⟨rfl, rfl, rfl⟩

theorem adopt_prepared (message : ParticipantMessage) (rows : List PendingIntent) (key : RowKey)
    (other : TxId) :
    (∃ row ∈ rows.map (PendingIntent.adopt message), row.coordinatorTxId = other ∧
        row.status = .prepared ∧ key ∈ row.lockKeys) ↔ ∃ row ∈ rows, row.coordinatorTxId = other ∧
          row.status = .prepared ∧ key ∈ row.lockKeys := by
  constructor
  · rintro ⟨_, hrow, rfl, hs, hk⟩
    obtain ⟨row, hmem, rfl⟩ := List.mem_map.mp hrow
    obtain ⟨hid, hstatus, hkeys⟩ := adopt_fields message row
    exact ⟨row, hmem, hid.symm, hstatus ▸ hs, hkeys ▸ hk⟩
  · rintro ⟨row, hmem, rfl, hs, hk⟩
    obtain ⟨hid, hstatus, hkeys⟩ := adopt_fields message row
    exact ⟨_, List.mem_map_of_mem hmem, hid, hstatus.trans hs, hkeys ▸ hk⟩

/-- **one step keeps the locks exact** -/
theorem Step.exact (h : Step evidence p p') (he : Exact p)
    (hu : (p.locks.map (·.lockKey)).Nodup) : Exact p' := by
  cases h with
  | prepare txId rows keys now hv hrows ht hl =>
    have hfree : ∀ key ∈ keys, ∀ lock ∈ p.locks, lock.lockKey = key → lock.coordinatorTxId = txId := by
      intro key hkey lock hlock heq
      exact hl key hkey lock (heq ▸ lockOf_of_mem hu hlock)
    intro key other
    refine (acquireLocks_mem keys hfree key other).trans ?_
    rw [he key other]
    constructor
    · rintro (⟨row, hrow, h⟩ | ⟨rfl, hkey⟩)
      · exact ⟨row, List.mem_append_left _ hrow, h⟩
      · obtain ⟨row, hrow, hmem⟩ := (hv.locked key).mp hkey
        obtain ⟨hid, hstatus⟩ := hv.own row hrow
        exact ⟨row, List.mem_append_right _ hrow, hid, hstatus, hmem⟩
    · rintro ⟨row, hrow, rfl, hs, hk⟩
      rcases List.mem_append.mp hrow with hrow | hrow
      · exact .inl ⟨row, hrow, rfl, hs, hk⟩
      · exact .inr ⟨(hv.own row hrow).1, (hv.locked key).mpr ⟨row, hrow, hk⟩⟩
  | adopt message => exact fun key other => (he key other).trans (adopt_prepared ..).symm
  | decide record ht hev => exact he
  | apply txId record ht hd hr => exact he.release (markCommitted_prepared p.pending)
  | forget txId record ht hd => exact he.release (forget_prepared p.pending)
  | prune now => exact he

theorem Step.unique (h : Step evidence p p') (hu : (p.locks.map (·.lockKey)).Nodup) :
    (p'.locks.map (·.lockKey)).Nodup := by
  cases h with
  | prepare txId rows keys now hv hrows ht hl => exact acquireLocks_nodup keys hu
  | apply txId record ht hd hr => exact hu.sublist (List.filter_sublist.map _)
  | forget txId record ht hd => exact hu.sublist (List.filter_sublist.map _)
  | _ => exact hu

/-! ## tombstones -/

theorem Kept.refl (p : Participant) : Kept p p :=
  fun _ => ⟨Nat.le_refl _, fun _ h _ => ⟨h, fun _ => rfl⟩⟩

theorem Kept.trans {p'' : Participant} (h : Kept p p') (h' : Kept p' p'') : Kept p p'' := by
  intro txId
  obtain ⟨hle, hk⟩ := h txId
  obtain ⟨hle', hk'⟩ := h' txId
  refine ⟨Nat.le_trans hle hle', fun record hr heq => ?_⟩
  have hmid : p'.pruned.count txId = p.pruned.count txId := by omega
  obtain ⟨hr', ha⟩ := hk record hr hmid
  obtain ⟨hr'', ha'⟩ := hk' record hr' (by omega)
  exact ⟨hr'', fun hd => (ha' hd).trans (ha hd)⟩

/-- a step that leaves the tombstones alone, and applies nothing that was aborted -/
theorem Kept.of_same (ht : p'.tombstones = p.tombstones) (hp : p'.pruned = p.pruned)
    (ha : ∀ txId record, p.tombstoneOf txId = some record → record.decision = .abort →
      p'.applied.count txId = p.applied.count txId) : Kept p p' := by
  intro txId
  rw [hp]
  refine ⟨Nat.le_refl _, fun record hr _ => ⟨?_, ha txId record hr⟩⟩
  unfold tombstoneOf
  rw [ht]
  exact hr

/-- no tombstone of a transaction is dropped when the count of the dropped ones stays -/
theorem prune_count {now : Nat}
    (h : (p.pruned ++ (p.tombstones.filter fun t => t.retentionDeadline < now).map (·.txId)).count
      txId = p.pruned.count txId) :
    ∀ t ∈ p.tombstones, t.txId = txId → now ≤ t.retentionDeadline := by
  intro t ht hid
  by_contra hlt
  have hmem : txId ∈ (p.tombstones.filter fun t => t.retentionDeadline < now).map (·.txId) :=
    List.mem_map.mpr ⟨t, List.mem_filter.mpr ⟨ht, by simpa using hlt⟩, hid⟩
  have hpos := List.count_pos_iff.mpr hmem
  rw [List.count_append] at h
  omega

theorem find?_filter_of {α : Type} {l : List α} {f keep : α → Bool}
    (h : ∀ a ∈ l, f a → keep a) : (l.filter keep).find? f = l.find? f := by
  induction l with
  | nil => rfl
  | cons a l ih =>
    have ih := ih fun b hb => h b (List.mem_cons_of_mem _ hb)
    by_cases hk : keep a
    · rw [List.filter_cons_of_pos hk, List.find?_cons, List.find?_cons, ih]
    · have hf : f a = false := by
        by_contra hf
        exact hk (h a List.mem_cons_self (by simpa using hf))
      rw [List.filter_cons_of_neg hk, List.find?_cons, hf, ih]

/-- **one step keeps the tombstones that it does not drop** -/
theorem Step.kept (h : Step evidence p p') : Kept p p' := by
  cases h with
  | prepare txId rows keys now hv hrows ht hl => exact .of_same rfl rfl fun _ _ _ _ => rfl
  | adopt message => exact .of_same rfl rfl fun _ _ _ _ => rfl
  | decide record ht hev =>
    intro txId
    refine ⟨Nat.le_refl _, fun found hf _ => ⟨?_, fun _ => rfl⟩⟩
    unfold tombstoneOf at hf ⊢
    rw [List.find?_append, hf]
    rfl
  | apply txId record ht hd hr =>
    refine .of_same rfl rfl fun other found hf habort => ?_
    have hne : txId ≠ other := by
      rintro rfl
      rw [ht] at hf
      cases hf
      rw [hd] at habort
      cases habort
    show (p.applied ++ [txId]).count other = _
    rw [List.count_append, List.count_singleton]
    simp [hne]
  | forget txId record ht hd => exact .of_same rfl rfl fun _ _ _ _ => rfl
  | prune now =>
    intro txId
    refine ⟨by simp, fun record hr heq => ⟨?_, fun _ => rfl⟩⟩
    have hkeep := prune_count heq
    show (p.tombstones.filter _).find? _ = some record
    rw [find?_filter_of fun t ht hid => by simpa using hkeep t ht (by simpa using hid)]
    exact hr

/-! ## effects -/

theorem markCommitted_intentsOf :
    ∀ row ∈ (p.pending.map (markCommitted txId)).filter (·.coordinatorTxId == txId),
      row.status = .committed := by
  intro row hrow
  obtain ⟨hmem, hid⟩ := List.mem_filter.mp hrow
  obtain ⟨row, -, rfl⟩ := List.mem_map.mp hmem
  by_cases h : row.coordinatorTxId = txId
  · rw [markCommitted, if_pos h]
  · rw [markCommitted, if_neg h] at hid
    exact absurd (by simpa using hid) h

/-- a step that changes no tombstone and applies nothing, and leaves committed rows committed -/
theorem Effects.of_same (h : Effects p txId) (ha : p'.applied = p.applied)
    (ht : ∀ record, p.tombstoneOf txId = some record → p'.tombstoneOf txId = some record)
    (hr : txId ∈ p.applied → ∀ row ∈ p'.intentsOf txId, row.status = .committed) :
    Effects p' txId := by
  refine ⟨ha ▸ h.once, fun happlied => ?_⟩
  rw [ha] at happlied
  obtain ⟨⟨record, hrec, hd⟩, -⟩ := h.committed happlied
  exact ⟨⟨record, ht record hrec, hd⟩, hr happlied⟩

/-- **one step keeps effects to one, under a commit tombstone** -/
theorem Step.effects (h : Step evidence p p') (hs : ∀ txId, txId ∉ p.pruned → Effects p txId)
    {other : TxId} (hnot : other ∉ p'.pruned) : Effects p' other := by
  cases h with
  | prepare txId rows keys now hv hrows ht hl =>
    have ho := hs other hnot
    refine ho.of_same rfl (fun _ h => h) fun happlied row hrow => ?_
    have hne : txId ≠ other := by
      rintro rfl
      obtain ⟨⟨record, hrec, -⟩, -⟩ := ho.committed happlied
      exact nomatch ht.symm.trans hrec
    obtain ⟨hmem, hid⟩ := List.mem_filter.mp hrow
    rcases List.mem_append.mp hmem with hmem | hmem
    · exact (ho.committed happlied).2 row (List.mem_filter.mpr ⟨hmem, hid⟩)
    · exact absurd ((hv.own row hmem).1.symm.trans (by simpa using hid)) hne
  | adopt message =>
    have ho := hs other hnot
    refine ho.of_same rfl (fun _ h => h) fun happlied row hrow => ?_
    obtain ⟨hmem, hid⟩ := List.mem_filter.mp hrow
    obtain ⟨old, hold, rfl⟩ := List.mem_map.mp hmem
    obtain ⟨hid', hstatus, -⟩ := adopt_fields message old
    rw [hstatus]
    exact (ho.committed happlied).2 old (List.mem_filter.mpr ⟨hold, hid' ▸ hid⟩)
  | decide record ht hev =>
    have ho := hs other hnot
    refine ho.of_same rfl (fun found hf => ?_) fun happlied => (ho.committed happlied).2
    unfold tombstoneOf at hf ⊢
    rw [List.find?_append, hf]
    rfl
  | apply txId record ht hd hr =>
    have ho := hs other hnot
    by_cases heq : txId = other
    · subst heq
      have hfresh : txId ∉ p.applied := by
        intro happlied
        obtain ⟨row, hrow, hstatus⟩ := hr
        exact hstatus ((ho.committed happlied).2 row hrow)
      refine ⟨?_, fun _ => ⟨⟨record, ht, hd⟩, markCommitted_intentsOf⟩⟩
      have hcount : (p.applied ++ [txId]).count txId = 1 := by
        rw [List.count_append, List.count_eq_zero.mpr hfresh, List.count_singleton_self]
      exact Nat.le_of_eq hcount
    · have hcount : (p.applied ++ [txId]).count other = p.applied.count other := by
        rw [List.count_append, List.count_singleton]
        simp [heq]
      refine ⟨hcount ▸ ho.once, fun happlied => ?_⟩
      have happlied : other ∈ p.applied := by
        have hpos := List.count_pos_iff.mpr happlied
        rw [hcount] at hpos
        exact List.count_pos_iff.mp hpos
      obtain ⟨htomb, hrows⟩ := ho.committed happlied
      refine ⟨htomb, fun row hrow => hrows row ?_⟩
      have hsame : (p.pending.map (markCommitted txId)).filter (·.coordinatorTxId == other) =
          p.pending.filter (·.coordinatorTxId == other) := by
        refine intentsOf_map (fun row => ?_) (fun row hid => ?_) p.pending
        · unfold markCommitted
          split <;> rfl
        · rw [markCommitted, if_neg (hid ▸ fun h => heq h.symm)]
      show row ∈ p.pending.filter (·.coordinatorTxId == other)
      rw [← hsame]
      exact hrow
  | forget txId record ht hd =>
    have ho := hs other hnot
    refine ho.of_same rfl (fun _ h => h) fun happlied row hrow => ?_
    obtain ⟨hmem, hid⟩ := List.mem_filter.mp hrow
    exact (ho.committed happlied).2 row (List.mem_filter.mpr ⟨(List.mem_filter.mp hmem).1, hid⟩)
  | prune now =>
    obtain ⟨hnot', hkeep⟩ := not_or.mp (mt List.mem_append.mpr hnot)
    have ho := hs other hnot'
    refine ho.of_same rfl (fun found hf => ?_) fun happlied => (ho.committed happlied).2
    have hcount : (p.pruned ++ (p.tombstones.filter fun t =>
        t.retentionDeadline < now).map (·.txId)).count other = p.pruned.count other := by
      rw [List.count_append, List.count_eq_zero.mpr hkeep, Nat.add_zero]
    have hstep : Step evidence p _ := .prune now
    exact ((hstep.kept other).2 found hf hcount).1

theorem Step.sound (h : Step evidence p p') (hs : Sound p) : Sound p' where
  exact := h.exact hs.exact hs.unique
  unique := h.unique hs.unique
  effects _ := h.effects hs.effects

theorem sound_of_steps (h : Relation.ReflTransGen (Step evidence) p p') (hs : Sound p) : Sound p' := by
  induction h with
  | refl => exact hs
  | tail _ h ih => exact h.sound ih

theorem kept_of_steps (h : Relation.ReflTransGen (Step evidence) p p') : Kept p p' := by
  induction h with
  | refl => exact .refl _
  | tail _ h ih => exact ih.trans h.kept

end Participant

/-! ## whole runs -/

section
variable {D : Type} {E : Engine D} {H : Digests} {B : Bindings} {ρ : Regime}

def soundness (E : Engine D) (ρ : Regime) : Invariant E ρ where
  holds s := s.participant.Sound
  work h hw := Participant.sound_of_steps hw.steps h
  side h hs := hs.participant ▸ h

/-- what was kept of transactions over a run -/
theorem hist_kept (I : Invariant E ρ) : Hist (guarded I).proto (system E H B) (terms D ρ)
    fun s s' => Participant.Kept s.participant s'.participant where
  refl _ := .refl _
  trans := .trans
  move _ hm := by
    have hside : ∀ {s s' : Store D}, Side ρ s s' →
        Participant.Kept s.participant s'.participant := fun h => h.participant ▸ .refl _
    cases hm with
    | side h => exact hside h
    | work _ h => exact Participant.kept_of_steps h.steps
    | alone _ h => exact Participant.kept_of_steps h.steps
    | take h => exact hside h
    | release _ h => exact hside h
  event _ _ _ _ := .refl _
  restart _ := .refl _

/-- a run on the terms of a regime starts with no handler at work -/
theorem follows_start {I : Invariant E ρ} {s : Store D} (hi : I.holds s)
    (hb : s.barrier = .fresh) : Follows (guarded I).proto (terms D ρ) (guarded I).Share
      (fun _ => True) (⟨s, []⟩ : Config (Store D) Ask Ask.Answer ShardError (Option Response)
        Activity) [] :=
  ⟨⟨show Barrier.Ordered s.barrier from hb ▸ .fresh, hi⟩, ⟨by simp, by simp⟩, rfl, by simp⟩

/-- any message may bring any decision, and checkpoints are taken as they come -/
def anyRegime : Regime where
  evidence _ _ := True
  certified := False

theorem allowed (c : Config (Store D) Ask Ask.Answer ShardError (Option Response) Activity)
    (x : Choice Ask Ask.Answer Activity Nat) : x.Allowed (system E H B) (terms D anyRegime) c := by
  have haccept : ∀ activity, (terms D anyRegime).accept activity := by
    intro activity
    cases activity with
    | request request => exact fun _ _ _ => trivial
    | alarm => trivial
  have hok : ∀ activity q a s, (terms D anyRegime).ok activity q a s := by
    intro activity q a s
    cases q with
    | coordinatorDecision txId => exact fun _ _ => trivial
    | currentBookmark use bookmark =>
      cases use with
      | checkpoint => exact False.elim
      | _ => trivial
    | writeHash => exact False.elim
    | _ => trivial
  cases x with
  | event now => exact False.elim
  | run a => cases a with
    | arrive activity => exact haccept activity
    | resume i ans => exact fun _ _ _ _ _ _ => hok _ _ _ _
  | crash a n => cases a with
    | arrive activity => exact haccept activity
    | resume i ans => exact fun _ _ _ _ _ _ => hok _ _ _ _

/-- a store as a predecessor left it, or an empty one -/
structure Started (s : Store D) : Prop where
  exact : s.participant.Exact
  unique : (s.locks.map (·.lockKey)).Nodup
  applied : s.applied = []
  barrier : s.barrier = .fresh

theorem Started.sound {s : Store D} (h : Started s) : s.participant.Sound where
  exact := h.exact
  unique := h.unique
  effects txId _ := by
    have happlied : s.participant.applied = [] := h.applied
    constructor
    · rw [happlied]
      exact Nat.zero_le 1
    · rw [happlied]
      nofun

/-- **A participant keeps its word**: in every state that a shard reaches its locks are the keys of
the prepared rows and no key is locked twice; a transaction of which no tombstone was dropped was
applied at most once, and not at all when its tombstone is an abort; and from then on a tombstone
stays as it is until it is dropped, and nothing it aborted is applied. -/
theorem participant_keeps_word (E : Engine D) (H : Digests) (B : Bindings) (s₀ : Store D)
    (h₀ : Started s₀) (xs ys : List (Choice Ask Ask.Answer Activity Nat)) (s s' : Store D)
    (hs : s = ((system E H B).run ⟨s₀, []⟩ xs).store)
    (hs' : s' = ((system E H B).run ⟨s₀, []⟩ (xs ++ ys)).store) :
    (∀ key txId, (∃ lock ∈ s.locks, lock.lockKey = key ∧ lock.coordinatorTxId = txId) ↔
      ∃ row ∈ s.pending, row.coordinatorTxId = txId ∧ row.status = .prepared ∧ key ∈ row.lockKeys) ∧
    (∀ row ∈ s.pending, ∀ row' ∈ s.pending, row.status = .prepared → row'.status = .prepared →
      (∃ key, key ∈ row.lockKeys ∧ key ∈ row'.lockKeys) →
        row.coordinatorTxId = row'.coordinatorTxId) ∧
    (∀ txId, txId ∉ s.pruned → s.applied.count txId ≤ 1 ∧
      ∀ record, s.tombstoneOf txId = some record → record.decision = .abort →
        s.applied.count txId = 0) ∧
    ∀ txId record, s.tombstoneOf txId = some record →
      s'.pruned.count txId = s.pruned.count txId → s'.tombstoneOf txId = some record ∧
        (record.decision = .abort → s'.applied.count txId = s.applied.count txId) := by
  have hgoverns := system_governs (E := E) (H := H) (B := B) (I := soundness E anyRegime)
    fun _ h => h
  obtain ⟨gs, hpast⟩ := hgoverns.run xs (follows_start h₀.sound h₀.barrier)
    (System.meets_of_forall _ allowed)
  have hsound : s.participant.Sound := hs ▸ hpast.inv.2
  have hkept : Participant.Kept s.participant s'.participant := by
    rw [hs, hs', System.run_append]
    exact (hist_kept _).run hgoverns ys hpast (System.meets_of_forall _ allowed)
  refine ⟨hsound.exact, ?_, fun txId hnot => ?_, fun txId record hr heq => (hkept txId).2 record hr heq⟩
  · rintro row hrow row' hrow' hp hp' ⟨key, hk, hk'⟩
    obtain ⟨lock, hlock, hkey, hid⟩ := (hsound.exact key _).mpr ⟨row, hrow, rfl, hp, hk⟩
    obtain ⟨lock', hlock', hkey', hid'⟩ := (hsound.exact key _).mpr ⟨row', hrow', rfl, hp', hk'⟩
    have heq := List.inj_on_of_nodup_map hsound.unique hlock hlock' (hkey.trans hkey'.symm)
    rw [← hid, ← hid', heq]
  · have heffects := hsound.effects txId hnot
    refine ⟨heffects.once, fun record hr habort => List.count_eq_zero.mpr fun happlied => ?_⟩
    obtain ⟨⟨record', hr', hcommit⟩, -⟩ := heffects.committed happlied
    cases hr.symm.trans hr'
    rw [habort] at hcommit
    cases hcommit

end

/-! ## a tombstone that was dropped -/

def abortArrives : List (Choice Ask Ask.Answer Activity Nat) :=
  served (.request (.abort (.versioned (plainMessage "t" .abort)) false)) 0 6

/-- the alarm drops the tombstone, and then the transaction is prepared and committed after all -/
def retentionEnds : List (Choice Ask Ask.Answer Activity Nat) :=
  .event (2 * participantTombstoneRetentionMs) :: served .alarm 1 8
    ++ served (.request (.prepare (.versioned (plainMessage "t" .prepare)) (some [plainIntent "1"])
      ⟨none, none⟩)) 2 8
    ++ served (.request (.commit (.versioned (plainMessage "t" .commit)))) 3 8

/-- **intents are applied after an abort tombstone**, once the tombstone was dropped -/
theorem aborted_then_applied :
    ((plainRun abortArrives).tombstoneOf "t").map (·.decision) = some .abort ∧
      (plainRun abortArrives).applied = [] ∧
      (plainRun (abortArrives ++ retentionEnds)).applied = ["t"] := by decide +kernel

def latePrepare : List (Choice Ask Ask.Answer Activity Nat) :=
  served (.request (.prepare (.versioned (plainMessage "t" .prepare)) (some [plainIntent "1"])
    ⟨none, none⟩)) 1 8

/-- a prepare that comes after the abort leaves the tombstone, and nothing is applied -/
theorem late_prepare_kept : (plainRun (abortArrives ++ latePrepare)).tombstoneOf "t" =
    some (newTombstone (plainMessage "t" .abort) .abort 0) ∧
      (plainRun (abortArrives ++ latePrepare)).applied.count "t" = 0 := by
  have hstart : Started (Store.empty 0) := ⟨fun _ _ => by simp [Store.empty, Store.participant],
    List.nodup_nil, rfl, rfl⟩
  have hkept := (participant_keeps_word countingEngine plainDigests plainBindings _ hstart
    abortArrives latePrepare (plainRun abortArrives) (plainRun (abortArrives ++ latePrepare)) rfl
    rfl).2.2.2 "t" (newTombstone (plainMessage "t" .abort) .abort 0) (by decide +kernel)
    (by decide +kernel)
  refine ⟨hkept.1, (hkept.2 rfl).trans ?_⟩
  decide +kernel

end Shard
