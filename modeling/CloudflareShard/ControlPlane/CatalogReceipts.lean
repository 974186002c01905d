import CloudflareShard.ControlPlane.CatalogSnapshots

/-!
# The invariant of the closes

* `ClosesOk`         a close is about a snapshot that was taken, and holds it back from the purge;
* `Certified`        the progress of a close is that of the members up to its cursor, and a complete
                     close binds their receipts;
* `ReceiptsOk`       all closes are, when none was exchanged under a digest;
* `Inv`, `rules`     the invariant of the object, and the object by its moves.
-/

namespace FleetCatalog
open Async Contracts Keyset

variable {L : CatalogLib} {d : Regime} {s s' : Store}

abbrev ProgressTable := Keyed (Hash × Nat) ProgressRow fun row => (row.closeKey, row.activationSequence)

/-! ## closes -/

variable (L) in
structure ClosesOk (s : Store) : Prop where
  about : ∀ c ∈ s.closes.rows, ∃ created all, c.About L s created all
  settled : ∀ c ∈ s.closes.rows, ∀ r ∈ s.snapshots.rows, r.generation = c.snapshotGeneration →
    r.isBuilding = false
  progress : ∀ p ∈ s.progress.rows, ∃ c ∈ s.closes.rows, c.closeKey = p.closeKey

/-- what the close is about does not change -/
structure CloseRow.Same (c c' : CloseRow) : Prop where
  closeKey : c'.closeKey = c.closeKey
  snapshotGeneration : c'.snapshotGeneration = c.snapshotGeneration
  cutoffMs : c'.cutoffMs = c.cutoffMs
  totalEntries : c'.totalEntries = c.totalEntries
  snapshotHash : c'.snapshotHash = c.snapshotHash

theorem CloseRow.Same.refl {c : CloseRow} : c.Same c := ⟨rfl, rfl, rfl, rfl, rfl⟩

/-- snapshots that were begun stay on record, and so do their members -/
structure Extends (s s' : Store) : Prop where
  begun : ∀ b ∈ s.begun, b ∈ s'.begun
  live : ∀ b ∈ s.begun, live s'.events b.fenceSequence = live s.events b.fenceSequence

theorem Extends.of_eq (hb : s'.begun = s.begun) (he : s'.events = s.events) : Extends s s' :=
  ⟨fun _ h => hb ▸ h, fun _ _ => by rw [he]⟩

theorem Extends.trans {s'' : Store} (h : Extends s s') (h' : Extends s' s'') : Extends s s'' :=
  ⟨fun b hb => h'.begun b (h.begun b hb),
    fun b hb => (h'.live b (h.begun b hb)).trans (h.live b hb)⟩

theorem Extends.listed (h : Extends s s') {b : SnapshotRow} (hb : b ∈ s.begun) {lo hi : Nat}
    {l : List Member} (hl : Listed s.events b.fenceSequence lo l hi) :
    Listed s'.events b.fenceSequence lo l hi := by
  show Covers _ _ (FleetCatalog.live s'.events b.fenceSequence) _ _ _
  rw [h.live b hb]
  exact hl

theorem Extends.move (hs : SnapshotsOk L s) (hm : Move L d s s') : Extends s s' := by
  cases hm with
  | activate m row entry hmeta =>
    refine ⟨fun _ h => h, fun b hb => live_append ?_⟩
    have := (hs.begun b hb).2.1
    rw [nextSequence_eq hmeta] at this
    exact Nat.lt_succ_of_le this
  | retire m bucket row certificateHash nowMs hmeta =>
    refine ⟨fun _ h => h, fun b hb => live_append ?_⟩
    have := (hs.begun b hb).2.1
    rw [nextSequence_eq hmeta] at this
    exact Nat.lt_succ_of_le this
  | beginSnapshot => exact ⟨fun _ h => List.mem_append_left _ h, fun _ _ => rfl⟩
  | _ => exact .of_eq rfl rfl

theorem CloseRow.About.move {c c' : CloseRow} {created : SnapshotRow} {all : List Member}
    (h : c.About L s created all) (he : Extends s s') (hc : c.Same c') :
    c'.About L s' created all where
  begun := he.begun _ h.begun
  generation := hc.snapshotGeneration.trans h.generation
  cutoffMs := hc.cutoffMs.trans h.cutoffMs
  members := he.listed h.begun h.members
  totalEntries := hc.totalEntries.trans h.totalEntries
  hash := hc.snapshotHash.trans h.hash

namespace ClosesOk

/-- closes that are old ones up to their progress -/
theorem congr (h : ClosesOk L s) (he : Extends s s')
    (hc : ∀ c' ∈ s'.closes.rows, ∃ c ∈ s.closes.rows, c.Same c')
    (hs : ∀ r' ∈ s'.snapshots.rows, ∃ r ∈ s.snapshots.rows,
      r'.generation = r.generation ∧ (r'.isBuilding → r.isBuilding))
    (hp : ∀ p' ∈ s'.progress.rows, ∃ c' ∈ s'.closes.rows, c'.closeKey = p'.closeKey) :
    ClosesOk L s' where
  about c' hc' := by
    obtain ⟨c, hcm, hsame⟩ := hc c' hc'
    obtain ⟨created, all, ha⟩ := h.about c hcm
    exact ⟨created, all, ha.move he hsame⟩
  settled c' hc' r' hr' hk := by
    obtain ⟨c, hcm, hsame⟩ := hc c' hc'
    obtain ⟨r, hr, hg, hb⟩ := hs r' hr'
    have := h.settled c hcm r hr (hg.symm.trans (hk.trans hsame.snapshotGeneration))
    cases hb' : r'.isBuilding with
    | false => rfl
    | true => rw [hb hb'] at this; cases this
  progress := hp

theorem congr_same (h : ClosesOk L s) (he : Extends s s') (hc : s'.closes = s.closes)
    (hs : s'.snapshots = s.snapshots) (hp : s'.progress = s.progress) : ClosesOk L s' := by
  refine h.congr he (fun c' hc' => ⟨c', hc ▸ hc', .refl⟩) (fun r' hr' => ⟨r', hs ▸ hr', rfl, id⟩) ?_
  rw [hp, hc]
  exact h.progress

/-- the row of a key is replaced by one with the same key -/
theorem mem_put_same {t : Keyed Hash CloseRow CloseRow.closeKey} {c c' : CloseRow}
    (h : t.find c.closeKey = some c) (hs : c.Same c') {x : CloseRow} (hx : x ∈ (t.put c').rows) :
    ∃ y ∈ t.rows, y.Same x := by
  rcases Keyed.mem_put.mp hx with rfl | ⟨hx, -⟩
  · exact ⟨c, Keyed.mem_of_find h, hs⟩
  · exact ⟨x, hx, .refl⟩

theorem exists_put_same {t : Keyed Hash CloseRow CloseRow.closeKey} {c' : CloseRow} {key : Hash}
    (h : ∃ c ∈ t.rows, c.closeKey = key) : ∃ c ∈ (t.put c').rows, c.closeKey = key := by
  obtain ⟨c, hc, rfl⟩ := h
  by_cases hk : c.closeKey = c'.closeKey
  · exact ⟨c', Keyed.mem_put.mpr (.inl rfl), hk.symm⟩
  · exact ⟨c, Keyed.mem_put.mpr (.inr ⟨hc, hk⟩), rfl⟩

/-- progress after `INSERT OR IGNORE` is there already or pending -/
theorem mem_insertAll {progress : ProgressTable} {seen : CloseRow} {rows : List SnapshotEntryRow}
    {p : ProgressRow} (hp : p ∈ (progress.insertAll (rows.map (·.progressOf L seen))).rows) :
    p ∈ progress.rows ∨ progress.find (p.closeKey, p.activationSequence) = none ∧
      p.closeKey = seen.closeKey ∧ p.exactReceiptHash = none ∧
      p.activationSequence ∈ rows.map (·.activationSequence) := by
  have hfind := Keyed.find_of_mem hp
  rw [Keyed.find_insertAll, Option.or_eq_some_iff] at hfind
  rcases hfind with hfind | ⟨hnone, hfind⟩
  · exact .inl (Keyed.mem_of_find hfind)
  · obtain ⟨row, hrow, rfl⟩ := List.mem_map.mp (List.mem_of_find?_eq_some hfind)
    exact .inr ⟨hnone, rfl, rfl, List.mem_map.mpr ⟨row, hrow, rfl⟩⟩

theorem move (h : ClosesOk L s) (hsn : SnapshotsOk L s) (hm : Move L d s s') : ClosesOk L s' := by
  have he := Extends.move hsn hm
  cases hm with
  | beginSnapshot m request nowMs hmeta hb =>
    refine ⟨fun c hc => ?_, fun c hc r hr hk => ?_, h.progress⟩
    · obtain ⟨created, all, ha⟩ := h.about c hc
      exact ⟨created, all, ha.move he .refl⟩
    · rcases Keyed.mem_put.mp hr with rfl | ⟨hr, -⟩
      · -- the generation of a close is an older one
        obtain ⟨created, all, ha⟩ := h.about c hc
        have hle := (hsn.begun created ha.begun).1
        rw [generation_eq hmeta, ← ha.generation] at hle
        have hnew : m.currentSnapshotGeneration + 1 = c.snapshotGeneration := hk
        omega
      · exact hb r hr
  | page current rows finalHash nowMs hfind hb =>
    refine h.congr he (fun c hc => ⟨c, hc, .refl⟩) (fun r hr => ?_) h.progress
    rcases Keyed.mem_put.mp hr with rfl | ⟨hr, -⟩
    · exact ⟨current, Keyed.mem_of_find hfind, rfl, fun _ => hb⟩
    · exact ⟨r, hr, rfl, id⟩
  | beginClose row created all hn ha hs =>
    refine ⟨fun c hc => ?_, fun c hc => ?_, fun p hp => exists_put_same (h.progress p hp)⟩
    · rcases Keyed.mem_put.mp hc with rfl | ⟨hc, -⟩
      · exact ⟨created, all, ha.move he .refl⟩
      · obtain ⟨created, all, ha⟩ := h.about c hc
        exact ⟨created, all, ha.move he .refl⟩
    · rcases Keyed.mem_put.mp hc with rfl | ⟨hc, -⟩
      · exact hs
      · exact h.settled c hc
  | materialize current seen rows nowMs hfind hk =>
    refine h.congr he (fun c hc => mem_put_same hfind (by exact ⟨rfl, rfl, rfl, rfl, rfl⟩) hc)
      (fun r hr => ⟨r, hr, rfl, id⟩) fun p hp => ?_
    rcases mem_insertAll hp with hp | ⟨-, hpk, -⟩
    · exact exists_put_same (h.progress p hp)
    · exact ⟨_, Keyed.mem_put.mpr (.inl rfl), hk.symm.trans hpk.symm⟩
  | receipt p receipt nowMs hp =>
    have hmod : ∀ row : CloseRow, ({ row with
        completedEntries := row.completedEntries + 1, updatedAtMs := nowMs } : CloseRow).closeKey =
          row.closeKey := fun _ => rfl
    refine h.congr he (fun c hc => ?_) (fun r hr => ⟨r, hr, rfl, id⟩) fun p' hp' => ?_
    · rcases (Keyed.mem_modify hmod).mp hc with ⟨c₀, hc₀, -, rfl⟩ | ⟨hc, -⟩
      · exact ⟨c₀, hc₀, rfl, rfl, rfl, rfl, rfl⟩
      · exact ⟨c, hc, .refl⟩
    · obtain ⟨c, hc, hck⟩ : ∃ c ∈ s.closes.rows, c.closeKey = p'.closeKey := by
        rcases Keyed.mem_put.mp hp' with rfl | ⟨hp', -⟩
        · exact h.progress p hp
        · exact h.progress p' hp'
      by_cases hk : c.closeKey = p.closeKey
      · exact ⟨_, (Keyed.mem_modify hmod).mpr (.inl ⟨c, hc, hk, rfl⟩), hck⟩
      · exact ⟨c, (Keyed.mem_modify hmod).mpr (.inr ⟨hc, hk⟩), hck⟩
  | complete current root nowMs hfind =>
    exact h.congr he (fun c hc => mem_put_same hfind (by exact ⟨rfl, rfl, rfl, rfl, rfl⟩) hc)
      (fun r hr => ⟨r, hr, rfl, id⟩) fun p hp => exists_put_same (h.progress p hp)
  | dropClose key =>
    refine h.congr he (fun c hc => ⟨c, (Keyed.mem_erase.mp hc).1, .refl⟩)
      (fun r hr => ⟨r, hr, rfl, id⟩) fun p hp => ?_
    obtain ⟨hp, hne⟩ := Keyed.mem_deleteWhere.mp hp
    obtain ⟨c, hc, hk⟩ := h.progress p hp
    refine ⟨c, Keyed.mem_erase.mpr ⟨hc, ?_⟩, hk⟩
    rw [hk]
    simpa using hne
  | dropSnapshot generation =>
    exact h.congr he (fun c hc => ⟨c, hc, .refl⟩)
      (fun r hr => ⟨r, (Keyed.mem_erase.mp hr).1, rfl, id⟩) h.progress
  | _ => exact h.congr_same he rfl rfl rfl

end ClosesOk

/-! ## receipts -/

variable (L) in
/-- the close has come to its cursor, and has the progress of the members `l` up to it -/
structure Certified (s : Store) (c : CloseRow) (fence : Nat) (l : List Member) : Prop where
  listed : Listed s.events fence 0 l c.progressCursorSequence
  progress : ∀ q, q ∈ l.map Member.activationSequence ↔
    ∃ p ∈ s.progress.rows, p.closeKey = c.closeKey ∧ p.activationSequence = q
  completed : c.completedEntries =
    s.progress.count fun p => p.closeKey == c.closeKey && p.exactReceiptHash.isSome
  complete : ∀ root, c.status = .complete root →
    root = L.hash (.fleetRoot (fleetRoot c (s.receipts c.closeKey))) ∧
      c.completedEntries = c.totalEntries ∧
        ∀ m ∈ live s.events fence, m.activationSequence ≤ c.progressCursorSequence

/-- the progress of a close that both tables have in common -/
def SameProgress (t t' : ProgressTable) (key : Hash) : Prop :=
  ∀ p : ProgressRow, p.closeKey = key → (p ∈ t'.rows ↔ p ∈ t.rows)

theorem SameProgress.count {t t' : ProgressTable} {key : Hash} (h : SameProgress t t' key) :
    (t'.count fun p => p.closeKey == key && p.exactReceiptHash.isSome) =
      t.count fun p => p.closeKey == key && p.exactReceiptHash.isSome := by
  refine Keyed.count_congr fun p hp => h p ?_
  simp only [Bool.and_eq_true, beq_iff_eq] at hp
  exact hp.1

theorem SameProgress.receipts {key : Hash} (h : SameProgress s.progress s'.progress key) :
    s'.receipts key = s.receipts key := by
  unfold Store.receipts
  rw [Keyed.ordered_congr fun p hp => h p (by simpa using hp)]
  intro p hp p' hp' hk hk' he
  have hkey : (p.closeKey, p.activationSequence) = (p'.closeKey, p'.activationSequence) := by
    rw [he, show p.closeKey = key by simpa using hk, show p'.closeKey = key by simpa using hk']
  exact List.inj_on_of_nodup_map s.progress.nodup hp hp' hkey

namespace Certified
variable {c c' : CloseRow} {created : SnapshotRow} {fence : Nat} {l all : List Member}

theorem congr (h : Certified L s c fence l) (hl : live s'.events fence = live s.events fence)
    (hs : c.Same c') (hcur : c'.progressCursorSequence = c.progressCursorSequence)
    (hcom : c'.completedEntries = c.completedEntries) (hst : c'.status = c.status)
    (hp : SameProgress s.progress s'.progress c.closeKey) : Certified L s' c' fence l where
  listed := by
    show Covers _ _ (live s'.events fence) _ _ _
    rw [hl, hcur]
    exact h.listed
  progress q := by
    rw [h.progress, hs.closeKey]
    constructor
    · rintro ⟨p, hpm, hk, rfl⟩
      exact ⟨p, (hp p hk).mpr hpm, hk, rfl⟩
    · rintro ⟨p, hpm, hk, rfl⟩
      exact ⟨p, (hp p hk).mp hpm, hk, rfl⟩
  completed := by rw [hcom, h.completed, hs.closeKey, hp.count]
  complete root hroot := by
    obtain ⟨h₁, h₂, h₃⟩ := h.complete root (hst ▸ hroot)
    refine ⟨?_, ?_, ?_⟩
    · rw [h₁, hs.closeKey, hp.receipts]
      simp only [fleetRoot, hs.closeKey, hs.cutoffMs, hs.snapshotGeneration, hs.snapshotHash]
    · rw [hcom, hs.totalEntries, h₂]
    · rw [hl, hcur]
      exact h₃

/-- a close has one row of progress for each member up to its cursor -/
theorem count_key (h : Certified L s c fence l) :
    (s.progress.count fun p => p.closeKey == c.closeKey) = l.length := by
  have hl : (l.map Member.activationSequence).Nodup := by
    refine List.pairwise_map.mpr (h.listed.sorted.imp ?_)
    exact fun hlt => Nat.ne_of_lt hlt
  have hp : ((s.progress.rows.filter fun p => p.closeKey == c.closeKey).map
      (·.activationSequence)).Nodup := by
    refine List.Nodup.map_on (fun p hp p' hp' he => ?_) ((Keyed.nodup_rows _).filter _)
    obtain ⟨hp, hk⟩ := List.mem_filter.mp hp
    obtain ⟨hp', hk'⟩ := List.mem_filter.mp hp'
    have hkey : (p.closeKey, p.activationSequence) = (p'.closeKey, p'.activationSequence) := by
      rw [he, eq_of_beq hk, eq_of_beq hk']
    exact List.inj_on_of_nodup_map s.progress.nodup hp hp' hkey
  have hperm : (l.map Member.activationSequence).Perm
      ((s.progress.rows.filter fun p => p.closeKey == c.closeKey).map (·.activationSequence)) :=
    (List.perm_ext_iff_of_nodup hl hp).mpr fun q => by
      rw [h.progress]
      simp only [List.mem_map, List.mem_filter, beq_iff_eq, and_assoc]
  have := hperm.length_eq
  rw [List.length_map, List.length_map] at this
  exact this.symm

theorem receipts_le (s : Store) (key : Hash) :
    (s.progress.count fun p => p.closeKey == key && p.exactReceiptHash.isSome) ≤
      s.progress.count fun p => p.closeKey == key := by
  refine (List.monotone_filter_right _ fun p hp => ?_).length_le
  simp only [Bool.and_eq_true] at hp
  exact hp.1

/-- as many receipts as rows: every row has one -/
theorem receipts_of_count {key : Hash}
    (h : (s.progress.count fun p => p.closeKey == key && p.exactReceiptHash.isSome) =
      s.progress.count fun p => p.closeKey == key) :
    ∀ p ∈ s.progress.rows, p.closeKey = key → p.exactReceiptHash.isSome := by
  have hsub : (s.progress.rows.filter fun p => p.closeKey == key && p.exactReceiptHash.isSome).Sublist
      (s.progress.rows.filter fun p => p.closeKey == key) := by
    refine List.monotone_filter_right _ fun p hp => ?_
    simp only [Bool.and_eq_true] at hp
    exact hp.1
  intro p hp hk
  have hmem : p ∈ s.progress.rows.filter fun p => p.closeKey == key :=
    List.mem_filter.mpr ⟨hp, by simpa using hk⟩
  rw [← hsub.eq_of_length h] at hmem
  have := (List.mem_filter.mp hmem).2
  simp only [Bool.and_eq_true] at this
  exact this.2

theorem subset_all (h : Certified L s c created.fenceSequence l) (ha : c.About L s created all) :
    ∀ m ∈ l, m ∈ all := by
  intro m hm
  refine (ha.members.mem m).mpr ⟨Listed.live h.listed m hm, ((h.listed.mem m).mp hm).2.1, ?_⟩
  exact WithBot.coe_le_coe.mpr (Listed.live h.listed m hm).2.1

/-- a complete close is about all members -/
theorem eq_all (h : Certified L s c created.fenceSequence l) (ha : c.About L s created all)
    {root : Hash} (hst : c.status = .complete root) : l = all :=
  Covers.unique (Listed.toAll h.listed (h.complete root hst).2.2) ha.members

theorem receipts_all (h : Certified L s c created.fenceSequence l) (ha : c.About L s created all)
    {root : Hash} (hst : c.status = .complete root) :
    ∀ p ∈ s.progress.rows, p.closeKey = c.closeKey → p.exactReceiptHash.isSome := by
  refine receipts_of_count ?_
  rw [← h.completed, h.count_key, (h.complete root hst).2.1, ha.totalEntries, h.eq_all ha hst]

end Certified

variable (L) in
def ReceiptsOk (s : Store) : Prop :=
  ∀ c ∈ s.closes.rows, ∀ b ∈ s.begun, b.generation = c.snapshotGeneration →
    ∃ l, Certified L s c b.fenceSequence l

namespace ReceiptsOk

/-- the other closes go on as they are -/
theorem other (h : ReceiptsOk L s) (hsn : SnapshotsOk L s) (hcl : ClosesOk L s) (he : Extends s s')
    {c c' : CloseRow} (hc : c ∈ s.closes.rows) (hs : c.Same c')
    (hcur : c'.progressCursorSequence = c.progressCursorSequence)
    (hcom : c'.completedEntries = c.completedEntries) (hst : c'.status = c.status)
    (hp : SameProgress s.progress s'.progress c.closeKey)
    (hb : ∀ b ∈ s'.begun, b.generation ≤ s.generation → b ∈ s.begun)
    {b : SnapshotRow} (hbm : b ∈ s'.begun) (hg : b.generation = c'.snapshotGeneration) :
    ∃ l, Certified L s' c' b.fenceSequence l := by
  obtain ⟨created, all, ha⟩ := hcl.about c hc
  have hg' : b.generation = c.snapshotGeneration := hg.trans hs.snapshotGeneration
  have hle : b.generation ≤ s.generation := by
    rw [hg', ha.generation]
    exact (hsn.begun created ha.begun).1
  have hold := hb b hbm hle
  obtain ⟨l, hl⟩ := h c hc b hold hg'
  exact ⟨l, hl.congr (he.live b hold) hs hcur hcom hst hp⟩

theorem congr_same (h : ReceiptsOk L s) (hsn : SnapshotsOk L s) (hcl : ClosesOk L s)
    (he : Extends s s') (hc : s'.closes = s.closes) (hp : s'.progress = s.progress)
    (hb : ∀ b ∈ s'.begun, b.generation ≤ s.generation → b ∈ s.begun) : ReceiptsOk L s' := by
  intro c hcm b hbm hg
  exact h.other hsn hcl he (hc ▸ hcm) .refl rfl rfl rfl (fun p _ => by rw [hp]) hb hbm hg

theorem beginClose (h : ReceiptsOk L s) (hsn : SnapshotsOk L s) (hcl : ClosesOk L s) {row : CloseRow}
    (hn : s.closes.find row.closeKey = none) (hp : row.isPending)
    (hcur : row.progressCursorSequence = 0) (hcom : row.completedEntries = 0) :
    ReceiptsOk L { s with closes := s.closes.put row } := by
  intro c hc b hb hg
  rcases Keyed.mem_put.mp hc with rfl | ⟨hc, -⟩
  · -- progress of this key would have a close
    have hnone : ∀ p ∈ s.progress.rows, p.closeKey ≠ c.closeKey := by
      intro p hpm hk
      obtain ⟨c', hc', hk'⟩ := hcl.progress p hpm
      exact Keyed.find_eq_none.mp hn c' hc' (hk'.trans hk)
    refine ⟨[], ?_, fun q => ?_, ?_, fun root hroot => ?_⟩
    · rw [hcur]
      exact Listed.nil
    · constructor
      · exact fun hq => nomatch hq
      · rintro ⟨p, hpm, hk, -⟩
        exact absurd hk (hnone p hpm)
    · rw [hcom]
      symm
      refine List.length_eq_zero_iff.mpr (List.filter_eq_nil_iff.mpr fun p hpm => ?_)
      have := hnone p hpm
      simp [this]
    · simp [CloseRow.isPending, hroot] at hp
  · exact h.other hsn hcl (by exact .of_eq rfl rfl) hc .refl rfl rfl rfl (by exact fun _ _ => .rfl)
      (by exact fun _ h _ => h) hb hg

theorem materialize (h : ReceiptsOk L s) (hsn : SnapshotsOk L s) (hcl : ClosesOk L s)
    {current seen : CloseRow} {rows : List SnapshotEntryRow} {nowMs : Nat}
    (hfind : s.closes.find current.closeKey = some current) (hk : seen.closeKey = current.closeKey)
    (hc : ∀ created ∈ s.begun, created.generation = current.snapshotGeneration →
      Listed s.events created.fenceSequence current.progressCursorSequence (rows.map (·.member))
        (pageEnd current.progressCursorSequence (rows.map (·.member)))) :
    ReceiptsOk L { s with
      progress := s.progress.insertAll (rows.map (·.progressOf L seen))
      closes := s.closes.put
        { current with
          progressCursorSequence := pageEnd current.progressCursorSequence (rows.map (·.member))
          updatedAtMs := nowMs } } := by
  have keep : ∀ p ∈ s.progress.rows,
      p ∈ (s.progress.insertAll (rows.map (·.progressOf L seen))).rows := by
    intro p hp
    have : (s.progress.insertAll (rows.map (·.progressOf L seen))).find
        (p.closeKey, p.activationSequence) = some p := by
      rw [Keyed.find_insertAll, Keyed.find_of_mem hp]
      rfl
    exact Keyed.mem_of_find this
  intro c hcm b hb hg
  rcases Keyed.mem_put.mp hcm with rfl | ⟨hcm, hne⟩
  · obtain ⟨l, hl⟩ := h current (Keyed.mem_of_find hfind) b hb hg
    have hpage := hc b hb hg
    have happ : Listed s.events b.fenceSequence 0 (l ++ rows.map (·.member))
        (pageEnd current.progressCursorSequence (rows.map (·.member))) := by
      rcases Listed.page hl.listed hpage with hp | hlt
      · exact hp
      · exact absurd hlt (Nat.not_lt_zero _)
    refine ⟨l ++ rows.map (·.member), happ, fun q => ?_, ?_, fun root hroot => ?_⟩
    · rw [List.map_append, List.mem_append, hl.progress]
      constructor
      · rintro (⟨p, hp, hpk, rfl⟩ | hq)
        · exact ⟨p, keep p hp, hpk, rfl⟩
        · obtain ⟨m, hm, rfl⟩ := List.mem_map.mp hq
          obtain ⟨r, hr, rfl⟩ := List.mem_map.mp hm
          cases hx : (s.progress.insertAll (rows.map (·.progressOf L seen))).find
              (current.closeKey, r.activationSequence) with
          | none =>
            rw [Keyed.find_insertAll, Option.or_eq_none_iff] at hx
            have := List.find?_eq_none.mp hx.2 _ (List.mem_map.mpr ⟨r, hr, rfl⟩)
            simp [SnapshotEntryRow.progressOf, hk] at this
          | some p =>
            have hkey := Keyed.key_find hx
            obtain ⟨hpk, hpq⟩ := Prod.mk.inj hkey
            exact ⟨p, Keyed.mem_of_find hx, hpk, hpq⟩
      · rintro ⟨p, hp, hpk, rfl⟩
        rcases ClosesOk.mem_insertAll hp with hp | ⟨-, -, -, hq⟩
        · exact .inl ⟨p, hp, hpk, rfl⟩
        · right
          rw [List.map_map]
          exact hq
    · -- the new rows have no receipts
      refine hl.completed.trans (Keyed.count_congr fun p hp => ?_).symm
      simp only [Bool.and_eq_true] at hp
      constructor
      · intro hpm
        rcases ClosesOk.mem_insertAll hpm with hpm | ⟨-, -, hno, -⟩
        · exact hpm
        · rw [hno] at hp
          exact absurd hp.2 (by simp)
      · exact keep p
    · obtain ⟨h₁, h₂, h₃⟩ := hl.complete root hroot
      -- nothing is left behind the cursor of a complete close
      have hnil : rows = [] := by
        cases rows with
        | nil => rfl
        | cons r rows =>
          have hm : r.member ∈ (r :: rows).map (·.member) := by simp
          have hlt := Listed.gt hpage _ hm
          have hle := h₃ _ (Listed.live hpage _ hm)
          omega
      subst hnil
      exact ⟨h₁, h₂, h₃⟩
  · have hsame : SameProgress s.progress
        (s.progress.insertAll (rows.map (·.progressOf L seen))) c.closeKey := by
      refine fun p hpk => ⟨fun hp => ?_, keep p⟩
      rcases ClosesOk.mem_insertAll hp with hp | ⟨-, hseen, -, -⟩
      · exact hp
      · exact absurd (hpk.symm.trans (hseen.trans hk)) hne
    exact h.other hsn hcl (by exact .of_eq rfl rfl) hcm .refl rfl rfl rfl hsame
      (by exact fun _ h _ => h) hb hg

theorem receipt (h : ReceiptsOk L s) (hsn : SnapshotsOk L s) (hcl : ClosesOk L s) {p : ProgressRow}
    {receipt : Hash} {nowMs : Nat} (hpm : p ∈ s.progress.rows) (hn : p.exactReceiptHash = none) :
    ReceiptsOk L { s with
      progress := s.progress.put { p with exactReceiptHash := some receipt }
      closes := s.closes.modify p.closeKey fun row =>
        { row with completedEntries := row.completedEntries + 1, updatedAtMs := nowMs } } := by
  have mem : ∀ p' : ProgressRow,
      p' ∈ (s.progress.put { p with exactReceiptHash := some receipt }).rows ↔
        p' = { p with exactReceiptHash := some receipt } ∨ p' ∈ s.progress.rows ∧
          ¬(p'.closeKey = p.closeKey ∧ p'.activationSequence = p.activationSequence) := by
    intro p'
    rw [Keyed.mem_put]
    simp only [ne_eq, Prod.mk.injEq]
  have only : ∀ p' ∈ s.progress.rows, p'.closeKey = p.closeKey →
      p'.activationSequence = p.activationSequence → p' = p := by
    intro p' hp' hk hq
    exact List.inj_on_of_nodup_map s.progress.nodup hp' hpm (Prod.ext hk hq)
  intro c hc b hb hg
  rcases (Keyed.mem_modify (by exact fun _ => rfl)).mp hc with ⟨c, hold, hk, rfl⟩ | ⟨hc, hne⟩
  · clear hc
    have hc := hold
    obtain ⟨created, all, ha⟩ := hcl.about c hc
    obtain ⟨l, hl⟩ := h c hc b hb hg
    obtain rfl : b = created := hsn.distinct b hb created ha.begun (hg.trans ha.generation)
    refine ⟨l, hl.listed, fun q => ?_, ?_, fun root hroot => ?_⟩
    · rw [hl.progress]
      constructor
      · rintro ⟨p', hp', hk', rfl⟩
        by_cases hq : p'.activationSequence = p.activationSequence
        · exact ⟨_, (mem _).mpr (.inl rfl), hk.symm, hq.symm⟩
        · exact ⟨p', (mem _).mpr (.inr ⟨hp', fun h => hq h.2⟩), hk', rfl⟩
      · rintro ⟨p', hp', hk', rfl⟩
        rcases (mem _).mp hp' with rfl | ⟨hp', -⟩
        · exact ⟨p, hpm, hk', rfl⟩
        · exact ⟨p', hp', hk', rfl⟩
    · -- one row more has a receipt
      show c.completedEntries + 1 = _
      rw [hl.completed, hk]
      have hperm : ((s.progress.put { p with exactReceiptHash := some receipt }).rows.filter
          fun p' => p'.closeKey == p.closeKey && p'.exactReceiptHash.isSome).Perm
          ({ p with exactReceiptHash := some receipt } :: s.progress.rows.filter
            fun p' => p'.closeKey == p.closeKey && p'.exactReceiptHash.isSome) := by
        have hnot : { p with exactReceiptHash := some receipt } ∉ s.progress.rows := by
          intro hin
          have := only _ hin rfl rfl
          have hr := congrArg ProgressRow.exactReceiptHash this
          rw [hn] at hr
          cases hr
        refine (List.perm_ext_iff_of_nodup ((Keyed.nodup_rows _).filter _) ?_).mpr fun p' => ?_
        · refine List.nodup_cons.mpr ⟨fun hin => hnot (List.mem_filter.mp hin).1, ?_⟩
          exact (Keyed.nodup_rows _).filter _
        · rw [List.mem_cons, List.mem_filter, List.mem_filter, mem]
          constructor
          · rintro ⟨rfl | ⟨hp', -⟩, hf⟩
            · exact .inl rfl
            · exact .inr ⟨hp', hf⟩
          · rintro (rfl | ⟨hp', hf⟩)
            · exact ⟨.inl rfl, by simp⟩
            · refine ⟨.inr ⟨hp', fun hsame => ?_⟩, hf⟩
              obtain rfl := only p' hp' hsame.1 hsame.2
              simp [hn] at hf
      exact hperm.length_eq.symm
    · -- every row of a complete close has its receipt
      have := hl.receipts_all ha hroot p hpm hk.symm
      rw [hn] at this
      cases this
  · have hsame : SameProgress s.progress
        (s.progress.put { p with exactReceiptHash := some receipt }) c.closeKey := by
      intro p' hk'
      rw [mem]
      constructor
      · rintro (rfl | ⟨hp', -⟩)
        · exact absurd hk'.symm hne
        · exact hp'
      · exact fun hp' => .inr ⟨hp', fun hsame => hne (hk'.symm.trans hsame.1)⟩
    exact h.other hsn hcl (by exact .of_eq rfl rfl) hc .refl rfl rfl rfl hsame
      (by exact fun _ h _ => h) hb hg

theorem complete (h : ReceiptsOk L s) (hsn : SnapshotsOk L s) (hcl : ClosesOk L s)
    (hev : EventsOk s) {current : CloseRow} {root : Hash} {nowMs : Nat}
    (hfind : s.closes.find current.closeKey = some current)
    (hc : (s.progress.count fun p => p.closeKey == current.closeKey && p.exactReceiptHash.isSome) =
      current.totalEntries)
    (hr : root = L.hash (.fleetRoot (fleetRoot current (s.receipts current.closeKey)))) :
    ReceiptsOk L { s with
      closes := s.closes.put { current with status := .complete root, updatedAtMs := nowMs } } := by
  intro c hcm b hb hg
  rcases Keyed.mem_put.mp hcm with rfl | ⟨hcm, -⟩
  · have hmem := Keyed.mem_of_find hfind
    obtain ⟨created, all, ha⟩ := hcl.about current hmem
    obtain ⟨l, hl⟩ := h current hmem b hb hg
    obtain rfl : b = created := hsn.distinct b hb created ha.begun (hg.trans ha.generation)
    refine ⟨l, hl.listed, hl.progress, hl.completed, fun root' hroot => ?_⟩
    cases hroot
    refine ⟨hr, hl.completed.trans hc, fun m hm => ?_⟩
    -- there are as many rows with receipts as members, so all members are there
    have hle := Certified.receipts_le s current.closeKey
    rw [hc, hl.count_key, ha.totalEntries] at hle
    have hnodup : l.Nodup := hl.listed.sorted.imp fun {x y} hlt => by
      rintro rfl
      exact lt_irrefl _ hlt
    have hperm := (List.subperm_of_subset hnodup (hl.subset_all ha)).perm_of_length_le hle
    have hin : m ∈ all := (ha.members.mem m).mpr
      ⟨hm, WithBot.coe_lt_coe.mpr (hev.positive _ hm.1), WithBot.coe_le_coe.mpr hm.2.1⟩
    exact Listed.le hl.listed m (hperm.mem_iff.mpr hin)
  · exact h.other hsn hcl (by exact .of_eq rfl rfl) hcm .refl rfl rfl rfl
      (by exact fun _ _ => .rfl) (by exact fun _ h _ => h) hb hg

theorem move (h : ReceiptsOk L s) (hd : d.careful) (hev : EventsOk s) (hsn : SnapshotsOk L s)
    (hcl : ClosesOk L s) (hm : Move L d s s') : ReceiptsOk L s' := by
  have he := Extends.move hsn hm
  cases hm with
  | beginSnapshot m request nowMs hmeta =>
    refine h.congr_same hsn hcl he rfl rfl fun b hb hle => ?_
    rcases List.mem_append.mp hb with hb | hb
    · exact hb
    · obtain rfl := List.mem_singleton.mp hb
      rw [generation_eq hmeta] at hle
      exact absurd hle (Nat.not_succ_le_self _)
  | beginClose row created all hn _ _ hp hcur hcom => exact h.beginClose hsn hcl hn hp hcur hcom
  | materialize current seen rows nowMs hfind hk hc => exact h.materialize hsn hcl hfind hk (hc hd)
  | receipt p receipt nowMs hp hn => exact h.receipt hsn hcl hp hn
  | complete current root nowMs hfind hp hc hr => exact h.complete hsn hcl hev hfind hc (hr hd)
  | dropClose key =>
    intro c hcm b hb hg
    obtain ⟨hcm, hne⟩ := Keyed.mem_erase.mp hcm
    refine h.other hsn hcl he hcm .refl rfl rfl rfl (fun p hk => ?_) (fun _ h _ => h) hb hg
    constructor
    · exact fun hp => (Keyed.mem_deleteWhere.mp hp).1
    · intro hp
      refine Keyed.mem_deleteWhere.mpr ⟨hp, ?_⟩
      rw [hk]
      simpa using hne
  | _ => exact h.congr_same hsn hcl he rfl rfl fun _ hb _ => hb

end ReceiptsOk

/-! ## the object -/

variable (L d) in
structure Inv (s : Store) : Prop where
  events : EventsOk s
  snapshots : SnapshotsOk L s
  floors : FloorsOk s
  closes : ClosesOk L s
  receipts : d.careful → ReceiptsOk L s

theorem Inv.move (h : Inv L d s) (hm : Move L d s s') : Inv L d s' :=
  ⟨h.events.move hm, h.snapshots.move hm, h.floors.move h.snapshots hm, h.closes.move h.snapshots hm,
    fun hd => (h.receipts hd).move hd h.events h.snapshots h.closes hm⟩

theorem Inv.section (h : Inv L d s) (hm : Section L d s s') : Inv L d s' := by
  induction hm with
  | refl => exact h
  | tail _ hm ih => exact ih.move hm

theorem Inv.initial (now : Nat) : Inv L d (.initial now) where
  events := by constructor <;> exact nofun
  snapshots := by constructor <;> exact nofun
  floors := nofun
  closes := by constructor <;> exact nofun
  receipts _ := nofun

variable (L d) in
def rules : Rules Store where
  inv := Inv L d
  move := Section L d
  move_refl _ := .refl
  inv_move := Inv.section

/-- a fact that no move takes away is stable -/
theorem stable_of_move {F : Store → Prop}
    (h : ∀ {s s'}, Inv L d s → Move L d s s' → F s → F s') : (rules L d).Stable F := by
  intro s s' hi hm hF
  have : Inv L d s' ∧ F s' := by
    induction hm with
    | refl => exact ⟨hi, hF⟩
    | tail _ hm ih => exact ⟨ih.1.move hm, h ih.1 hm ih.2⟩
  exact this.2

end FleetCatalog
