import CloudflareShard.ControlPlane.CatalogEvents

/-!
# The invariant of the snapshots

* `Taken`          the entries, the count and the rolling hash of a snapshot are those of its members
                   up to its cursor;
* `SnapshotsOk`    all snapshots are, and there is at most one that is being taken;
* `FloorsOk`       floors that were answered lie at or above the cutoffs there were;
* `SnapshotsOk.move`, `FloorsOk.move`   every move keeps them.
-/

namespace FleetCatalog
open Async Contracts Keyset

variable {L : CatalogLib} {d : Regime} {s s' : Store}

/-! ## lists of members -/

section
variable {events : List BucketEvent} {fence lo mid hi : Nat} {l l' : List Member}

theorem Listed.nil : Listed events fence lo [] lo := Covers.nil

theorem pageEnd_ge (h : ∀ m ∈ l, lo < m.activationSequence) : lo ≤ pageEnd lo l := by
  unfold pageEnd
  cases hl : l.getLast? with
  | none => exact le_rfl
  | some m => exact (h m (List.mem_of_getLast? hl)).le

theorem Listed.gt (h : Listed events fence lo l hi) : ∀ m ∈ l, lo < m.activationSequence :=
  fun m hm => WithBot.coe_lt_coe.mp ((h.mem m).mp hm).2.1

theorem Listed.le (h : Listed events fence lo l hi) : ∀ m ∈ l, m.activationSequence ≤ hi :=
  fun m hm => WithBot.coe_le_coe.mp ((h.mem m).mp hm).2.2

theorem Listed.live (h : Listed events fence lo l hi) : ∀ m ∈ l, m ∈ live events fence :=
  fun m hm => ((h.mem m).mp hm).1

theorem Listed.page (h : Listed events fence lo l mid)
    (h' : Listed events fence mid l' (pageEnd mid l')) :
    Listed events fence lo (l ++ l') (pageEnd mid l') ∨ mid < lo := by
  rcases le_or_gt lo mid with hle | hlt
  · left
    exact h.append h' (WithBot.coe_le_coe.mpr hle)
      (WithBot.coe_le_coe.mpr (pageEnd_ge (Listed.gt h')))
  · exact .inr hlt

/-- when no member lies behind the end, all are listed -/
theorem Listed.toAll (h : Listed events fence 0 l hi)
    (hend : ∀ m ∈ FleetCatalog.live events fence, m.activationSequence ≤ hi) :
    All events fence l where
  sorted := h.sorted
  mem m := by
    rw [h.mem]
    constructor
    · rintro ⟨hm, h₁, -⟩
      exact ⟨hm, h₁, WithBot.coe_le_coe.mpr hm.2.1⟩
    · rintro ⟨hm, h₁, -⟩
      exact ⟨hm, h₁, WithBot.coe_le_coe.mpr (hend m hm)⟩
  ready _ _ := trivial

/-- two members of one list with one number are the same -/
theorem Listed.inj (h : Listed events fence lo l hi) {m m' : Member} (hm : m ∈ l) (hm' : m' ∈ l)
    (he : m.activationSequence = m'.activationSequence) : m = m' := by
  have hne : l.Pairwise fun a b => a.activationSequence ≠ b.activationSequence :=
    h.sorted.imp ne_of_lt
  have hnodup : (l.map Member.activationSequence).Nodup := List.pairwise_map.mpr hne
  exact List.inj_on_of_nodup_map hnodup hm hm' he

end

/-! ## snapshots -/

variable (L) in
/-- the snapshot has come to its cursor, and holds the members `l` up to it -/
structure Taken (s : Store) (row : SnapshotRow) (l : List Member) : Prop where
  listed : Listed s.events row.fenceSequence 0 l row.cursorSequence
  entryCount : row.entryCount = l.length
  rollingHash : row.rollingHash = rollMembers L zeroHash l
  entries : ∀ m, m ∈ l ↔ ∃ e ∈ s.entries.rows, e.generation = row.generation ∧ e.member = m
  complete : ∀ hash atMs, row.status = .complete hash atMs →
    hash = certifiedHash L row l ∧
      ∀ m ∈ live s.events row.fenceSequence, m.activationSequence ≤ row.cursorSequence

variable (L) in
structure SnapshotsOk (s : Store) : Prop where
  begun : ∀ b ∈ s.begun, b.generation ≤ s.generation ∧ b.fenceSequence ≤ s.nextSequence ∧
    b.cutoffMs ≤ s.floorMs
  distinct : ∀ b ∈ s.begun, ∀ b' ∈ s.begun, b.generation = b'.generation → b = b'
  building : ∀ row ∈ s.snapshots.rows, row.isBuilding → row.generation = s.generation
  created : ∀ row ∈ s.snapshots.rows, ∃ b ∈ s.begun, row.Of b
  entries : ∀ e ∈ s.entries.rows, ∃ row ∈ s.snapshots.rows, row.generation = e.generation
  taken : ∀ row ∈ s.snapshots.rows, ∃ l, Taken L s row l

theorem SnapshotRow.Of.trans {row row' b : SnapshotRow} (h : row.Of row') (h' : row'.Of b) :
    row.Of b :=
  ⟨h.generation.trans h'.generation, h.cutoffMs.trans h'.cutoffMs,
    h.decisionFloorMs.trans h'.decisionFloorMs, h.fenceSequence.trans h'.fenceSequence,
    h.partitionConfigRootHash.trans h'.partitionConfigRootHash,
    h.priorSnapshotHash.trans h'.priorSnapshotHash⟩

theorem SnapshotRow.Of.hash {row b : SnapshotRow} (h : row.Of b) (l : List Member) :
    certifiedHash L row l = certifiedHash L b l := by
  rw [certifiedHash, certifiedHash, h.document]

namespace SnapshotsOk

/-- nothing but the snapshots, their entries and what happened up to their fences matters -/
theorem congr (h : SnapshotsOk L s) (hs : s'.snapshots = s.snapshots) (he : s'.entries = s.entries)
    (hb : s'.begun = s.begun) (hg : s'.generation = s.generation) (hn : s.nextSequence ≤ s'.nextSequence)
    (hf : s'.floorMs = s.floorMs)
    (hlive : ∀ fence ≤ s.nextSequence, live s'.events fence = live s.events fence) :
    SnapshotsOk L s' := by
  constructor
  · intro b hmem
    obtain ⟨h₁, h₂, h₃⟩ := h.begun b (hb ▸ hmem)
    exact ⟨hg ▸ h₁, h₂.trans hn, hf ▸ h₃⟩
  · rw [hb]
    exact h.distinct
  · rw [hs, hg]
    exact h.building
  · rw [hs, hb]
    exact h.created
  · rw [hs, he]
    exact h.entries
  · intro row hrow
    obtain ⟨l, ht⟩ := h.taken row (hs ▸ hrow)
    obtain ⟨b, hbm, hof⟩ := h.created row (hs ▸ hrow)
    have hle : row.fenceSequence ≤ s.nextSequence := hof.fenceSequence ▸ (h.begun b hbm).2.1
    refine ⟨l, ?_, ht.entryCount, ht.rollingHash, ?_, ?_⟩
    · show Covers _ _ (live s'.events row.fenceSequence) _ _ _
      rw [hlive _ hle]
      exact ht.listed
    · rw [he]
      exact ht.entries
    · rw [hlive _ hle]
      exact ht.complete

theorem congr_same (h : SnapshotsOk L s) (hs : s'.snapshots = s.snapshots)
    (he : s'.entries = s.entries) (hb : s'.begun = s.begun) (hg : s'.generation = s.generation)
    (hn : s'.nextSequence = s.nextSequence) (hf : s'.floorMs = s.floorMs)
    (hev : s'.events = s.events) : SnapshotsOk L s' :=
  h.congr hs he hb hg hn.ge hf fun _ _ => by rw [hev]

theorem beginSnapshot (h : SnapshotsOk L s) {m : Metadata} {request : SnapshotRequest} {nowMs : Nat}
    (hm : s.metadata = some m) (hb : ∀ row ∈ s.snapshots.rows, row.isBuilding = false) :
    SnapshotsOk L { s with
      metadata := some { m with
        decisionFloorMs := (newSnapshot request nowMs m).decisionFloorMs
        currentSnapshotGeneration := m.currentSnapshotGeneration + 1 }
      snapshots := s.snapshots.put (newSnapshot request nowMs m)
      begun := s.begun ++ [newSnapshot request nowMs m] } := by
  have hn : s.nextSequence = m.nextEventSequence := nextSequence_eq hm
  have hg : s.generation = m.currentSnapshotGeneration := generation_eq hm
  have hf : s.floorMs = m.decisionFloorMs := floorMs_eq hm
  have hgen : (newSnapshot request nowMs m).generation = m.currentSnapshotGeneration + 1 := rfl
  have old : ∀ row ∈ s.snapshots.rows, row.generation ≤ m.currentSnapshotGeneration := by
    intro row hrow
    obtain ⟨b, hbm, hof⟩ := h.created row hrow
    rw [hof.generation, ← hg]
    exact (h.begun b hbm).1
  constructor
  · intro b hbm
    rcases List.mem_append.mp hbm with hbm | hbm
    · obtain ⟨h₁, h₂, h₃⟩ := h.begun b hbm
      refine ⟨?_, ?_, ?_⟩
      · show b.generation ≤ m.currentSnapshotGeneration + 1
        omega
      · show b.fenceSequence ≤ m.nextEventSequence
        omega
      · show b.cutoffMs ≤ max m.decisionFloorMs request.cutoffMs
        omega
    · obtain rfl := List.mem_singleton.mp hbm
      exact ⟨le_rfl, le_rfl, le_max_right _ _⟩
  · intro b hbm b' hbm' he
    rcases List.mem_append.mp hbm with hbm | hbm <;> rcases List.mem_append.mp hbm' with hbm' | hbm'
    · exact h.distinct b hbm b' hbm' he
    · obtain rfl := List.mem_singleton.mp hbm'
      have := (h.begun b hbm).1
      omega
    · obtain rfl := List.mem_singleton.mp hbm
      have := (h.begun b' hbm').1
      omega
    · rw [List.mem_singleton.mp hbm, List.mem_singleton.mp hbm']
  · intro row hrow hbuild
    rcases Keyed.mem_put.mp hrow with rfl | ⟨hrow, -⟩
    · rfl
    · rw [hb row hrow] at hbuild
      cases hbuild
  · intro row hrow
    rcases Keyed.mem_put.mp hrow with rfl | ⟨hrow, -⟩
    · exact ⟨_, List.mem_append_right _ (List.mem_singleton.mpr rfl), .refl⟩
    · obtain ⟨b, hbm, hof⟩ := h.created row hrow
      exact ⟨b, List.mem_append_left _ hbm, hof⟩
  · intro e he
    obtain ⟨row, hrow, hk⟩ := h.entries e he
    refine ⟨row, Keyed.mem_put.mpr (.inr ⟨hrow, ?_⟩), hk⟩
    have := old row hrow
    show row.generation ≠ m.currentSnapshotGeneration + 1
    omega
  · intro row hrow
    rcases Keyed.mem_put.mp hrow with rfl | ⟨hrow, -⟩
    · refine ⟨[], Listed.nil, rfl, rfl, fun x => ?_, nofun⟩
      constructor
      · exact fun hx => nomatch hx
      · rintro ⟨e, he, hk, -⟩
        obtain ⟨row, hrow, hk'⟩ := h.entries e he
        have := old row hrow
        rw [hgen] at hk
        omega
    · obtain ⟨l, ht⟩ := h.taken row hrow
      exact ⟨l, ht.listed, ht.entryCount, ht.rollingHash, ht.entries, ht.complete⟩

/-- the entries after a page are those there were and those of the page -/
theorem mem_insertAll {entries : Keyed (Nat × Nat) SnapshotEntryRow fun row =>
    (row.generation, row.activationSequence)} {generation : Nat} {rows : List HistoryRow}
    {e : SnapshotEntryRow}
    (he : e ∈ (entries.insertAll (rows.map (HistoryRow.entryOf generation))).rows) :
    e ∈ entries.rows ∨ e.generation = generation ∧ e.member ∈ rows.map (·.member) := by
  have hfind := Keyed.find_of_mem he
  rw [Keyed.find_insertAll, Option.or_eq_some_iff] at hfind
  rcases hfind with hfind | ⟨-, hfind⟩
  · exact .inl (Keyed.mem_of_find hfind)
  · have hmem := List.mem_of_find?_eq_some hfind
    obtain ⟨row, hrow, rfl⟩ := List.mem_map.mp hmem
    exact .inr ⟨rfl, List.mem_map.mpr ⟨row, hrow, rfl⟩⟩

theorem page (h : SnapshotsOk L s) {current : SnapshotRow} {rows : List HistoryRow}
    {finalHash : Option Hash} {nowMs : Nat}
    (hfind : s.snapshots.find current.generation = some current)
    (hc : Listed s.events current.fenceSequence current.cursorSequence (rows.map (·.member))
      (pageEnd current.cursorSequence (rows.map (·.member))))
    (hf : ∀ hash, finalHash = some hash →
      hash = L.hash (.snapshot (snapshotDocument current (current.entryCount + rows.length)
        (rollMembers L current.rollingHash (rows.map (·.member))))) ∧
      ∀ m ∈ live s.events current.fenceSequence,
        m.activationSequence ≤ pageEnd current.cursorSequence (rows.map (·.member)))
    (hb : current.isBuilding) :
    SnapshotsOk L { s with
      entries := s.entries.insertAll (rows.map (HistoryRow.entryOf current.generation))
      snapshots := s.snapshots.put
        { current with
          cursorSequence := pageEnd current.cursorSequence (rows.map (·.member))
          entryCount := current.entryCount + rows.length
          rollingHash := rollMembers L current.rollingHash (rows.map (·.member))
          status := finalHash.elim .building fun hash => .complete hash nowMs }
      metadata := s.metadata.map fun m =>
        { m with lastSnapshotHash := finalHash.getD m.lastSnapshotHash } } := by
  have hmem := Keyed.mem_of_find hfind
  obtain ⟨l, ht⟩ := h.taken current hmem
  have hn : Store.nextSequence { s with
      metadata := s.metadata.map fun m =>
        { m with lastSnapshotHash := finalHash.getD m.lastSnapshotHash } } = s.nextSequence := by
    cases hm : s.metadata <;> simp [Store.nextSequence, hm]
  have hg : Store.generation { s with
      metadata := s.metadata.map fun m =>
        { m with lastSnapshotHash := finalHash.getD m.lastSnapshotHash } } = s.generation := by
    cases hm : s.metadata <;> simp [Store.generation, hm]
  have hfl : Store.floorMs { s with
      metadata := s.metadata.map fun m =>
        { m with lastSnapshotHash := finalHash.getD m.lastSnapshotHash } } = s.floorMs := by
    cases hm : s.metadata <;> simp [Store.floorMs, hm]
  have same : ∀ row ∈ s.snapshots.rows, row.generation = current.generation → row = current := by
    intro row hrow hk
    have := Keyed.find_of_mem hrow
    rw [hk, hfind] at this
    exact (Option.some.inj this).symm
  have happ : Listed s.events current.fenceSequence 0 (l ++ rows.map (·.member))
      (pageEnd current.cursorSequence (rows.map (·.member))) := by
    rcases Listed.page ht.listed hc with hp | hlt
    · exact hp
    · exact absurd hlt (Nat.not_lt_zero _)
  constructor
  · intro b hbm
    obtain ⟨h₁, h₂, h₃⟩ := h.begun b hbm
    exact ⟨h₁.trans hg.ge, h₂.trans hn.ge, h₃.trans hfl.ge⟩
  · exact h.distinct
  · intro row hrow hbuild
    refine Eq.trans ?_ hg.symm
    rcases Keyed.mem_put.mp hrow with rfl | ⟨hrow, -⟩
    · exact h.building current hmem hb
    · exact h.building row hrow hbuild
  · intro row hrow
    rcases Keyed.mem_put.mp hrow with rfl | ⟨hrow, -⟩
    · obtain ⟨b, hbm, hof⟩ := h.created current hmem
      exact ⟨b, hbm, hof.generation, hof.cutoffMs, hof.decisionFloorMs, hof.fenceSequence,
        hof.partitionConfigRootHash, hof.priorSnapshotHash⟩
    · exact h.created row hrow
  · intro e he
    have there : ∀ row ∈ s.snapshots.rows, ∃ row' ∈ (s.snapshots.put
        { current with
          cursorSequence := pageEnd current.cursorSequence (rows.map (·.member))
          entryCount := current.entryCount + rows.length
          rollingHash := rollMembers L current.rollingHash (rows.map (·.member))
          status := finalHash.elim .building fun hash => .complete hash nowMs }).rows,
        row'.generation = row.generation := by
      intro row hrow
      by_cases hk : row.generation = current.generation
      · exact ⟨_, Keyed.mem_put.mpr (.inl rfl), hk.symm⟩
      · exact ⟨row, Keyed.mem_put.mpr (.inr ⟨hrow, hk⟩), rfl⟩
    rcases mem_insertAll he with he | ⟨hk, -⟩
    · obtain ⟨row, hrow, hk⟩ := h.entries e he
      obtain ⟨row', hrow', hk'⟩ := there row hrow
      exact ⟨row', hrow', hk'.trans hk⟩
    · obtain ⟨row', hrow', hk'⟩ := there current hmem
      exact ⟨row', hrow', hk'.trans hk.symm⟩
  · intro row hrow
    rcases Keyed.mem_put.mp hrow with rfl | ⟨hrow, hne⟩
    · refine ⟨l ++ rows.map (·.member), happ, ?_, ?_, fun m => ?_, fun hash atMs hst => ?_⟩
      · show current.entryCount + rows.length = _
        rw [ht.entryCount, List.length_append, List.length_map]
      · show rollMembers L current.rollingHash (rows.map (·.member)) = _
        rw [ht.rollingHash, rollMembers_append]
      · rw [List.mem_append, ht.entries]
        constructor
        · rintro (⟨e, he, hk, rfl⟩ | hm)
          · have hin : (s.entries.insertAll (rows.map (HistoryRow.entryOf current.generation))).find
                (e.generation, e.activationSequence) = some e := by
              rw [Keyed.find_insertAll, Keyed.find_of_mem he]
              rfl
            exact ⟨e, Keyed.mem_of_find hin, hk, rfl⟩
          · -- a row of the page is found under its number, and no other is
            obtain ⟨r, hr, rfl⟩ := List.mem_map.mp hm
            cases hx : (s.entries.insertAll (rows.map (HistoryRow.entryOf current.generation))).find
                (current.generation, r.activationSequence) with
            | none =>
              rw [Keyed.find_insertAll, Option.or_eq_none_iff] at hx
              have := List.find?_eq_none.mp hx.2 _ (List.mem_map.mpr ⟨r, hr, rfl⟩)
              simp [HistoryRow.entryOf] at this
            | some e =>
              have hkey := Keyed.key_find hx
              obtain ⟨hk, hq⟩ := Prod.mk.inj hkey
              refine ⟨e, Keyed.mem_of_find hx, hk, ?_⟩
              rcases mem_insertAll (Keyed.mem_of_find hx) with he | ⟨-, he⟩
              · have hl := (ht.entries e.member).mpr ⟨e, he, hk, rfl⟩
                have h₁ := Listed.le ht.listed _ hl
                have h₂ := Listed.gt hc _ hm
                have h₃ : e.member.activationSequence = r.member.activationSequence := hq
                omega
              · exact Listed.inj hc he hm hq
        · rintro ⟨e, he, hk, rfl⟩
          rcases mem_insertAll he with he | ⟨-, he⟩
          · exact .inl ⟨e, he, hk, rfl⟩
          · exact .inr he
      · cases hfinal : finalHash with
        | none => simp [hfinal] at hst
        | some hash' =>
        simp only [hfinal, Option.elim_some, SnapshotStatus.complete.injEq] at hst
        obtain ⟨rfl, -⟩ := hst
        obtain ⟨h₁, h₂⟩ := hf hash' hfinal
        refine ⟨?_, h₂⟩
        rw [h₁, certifiedHash, rollMembers_append, ← ht.rollingHash, List.length_append,
          List.length_map, ← ht.entryCount]
        rfl
    · obtain ⟨l', ht'⟩ := h.taken row hrow
      refine ⟨l', ht'.listed, ht'.entryCount, ht'.rollingHash, fun m => ?_, ht'.complete⟩
      rw [ht'.entries]
      constructor
      · rintro ⟨e, he, hk, rfl⟩
        have hin : (s.entries.insertAll (rows.map (HistoryRow.entryOf current.generation))).find
            (e.generation, e.activationSequence) = some e := by
          rw [Keyed.find_insertAll, Keyed.find_of_mem he]
          rfl
        exact ⟨e, Keyed.mem_of_find hin, hk, rfl⟩
      · rintro ⟨e, he, hk, rfl⟩
        rcases mem_insertAll he with he | ⟨hk', -⟩
        · exact ⟨e, he, hk, rfl⟩
        · exact absurd (hk.symm.trans hk') hne

theorem dropSnapshot (h : SnapshotsOk L s) (generation : Nat) :
    SnapshotsOk L { s with
      entries := s.entries.deleteWhere (·.generation == generation)
      snapshots := s.snapshots.erase generation } := by
  refine ⟨h.begun, h.distinct, ?_, ?_, ?_, ?_⟩
  · exact fun r hr => h.building r (Keyed.mem_erase.mp hr).1
  · exact fun r hr => h.created r (Keyed.mem_erase.mp hr).1
  · intro e he
    obtain ⟨he, hk⟩ := Keyed.mem_deleteWhere.mp he
    obtain ⟨r, hr, hk'⟩ := h.entries e he
    refine ⟨r, Keyed.mem_erase.mpr ⟨hr, ?_⟩, hk'⟩
    rw [hk']
    simpa using hk
  · intro r hr
    obtain ⟨hr, hne⟩ := Keyed.mem_erase.mp hr
    obtain ⟨l, ht⟩ := h.taken r hr
    refine ⟨l, ht.listed, ht.entryCount, ht.rollingHash, fun x => ?_, ht.complete⟩
    rw [ht.entries]
    constructor
    · rintro ⟨e, he, hk, rfl⟩
      refine ⟨e, Keyed.mem_deleteWhere.mpr ⟨he, ?_⟩, hk, rfl⟩
      simpa [hk] using hne
    · rintro ⟨e, he, hk, rfl⟩
      exact ⟨e, (Keyed.mem_deleteWhere.mp he).1, hk, rfl⟩

theorem move (h : SnapshotsOk L s) (hm : Move L d s s') : SnapshotsOk L s' := by
  cases hm with
  | beginSnapshot m request nowMs hmeta hb => exact h.beginSnapshot hmeta hb
  | page current rows finalHash nowMs hfind hb hc hf => exact h.page hfind hc hf hb
  | dropSnapshot generation => exact h.dropSnapshot generation
  | activate m row entry hmeta =>
    have hn := nextSequence_eq hmeta
    refine h.congr rfl rfl rfl ?_ ?_ ?_ fun fence hle => live_append ?_
    · simp [Store.generation, hmeta]
    · show s.nextSequence ≤ m.nextEventSequence + 1
      omega
    · simp [Store.floorMs, hmeta]
    · show fence < m.nextEventSequence + 1
      omega
  | retire m bucket row certificateHash nowMs hmeta =>
    have hn := nextSequence_eq hmeta
    refine h.congr rfl rfl rfl ?_ ?_ ?_ fun fence hle => live_append ?_
    · simp [Store.generation, hmeta]
    · show s.nextSequence ≤ m.nextEventSequence + 1
      omega
    · simp [Store.floorMs, hmeta]
    · show fence < m.nextEventSequence + 1
      omega
  | create fleetId hash hnone =>
    refine h.congr_same rfl rfl rfl ?_ ?_ ?_ rfl
    · simp [Store.generation, hnone, Metadata.initial]
    · simp [Store.nextSequence, hnone, Metadata.initial]
    · simp [Store.floorMs, hnone, Metadata.initial]
  | configRoot hash =>
    refine h.congr_same rfl rfl rfl ?_ ?_ ?_ rfl
    · cases hmeta : s.metadata <;> simp [Store.generation, hmeta]
    · cases hmeta : s.metadata <;> simp [Store.nextSequence, hmeta]
    · cases hmeta : s.metadata <;> simp [Store.floorMs, hmeta]
  | assign txId m boundaryMs hmeta =>
    refine h.congr_same rfl rfl rfl ?_ ?_ ?_ rfl
    · simp [Store.generation, hmeta, Metadata.requireSince]
    · simp [Store.nextSequence, hmeta, Metadata.requireSince]
    · simp [Store.floorMs, hmeta, Metadata.requireSince]
  | grid day m hmeta =>
    refine h.congr_same rfl rfl rfl ?_ ?_ ?_ rfl
    · simp [Store.generation, hmeta]
    · simp [Store.nextSequence, hmeta]
    · simp [Store.floorMs, hmeta]
  | scanned day m first hmeta =>
    refine h.congr_same rfl rfl rfl ?_ ?_ ?_ rfl
    · simp [Store.generation, hmeta]
    · simp [Store.nextSequence, hmeta]
    · simp [Store.floorMs, hmeta]
  | admitLegacy commitDecidedAtMs m hmeta =>
    refine h.congr_same rfl rfl rfl ?_ ?_ ?_ rfl
    · simp [Store.generation, admitThrough, hmeta]
    · simp [Store.nextSequence, admitThrough, hmeta]
    · simp [Store.floorMs, admitThrough, hmeta]
  | _ => exact h.congr_same rfl rfl rfl rfl rfl rfl rfl

end SnapshotsOk

/-! ## floors -/

/-- every floor that was answered lies at or above the cutoffs there were -/
def FloorsOk (s : Store) : Prop :=
  ∀ f ∈ s.floors, f.snapshotGeneration ≤ s.generation ∧
    ∀ b ∈ s.begun, b.generation ≤ f.snapshotGeneration → b.cutoffMs ≤ f.requiredDecisionFloorMs

theorem FloorsOk.move (h : FloorsOk s) (hs : SnapshotsOk L s) (hm : Move L d s s') :
    FloorsOk s' := by
  have same : s'.floors = s.floors → s'.begun = s.begun → s'.generation = s.generation →
      FloorsOk s' := by
    intro hf hb hg f hmem
    rw [hb, hg]
    exact h f (hf ▸ hmem)
  cases hm with
  | answer m bucket hmeta =>
    intro f hmem
    rcases List.mem_append.mp hmem with hmem | hmem
    · exact h f hmem
    · obtain rfl := List.mem_singleton.mp hmem
      refine ⟨(generation_eq hmeta).ge, fun b hb _ => ?_⟩
      have hle := (hs.begun b hb).2.2
      rw [floorMs_eq hmeta] at hle
      exact hle.trans (le_max_left _ _)
  | beginSnapshot m request nowMs hmeta =>
    have hg := generation_eq hmeta
    intro f hmem
    obtain ⟨hle, hall⟩ := h f hmem
    refine ⟨?_, fun b hb hgen => ?_⟩
    · show f.snapshotGeneration ≤ m.currentSnapshotGeneration + 1
      omega
    · rcases List.mem_append.mp hb with hb | hb
      · exact hall b hb hgen
      · obtain rfl := List.mem_singleton.mp hb
        have hnew : m.currentSnapshotGeneration + 1 ≤ f.snapshotGeneration := hgen
        omega
  | page => exact same rfl rfl (by cases hmeta : s.metadata <;> simp [Store.generation, hmeta])
  | create _ _ hnone => exact same rfl rfl (by simp [Store.generation, hnone, Metadata.initial])
  | configRoot =>
    exact same rfl rfl (by cases hmeta : s.metadata <;> simp [Store.generation, hmeta])
  | assign _ _ _ hmeta =>
    exact same rfl rfl (by simp [Store.generation, hmeta, Metadata.requireSince])
  | grid _ _ hmeta => exact same rfl rfl (by simp [Store.generation, hmeta])
  | scanned _ _ _ hmeta => exact same rfl rfl (by simp [Store.generation, hmeta])
  | admitLegacy _ _ hmeta => exact same rfl rfl (by simp [Store.generation, admitThrough, hmeta])
  | activate _ _ _ hmeta => exact same rfl rfl (by simp [Store.generation, hmeta])
  | retire _ _ _ _ _ hmeta => exact same rfl rfl (by simp [Store.generation, hmeta])
  | _ => exact same rfl rfl rfl

end FleetCatalog
