import CloudflareShard.ControlPlane.CatalogFollows

/-!
# Snapshots and closes make sections

* `SnapshotRead`, `PageRead`, `Done`   what a suspended method knows of what it has read;
* `commitSnapshot_section`, `materializeSync_section`, `completeSync_section`   the transactions
                                       behind their digests;
* `purgeHistory_ok`, `alarm_ok`        collections and wake-ups;
* `obeys`                              **the object only makes sections**.
-/

namespace FleetCatalog
open Async Contracts Keyset

variable {L : CatalogLib} {d : Regime} {s : Store} {α β : Type}

/-! ## pages of members -/

/-- a page of a sorted list of all members behind the cursor -/
theorem take_listed {events : List BucketEvent} {fence cursor : Nat} {l : List Member}
    (hl : l.Pairwise fun a b => a.activationSequence < b.activationSequence)
    (hmem : ∀ m, m ∈ l ↔ m ∈ live events fence ∧ cursor < m.activationSequence) (limit : Nat) :
    Listed events fence cursor (l.take limit) (pageEnd cursor (l.take limit)) ∧
      (l.length ≤ limit → ∀ m ∈ live events fence,
        m.activationSequence ≤ pageEnd cursor (l.take limit)) := by
  have hcov := Covers.take hl limit (fun m hm => WithBot.coe_lt_coe.mpr ((hmem m).mp hm).2)
    fun _ _ => trivial
  rw [reached_eq] at hcov
  have hlist : Listed events fence cursor (l.take limit) (pageEnd cursor (l.take limit)) := by
    refine ⟨hcov.sorted, fun m => ?_, fun _ _ => trivial⟩
    rw [hcov.mem]
    constructor
    · rintro ⟨hm, h₁, h₂⟩
      exact ⟨((hmem m).mp hm).1, h₁, h₂⟩
    · rintro ⟨hm, h₁, h₂⟩
      exact ⟨(hmem m).mpr ⟨hm, WithBot.coe_lt_coe.mp h₁⟩, h₁, h₂⟩
  refine ⟨hlist, fun hle m hm => ?_⟩
  rw [List.take_of_length_le hle] at hlist ⊢
  rcases Nat.lt_or_ge cursor m.activationSequence with hlt | hge
  · exact Listed.le hlist m ((hmem m).mpr ⟨hm, hlt⟩)
  · exact hge.trans (pageEnd_ge (Listed.gt hlist))

theorem pageEnd_map {R : Type} (f : R → Member) (cursor : Nat) (rows : List R) :
    pageEnd cursor (rows.map f) = (rows.getLast?.map fun r => (f r).activationSequence).getD cursor := by
  unfold pageEnd
  rw [List.getLast?_map, Option.map_map]
  rfl

/-! ## snapshots -/

/-- what `resumeSnapshot` has read: the members behind the cursor of its snapshot, up to a page -/
structure SnapshotRead (L : CatalogLib) (snapshot : SnapshotRow) (rows : List HistoryRow)
    (hasMore : Bool) (s : Store) : Prop where
  read : ∃ created ∈ s.begun, snapshot.Of created ∧ ∃ l,
    Listed s.events created.fenceSequence 0 l snapshot.cursorSequence ∧
    snapshot.entryCount = l.length ∧ snapshot.rollingHash = rollMembers L zeroHash l ∧
    Listed s.events created.fenceSequence snapshot.cursorSequence (rows.map (·.member))
      (pageEnd snapshot.cursorSequence (rows.map (·.member))) ∧
    (hasMore = false → ∀ m ∈ live s.events created.fenceSequence,
      m.activationSequence ≤ pageEnd snapshot.cursorSequence (rows.map (·.member)))

theorem snapshotRead_stable (snapshot : SnapshotRow) (rows : List HistoryRow) (hasMore : Bool) :
    (rules L d).Stable (SnapshotRead L snapshot rows hasMore) := by
  refine stable_of_move fun {s s'} hi hm h => ?_
  have he := Extends.move hi.snapshots hm
  obtain ⟨created, hc, hof, l, h₁, h₂, h₃, h₄, h₅⟩ := h.read
  refine ⟨created, he.begun created hc, hof, l, he.listed hc h₁, h₂, h₃, he.listed hc h₄, ?_⟩
  rw [he.live created hc]
  exact h₅

theorem snapshotRead (hi : Inv L d s) {snapshot : SnapshotRow} {generation : Nat}
    (hfind : s.snapshots.find generation = some snapshot) (hb : snapshot.isBuilding) (limit : Nat) :
    SnapshotRead L snapshot ((s.snapshotCandidates snapshot limit).take limit)
      (decide ((s.snapshotCandidates snapshot limit).length > limit)) s := by
  have hmem := Keyed.mem_of_find hfind
  obtain ⟨created, hc, hof⟩ := hi.snapshots.created snapshot hmem
  obtain ⟨l, ht⟩ := hi.snapshots.taken snapshot hmem
  have hf := hof.fenceSequence
  set all := s.history.ordered (fun row => decide (snapshot.cursorSequence < row.activationSequence)
    && row.activeAt snapshot.fenceSequence) HistoryRow.activationSequence with hall
  have hcand : s.snapshotCandidates snapshot limit = all.take (limit + 1) := rfl
  have hsorted : (all.map (·.member)).Pairwise
      fun a b => a.activationSequence < b.activationSequence := by
    refine List.pairwise_map.mpr ?_
    refine (Keyed.ordered_pairwise.and Keyed.ordered_nodup).imp_of_mem fun {a b} ha hb hab => ?_
    refine lt_of_le_of_ne hab.1 fun he => hab.2 ?_
    exact List.inj_on_of_nodup_map s.history.nodup (Keyed.mem_ordered.mp ha).1
      (Keyed.mem_ordered.mp hb).1 he
  have hmemall : ∀ m, m ∈ all.map (·.member) ↔
      m ∈ live s.events snapshot.fenceSequence ∧ snapshot.cursorSequence < m.activationSequence := by
    intro m
    constructor
    · intro hm
      obtain ⟨row, hrow, rfl⟩ := List.mem_map.mp hm
      obtain ⟨hrow, hp⟩ := Keyed.mem_ordered.mp hrow
      simp only [Bool.and_eq_true, decide_eq_true_eq] at hp
      exact ⟨(hi.events.activeAt hrow).mp hp.2, hp.1⟩
    · rintro ⟨hm, hlt⟩
      obtain ⟨row, hrow, rfl⟩ := hi.events.held snapshot hmem hb m hm
      refine List.mem_map.mpr ⟨row, Keyed.mem_ordered.mpr ⟨hrow, ?_⟩, rfl⟩
      simp only [Bool.and_eq_true, decide_eq_true_eq]
      exact ⟨hlt, (hi.events.activeAt hrow).mpr hm⟩
  obtain ⟨hlist, hend⟩ := take_listed hsorted hmemall limit
  rw [hf] at hlist hend
  have hpage : ((s.snapshotCandidates snapshot limit).take limit).map (·.member) =
      (all.map (·.member)).take limit := by
    rw [hcand, List.take_take, Nat.min_eq_left (Nat.le_succ limit), List.map_take]
  refine ⟨created, hc, hof, l, hf ▸ ht.listed, ht.entryCount, ht.rollingHash, ?_, fun hno => ?_⟩
  · rw [hpage]
    exact hlist
  · rw [hpage]
    refine hend ?_
    rw [hcand, List.length_take] at hno
    rw [List.length_map]
    have hno := of_decide_eq_false hno
    omega

theorem digestEntries_ok {rows : List HistoryRow} : ∀ {rollingHash : Hash} {s : Store},
    Ok L d (digestEntries L rows rollingHash)
      (fun a _ => a = rollMembers L rollingHash (rows.map (·.member))) s := by
  induction rows with
  | nil => exact fun {_ _} => .pure rfl
  | cons row rows ih =>
    intro rollingHash s
    refine digest_ok.bind fun a s₁ _ ha => ?_
    subst ha
    exact ih

theorem commitSnapshot_section {seen : SnapshotRow} {rows : List HistoryRow} {hasMore : Bool}
    {finalHash : Option Hash} {nowMs : Nat} {a : SnapshotRow} {s' : Store} (hi : Inv L d s)
    (hr : SnapshotRead L seen rows hasMore s)
    (hf : ∀ hash, finalHash = some hash → hasMore = false ∧
      hash = L.hash (.snapshot (snapshotDocument seen (seen.entryCount + rows.length)
        (rollMembers L seen.rollingHash (rows.map (·.member))))))
    (h : commitSnapshot seen rows (rollMembers L seen.rollingHash (rows.map (·.member))) finalHash
      nowMs s = .ok (a, s')) : Section L d s s' := by
  unfold commitSnapshot at h
  cases hfind : s.snapshots.find seen.generation with
  | none => simp [hfind, one, bind, Except.bind] at h
  | some current =>
    simp only [hfind, one, bind, Except.bind, pure, Except.pure] at h
    split at h
    · cases h
      exact .refl
    · rename_i hb
      split at h
      · cases h
        exact .refl
      · rename_i hsame
        rw [not_or, not_not, not_not] at hsame
        obtain ⟨hcursor, hroot⟩ := hsame
        have hb : current.isBuilding = true := by simpa using hb
        have hmem := Keyed.mem_of_find hfind
        have hgen : current.generation = seen.generation := Keyed.key_find hfind
        obtain ⟨created, hc, hof, l, h₁, h₂, h₃, h₄, h₅⟩ := hr.read
        obtain ⟨created', hc', hof'⟩ := hi.snapshots.created current hmem
        obtain rfl : created' = created := hi.snapshots.distinct created' hc' created hc
          (hof'.generation.symm.trans (hgen.trans hof.generation))
        obtain ⟨l', ht⟩ := hi.snapshots.taken current hmem
        have hfence : current.fenceSequence = created'.fenceSequence := hof'.fenceSequence
        -- the same cursor has the same members behind it
        have hl : l' = l := by
          refine Covers.unique ?_ h₁
          have := ht.listed
          rwa [hfence, hcursor] at this
        have hcount : current.entryCount = seen.entryCount := by rw [ht.entryCount, h₂, hl]
        cases h
        have hpage : (rows.getLast?.map (·.activationSequence)).getD seen.cursorSequence =
            pageEnd current.cursorSequence (rows.map (·.member)) := by
          rw [pageEnd_map, hcursor]
          rfl
        rw [hpage, ← hroot, ← hcount, ← hgen]
        refine .one (.page current rows finalHash nowMs (hgen ▸ hfind) hb ?_ fun hash hfinal => ?_)
        · rw [hfence, hcursor]
          exact h₄
        · obtain ⟨hmore, hhash⟩ := hf hash hfinal
          have hdoc : ∀ count root, snapshotDocument seen count root =
              snapshotDocument current count root := by
            intro count root
            rw [hof.document, hof'.document]
          refine ⟨?_, ?_⟩
          · rw [hhash, hdoc, hcount, hroot]
          · rw [hfence, hcursor]
            exact h₅ hmore

theorem takeSnapshot_ok {snapshot : SnapshotRow} {rows : List HistoryRow} {hasMore : Bool}
    {nowMs : Nat} (h : SnapshotRead L snapshot rows hasMore s) :
    Ok L d (takeSnapshot L snapshot rows hasMore nowMs) (fun _ _ => True) s := by
  refine digestEntries_ok.later.bind fun rolling s₁ _ h₁ => ?_
  obtain ⟨rfl, hl₁⟩ := h₁
  have hr₁ := Rules.Stable.later (snapshotRead_stable snapshot rows hasMore) hl₁ h
  dsimp only
  split
  · refine (transact_ok fun a s' hi h => ?_).done
    refine commitSnapshot_section hi hr₁ (fun hash he => ?_) h
    cases he
  · rename_i hmore
    have hmore : hasMore = false := by simpa using hmore
    refine digest_ok.later.bind fun hash s₂ _ h₂ => ?_
    obtain ⟨rfl, hl₂⟩ := h₂
    have hr₂ := Rules.Stable.later (snapshotRead_stable snapshot rows hasMore) hl₂ hr₁
    refine (transact_ok fun a s' hi h => ?_).done
    refine commitSnapshot_section hi hr₂ (fun hash he => ⟨hmore, ?_⟩) h
    cases he
    rfl

theorem resumeSnapshot_ok {generation : Nat} {size : Option Nat} {nowMs : Nat} :
    Ok L d (resumeSnapshot L generation size nowMs) (fun _ _ => True) s := by
  refine pageSize_ok.bind fun limit s₁ _ h₁ => ?_
  subst h₁
  refine oneSnapshot_ok.bind fun snapshot s₂ _ h₂ => ?_
  obtain ⟨rfl, hfind⟩ := h₂
  split
  · exact .pure trivial
  · rename_i hb
    have hb : snapshot.isBuilding = true := by simpa using hb
    refine Rules.Does.of_inv fun hi => gets_ok.bind fun candidates s₃ _ h₃ => ?_
    obtain ⟨rfl, rfl⟩ := h₃
    exact takeSnapshot_ok (snapshotRead hi hfind hb limit)

theorem beginSnapshot_section {request : SnapshotRequest} {nowMs generation : Nat} {s' : Store}
    (h : beginSnapshot request nowMs s = .ok (generation, s')) : Section L d s s' := by
  unfold beginSnapshot at h
  split at h
  · split at h
    · cases h
    · cases h
      exact .refl
  · split at h
    · cases h
    · rename_i hnone
      cases hmeta : s.metadata with
      | none => simp [Store.meta, hmeta, one, bind, Except.bind] at h
      | some m =>
        simp only [Store.meta, hmeta, one, bind, Except.bind, pure, Except.pure] at h
        cases h
        refine .one (.beginSnapshot m request nowMs hmeta fun row hrow => ?_)
        simpa using List.find?_eq_none.mp hnone row hrow

theorem takeThrough_ok {request : SnapshotRequest} :
    Ok L d (takeThrough L request) (fun _ _ => True) s := by
  refine gets_ok.bind fun nowMs s₁ _ _ => require_ok.bind fun _ s₂ _ _ => ?_
  refine assertText_ok.bind fun _ s₃ _ _ => require_ok.bind fun _ s₄ _ _ => ?_
  refine pageSize_ok.bind fun limit s₅ _ _ => ?_
  refine (awaited_done ensureFleet_ok).bind fun _ s₆ _ _ => ?_
  refine (transact_ok fun _ _ _ h => beginSnapshot_section h).bind fun generation s₇ _ _ => ?_
  exact resumeSnapshot_ok

/-! ## reads -/

theorem snapshotEntries_ok {generation afterSequence : Nat} {size : Option Nat} :
    Ok L d (snapshotEntries generation afterSequence size)
      (fun rows s' => s' = s ∧ ∃ limit, rows = s.snapshotEntries generation afterSequence limit) s := by
  refine pageSize_ok.bind fun limit s₁ _ h₁ => require_ok.bind fun _ s₂ _ h₂ => ?_
  obtain rfl := h₁
  obtain ⟨rfl, -⟩ := h₂
  exact gets_ok.mono fun rows _ h => ⟨h.1, limit, h.2⟩

theorem snapshotByGeneration_ok {generation : Nat} :
    Ok L d (snapshotByGeneration generation) (fun _ _ => True) s :=
  require_ok.bind fun _ _ _ _ => oneSnapshot_ok.done

theorem closeByKey_ok {closeKey : Hash} : Ok L d (closeByKey closeKey) (fun _ _ => True) s :=
  assertHash_ok.bind fun _ _ _ _ => gets_ok.done

theorem enumerationEntries_ok {generation : Nat} {closeKey : Hash} {after : WithBot (ℕ ×ₗ ℕ)}
    {size : Option Nat} :
    Ok L d (enumerationEntries generation closeKey after size) (fun _ _ => True) s :=
  assertHash_ok.bind fun _ _ _ _ => pageSize_ok.bind fun _ _ _ _ => gets_ok.done

theorem closeProgress_ok {closeKey : Hash} {afterSequence : Nat} {size : Option Nat} :
    Ok L d (closeProgress closeKey afterSequence size) (fun _ _ => True) s :=
  assertHash_ok.bind fun _ _ _ _ => pageSize_ok.bind fun _ _ _ _ => gets_ok.done

theorem purgeCursors_ok {now : Nat} : Ok L d (sync (Store.purgeCursors now)) (fun _ _ => True) s :=
  (sync_ok fun _ => unseen_section).done

theorem scheduleCursorGc_ok {fireAtMs : Nat} :
    Ok L d (scheduleCursorGc L fireAtMs) (fun _ _ => True) s :=
  digest_ok.bind fun _ _ _ _ => schedulePurpose_ok.bind fun _ _ _ _ => armNextAlarm_ok

theorem issueEnumerationCursor_ok {cursor : EnumerationCursor} {evidence : List EvidencePin} :
    Ok L d (issueEnumerationCursor L cursor evidence) (fun _ _ => True) s := by
  refine gets_ok.bind fun now s₁ _ _ => purgeCursors_ok.bind fun existing s₂ _ _ => ?_
  refine scheduleCursorGc_ok.bind fun _ s₃ _ _ => ?_
  refine (Rules.Does.modify fun _ => unseen_section).bind fun _ s₄ _ _ => ?_
  refine purgeCursors_ok.bind fun next s₅ _ _ => ?_
  cases next with
  | none => exact .pure trivial
  | some next => exact scheduleCursorGc_ok

theorem enumerationCursorEvidence_ok {cursor : EnumerationCursor} :
    Ok L d (enumerationCursorEvidence cursor) (fun _ _ => True) s := by
  refine gets_ok.bind fun now s₁ _ _ => purgeCursors_ok.bind fun _ s₂ _ _ => ?_
  exact gets_ok.done

/-! ## closes -/

/-- what `beginClose` has read: a snapshot that is complete, with all its members -/
structure Done (L : CatalogLib) (snapshot : SnapshotRow) (hash : Hash) (s : Store) : Prop where
  read : ∃ created ∈ s.begun, snapshot.generation = created.generation ∧
    snapshot.cutoffMs = created.cutoffMs ∧ ∃ all, All s.events created.fenceSequence all ∧
      snapshot.entryCount = all.length ∧ hash = certifiedHash L created all
  settled : ∀ r ∈ s.snapshots.rows, r.generation = snapshot.generation → r.isBuilding = false

theorem done_stable (snapshot : SnapshotRow) (hash : Hash) :
    (rules L d).Stable (Done L snapshot hash) := by
  refine stable_of_move fun {s s'} hi hm h => ?_
  have he := Extends.move hi.snapshots hm
  obtain ⟨created, hc, hg, hcut, all, hall, hcount, hhash⟩ := h.read
  have hread : ∃ created ∈ s'.begun, snapshot.generation = created.generation ∧
      snapshot.cutoffMs = created.cutoffMs ∧ ∃ all, All s'.events created.fenceSequence all ∧
        snapshot.entryCount = all.length ∧ hash = certifiedHash L created all :=
    ⟨created, he.begun created hc, hg, hcut, all, he.listed hc hall, hcount, hhash⟩
  have hold : snapshot.generation ≤ s.generation := hg ▸ (hi.snapshots.begun created hc).1
  cases hm with
  | beginSnapshot m request nowMs hmeta hb =>
    refine ⟨hread, fun r hr hk => ?_⟩
    rcases Keyed.mem_put.mp hr with rfl | ⟨hr, -⟩
    · have hnew : m.currentSnapshotGeneration + 1 = snapshot.generation := hk
      rw [generation_eq hmeta] at hold
      omega
    · exact h.settled r hr hk
  | page current rows finalHash nowMs hfind hb =>
    refine ⟨hread, fun r hr hk => ?_⟩
    rcases Keyed.mem_put.mp hr with rfl | ⟨hr, -⟩
    · have := h.settled current (Keyed.mem_of_find hfind) hk
      rw [hb] at this
      cases this
    · exact h.settled r hr hk
  | dropSnapshot generation =>
    exact ⟨hread, fun r hr hk => h.settled r (Keyed.mem_erase.mp hr).1 hk⟩
  | _ => exact ⟨hread, h.settled⟩

theorem done (hi : Inv L d s) {snapshot : SnapshotRow} {generation : Nat} {hash : Hash}
    (hfind : s.snapshots.find generation = some snapshot)
    (hh : snapshot.snapshotHash = some hash) : Done L snapshot hash s := by
  have hmem := Keyed.mem_of_find hfind
  obtain ⟨created, hc, hof⟩ := hi.snapshots.created snapshot hmem
  obtain ⟨l, ht⟩ := hi.snapshots.taken snapshot hmem
  cases hst : snapshot.status with
  | building => simp [SnapshotRow.snapshotHash, hst] at hh
  | complete hash' atMs =>
    obtain rfl : hash' = hash := by simpa [SnapshotRow.snapshotHash, hst] using hh
    obtain ⟨hhash, hend⟩ := ht.complete hash' atMs hst
    have hall := Listed.toAll ht.listed hend
    refine ⟨⟨created, hc, hof.generation, hof.cutoffMs, l, ?_, ht.entryCount, ?_⟩, fun r hr hk => ?_⟩
    · rwa [← hof.fenceSequence]
    · rw [hhash, hof.hash]
    · have := Keyed.find_of_mem hr
      rw [hk, Keyed.find_of_mem hmem] at this
      cases this
      simp [SnapshotRow.isBuilding, hst]

theorem beginClose_ok {fleetId : String} {cutoffMs generation : Nat} :
    Ok L d (beginClose L fleetId cutoffMs generation) (fun _ _ => True) s := by
  refine gets_ok.bind fun now s₁ _ _ => (awaited_done ensureFleet_ok).bind fun _ s₂ _ _ => ?_
  refine oneSnapshot_ok.bind fun snapshot s₃ _ h₃ => ?_
  obtain ⟨rfl, hfind⟩ := h₃
  cases hh : snapshot.snapshotHash with
  | none => exact .throw
  | some hash =>
    refine Rules.Does.of_inv fun hi => ?_
    refine require_ok.bind fun _ s₄ _ h₄ => ?_
    obtain ⟨rfl, -⟩ := h₄
    refine digest_ok.later.bind fun key s₅ _ h₅ => ?_
    have hd := Rules.Stable.later (done_stable snapshot hash) h₅.2 (done hi hfind hh)
    refine (sync_ok fun hi => ?_).done
    unfold beginCloseSync
    split
    · exact .refl
    · rename_i hnone
      obtain ⟨created, hc, hg, hcut, all, hall, hcount, hhash⟩ := hd.read
      exact .one (.beginClose _ created all hnone ⟨hc, hg, hcut, hall, hcount, hhash⟩ hd.settled rfl
        rfl rfl)

/-- what `materializeCloseProgress` has read: members behind the cursor of the close, up to a page -/
def PageRead (seen : CloseRow) (rows : List SnapshotEntryRow) (s : Store) : Prop :=
  ∃ created ∈ s.begun, created.generation = seen.snapshotGeneration ∧
    Listed s.events created.fenceSequence seen.progressCursorSequence (rows.map (·.member))
      (pageEnd seen.progressCursorSequence (rows.map (·.member)))

theorem pageRead_stable (seen : CloseRow) (rows : List SnapshotEntryRow) :
    (rules L d).Stable (PageRead seen rows) := by
  refine stable_of_move fun {s s'} hi hm h => ?_
  have he := Extends.move hi.snapshots hm
  obtain ⟨created, hc, hg, hl⟩ := h
  exact ⟨created, he.begun created hc, hg, he.listed hc hl⟩

theorem pageRead (hi : Inv L d s) {seen : CloseRow} (hc : seen ∈ s.closes.rows) (limit : Nat) :
    PageRead seen (s.snapshotEntries seen.snapshotGeneration seen.progressCursorSequence limit) s := by
  obtain ⟨created, all, ha⟩ := hi.closes.about seen hc
  refine ⟨created, ha.begun, ha.generation.symm, ?_⟩
  set entries := s.entries.ordered (fun row => row.generation == seen.snapshotGeneration &&
    decide (seen.progressCursorSequence < row.activationSequence))
      SnapshotEntryRow.activationSequence with hentries
  have hrows : s.snapshotEntries seen.snapshotGeneration seen.progressCursorSequence limit =
      entries.take limit := rfl
  have hmem : ∀ e, e ∈ entries ↔ e ∈ s.entries.rows ∧ e.generation = seen.snapshotGeneration ∧
      seen.progressCursorSequence < e.activationSequence := by
    intro e
    rw [Keyed.mem_ordered]
    simp only [Bool.and_eq_true, beq_iff_eq, decide_eq_true_eq]
  by_cases hrow : ∃ row ∈ s.snapshots.rows, row.generation = seen.snapshotGeneration
  · obtain ⟨row, hrow, hk⟩ := hrow
    obtain ⟨l, ht⟩ := hi.snapshots.taken row hrow
    obtain ⟨b, hb, hof⟩ := hi.snapshots.created row hrow
    obtain rfl : b = created := hi.snapshots.distinct b hb created ha.begun
      (hof.generation.symm.trans (hk.trans ha.generation))
    have hbuild := hi.closes.settled seen hc row hrow hk
    obtain ⟨hash, atMs, hst⟩ : ∃ hash atMs, row.status = .complete hash atMs := by
      cases hst : row.status with
      | building => simp [SnapshotRow.isBuilding, hst] at hbuild
      | complete hash atMs => exact ⟨hash, atMs, rfl⟩
    have hend := (ht.complete hash atMs hst).2
    have hsorted : (entries.map (·.member)).Pairwise
        fun a b => a.activationSequence < b.activationSequence := by
      refine List.pairwise_map.mpr ?_
      refine (Keyed.ordered_pairwise.and Keyed.ordered_nodup).imp_of_mem fun {a b} ha hb hab => ?_
      refine lt_of_le_of_ne hab.1 fun (he : a.activationSequence = b.activationSequence) => hab.2 ?_
      obtain ⟨ha, hga, -⟩ := (hmem a).mp ha
      obtain ⟨hb, hgb, -⟩ := (hmem b).mp hb
      have hkey : (a.generation, a.activationSequence) = (b.generation, b.activationSequence) := by
        rw [hga, hgb, he]
      exact List.inj_on_of_nodup_map s.entries.nodup ha hb hkey
    have hlive : ∀ m, m ∈ entries.map (·.member) ↔ m ∈ live s.events b.fenceSequence ∧
        seen.progressCursorSequence < m.activationSequence := by
      intro m
      rw [← hof.fenceSequence]
      constructor
      · intro hm
        obtain ⟨e, he, rfl⟩ := List.mem_map.mp hm
        obtain ⟨he, hg, hlt⟩ := (hmem e).mp he
        exact ⟨Listed.live ht.listed _ ((ht.entries _).mpr ⟨e, he, hg.trans hk.symm, rfl⟩), hlt⟩
      · rintro ⟨hm, hlt⟩
        have hl : m ∈ l := (ht.listed.mem m).mpr ⟨hm,
          WithBot.coe_lt_coe.mpr (hi.events.positive _ hm.1), WithBot.coe_le_coe.mpr (hend m hm)⟩
        obtain ⟨e, he, hg, rfl⟩ := (ht.entries m).mp hl
        exact List.mem_map.mpr ⟨e, (hmem e).mpr ⟨he, hg.trans hk, hlt⟩, rfl⟩
    rw [hrows, List.map_take]
    exact (take_listed hsorted hlive limit).1
  · -- the snapshot has been deleted before the close was recorded, and its entries with it
    have hnil : entries = [] := by
      refine List.eq_nil_iff_forall_not_mem.mpr fun e he => ?_
      obtain ⟨he, hg, -⟩ := (hmem e).mp he
      obtain ⟨row, hrow', hk⟩ := hi.snapshots.entries e he
      exact hrow ⟨row, hrow', hk.trans hg⟩
    rw [hrows, hnil, List.take_nil]
    exact Listed.nil

theorem digestCloseKeys_ok {operation : CloseRow} {rows : List SnapshotEntryRow} :
    ∀ {s : Store}, Ok L d (digestCloseKeys L operation rows) (fun _ _ => True) s := by
  induction rows with
  | nil => exact fun {_} => .pure trivial
  | cons row rows ih => exact digest_ok.bind fun _ _ _ _ => ih

theorem materializeSync_section {seen : CloseRow} {rows : List SnapshotEntryRow} {nowMs : Nat}
    {a : CloseRow} {s' : Store} (hi : Inv L d s) (hr : PageRead seen rows s)
    (ha : Allows d (.closeKeys seen) () s) (h : materializeSync L seen rows nowMs s = .ok (a, s')) :
    Section L d s s' := by
  unfold materializeSync at h
  cases hfind : s.closes.find seen.closeKey with
  | none => simp [hfind, one, bind, Except.bind] at h
  | some current =>
    simp only [hfind, one, bind, Except.bind, pure, Except.pure] at h
    split at h
    · cases h
      exact .refl
    · rename_i hcursor
      have hcursor := not_not.mp hcursor
      have hkey : current.closeKey = seen.closeKey := Keyed.key_find hfind
      cases h
      have hend : (rows.getLast?.map (·.activationSequence)).getD current.progressCursorSequence =
          pageEnd current.progressCursorSequence (rows.map (·.member)) := by
        rw [pageEnd_map]
        rfl
      rw [hend]
      refine .one (.materialize current seen rows nowMs (hkey ▸ hfind) hkey.symm fun hd b hb hg => ?_)
      obtain ⟨created, hc, hg', hl⟩ := hr
      have hsame := ha hd current hfind hcursor
      obtain rfl : b = created := hi.snapshots.distinct b hb created hc
        (hg.trans (hsame.trans hg'.symm))
      rw [hcursor]
      exact hl

theorem materializeCloseProgress_ok {closeKey : Hash} {size : Option Nat} :
    Ok L d (materializeCloseProgress L closeKey size) (fun _ _ => True) s := by
  refine gets_ok.bind fun nowMs s₁ _ _ => assertHash_ok.bind fun _ s₂ _ _ => ?_
  refine pageSize_ok.bind fun limit s₃ _ _ => oneClose_ok.bind fun seen s₄ _ h₄ => ?_
  obtain ⟨rfl, hfind⟩ := h₄
  split
  · exact .pure trivial
  · refine Rules.Does.of_inv fun hi => snapshotEntries_ok.bind fun rows s₅ _ h₅ => ?_
    obtain ⟨rfl, limit, rfl⟩ := h₅
    have hr := pageRead hi (Keyed.mem_of_find hfind) limit
    refine digestCloseKeys_ok.later.bind fun _ s₆ _ h₆ => ?_
    refine Rules.Does.ask.later.bind fun _ s₇ _ h₇ => ?_
    have hr := Rules.Stable.later (pageRead_stable seen _) (h₆.2.trans h₇.2) hr
    exact (transact_ok fun a s' hi h => materializeSync_section hi hr h₇.1 h).done

theorem recordCloseReceipt_ok {closeKey : Hash} {activationSequence : Nat} {receipt : Hash} :
    Ok L d (recordCloseReceipt closeKey activationSequence receipt) (fun _ _ => True) s := by
  refine gets_ok.bind fun nowMs s₁ _ _ => assertHash_ok.bind fun _ s₂ _ _ => ?_
  refine assertHash_ok.bind fun _ s₃ _ _ => ?_
  refine (transact_ok fun a s' _ h => ?_).done
  unfold recordReceiptSync at h
  cases hfind : s₃.progress.find (closeKey, activationSequence) with
  | none => simp [hfind, one, bind, Except.bind] at h
  | some p =>
    have hkey := Keyed.key_find hfind
    obtain ⟨rfl, -⟩ := Prod.mk.inj hkey
    simp only [hfind, one, bind, Except.bind, pure, Except.pure] at h
    split at h
    · split at h
      · cases h
      · split at h
        · cases h
        · cases h
          exact .refl
    · rename_i hnone
      split at h
      · cases h
      · cases h
        exact .one (.receipt p receipt nowMs (Keyed.mem_of_find hfind) hnone)

/-- what `completeClose` has read: the close is about a snapshot that was taken -/
def AboutRead (L : CatalogLib) (seen : CloseRow) (s : Store) : Prop :=
  ∃ created all, seen.About L s created all

theorem aboutRead_stable (seen : CloseRow) : (rules L d).Stable (AboutRead L seen) := by
  refine stable_of_move fun {s s'} hi hm h => ?_
  obtain ⟨created, all, ha⟩ := h
  exact ⟨created, all, ha.move (Extends.move hi.snapshots hm) .refl⟩

theorem completeSync_section {seen : CloseRow} {receipts : List (Nat × Option Hash)} {nowMs : Nat}
    {a : CloseRow} {s' : Store} (hi : Inv L d s) (hr : AboutRead L seen s)
    (ha : Allows d (.fleetRoot seen receipts) () s)
    (h : completeSync seen.closeKey (L.hash (.fleetRoot (fleetRoot seen receipts))) nowMs s =
      .ok (a, s')) : Section L d s s' := by
  unfold completeSync at h
  cases hfind : s.closes.find seen.closeKey with
  | none => simp [hfind, one, bind, Except.bind] at h
  | some current =>
    simp only [hfind, one, bind, Except.bind, pure, Except.pure] at h
    split at h
    · cases h
      exact .refl
    · rename_i hdone
      rw [not_or, not_not] at hdone
      obtain ⟨hp, hcount⟩ := hdone
      have hp : current.isPending = true := by simpa using hp
      have hkey : current.closeKey = seen.closeKey := Keyed.key_find hfind
      cases h
      rw [← hkey] at hfind hcount
      refine .one (.complete current _ nowMs hfind hp hcount fun hd => ?_)
      obtain ⟨hg, hrec⟩ := ha hd current (hkey ▸ hfind) hp (hkey ▸ hcount)
      obtain ⟨created, all, hseen⟩ := hr
      obtain ⟨created', all', hcur⟩ := hi.closes.about current (Keyed.mem_of_find hfind)
      obtain rfl : created' = created := hi.snapshots.distinct created' hcur.begun created hseen.begun
        (hcur.generation.symm.trans (hg.trans hseen.generation))
      obtain rfl : all' = all := Covers.unique hcur.members hseen.members
      have hroot : fleetRoot seen receipts = fleetRoot current (s.receipts current.closeKey) := by
        simp only [fleetRoot, hkey, hg, hrec, hseen.cutoffMs, hcur.cutoffMs, hseen.hash, hcur.hash]
      rw [hroot]

theorem completeClose_ok {closeKey : Hash} :
    Ok L d (completeClose L closeKey) (fun _ _ => True) s := by
  refine gets_ok.bind fun nowMs s₁ _ _ => assertHash_ok.bind fun _ s₂ _ _ => ?_
  refine oneClose_ok.bind fun seen s₃ _ h₃ => ?_
  obtain ⟨rfl, hfind⟩ := h₃
  obtain rfl : seen.closeKey = closeKey := Keyed.key_find hfind
  split
  · exact .pure trivial
  · refine Rules.Does.of_inv fun hi => gets_ok.bind fun receipts s₄ _ h₄ => ?_
    obtain ⟨rfl, rfl⟩ := h₄
    have hr : AboutRead L seen s₄ := hi.closes.about seen (Keyed.mem_of_find hfind)
    split
    · exact .pure trivial
    · refine Rules.Does.ask.later.bind fun _ s₅ _ h₅ => ?_
      have hr := Rules.Stable.later (aboutRead_stable seen) h₅.2 hr
      exact (transact_ok fun a s' hi h => completeSync_section hi hr h₅.1 h).done

/-! ## history -/

theorem purgeCloses_section {now : Nat} : Section L d s (purgeCloses now s).2 := by
  have fold : ∀ (due : List CloseRow) (s : Store), Section L d s (due.foldl (fun s row =>
      { s with
        progress := s.progress.deleteWhere (·.closeKey == row.closeKey)
        closes := s.closes.erase row.closeKey }) s) := by
    intro due
    induction due with
    | nil => exact fun _ => .refl
    | cons row due ih => exact fun s => Section.trans (.one (.dropClose row.closeKey)) (ih _)
  exact fold _ s

theorem purgeSnapshots_section {m : Metadata} {now : Nat} (hm : s.metadata = some m) :
    Section L d s (purgeSnapshots m.currentSnapshotGeneration now s).2 := by
  have fold : ∀ (due : List SnapshotRow) (s : Store), s.metadata = some m →
      (∀ row ∈ due, row.generation < m.currentSnapshotGeneration ∧
        ∀ close ∈ s.closes.rows, close.snapshotGeneration ≠ row.generation) →
      Section L d s (due.foldl (fun s row =>
        { s with
          entries := s.entries.deleteWhere (·.generation == row.generation)
          snapshots := s.snapshots.erase row.generation }) s) := by
    intro due
    induction due with
    | nil => exact fun _ _ _ => .refl
    | cons row due ih =>
      intro s hm hdue
      obtain ⟨hg, hn⟩ := hdue row (List.mem_cons_self ..)
      refine Section.trans (.one (.dropSnapshot row.generation m hm hg hn)) (ih _ hm ?_)
      exact fun row' hrow' => hdue row' (List.mem_cons_of_mem _ hrow')
  refine fold _ s hm fun row hrow => ?_
  obtain ⟨-, hp⟩ := Keyed.mem_ordered.mp (List.mem_of_mem_take hrow)
  simp only [Bool.and_eq_true, decide_eq_true_eq, Bool.not_eq_true', List.any_eq_false,
    beq_iff_eq] at hp
  exact ⟨hp.1.1, hp.2⟩

theorem purgeActivations_section {now : Nat} : Section L d s (purgeActivations now s).2 := by
  have fold : ∀ (due : List HistoryRow) (t : Keyed Nat HistoryRow HistoryRow.activationSequence),
      (∀ row ∈ due, ∀ r, t.find row.activationSequence = some r → staleActivation now s r) →
      Section L d { s with history := t }
        { s with history := due.foldl (fun t row => t.erase row.activationSequence) t } := by
    intro due
    induction due with
    | nil => exact fun _ _ => .refl
    | cons row due ih =>
      intro t hdue
      refine Section.trans (.one (.dropActivation row.activationSequence now ?_)) (ih _ ?_)
      · exact hdue row (List.mem_cons_self ..)
      · intro row' hrow' r hr
        obtain ⟨hr, hk⟩ := Keyed.find_eq_some.mp hr
        have := Keyed.find_of_mem (Keyed.mem_erase.mp hr).1
        rw [hk] at this
        exact hdue row' (List.mem_cons_of_mem _ hrow') r this
  refine fold _ s.history fun row hrow r hr => ?_
  obtain ⟨hrow, hp⟩ := Keyed.mem_ordered.mp (List.mem_of_mem_take hrow)
  rw [Keyed.find_of_mem hrow] at hr
  cases hr
  exact hp

theorem purgeHistorySync_section {now deleted : Nat} {s' : Store}
    (h : purgeHistorySync now s = .ok (deleted, s')) : Section L d s s' := by
  unfold purgeHistorySync at h
  have hclose : Section L d s (purgeCloses now s).2 := purgeCloses_section
  cases hmeta : (purgeCloses now s).2.metadata with
  | none => simp [Store.meta, hmeta, one, bind, Except.bind] at h
  | some m =>
    simp only [Store.meta, hmeta, one, bind, Except.bind, pure, Except.pure, Except.ok.injEq,
      Prod.mk.injEq] at h
    obtain ⟨-, rfl⟩ := h
    have hsnapshots : Section L d _ (purgeSnapshots m.currentSnapshotGeneration now _).2 :=
      purgeSnapshots_section hmeta
    exact (hclose.trans hsnapshots).trans (Section.trans unseen_section purgeActivations_section)

theorem purgeHistory_ok {now : Nat} : Ok L d (purgeHistory now) (fun _ _ => True) s := by
  refine (transact_ok fun _ _ _ h => purgeHistorySync_section h).bind fun deleted s₁ _ _ => ?_
  exact gets_ok.bind fun _ _ _ _ => .pure trivial

theorem scheduleSuccessor_ok {successor : Option AlarmPurpose} :
    Ok L d (scheduleSuccessor successor) (fun _ _ => True) s := by
  cases successor with
  | none => exact .pure trivial
  | some successor => exact schedulePurpose_ok

theorem completeScheduled_ok {scheduled : Option AlarmPurpose} :
    Ok L d (completeScheduled scheduled) (fun _ _ => True) s := by
  cases scheduled with
  | none => exact gets_ok.done
  | some scheduled => exact completePurpose_ok

theorem historySuccessor_ok {deadline : Option Nat} :
    Ok L d (historySuccessor L deadline) (fun _ _ => True) s := by
  cases deadline with
  | none => exact .pure trivial
  | some deadline => exact digest_ok.bind fun _ _ _ _ => .pure trivial

theorem refreshHistoryGc_ok {expected : Option AlarmPurpose} :
    Ok L d (refreshHistoryGc L expected) (fun _ _ => True) s := by
  refine gets_ok.bind fun scheduled s₁ _ _ => gets_ok.bind fun now s₂ _ _ => ?_
  refine purgeHistory_ok.bind fun p s₃ _ _ => historySuccessor_ok.bind fun successor s₄ _ _ => ?_
  refine completeScheduled_ok.bind fun completed s₅ _ _ => ?_
  refine scheduleSuccessor_ok.bind fun _ s₆ _ _ => armNextAlarm_ok.bind fun _ s₇ _ _ => ?_
  exact .pure trivial

/-! ## methods with a wake-up -/

theorem snapshotThrough_ok {request : SnapshotRequest} :
    Ok L d (snapshotThrough L request) (fun _ _ => True) s := by
  refine (awaited_done takeThrough_ok).bind fun result s₁ _ _ => ?_
  have rest : ∀ s, Ok L d (do let _ ← refreshHistoryGc L none; return result) (fun _ _ => True) s :=
    fun s => refreshHistoryGc_ok.bind fun _ _ _ _ => .pure trivial
  dsimp only
  split
  · refine gets_ok.bind fun now s₂ _ _ => digest_ok.bind fun _ s₃ _ _ => ?_
    refine schedulePurpose_ok.bind fun _ s₄ _ _ => armNextAlarm_ok.bind fun _ s₅ _ _ => ?_
    exact rest s₅
  · exact rest s₁

theorem finalizeClose_ok {closeKey : Hash} :
    Ok L d (finalizeClose L closeKey) (fun _ _ => True) s := by
  refine (awaited_done completeClose_ok).bind fun result s₁ _ _ => ?_
  exact refreshHistoryGc_ok.bind fun _ _ _ _ => .pure trivial

theorem succeed_ok {row : AlarmPurpose} {successor : Option AlarmPurpose} :
    Ok L d (succeed row successor) (fun _ _ => True) s :=
  completePurpose_ok.bind fun _ _ _ _ => scheduleSuccessor_ok

theorem successorAt_ok {row : AlarmPurpose} {next : Option Nat} :
    Ok L d (successorAt L row next) (fun _ _ => True) s := by
  cases next with
  | none => exact .pure trivial
  | some next =>
    refine gets_ok.bind fun now s₁ _ _ => ?_
    exact digest_ok.bind fun _ _ _ _ => .pure trivial

theorem runPurpose_ok {row : AlarmPurpose} : Ok L d (runPurpose L row) (fun _ _ => True) s := by
  unfold runPurpose
  cases row.purpose with
  | snapshotResume =>
    refine gets_ok.bind fun nowMs s₁ _ _ => (awaited_done resumeSnapshot_ok).bind fun _ s₂ _ _ => ?_
    exact gets_ok.bind fun _ _ _ _ => succeed_ok
  | cursorGc =>
    refine gets_ok.bind fun now s₁ _ _ => purgeCursors_ok.bind fun next s₂ _ _ => ?_
    exact successorAt_ok.bind fun _ _ _ _ => succeed_ok
  | routeGc =>
    refine gets_ok.bind fun now s₁ _ _ => purgeReleasedRoutes_ok.bind fun next s₂ _ _ => ?_
    exact successorAt_ok.bind fun _ _ _ _ => succeed_ok
  | historyGc => exact (awaited_done refreshHistoryGc_ok).bind fun _ _ _ _ => .pure trivial

theorem deferPurpose_ok {row : AlarmPurpose} : Ok L d (deferPurpose row) (fun _ _ => True) s := by
  refine gets_ok.bind fun now s₁ _ _ => ?_
  exact reschedulePurpose_ok.bind fun _ _ _ _ => .pure trivial

theorem runPurposes_ok {rows : List AlarmPurpose} :
    ∀ {s : Store}, Ok L d (runPurposes L rows) (fun _ _ => True) s := by
  induction rows with
  | nil => exact fun {_} => .pure trivial
  | cons row rows ih =>
    intro s
    exact (runPurpose_ok.rescue fun _ _ => deferPurpose_ok).bind fun _ _ _ _ => ih

theorem alarm_ok : Ok L d (alarm L) (fun _ _ => True) s := by
  refine (Rules.Does.modify fun _ => unseen_section).bind fun _ s₁ _ _ => ?_
  refine gets_ok.bind fun now s₂ _ _ => gets_ok.bind fun due s₃ _ _ => ?_
  exact runPurposes_ok.bind fun _ _ _ _ => armNextAlarm_ok

/-! ## the object -/

theorem handle_ok (r : Request) : Ok L d (handle L r) (fun _ _ => True) s := by
  cases r with
  | assignManifestRoute draft key =>
    exact assignManifestRoute_ok.bind fun _ _ _ _ => .pure trivial
  | releaseManifestRoute fleetId txId hash deleteAfterMs =>
    exact releaseManifestRoute_ok.bind fun _ _ _ _ => .pure trivial
  | partitionConfigForDay fleetId day =>
    exact partitionConfigForDay_ok.bind fun _ _ _ _ => .pure trivial
  | appendPartitionConfig fleetId day count =>
    exact appendPartitionConfig_ok.bind fun _ _ _ _ => .pure trivial
  | coverageState fleetId => exact coverageState_ok.bind fun _ _ _ _ => .pure trivial
  | advanceLegacyGridMaterializedThrough fleetId day =>
    exact grid_ok.bind fun _ _ _ _ => .pure trivial
  | advanceLegacyScannedThrough fleetId day closeKey =>
    exact scanned_ok.bind fun _ _ _ _ => .pure trivial
  | activateBucket request => exact activateBucket_ok.bind fun _ _ _ _ => .pure trivial
  | admitLegacyRegistration request =>
    exact admitLegacyRegistration_ok.bind fun _ _ _ _ => .pure trivial
  | retireBucket fleetId bucket certificateHash =>
    exact retireBucket_ok.bind fun _ _ _ _ => .pure trivial
  | snapshotThrough request => exact snapshotThrough_ok.bind fun _ _ _ _ => .pure trivial
  | snapshotEntries generation afterSequence size =>
    exact snapshotEntries_ok.bind fun _ _ _ _ => .pure trivial
  | snapshotByGeneration generation =>
    exact snapshotByGeneration_ok.bind fun _ _ _ _ => .pure trivial
  | closeByKey closeKey => exact closeByKey_ok.bind fun _ _ _ _ => .pure trivial
  | enumerationEntries generation closeKey after size =>
    exact enumerationEntries_ok.bind fun _ _ _ _ => .pure trivial
  | issueEnumerationCursor cursor evidence =>
    exact issueEnumerationCursor_ok.bind fun _ _ _ _ => .pure trivial
  | enumerationCursorEvidence cursor =>
    exact enumerationCursorEvidence_ok.bind fun _ _ _ _ => .pure trivial
  | beginClose fleetId cutoffMs generation => exact beginClose_ok.bind fun _ _ _ _ => .pure trivial
  | materializeCloseProgress closeKey size =>
    exact materializeCloseProgress_ok.bind fun _ _ _ _ => .pure trivial
  | closeProgress closeKey afterSequence size =>
    exact closeProgress_ok.bind fun _ _ _ _ => .pure trivial
  | recordCloseReceipt closeKey activationSequence receipt =>
    exact recordCloseReceipt_ok.bind fun _ _ _ _ => .pure trivial
  | finalizeClose closeKey => exact finalizeClose_ok.bind fun _ _ _ _ => .pure trivial
  | resumeSnapshot generation size =>
    exact gets_ok.bind fun _ _ _ _ => resumeSnapshot_ok.bind fun _ _ _ _ => .pure trivial
  | purgeHistory =>
    exact gets_ok.bind fun _ _ _ _ => purgeHistory_ok.bind fun _ _ _ _ => .pure trivial
  | alarm => exact alarm_ok.bind fun _ _ _ _ => .pure trivial

/-- **the catalog only makes sections**, on the terms of the regime -/
theorem obeys (L : CatalogLib) (d : Regime) : Obeys (rules L d) (system L) (terms d) where
  handler r _ _ := handle_ok r
  event e s _ _ := by
    cases e with
    | clock now => exact unseen_section
  restart _ _ := .refl

end FleetCatalog
