import CloudflareShard.ControlPlane.ReservationsFollow

/-!
# A manifest bucket only makes sections

* `progressSync_section`, `publishSealSync_section`   the transactions of a generation at work;
* `resumeSeal_ok`, `closeThrough_ok`                  a seal relies on what it watches;
* `retentionSync_section`, `sweepV2HistorySync_section`   what a sweep deletes;
* `obeys`                                             **the object as a whole makes sections**.
-/

namespace JournalManifest
open Async Contracts Keyset

variable {L : BucketLib} {d : Regime} {s s' : Store}

/-! ## seals -/

theorem replaySeal_section {replay : SealRow} {cutoffMs : Nat} (h : replay ∈ s.seals.rows) :
    Section L d s (replaySeal replay cutoffMs s).2 := by
  unfold replaySeal
  split
  · exact .refl
  · split
    · exact .refl
    · rename_i hs
      split
      · rename_i hu
        exact .one (.requeue replay h (by simp [SealRow.isQuarantined, hs]) hu)
      · exact .refl
    · exact .refl

theorem closeSync_section {request : SealRequest} : Section L d s (closeSync request s).2 := by
  unfold closeSync
  split
  · exact .refl
  · split
    · exact .refl
    · split
      · rename_i replay hreplay
        exact replaySeal_section (List.mem_of_find?_eq_some hreplay)
      · split
        · exact .refl
        · split
          · exact .refl
          · exact .one (.insertSeal request)

theorem digestRows_ok (rows : List ReservationRow) : ∀ {root : Hash} {s : Store},
    Ok L d (digestRows L rows root) (fun a _ => a = rollEntries L root rows) s := by
  induction rows with
  | nil => exact .pure rfl
  | cons row rows ih =>
    intro root s
    refine digest_ok.bind fun _ s₁ _ _ => digest_ok.bind fun root' s₂ _ h => ?_
    subst h
    exact ih

theorem progressSync_section {seen : SealRow} {rows : List ReservationRow} {progressed : Bool}
    (hi : Inv L d s) (hw : Watch L seen rows s)
    (h : progressSync seen.generation seen rows (rollEntries L seen.digestRoot rows) s =
      .ok (progressed, s')) : Section L d s s' := by
  unfold progressSync at h
  split at h
  · cases h
  · rename_i current hcurrent
    split at h
    · cases h
      exact .refl
    · rename_i hsame
      simp only [not_or, not_not] at hsame
      obtain ⟨hd, hev, hb, hc⟩ := hsame
      have hd : current.isDraining := by simpa using hd
      have hmem := Keyed.mem_of_find hcurrent
      have hk : current.generation = seen.generation := Keyed.key_find hcurrent
      obtain ⟨hroot, hcov⟩ := hw.current hi hmem hk hd hev hb hc
      cases h
      rw [← hk, ← hroot]
      have hm : Move L d s _ := .progress current rows _ hmem hd hb.symm hcov rfl
      unfold reached at hm
      refine .one ?_
      cases hlast : rows.getLast? <;> simp only [hlast] at hm ⊢ <;> exact hm

theorem finalSync_final {generation : Nat} {final : SealFinal}
    (h : finalSync generation s = .ok (some final)) :
    final.recordCount = final.current.digestCount := by
  unfold finalSync at h
  split at h
  · cases h
  · dsimp only at h
    split at h
    · cases h
    · rename_i hsame
      simp only [not_or, not_not] at hsame
      cases h
      exact hsame.2.1

theorem final_ok {generation : Nat} : Ok L d (gets (finalSync generation) >>= Prog.ofExcept)
    (fun final _ => ∀ f, final = some f → f.recordCount = f.current.digestCount) s := by
  refine gets_ok.bind fun x s₁ _ h => Rules.Does.ofExcept.mono fun final s₂ h₂ f hf => ?_
  exact finalSync_final (h.2.symm.trans (h₂.2.trans (congrArg _ hf)))

theorem publishSealSync_section {generation : Nat} {seen : SealRow} {receipt : SealReceipt}
    {published : Bool} (hr : receipt.recordCount = seen.digestCount)
    (hroot : receipt.recordsRoot = seen.digestRoot)
    (h : publishSealSync generation seen receipt s = .ok (published, s')) : Section L d s s' := by
  unfold publishSealSync at h
  split at h
  · cases h
  · rename_i current hcurrent
    dsimp only at h
    split at h
    · cases h
      exact .refl
    · rename_i hsame
      simp only [not_or, not_not] at hsame
      obtain ⟨hd, hev, hb, hcount, hdig, hlen, hu, hp⟩ := hsame
      have hk : current.generation = generation := Keyed.key_find hcurrent
      cases h
      subst hk
      refine .one (.publishSeal current receipt (Keyed.mem_of_find hcurrent) (by simpa using hd)
        hb.symm hlen ?_ ?_ (hr.trans hcount.symm) (hroot.trans hdig.symm))
      · intro r hmem
        simpa using fun hr => hu (List.any_eq_true.mpr ⟨r, hmem, hr⟩)
      · intro r hmem
        by_contra hnone
        exact hp (List.any_eq_true.mpr ⟨r, hmem, by simpa using hnone⟩)

theorem sealPending_ok {generation cutoffMs : Nat} :
    Ok L d (sealPending generation cutoffMs) (fun _ _ => True) s :=
  gets_ok.bind fun _ _ _ _ => schedule_ok.bind fun _ _ _ _ => .pure trivial

theorem sealQuarantined_ok {generation cutoffMs : Nat} :
    Ok L d (sealQuarantined generation cutoffMs) (fun _ _ => True) s :=
  clear_ok.bind fun _ _ _ _ => .pure trivial

theorem conflictResolutionRoot_ok {roots : List (Hash × Option Hash)} :
    Ok L d (conflictResolutionRoot L roots) (fun _ _ => True) s := by
  unfold conflictResolutionRoot
  split
  · exact .pure trivial
  · exact digest_ok.done

theorem publishSeal_ok {generation cutoffMs : Nat} {request : SealRequest} {final : SealFinal}
    {certificateHash : Hash} (h : final.recordCount = final.current.digestCount) :
    Ok L d (publishSeal L generation cutoffMs request final certificateHash) (fun _ _ => True)
      s := by
  refine conflictResolutionRoot_ok.bind fun _ _ _ _ => digest_ok.bind fun _ _ _ _ => ?_
  refine (Rules.Does.transact fun _ _ _ => publishSealSync_section h rfl).bind
    fun published _ _ _ => ?_
  split
  · refine rearm_ok.bind fun _ _ _ _ => gets_ok.bind fun _ _ _ _ => ?_
    exact ensureAlarm_ok.bind fun _ _ _ _ => .pure trivial
  · exact sealPending_ok

theorem digestPage_ok {request : SealRequest} {seen : SealRow} {rows : List ReservationRow}
    (hw : Watch L seen rows s) :
    Ok L d (digestPage L seen.generation request seen rows) (fun _ _ => True) s := by
  refine (digestRows_ok rows).bind fun root s₁ hl h => ?_
  subst h
  have hw := Rules.Stable.later (watch_stable seen rows) hl hw
  refine (Rules.Does.transact fun _ _ hi h => progressSync_section hi hw h).bind
    fun progressed s₂ _ _ => ?_
  split
  · exact sealPending_ok
  · refine final_ok.bind fun final s₃ _ h => ?_
    cases final with
    | none => exact sealPending_ok
    | some final =>
      dsimp only
      split
      · exact sealPending_ok
      · exact publishSeal_ok (h final rfl)

theorem resumeSeal_ok {generation : Nat} {request : SealRequest} :
    Ok L d (resumeSeal L generation request) (fun _ _ => True) s := by
  refine oneSeal_ok.bind fun row s₁ _ h₁ => ?_
  obtain ⟨rfl, hrow⟩ := h₁
  obtain rfl : row.generation = generation := Keyed.key_find hrow
  have hmem := Keyed.mem_of_find hrow
  split
  · exact clear_ok.bind fun _ _ _ _ => .pure trivial
  · exact sealQuarantined_ok
  · rename_i hs
    have hd : row.isDraining := by simp [SealRow.isDraining, hs]
    refine gets_ok.bind fun unresolved s₂ _ h₂ => ?_
    obtain ⟨rfl, rfl⟩ := h₂
    split
    · rename_i hu
      refine Rules.Does.seq (modify_ok ?_) fun _ _ _ => sealQuarantined_ok
      exact .quarantineSeal row hmem hd hu
    · refine gets_ok.bind fun evidence s₃ _ h₃ => ?_
      obtain ⟨rfl, rfl⟩ := h₃
      split
      · exact Rules.Does.seq (modify_ok (.restartSeal _)) fun _ _ _ => sealPending_ok
      · rename_i he
        refine gets_ok.bind fun rows s₄ _ h₄ => ?_
        obtain ⟨rfl, rfl⟩ := h₄
        split
        · exact sealPending_ok
        · rename_i hr
          refine Rules.Does.of_inv fun hi => digestPage_ok ?_
          refine Watch.read hi hmem hd (not_not.mp he) fun r hmemr => ?_
          by_contra hnone
          exact hr (List.any_eq_true.mpr ⟨r, hmemr, by simpa using hnone⟩)

theorem closeThrough_ok {request : SealRequest} :
    Ok L d (closeThrough L request) (fun _ _ => True) s := by
  refine Rules.Does.rescue ?_ fun _ _ => .pure trivial
  refine liftContract_ok.bind fun _ _ _ _ => gets_ok.bind fun now _ _ _ => ?_
  split
  · exact .pure trivial
  · refine ensureLegacyCertificate_ok.bind fun _ _ _ _ => ?_
    refine (sync_ok fun _ => closeSync_section).bind fun start s₃ _ _ => ?_
    cases start with
    | resume => exact resumeSeal_ok
    | complete => exact clear_ok.bind fun _ _ _ _ => .pure trivial
    | result result =>
      dsimp only
      split
      · exact clear_ok.bind fun _ _ _ _ => .pure trivial
      · exact .pure trivial

theorem initializeSync_section {request : SealRequest} {required floor : Nat}
    (h : initializeSync request required s = .ok (floor, s')) : Section L d s s' := by
  unfold initializeSync at h
  dsimp only at h
  split at h
  · cases h
  · split at h
    · cases h
    · cases h
      exact fixMetadata_section.trans (.one (.raiseFloor _ _))

theorem initializeForSeal_ok {request : SealRequest} {floor since : Nat} :
    Ok L d (initializeForSeal L request floor since) (fun _ _ => True) s := by
  refine liftContract_ok.bind fun _ _ _ _ => ?_
  split
  · exact .throw
  · split
    · exact .throw
    · refine ensureLegacyCertificate_ok.bind fun _ _ _ _ => gets_ok.bind fun maximum _ _ _ => ?_
      split
      · exact .pure trivial
      · exact (Rules.Does.transact fun _ _ _ => initializeSync_section).bind
          fun _ _ _ _ => .pure trivial

/-! ## pages, registrations and releases -/

theorem localPageSync_section {request : LocalPageRequest} {requestHash : Hash} {now lease : Nat} :
    Section L d s (localPageSync request requestHash now lease s).2 := by
  unfold localPageSync
  split
  · exact .refl
  · exact unseen_section

theorem localPage_ok {request : LocalPageRequest} :
    Ok L d (localPage L request) (fun _ _ => True) s := by
  refine Rules.Does.rescue ?_ fun _ _ => .pure trivial
  refine liftContract_ok.bind fun requestHash _ _ _ => digest_ok.bind fun _ s₂ _ _ => ?_
  have page : ∀ s₂, Ok L d (do
      let now ← gets (·.now)
      let leaseExpiresAtMs := now + manifestCursorLeaseMs
      ensureAlarmAtOrBefore leaseExpiresAtMs
      sync (localPageSync request requestHash now leaseExpiresAtMs)) (fun _ _ => True) s₂ := by
    intro s₂
    refine gets_ok.bind fun _ _ _ _ => ensureAlarm_ok.bind fun _ _ _ _ => ?_
    exact (sync_ok fun _ => localPageSync_section).done
  split
  · exact liftContract_ok.bind fun _ s₃ _ _ => page s₃
  · exact page s₂

theorem sealReceipt_ok {receiptHash : Hash} :
    Ok L d (sealReceipt receiptHash) (fun _ _ => True) s := by
  unfold sealReceipt
  split
  · exact .pure trivial
  · exact gets_ok.done

/-- an update of a record of the predecessor that keeps its content -/
theorem records_modify {txId : TxId} {f : ManifestRow → ManifestRow}
    (hf : ∀ row, (f row).record = row.record) :
    Move L d s { s with records := s.records.modify txId f } := by
  refine .records _ fun row hrow => ?_
  rcases (Keyed.mem_modify (by exact fun row => congrArg _ (hf row))).mp hrow with
    ⟨row₀, hrow₀, _, rfl⟩ | ⟨hrow, _⟩
  · exact ⟨row₀, hrow₀, hf row₀⟩
  · exact ⟨row, hrow, rfl⟩

theorem recordConflict_section {registration : ManifestRegistration} :
    Section L d s (recordConflict registration s) := by
  have hrow : Section L d s { s with
      records := s.records.modify registration.record.txId ({ · with quarantined := true }) } :=
    .one (records_modify fun _ => rfl)
  exact hrow.trans unseen_section

theorem registerSync_section {registration : ManifestRegistration} :
    Section L d s (registerSync registration s).2 := by
  unfold registerSync
  dsimp only
  split
  · exact .refl
  · have hfix : Section L d s (fixMetadata
        { fleetId := registration.record.fleetId, utcDay := registration.record.utcDay
          partition := registration.record.partition
          routingKey := registration.record.routingKey } s) := fixMetadata_section
    revert hfix
    generalize fixMetadata _ s = s₁
    intro hfix
    split
    · split
      · exact hfix
      · split
        · exact hfix.trans recordConflict_section
        · exact hfix
    · rename_i hnone
      split
      · exact hfix
      · rename_i hopen
        exact hfix.trans (.one (.insertRecord _ (by simpa using hopen) hnone))

theorem register_ok {registration : ManifestRegistration} :
    Ok L d (register L registration) (fun _ _ => True) s := by
  refine Rules.Does.rescue ?_ fun _ _ => .pure trivial
  refine liftContract_ok.bind fun _ _ _ _ => Rules.Does.ask.bind fun _ _ _ _ => ?_
  exact ensureAlarm_ok.bind fun _ _ _ _ => (sync_ok fun _ => registerSync_section).done

theorem releaseSync_section {txId : TxId} {recordHash : Hash} :
    Section L d s (releaseSync txId recordHash s).2 := by
  unfold releaseSync
  split
  · exact .refl
  · split
    · exact .refl
    · split
      · exact .refl
      · exact .one (records_modify fun _ => rfl)

theorem releaseV2Sync_section {txId : TxId} {reservationHash recordHash : Hash} :
    Section L d s (releaseV2Sync txId reservationHash recordHash s).2 := by
  unfold releaseV2Sync
  split
  · exact .refl
  · split
    · exact .refl
    · split
      · exact .refl
      · split
        · exact .refl
        · exact .one (.releaseRow txId)

theorem afterRelease_ok {result : ReleaseStep} :
    Ok L d (afterRelease result) (fun _ _ => True) s := by
  unfold afterRelease
  split
  · refine gets_ok.bind fun _ _ _ _ => ensureAlarm_ok.bind fun _ _ _ _ => ?_
    exact .pure trivial
  · exact .pure trivial

theorem release_ok {txId : TxId} {recordHash : Hash} :
    Ok L d (release txId recordHash) (fun _ _ => True) s := by
  unfold release
  split
  · exact .pure trivial
  · refine Rules.Does.rescue ?_ fun _ _ => .pure trivial
    exact (sync_ok fun _ => releaseSync_section).bind fun _ _ _ _ => afterRelease_ok

theorem releaseV2_ok {txId : TxId} {reservationHash recordHash : Hash} :
    Ok L d (releaseV2 txId reservationHash recordHash) (fun _ _ => True) s := by
  unfold releaseV2
  split
  · exact .pure trivial
  · refine Rules.Does.rescue ?_ fun _ _ => .pure trivial
    exact (sync_ok fun _ => releaseV2Sync_section).bind fun _ _ _ _ => afterRelease_ok

/-! ## sweeps -/

/-- moves for the rows of a list, each of which leaves the others possible -/
theorem foldl_section {α : Type} {f : Store → α → Store} {P : Store → α → Prop}
    (hmove : ∀ {s a}, P s a → Move L d s (f s a))
    (hkeep : ∀ {s a b}, P s a → P s b → a ≠ b → P (f s a) b) :
    ∀ {l : List α} {s : Store}, l.Nodup → (∀ a ∈ l, P s a) → Section L d s (l.foldl f s)
  | [], _, _, _ => .refl
  | a :: l, s, hnd, hp => by
    obtain ⟨hna, hnd⟩ := List.nodup_cons.mp hnd
    have ha := hp a List.mem_cons_self
    refine (Section.one (hmove ha)).trans (foldl_section hmove hkeep hnd fun b hb => ?_)
    exact hkeep ha (hp b (List.mem_cons_of_mem a hb)) fun he => hna (he ▸ hb)

/-- a sweep at `now` may delete the reservation -/
structure Droppable (now : Nat) (s : Store) (row : ReservationRow) : Prop where
  mem : row ∈ s.reservations.rows
  resolved : row.unresolved = false
  expired : SweptRow.expired ⟨row, now⟩
  idle : row.isFinalized → ∀ g ∈ s.seals.rows, g.isDraining = false
  deleted : row.finalizedBy s.bucket.recordsDeletedThroughMs ∨ row.isFinalized = false

theorem drops_section {now : Nat} {rows : List ReservationRow} (hnd : rows.Nodup)
    (h : ∀ row ∈ rows, Droppable now s row) :
    Section L d s (rows.foldl (fun s row => s.dropReservation now row) s) := by
  refine foldl_section (fun h => .drop now _ h.mem h.resolved h.expired h.idle h.deleted) ?_ hnd h
  intro s a b ha hb hne
  refine ⟨Keyed.mem_erase.mpr ⟨hb.mem, fun hk => ?_⟩, hb.resolved, hb.expired, hb.idle, hb.deleted⟩
  have := Keyed.find_of_mem hb.mem
  rw [hk, Keyed.find_of_mem ha.mem] at this
  exact hne (Option.some.inj this)

theorem foldl_drop_bucket {now : Nat} {bucket : BucketState} (rows : List ReservationRow) :
    ∀ s : Store, rows.foldl (fun s row => s.dropReservation now row) { s with bucket } =
      { rows.foldl (fun s row => s.dropReservation now row) s with bucket } := by
  induction rows with
  | nil => exact fun _ => rfl
  | cons row rows ih => exact fun s => ih (s.dropReservation now row)

theorem drops_bucket {now : Nat} (rows : List ReservationRow) :
    ∀ s : Store, (rows.foldl (fun s row => s.dropReservation now row) s).bucket = s.bucket := by
  induction rows with
  | nil => exact fun _ => rfl
  | cons row rows ih => exact fun s => ih (s.dropReservation now row)

/-- rows sorted by the ledger are decided by the time of the last one -/
theorem decided_by_last {now : Nat} {row : ReservationRow} (h : row ∈ retentionCandidates now s) :
    ∃ last, (retentionCandidates now s).getLast? = some last ∧ row.key.1 ≤ last.key.1 := by
  have hsorted : (retentionCandidates now s).Pairwise fun a b => a.key ≤ b.key :=
    (Keyed.ordered_pairwise (t := s.reservations)).sublist (List.take_sublist _ _)
  obtain ⟨last, hlast⟩ : ∃ last, (retentionCandidates now s).getLast? = some last :=
    Option.isSome_iff_exists.mp (by simpa using List.ne_nil_of_mem h)
  refine ⟨last, hlast, ?_⟩
  obtain ⟨front, hfront⟩ := List.getLast?_eq_some_iff.mp hlast
  rw [hfront] at h hsorted
  rcases List.mem_append.mp h with hmem | hmem
  · exact Prod.Lex.monotone_fst _ _
      ((List.pairwise_append.mp hsorted).2.2 row hmem last List.mem_cons_self)
  · obtain rfl := List.mem_singleton.mp hmem
    exact le_rfl

theorem retentionDue_expired {now : Nat} {row : ReservationRow} (h : retentionDue now row) :
    row.unresolved = false ∧ SweptRow.expired ⟨row, now⟩ ∧
      ∀ deletedThroughMs, row.key.1 ≤ deletedThroughMs → row.finalizedBy deletedThroughMs := by
  simp only [retentionDue, ReservationRow.published, Bool.and_eq_true, Bool.not_eq_true'] at h
  obtain ⟨⟨_, hq⟩, hp⟩ := h
  cases hs : row.state with
  | finalized intentHash decidedAtMs sequence published =>
    rw [hs] at hp
    cases published with
    | none => simp at hp
    | some record =>
      refine ⟨hq, ?_, fun deletedThroughMs hk => ?_⟩
      · simp only [SweptRow.expired, hs]
        exact ⟨record, rfl, by simpa using hp⟩
      · simp only [ReservationRow.key, hs] at hk
        have hk : decidedAtMs ≤ deletedThroughMs := hk
        simpa [ReservationRow.finalizedBy, hs] using hk
  | _ => simp [hs] at hp

theorem idle_of_drainingSeal (h : ¬ s.drainingSeal.isSome) :
    ∀ g ∈ s.seals.rows, g.isDraining = false := by
  intro g hg
  by_contra hd
  have hmem : g ∈ s.seals.ordered SealRow.isDraining SealRow.generation :=
    Keyed.mem_ordered.mpr ⟨hg, by simpa using hd⟩
  apply h
  unfold Store.drainingSeal
  cases hl : s.seals.ordered SealRow.isDraining SealRow.generation with
  | nil => exact absurd (hl ▸ hmem) List.not_mem_nil
  | cons => rfl

theorem retentionSync_section {now : Nat} {candidates : List RetentionCandidate} {root : Hash} :
    Section L d s (retentionSync now candidates root s).2 := by
  unfold retentionSync
  split
  · exact .refl
  · split
    · exact .refl
    · rename_i hidle
      dsimp only
      split
      · exact .refl
      · rename_i hsame
        obtain rfl := not_not.mp hsame
        rw [drops_bucket, ← foldl_drop_bucket]
        refine Section.trans ?_ (drops_section ?_ fun row hrow => ?_)
        · exact .one (.expire _ root (le_max_left _ _))
        · exact Keyed.ordered_nodup.sublist (List.take_sublist _ _)
        · obtain ⟨hmem, hdue⟩ := Keyed.mem_ordered.mp (List.mem_of_mem_take hrow)
          obtain ⟨hq, hexp, hfin⟩ := retentionDue_expired hdue
          refine ⟨hmem, hq, hexp, fun _ => idle_of_drainingSeal hidle, .inl (hfin _ ?_)⟩
          obtain ⟨last, hlast, hle⟩ := decided_by_last hrow
          rw [List.getLast?_map, hlast]
          exact le_max_of_le_right hle

theorem historyRow_expired {now : Nat} {row : ReservationRow} (h : historyRow row)
    (hold : row.updatedAtMs + v2HistoryRetentionMs ≤ now) :
    row.unresolved = false ∧ SweptRow.expired ⟨row, now⟩ ∧ row.isFinalized = false := by
  simp only [historyRow, Bool.and_eq_true, Bool.not_eq_true'] at h
  refine ⟨h.2, ?_, h.1⟩
  cases hs : row.state with
  | finalized => simp [ReservationRow.isFinalized, hs] at h
  | _ => simpa only [SweptRow.expired, hs] using hold

theorem dropSeals_section {rows : List SealRow} (hnd : rows.Nodup)
    (h : ∀ row ∈ rows, row ∈ s.seals.rows ∧ row.isDraining = false) :
    Section L d s { s with seals := rows.foldl (fun t row => t.erase row.generation) s.seals } := by
  have hfold : rows.foldl (fun s row => { s with seals := s.seals.erase row.generation }) s =
      { s with seals := rows.foldl (fun t row => t.erase row.generation) s.seals } := by
    clear h hnd
    induction rows generalizing s with
    | nil => rfl
    | cons row rows ih => exact ih
  rw [← hfold]
  refine foldl_section (fun {s a} (ha : a ∈ s.seals.rows ∧ _) => .dropSeal a ha.1 ha.2) ?_ hnd h
  intro s a b ha hb hne
  refine ⟨Keyed.mem_erase.mpr ⟨hb.1, fun hk => ?_⟩, hb.2⟩
  have := Keyed.find_of_mem hb.1
  rw [hk, Keyed.find_of_mem ha.1] at this
  exact hne (Option.some.inj this)

theorem sweepV2HistorySync_section {now : Nat} :
    Section L d s (sweepV2HistorySync now s).2 := by
  unfold sweepV2HistorySync
  dsimp only
  have hdrops : Section L d s (((s.reservations.ordered
      (fun row => historyRow row && decide (row.updatedAtMs + v2HistoryRetentionMs ≤ now))
      ReservationRow.age).take sweepLimit).foldl (fun s row => s.dropReservation now row) s) := by
    refine drops_section (Keyed.ordered_nodup.sublist (List.take_sublist _ _)) fun row hrow => ?_
    obtain ⟨hmem, hp⟩ := Keyed.mem_ordered.mp (List.mem_of_mem_take hrow)
    simp only [Bool.and_eq_true, decide_eq_true_eq] at hp
    obtain ⟨hq, hexp, hfin⟩ := historyRow_expired hp.1 hp.2
    exact ⟨hmem, hq, hexp, fun h => absurd h (by simp [hfin]), .inr hfin⟩
  revert hdrops
  generalize List.foldl _ s _ = s₁
  intro hdrops
  refine hdrops.trans (dropSeals_section (Keyed.ordered_nodup.sublist (List.take_sublist _ _)) ?_)
  intro row hrow
  obtain ⟨hmem, hp⟩ := Keyed.mem_ordered.mp (List.mem_of_mem_take hrow)
  refine ⟨hmem, ?_⟩
  simp only [historySeal, SealRow.isQuarantined, SealRow.receipt, Bool.and_eq_true,
    Bool.or_eq_true] at hp
  cases hs : row.status with
  | draining => simp [hs] at hp
  | _ => simp [SealRow.isDraining, hs]

theorem sweepV2History_ok {now : Nat} :
    Ok L d (sweepV2History now) (fun _ _ => True) s :=
  (sync_ok fun _ => sweepV2HistorySync_section).bind fun _ _ _ _ =>
    gets_ok.bind fun _ _ _ _ => .pure trivial

theorem sweepV2Retention_ok {now : Nat} :
    Ok L d (sweepV2Retention L now) (fun _ _ => True) s := by
  refine Rules.Does.seq (Rules.Does.modify fun _ => unseen_section).done fun _ s₁ _ => ?_
  refine Rules.Does.read.bind fun s₂ s₃ _ h => ?_
  split
  · exact .pure trivial
  · dsimp only
    split
    · exact .pure trivial
    · split
      · exact .pure trivial
      · refine digest_ok.bind fun root _ _ _ => ?_
        refine (sync_ok fun _ => retentionSync_section).bind fun _ _ _ _ => ?_
        exact gets_ok.bind fun _ _ _ _ => .pure trivial

theorem recordSweepSync_section {now : Nat} : Section L d s (recordSweepSync now s).2 :=
  .one (.records _ fun row hrow => ⟨row, (Keyed.mem_deleteWhere.mp hrow).1, rfl⟩)

theorem lifecycleSweep_ok {now : Nat} : Ok L d (lifecycleSweep L now) (fun _ _ => True) s :=
  sweepV2History_ok.bind fun _ _ _ _ => sweepV2Retention_ok.bind fun _ _ _ _ =>
    (sync_ok fun _ => recordSweepSync_section).bind fun _ _ _ _ => .pure trivial

theorem executeLifecycleAlarm_ok {now : Nat} :
    Ok L d (executeLifecycleAlarm L now) (fun _ _ => True) s := by
  refine Rules.Does.rescue (lifecycleSweep_ok.bind fun next _ _ _ => ?_) fun _ _ =>
    schedule_ok.rescue fun _ _ => .throw
  cases next with
  | none => exact clear_ok
  | some => exact schedule_ok

theorem alarmSeal_ok {due : AlarmRow} : Ok L d (alarmSeal L due) (fun _ _ => True) s := by
  refine Rules.Does.seq (Rules.Does.modify fun _ => unseen_section).done fun _ s₁ _ => ?_
  refine Rules.Does.read.bind fun s₂ s₃ _ h => ?_
  split
  · refine Rules.Does.rescue (resumeSeal_ok.bind fun _ _ _ _ => .pure trivial) fun _ _ => ?_
    exact gets_ok.bind fun _ _ _ _ => schedule_ok
  · exact (Rules.Does.modify fun _ => unseen_section).done

theorem alarmSeals_ok (due : List AlarmRow) : ∀ {s : Store},
    Ok L d (alarmSeals L due) (fun _ _ => True) s := by
  induction due with
  | nil => exact .pure trivial
  | cons due rest ih => exact alarmSeal_ok.bind fun _ _ _ _ => ih

theorem alarm_ok : Ok L d (alarm L) (fun _ _ => True) s := by
  refine Rules.Does.seq (Rules.Does.modify fun _ => unseen_section).done fun _ s₁ _ => ?_
  refine gets_ok.bind fun now _ _ _ => gets_ok.bind fun due _ _ _ => ?_
  refine (alarmSeals_ok due).bind fun _ _ _ _ => gets_ok.bind fun retention _ _ _ => ?_
  split
  · exact clear_ok.bind fun _ _ _ _ => executeLifecycleAlarm_ok
  · exact rearm_ok

/-! ## the object -/

theorem handle_ok (request : Request) : Ok L d (handle L request) (fun _ _ => True) s := by
  cases request with
  | reserve => exact reserve_ok.bind fun _ _ _ _ => .pure trivial
  | finalize => exact finalize_ok.bind fun _ _ _ _ => .pure trivial
  | cancel => exact cancel_ok.bind fun _ _ _ _ => .pure trivial
  | resolveQuarantine => exact resolveQuarantine_ok.bind fun _ _ _ _ => .pure trivial
  | closeThrough => exact closeThrough_ok.bind fun _ _ _ _ => .pure trivial
  | initializeForSeal => exact initializeForSeal_ok.bind fun _ _ _ _ => .pure trivial
  | localPage => exact localPage_ok.bind fun _ _ _ _ => .pure trivial
  | sealReceipt => exact sealReceipt_ok.bind fun _ _ _ _ => .pure trivial
  | register => exact register_ok.bind fun _ _ _ _ => .pure trivial
  | release => exact release_ok.bind fun _ _ _ _ => .pure trivial
  | releaseV2 => exact releaseV2_ok.bind fun _ _ _ _ => .pure trivial
  | alarm => exact alarm_ok.bind fun _ _ _ _ => .pure trivial

variable (L d) in
theorem obeys : Obeys (rules L d) (system L) (terms d) where
  handler request _ _ := handle_ok request
  event
    | .clock _, _, _, _ => unseen_section
  restart _ _ := .refl

end JournalManifest
