import CloudflareShard.ControlPlane.JournalMoves

/-!
# The invariant of the seals

* `Clocked`         floors, watermarks and the log of decision times;
* `entries_grow`    under an unchanged evidence revision a draining seal sees its entries only
                    become ready;
* `SealsOk`         digests of draining seals, published ones, quarantined ones;
* `Clocked.move`, `SealsOk.move`   every move keeps them.
-/

namespace JournalManifest
open Async Contracts Keyset

variable {L : BucketLib} {d : Regime} {s s' : Store}

/-- watermarks and counters are ahead of everything that was given out -/
structure Clocked (s : Store) : Prop where
  sealedThrough : s.bucket.sealedThroughMs ≤ s.bucket.decisionFloorMs
  cutoff : ∀ g ∈ s.seals.rows, g.cutoffMs ≤ s.bucket.decisionFloorMs
  generation : ∀ g ∈ s.seals.rows, g.generation < s.bucket.nextSealGeneration
  evidence : ∀ g ∈ s.seals.rows, g.evidenceRevision ≤ s.bucket.evidenceRevision
  times : s.assigned.Pairwise fun a b => a.decidedAtMs < b.decidedAtMs ∧ a.sequence < b.sequence
  last : ∀ a ∈ s.assigned,
    a.decidedAtMs ≤ s.bucket.lastAssignedMs ∧ a.sequence < s.bucket.nextDecisionSequence
  decided : ∀ row ∈ s.reservations.rows, ∀ intentHash decidedAtMs sequence published,
    row.state = .finalized intentHash decidedAtMs sequence published →
      ⟨row.txId, decidedAtMs, sequence⟩ ∈ s.assigned

theorem decisionTime_gt : s.bucket.decisionFloorMs < s.decisionTime := by
  unfold Store.decisionTime
  omega

theorem decisionTime_gt_last : s.bucket.lastAssignedMs < s.decisionTime := by
  unfold Store.decisionTime
  omega

theorem finalizedBy_reserved {row : ReservationRow} {cutoffMs : Nat} (h : row.state = .reserved) :
    row.finalizedBy cutoffMs = false := by
  simp [ReservationRow.finalizedBy, h]

/-! ## entries -/

theorem grows_put {row : ReservationRow} {cutoffMs : Nat}
    (h : s.reservations.find row.txId = none) (hs : row.state = .reserved) :
    Grows Entry.key Entry.ready (s.entries cutoffMs)
      (Store.entries cutoffMs { s with reservations := s.reservations.put row }) := by
  constructor
  · rintro _ ⟨r, hr, hfin, rfl⟩ _
    exact ⟨r, Keyed.mem_put.mpr (.inr ⟨hr, Keyed.find_eq_none.mp h r hr⟩), hfin, rfl⟩
  · rintro _ ⟨r, hr, hfin, rfl⟩
    rcases Keyed.mem_put.mp hr with rfl | ⟨hr, _⟩
    · rw [finalizedBy_reserved hs] at hfin
      cases hfin
    · exact .inl ⟨r, hr, hfin, rfl⟩

theorem entries_grow {cutoffMs : Nat} (hm : Move L d s s')
    (hC : cutoffMs ≤ s.bucket.decisionFloorMs) (hdrain : ∃ g ∈ s.seals.rows, g.isDraining = true)
    (he : s'.bucket.evidenceRevision = s.bucket.evidenceRevision) :
    Grows Entry.key Entry.ready (s.entries cutoffMs) (s'.entries cutoffMs) := by
  cases hm with
  | reserve reservation reservationHash h => exact grows_put h rfl
  | conflict => simp [Store.quarantine] at he
  | resolve => simp at he
  | assign txId intentHash row h hs =>
    refine grows_modify (fun _ => rfl) h ?_ ?_
    · intro hfin
      rw [finalizedBy_reserved hs] at hfin
      cases hfin
    · intro hfin
      have hgt : s.bucket.decisionFloorMs < s.decisionTime := decisionTime_gt
      simp only [ReservationRow.finalizedBy, decide_eq_true_eq] at hfin
      omega
  | publish txId row intentHash decidedAtMs sequence record h hs =>
    have hunready : ¬ row.entry.ready := by
      simp [Entry.ready, ReservationRow.entry, ReservationRow.recordHash,
        ReservationRow.published, hs]
    refine grows_modify (fun _ => rfl) h (fun _ hr => absurd hr hunready) fun hfin => ⟨?_, .inr ⟨?_, hunready⟩⟩
    · simpa [ReservationRow.finalizedBy, hs] using hfin
    · simp [ReservationRow.entry, ReservationRow.key, hs, ReservationRow.txId]
  | cancel txId intentHash row h hs =>
    refine grows_modify (fun _ => rfl) h ?_ ?_
    · intro hfin
      rw [finalizedBy_reserved hs] at hfin
      cases hfin
    · intro hfin
      simp [ReservationRow.finalizedBy] at hfin
  | releaseRow txId =>
    cases h : s.reservations.find txId with
    | none =>
      have : s.reservations.modify txId (fun row : ReservationRow =>
          { row with lifecycleReleased := true, updatedAtMs := s.now }) = s.reservations :=
        Keyed.modify_none h
      simp only [Store.entries, this]
      exact .refl
    | some row => exact grows_modify (fun _ => rfl) h (fun hf _ => ⟨hf, rfl⟩) fun hf => ⟨hf, .inl rfl⟩
  | drop now row h hq hexp hs =>
    have hnot : row.finalizedBy cutoffMs = false := by
      obtain ⟨g, hg, hgd⟩ := hdrain
      cases hstate : row.state with
      | finalized =>
        have := hs (by simp [ReservationRow.isFinalized, hstate]) g hg
        rw [hgd] at this
        cases this
      | _ => simp [ReservationRow.finalizedBy, hstate]
    constructor
    · rintro _ ⟨r, hr, hfin, rfl⟩ _
      refine ⟨r, Keyed.mem_erase.mpr ⟨hr, fun hk => ?_⟩, hfin, rfl⟩
      have hr' := Keyed.find_of_mem hr
      rw [hk, Keyed.find_of_mem h] at hr'
      cases hr'
      rw [hnot] at hfin
      cases hfin
    · rintro _ ⟨r, hr, hfin, rfl⟩
      exact .inl ⟨r, (Keyed.mem_erase.mp hr).1, hfin, rfl⟩
  | _ => exact .refl

/-! ## clocks -/

theorem mem_seals_modify {g' : SealRow} {generation : Nat} {f : SealRow → SealRow}
    (hf : ∀ g, (f g).generation = g.generation) (h : g' ∈ (s.seals.modify generation f).rows) :
    ∃ g ∈ s.seals.rows, g' = g ∨ g.generation = generation ∧ g' = f g := by
  rcases (Keyed.mem_modify hf).mp h with ⟨g, hg, hk, rfl⟩ | ⟨hg, _⟩
  · exact ⟨g, hg, .inr ⟨hk, rfl⟩⟩
  · exact ⟨g', hg, .inl rfl⟩

/-- what an update of a seal leaves alone -/
structure SealRow.Same (g g' : SealRow) : Prop where
  generation : g'.generation = g.generation
  cutoff : g'.cutoffMs = g.cutoffMs

/-- the seals of `s'` come from those of `s` and keep what `Same` says -/
theorem Clocked.seals (h : Clocked s)
    (hbucket : s'.bucket = s.bucket) (hassigned : s'.assigned = s.assigned)
    (hreservations : s'.reservations = s.reservations)
    (hseals : ∀ g' ∈ s'.seals.rows, ∃ g ∈ s.seals.rows, g.Same g' ∧
      (g'.evidenceRevision = g.evidenceRevision ∨
        g'.evidenceRevision = s.bucket.evidenceRevision)) : Clocked s' where
  sealedThrough := hbucket ▸ h.sealedThrough
  cutoff g' hg' := by
    obtain ⟨g, hg, hsame, _⟩ := hseals g' hg'
    rw [hbucket, hsame.cutoff]
    exact h.cutoff g hg
  generation g' hg' := by
    obtain ⟨g, hg, hsame, _⟩ := hseals g' hg'
    rw [hbucket, hsame.generation]
    exact h.generation g hg
  evidence g' hg' := by
    obtain ⟨g, hg, _, he | he⟩ := hseals g' hg'
    · rw [hbucket, he]
      exact h.evidence g hg
    · rw [hbucket, he]
  times := hassigned ▸ h.times
  last := hbucket ▸ hassigned ▸ h.last
  decided := hreservations ▸ hassigned ▸ h.decided

/-- an update of one reservation that decides nothing -/
theorem Clocked.reservation (h : Clocked s) (txId : TxId) (f : ReservationRow → ReservationRow)
    (hf : ∀ row, (f row).txId = row.txId)
    (hstate : ∀ row, s.reservations.find txId = some row → ∀ intentHash decidedAtMs sequence published,
      (f row).state = .finalized intentHash decidedAtMs sequence published →
        ∃ published, row.state = .finalized intentHash decidedAtMs sequence published) :
    Clocked { s with reservations := s.reservations.modify txId f } where
  sealedThrough := h.sealedThrough
  cutoff := h.cutoff
  generation := h.generation
  evidence := h.evidence
  times := h.times
  last := h.last
  decided row' hrow' intentHash decidedAtMs sequence published hs := by
    rcases (Keyed.mem_modify hf).mp hrow' with ⟨row, hrow, hk, rfl⟩ | ⟨hrow, _⟩
    · obtain ⟨_, hs'⟩ := hstate row (hk ▸ Keyed.find_of_mem hrow) _ _ _ _ hs
      rw [hf]
      exact h.decided row hrow _ _ _ _ hs'
    · exact h.decided row' hrow _ _ _ _ hs

theorem Clocked.bump (h : Clocked s) :
    Clocked { s with
      bucket := { s.bucket with evidenceRevision := s.bucket.evidenceRevision + 1 } } where
  sealedThrough := h.sealedThrough
  cutoff := h.cutoff
  generation := h.generation
  evidence g hg := Nat.le_succ_of_le (h.evidence g hg)
  times := h.times
  last := h.last
  decided := h.decided

theorem Clocked.assign (h : Clocked s) (txId : TxId) (intentHash : Hash) :
    Clocked (assign txId intentHash s) where
  sealedThrough := h.sealedThrough
  cutoff := h.cutoff
  generation := h.generation
  evidence := h.evidence
  times := by
    have hgt : s.bucket.lastAssignedMs < s.decisionTime := decisionTime_gt_last
    refine List.pairwise_append.mpr ⟨h.times, List.pairwise_singleton _ _, fun a ha b hb => ?_⟩
    obtain rfl : b = _ := List.mem_singleton.mp hb
    exact ⟨lt_of_le_of_lt (h.last a ha).1 hgt, (h.last a ha).2⟩
  last a ha := by
    have hgt : s.bucket.lastAssignedMs < s.decisionTime := decisionTime_gt_last
    rcases List.mem_append.mp ha with ha | ha
    · exact ⟨(h.last a ha).1.trans hgt.le, Nat.lt_succ_of_lt (h.last a ha).2⟩
    · obtain rfl := List.mem_singleton.mp ha
      exact ⟨le_rfl, Nat.lt_succ_self _⟩
  decided row' hrow' intentHash' decidedAtMs sequence published hs := by
    rcases (Keyed.mem_modify (by exact fun _ => rfl)).mp hrow' with ⟨row, hrow, hk, rfl⟩ | ⟨hrow, _⟩
    · cases hs
      refine List.mem_append_right _ (List.mem_singleton.mpr ?_)
      rw [← hk]
      rfl
    · exact List.mem_append_left _ (h.decided row' hrow _ _ _ _ hs)

theorem Clocked.move (h : Clocked s) (hm : Move L d s s') : Clocked s' := by
  cases hm with
  | raiseFloor config floor =>
    refine ⟨h.sealedThrough.trans (le_max_left _ _), ?_, h.generation, h.evidence, h.times, h.last,
      h.decided⟩
    exact fun g hg => (h.cutoff g hg).trans (le_max_left _ _)
  | reserve reservation reservationHash hnone =>
    refine ⟨h.sealedThrough, h.cutoff, h.generation, h.evidence, h.times, h.last, ?_⟩
    intro row hrow intentHash decidedAtMs sequence published hs
    rcases Keyed.mem_put.mp hrow with rfl | ⟨hrow, _⟩
    · cases hs
    · exact h.decided row hrow _ _ _ _ hs
  | conflict txId candidateHash kind =>
    have h' := (h.reservation txId (fun row => { row with
      quarantineState := .unresolved, conflictRoot := some candidateHash
      updatedAtMs := s.now }) (fun _ => rfl) fun _ _ _ _ _ published hs => ⟨published, hs⟩).bump
    exact ⟨h'.sealedThrough, h'.cutoff, h'.generation, h'.evidence, h'.times, h'.last, h'.decided⟩
  | assign txId intentHash => exact h.assign txId intentHash
  | publish txId row intentHash decidedAtMs sequence record hfind hs =>
    refine h.reservation _ _ (fun _ => rfl) fun row' hrow' _ _ _ _ hs' => ?_
    obtain rfl : row = row' := Option.some.inj (hfind.symm.trans hrow')
    cases hs'
    exact ⟨_, hs⟩
  | cancel txId intentHash =>
    refine h.reservation _ _ (fun _ => rfl) fun row' hrow' _ _ _ _ hs' => ?_
    cases hs'
  | resolve r row hfind =>
    have h' := (h.reservation r.txId (fun row => { row with
      quarantineState := .resolved, resolutionAttestationHash := some r.attestationHash
      updatedAtMs := s.now }) (fun _ => rfl) fun _ _ _ _ _ published hs => ⟨published, hs⟩).bump
    exact ⟨h'.sealedThrough, h'.cutoff, h'.generation, h'.evidence, h'.times, h'.last, h'.decided⟩
  | insertSeal request =>
    refine ⟨h.sealedThrough.trans (le_max_left _ _), ?_, ?_, ?_, h.times, h.last, h.decided⟩
    · intro g hg
      rcases Keyed.mem_put.mp hg with rfl | ⟨hg, _⟩
      · exact le_max_right _ _
      · exact (h.cutoff g hg).trans (le_max_left _ _)
    · intro g hg
      rcases Keyed.mem_put.mp hg with rfl | ⟨hg, _⟩
      · exact Nat.lt_succ_self _
      · exact Nat.lt_succ_of_lt (h.generation g hg)
    · intro g hg
      rcases Keyed.mem_put.mp hg with rfl | ⟨hg, _⟩
      · exact le_rfl
      · exact h.evidence g hg
  | requeue row =>
    refine h.seals rfl rfl rfl fun g' hg' => ?_
    obtain ⟨g, hg, rfl | ⟨_, rfl⟩⟩ := mem_seals_modify (by exact fun _ => rfl) hg'
    · exact ⟨_, hg, ⟨rfl, rfl⟩, .inl rfl⟩
    · exact ⟨g, hg, ⟨rfl, rfl⟩, .inr rfl⟩
  | quarantineSeal row =>
    refine h.seals rfl rfl rfl fun g' hg' => ?_
    obtain ⟨g, hg, rfl | ⟨_, rfl⟩⟩ := mem_seals_modify (by intro g; split <;> rfl) hg'
    · exact ⟨_, hg, ⟨rfl, rfl⟩, .inl rfl⟩
    · refine ⟨g, hg, ?_⟩
      split
      · exact ⟨⟨rfl, rfl⟩, .inl rfl⟩
      · exact ⟨⟨rfl, rfl⟩, .inl rfl⟩
  | restartSeal generation =>
    refine h.seals rfl rfl rfl fun g' hg' => ?_
    obtain ⟨g, hg, rfl | ⟨_, rfl⟩⟩ := mem_seals_modify (by intro g; split <;> rfl) hg'
    · exact ⟨_, hg, ⟨rfl, rfl⟩, .inl rfl⟩
    · refine ⟨g, hg, ?_⟩
      split
      · exact ⟨⟨rfl, rfl⟩, .inr rfl⟩
      · exact ⟨⟨rfl, rfl⟩, .inl rfl⟩
  | progress row rows root =>
    refine h.seals rfl rfl rfl fun g' hg' => ?_
    obtain ⟨g, hg, rfl | ⟨_, rfl⟩⟩ := mem_seals_modify (by exact fun _ => rfl) hg'
    · exact ⟨_, hg, ⟨rfl, rfl⟩, .inl rfl⟩
    · exact ⟨g, hg, ⟨rfl, rfl⟩, .inl rfl⟩
  | publishSeal row receipt hrow =>
    have hseals : Clocked { s with
        seals := s.seals.modify row.generation fun current =>
          { current with status := .complete receipt, updatedAtMs := s.now } } := by
      refine h.seals rfl rfl rfl fun g' hg' => ?_
      obtain ⟨g, hg, rfl | ⟨_, rfl⟩⟩ := mem_seals_modify (by exact fun _ => rfl) hg'
      · exact ⟨_, hg, ⟨rfl, rfl⟩, .inl rfl⟩
      · exact ⟨g, hg, ⟨rfl, rfl⟩, .inl rfl⟩
    refine ⟨?_, hseals.cutoff, hseals.generation, hseals.evidence, h.times, h.last, h.decided⟩
    cases row.mode with
    | advance => exact max_le h.sealedThrough (h.cutoff row hrow)
    | exactPrefix => exact h.sealedThrough
  | dropSeal row =>
    exact h.seals rfl rfl rfl fun g' hg' =>
      ⟨g', (Keyed.mem_erase.mp hg').1, ⟨rfl, rfl⟩, .inl rfl⟩
  | releaseRow txId =>
    exact h.reservation _ _ (fun _ => rfl) fun row _ _ _ _ published hs => ⟨published, hs⟩
  | drop now row =>
    exact ⟨h.sealedThrough, h.cutoff, h.generation, h.evidence, h.times, h.last,
      fun row' hrow' => h.decided row' (Keyed.mem_erase.mp hrow').1⟩
  | _ =>
    exact ⟨h.sealedThrough, h.cutoff, h.generation, h.evidence, h.times, h.last, h.decided⟩

/-! ## seals -/

variable (L) in
/-- a generation is where its status says: at work, held up, or published as it was then -/
structure SealOk (s : Store) (g : SealRow) : Prop where
  digest : g.isDraining → g.evidenceRevision = s.bucket.evidenceRevision → Digested L s g
  quarantined : g.isQuarantined → g.evidenceRevision < s.bucket.evidenceRevision ∨
    ∃ row ∈ s.reservations.rows, row.finalizedBy g.cutoffMs ∧ row.unresolved
  complete : ∀ receipt, g.status = .complete receipt → ∃ p ∈ s.publications,
    p.generation = g.generation ∧ p.receipt = receipt ∧ p.Exact L g.cutoffMs

variable (L) in
def SealsOk (s : Store) : Prop := ∀ g ∈ s.seals.rows, SealOk L s g

theorem isQuarantined_of_status {g : SealRow} (h : g.status = .quarantined) : g.isQuarantined := by
  simp [SealRow.isQuarantined, h]

theorem isDraining_of_status {g : SealRow} (h : g.status = .draining) : g.isDraining := by
  simp [SealRow.isDraining, h]

theorem draining_not_quarantined {g : SealRow} (h : g.isDraining) : g.isQuarantined = false := by
  cases hs : g.status <;> simp_all [SealRow.isDraining, SealRow.isQuarantined]

theorem draining_not_complete {g : SealRow} {receipt : SealReceipt} (h : g.isDraining) :
    g.status ≠ .complete receipt := by
  intro hs
  simp [SealRow.isDraining, hs] at h

/-- the seals stay, the evidence moves on or the reservations grow under it -/
theorem SealOk.grow {g : SealRow} (h : SealOk L s g)
    (hpub : ∀ p ∈ s.publications, p ∈ s'.publications)
    (hev : s.bucket.evidenceRevision ≤ s'.bucket.evidenceRevision)
    (hevg : g.evidenceRevision ≤ s.bucket.evidenceRevision)
    (hgrow : s'.bucket.evidenceRevision = s.bucket.evidenceRevision → g.isDraining →
      Grows Entry.key Entry.ready (s.entries g.cutoffMs) (s'.entries g.cutoffMs))
    (hheld : s'.bucket.evidenceRevision = s.bucket.evidenceRevision →
      ∀ row ∈ s.reservations.rows, row.finalizedBy g.cutoffMs → row.unresolved →
        ∃ row' ∈ s'.reservations.rows, row'.finalizedBy g.cutoffMs ∧ row'.unresolved) :
    SealOk L s' g where
  digest hd he := by
    have hsame : s'.bucket.evidenceRevision = s.bucket.evidenceRevision := by omega
    obtain ⟨l, hl, hcount, hroot⟩ := h.digest hd (he.trans hsame)
    exact ⟨l, hl.grows (hgrow hsame hd), hcount, hroot⟩
  quarantined hq := by
    rcases h.quarantined hq with hlt | ⟨row, hrow, hfin, hu⟩
    · exact .inl (by omega)
    · rcases Nat.lt_or_ge s.bucket.evidenceRevision s'.bucket.evidenceRevision with hlt | hge
      · exact .inl (by omega)
      · exact .inr (hheld (by omega) row hrow hfin hu)
  complete receipt hs := by
    obtain ⟨p, hp, hrest⟩ := h.complete receipt hs
    exact ⟨p, hpub p hp, hrest⟩

/-- a quarantined row of a closed time outlasts a move that leaves the evidence revision alone -/
theorem unresolved_stays (hm : Move L d s s')
    (he : s'.bucket.evidenceRevision = s.bucket.evidenceRevision) {row : ReservationRow}
    {cutoffMs : Nat} (hrow : row ∈ s.reservations.rows) (hfin : row.finalizedBy cutoffMs)
    (hu : row.unresolved) :
    ∃ row' ∈ s'.reservations.rows, row'.finalizedBy cutoffMs ∧ row'.unresolved := by
  have hnot : ∀ {txId : TxId} {r : ReservationRow}, s.reservations.find txId = some r →
      r.finalizedBy cutoffMs = false ∨ r.unresolved = false → row.txId ≠ txId := by
    intro txId r hr hor hk
    have := Keyed.find_of_mem hrow
    rw [hk, hr] at this
    cases this
    rcases hor with hor | hor <;> simp_all
  cases hm with
  | reserve reservation reservationHash h =>
    exact ⟨row, Keyed.mem_put.mpr (.inr ⟨hrow, Keyed.find_eq_none.mp h row hrow⟩), hfin, hu⟩
  | conflict => simp [Store.quarantine] at he
  | resolve => simp at he
  | assign txId intentHash r h hs =>
    exact ⟨row, (Keyed.mem_modify (by exact fun _ => rfl)).mpr
      (.inr ⟨hrow, hnot h (.inl (finalizedBy_reserved hs))⟩), hfin, hu⟩
  | cancel txId intentHash r h hs =>
    exact ⟨row, (Keyed.mem_modify (by exact fun _ => rfl)).mpr
      (.inr ⟨hrow, hnot h (.inl (finalizedBy_reserved hs))⟩), hfin, hu⟩
  | publish txId r intentHash decidedAtMs sequence record h hs =>
    by_cases hk : row.txId = txId
    · have := Keyed.find_of_mem hrow
      rw [hk, h] at this
      cases this
      refine ⟨_, (Keyed.mem_modify (by exact fun _ => rfl)).mpr (.inl ⟨row, hrow, hk, rfl⟩), ?_, hu⟩
      simpa [ReservationRow.finalizedBy, hs] using hfin
    · exact ⟨row, (Keyed.mem_modify (by exact fun _ => rfl)).mpr (.inr ⟨hrow, hk⟩), hfin, hu⟩
  | releaseRow txId =>
    by_cases hk : row.txId = txId
    · exact ⟨_, (Keyed.mem_modify (by exact fun _ => rfl)).mpr (.inl ⟨row, hrow, hk, rfl⟩), hfin, hu⟩
    · exact ⟨row, (Keyed.mem_modify (by exact fun _ => rfl)).mpr (.inr ⟨hrow, hk⟩), hfin, hu⟩
  | drop now r h hq =>
    exact ⟨row, Keyed.mem_erase.mpr ⟨hrow, hnot (Keyed.find_of_mem h) (.inr hq)⟩, hfin, hu⟩
  | _ => exact ⟨row, hrow, hfin, hu⟩

/-- a move leaves the seals alone, or it only touches seals -/
theorem evidence_mono (hm : Move L d s s') :
    s.bucket.evidenceRevision ≤ s'.bucket.evidenceRevision := by
  cases hm with
  | conflict => exact Nat.le_succ _
  | resolve => exact Nat.le_succ _
  | _ => exact le_rfl

theorem publications_mono (hm : Move L d s s') : ∀ p ∈ s.publications, p ∈ s'.publications := by
  cases hm with
  | publishSeal => exact fun p hp => List.mem_append_left _ hp
  | _ => exact fun p hp => hp

/-- a seal that a move leaves as it is stays ok -/
theorem SealOk.move {g : SealRow} (h : SealOk L s g) (hc : Clocked s) (hg : g ∈ s.seals.rows)
    (hm : Move L d s s') : SealOk L s' g :=
  h.grow (publications_mono hm) (evidence_mono hm) (hc.evidence g hg)
    (fun he hd => entries_grow hm (hc.cutoff g hg) ⟨g, hg, hd⟩ he)
    (fun he _ hrow hfin hu => unresolved_stays hm he hrow hfin hu)

/-- a generation that starts from the first record has digested nothing -/
theorem SealOk.started {g : SealRow} (hs : g.status = .draining) (hc : g.cursor = ⊥)
    (hcount : g.digestCount = 0) (hroot : g.digestRoot = zeroHash) : SealOk L s g where
  digest _ _ := ⟨[], by rw [hc]; exact .nil, hcount, hroot⟩
  quarantined hq := by simp [SealRow.isQuarantined, hs] at hq
  complete receipt h := by simp [hs] at h

theorem unresolvedCount_pos {cutoffMs : Nat} : s.unresolvedCount cutoffMs > 0 ↔
    ∃ row ∈ s.reservations.rows, row.finalizedBy cutoffMs ∧ row.unresolved := by
  simp [Store.unresolvedCount, Keyed.count, List.length_pos_iff_exists_mem]

/-- the members of a cutoff, as entries -/
theorem mem_members {cutoffMs : Nat} {row : ReservationRow} :
    row ∈ s.members cutoffMs ↔ row ∈ s.reservations.rows ∧ row.finalizedBy cutoffMs :=
  Keyed.mem_ordered

theorem ReservationRow.key_txId (row : ReservationRow) : (ofLex (ofLex row.key).2).2 = row.txId := by
  unfold ReservationRow.key
  split <;> rfl

theorem members_sorted (s : Store) (cutoffMs : Nat) :
    (s.members cutoffMs).Pairwise fun a b => a.key < b.key := by
  have hne : (s.members cutoffMs).Pairwise fun a b => a.key ≠ b.key := by
    refine List.Pairwise.imp_of_mem ?_ Keyed.ordered_nodup
    intro a b ha hb hab hkey
    have htx : a.txId = b.txId := by rw [← a.key_txId, ← b.key_txId, hkey]
    have ha' := Keyed.find_of_mem (mem_members.mp ha).1
    rw [htx, Keyed.find_of_mem (mem_members.mp hb).1] at ha'
    exact hab (Option.some.inj ha').symm
  exact (Keyed.ordered_pairwise.and hne).imp fun h => lt_of_le_of_ne h.1 h.2

/-- a digest that counts as many records as there are is the digest of all of them -/
theorem members_digested {g : SealRow} (h : Digested L s g)
    (hcount : (s.members g.cutoffMs).length = g.digestCount) :
    g.digestRoot = rollEntries L zeroHash (s.members g.cutoffMs) := by
  obtain ⟨l, hl, hlen, hroot⟩ := h
  set entries := (s.members g.cutoffMs).map ReservationRow.entry with hentries
  have hsub : ∀ e ∈ l, e ∈ entries := by
    intro e he
    obtain ⟨row, hrow, hfin, rfl⟩ := ((hl.mem e).mp he).1
    exact List.mem_map_of_mem (mem_members.mpr ⟨hrow, hfin⟩)
  have hnodup : l.Nodup := hl.sorted.imp fun {a b} hlt => by
    rintro rfl
    exact lt_irrefl _ hlt
  have hperm : l.Perm entries := by
    refine (List.subperm_of_subset hnodup hsub).perm_of_length_le ?_
    rw [hentries, List.length_map, hcount, hlen]
  have hsorted : entries.Pairwise fun a b => a.key < b.key :=
    List.pairwise_map.mpr (members_sorted s g.cutoffMs)
  have heq : l = entries :=
    hperm.eq_of_pairwise (fun a b _ _ h h' => absurd (h.trans h') (lt_irrefl _)) hl.sorted hsorted
  rw [hroot, heq, rollEntries_eq]

theorem SealsOk.move (h : SealsOk L s) (hc : Clocked s) (hm : Move L d s s') : SealsOk L s' := by
  have hsame : ∀ g ∈ s.seals.rows, SealOk L s' g := fun g hg => (h g hg).move hc hg hm
  cases hm with
  | insertSeal request =>
    intro g hg
    rcases Keyed.mem_put.mp hg with rfl | ⟨hg, _⟩
    · exact .started rfl rfl rfl rfl
    · exact hsame g hg
  | requeue row =>
    intro g' hg'
    obtain ⟨g, hg, rfl | ⟨_, rfl⟩⟩ := mem_seals_modify (by exact fun _ => rfl) hg'
    · exact hsame _ hg
    · exact .started rfl rfl rfl rfl
  | quarantineSeal row hrow hd hu =>
    intro g' hg'
    obtain ⟨g, hg, rfl | ⟨hk, rfl⟩⟩ := mem_seals_modify (by intro g; split <;> rfl) hg'
    · exact hsame _ hg
    · split
      · obtain rfl : g = row := by
          have := Keyed.find_of_mem hg
          rw [hk, Keyed.find_of_mem hrow] at this
          exact (Option.some.inj this).symm
        refine ⟨nofun, fun _ => .inr (unresolvedCount_pos.mp hu), nofun⟩
      · exact hsame g hg
  | restartSeal generation =>
    intro g' hg'
    obtain ⟨g, hg, rfl | ⟨_, rfl⟩⟩ := mem_seals_modify (by intro g; split <;> rfl) hg'
    · exact hsame _ hg
    · split
      · exact .started rfl rfl rfl rfl
      · exact hsame g hg
  | progress row rows root hrow hd he hcov hroot =>
    intro g' hg'
    obtain ⟨g, hg, rfl | ⟨hk, rfl⟩⟩ := mem_seals_modify (by exact fun _ => rfl) hg'
    · exact hsame _ hg
    · obtain rfl : g = row := by
        have := Keyed.find_of_mem hg
        rw [hk, Keyed.find_of_mem hrow] at this
        exact (Option.some.inj this).symm
      obtain ⟨l, hl, hcount, hr⟩ := (h g hg).digest hd he
      refine ⟨fun _ _ => ⟨l ++ rows.map ReservationRow.entry, ?_, ?_, ?_⟩, ?_, ?_⟩
      · refine hl.append hcov bot_le (reached_ge fun r hr => ?_)
        exact ((hcov.mem _).mp (List.mem_map_of_mem hr)).2.1
      · simp [hcount]
      · rw [hroot, rollEntries_eq, hr, rollHashes_append]
      · intro hq
        have hq : g.isQuarantined = true := hq
        rw [draining_not_quarantined hd] at hq
        cases hq
      · exact fun receipt hs => absurd hs (draining_not_complete hd)
  | publishSeal row receipt hrow hd he hcount hu hp hr hroot =>
    intro g' hg'
    obtain ⟨g, hg, rfl | ⟨hk, rfl⟩⟩ := mem_seals_modify (by exact fun _ => rfl) hg'
    · exact hsame _ hg
    · obtain rfl : g = row := by
        have := Keyed.find_of_mem hg
        rw [hk, Keyed.find_of_mem hrow] at this
        exact (Option.some.inj this).symm
      refine ⟨nofun, nofun, fun receipt' hs => ?_⟩
      cases hs
      refine ⟨_, List.mem_append_right _ (List.mem_singleton.mpr rfl), rfl, rfl, ?_⟩
      have hall := members_digested ((h g hg).digest hd he) hcount
      exact
        { recordCount := hr.trans hcount.symm, recordsRoot := hroot.trans hall
          published := fun r hr hfin => hp r (mem_members.mpr ⟨hr, hfin⟩)
          resolved := fun r hr hfin => hu r (mem_members.mpr ⟨hr, hfin⟩) }
  | dropSeal row =>
    intro g hg
    exact hsame g (Keyed.mem_erase.mp hg).1
  | _ => exact hsame

end JournalManifest
