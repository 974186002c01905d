import CloudflareShard.ControlPlane.SealWatch

/-!
# Reservations make sections

What `reserve`, `finalize`, `cancel` and `resolveQuarantine` do to a manifest bucket, in moves.

* `finalizeSync_section` and the others   what each transaction does;
* `CancelledBy`, `FinalizedBy`, `Agrees`  what an answer says about the reservation;
* `reserve_ok`, `resolveQuarantine_ok`    **each method only makes sections**.
-/

namespace JournalManifest
open Async Contracts Keyset

variable {L : BucketLib} {d : Regime} {s : Store} {α β : Type}

/-- a piece of a method that only makes sections -/
abbrev Ok (L : BucketLib) (d : Regime) (p : Bucket α) (post : α → Store → Prop) (s : Store) : Prop :=
  (rules L d).Does (Allows d) p post s

theorem Section.one {s' : Store} (h : Move L d s s') : Section L d s s' :=
  Relation.ReflTransGen.single h

theorem Section.refl : Section L d s s := Relation.ReflTransGen.refl

theorem Section.trans {s' s'' : Store} (h : Section L d s s') (h' : Section L d s' s'') :
    Section L d s s'' := Relation.ReflTransGen.trans h h'

theorem gets_ok {f : Store → α} : Ok L d (gets f) (fun a s' => s' = s ∧ a = f s) s :=
  .step (fun _ => .refl) (.pure ⟨rfl, rfl⟩)

theorem sync_ok {f : Store → α × Store} (h : Inv L d s → Section L d s (f s).2) :
    Ok L d (sync f) (fun a s' => f s = (a, s')) s := .step h (.pure rfl)

theorem modify_ok {f : Store → Store} (h : Move L d s (f s)) :
    Ok L d (.modify f) (fun _ _ => True) s := (Rules.Does.modify fun _ => Section.one h).done

theorem digest_ok {hash : Hash} : Ok L d (digest hash) (fun a _ => a = hash) s :=
  .call fun _ _ _ _ => .pure rfl

theorem liftContract_ok {x : Except TransactionProtocolError α} :
    Ok L d (liftContract x) (fun a s' => s' = s ∧ x = .ok a) s := by
  cases x with
  | ok a => exact .pure ⟨rfl, rfl⟩
  | error e => exact .throw

theorem oneReservation_ok {txId : TxId} : Ok L d (oneReservation txId)
    (fun row s' => s' = s ∧ s.reservations.find txId = some row) s := by
  refine .step (fun _ => .refl) ?_
  cases h : s.reservations.find txId with
  | some row => exact .pure ⟨rfl, rfl⟩
  | none => exact .throw

theorem oneSeal_ok {generation : Nat} : Ok L d (oneSeal generation)
    (fun row s' => s' = s ∧ s.seals.find generation = some row) s := by
  refine .step (fun _ => .refl) ?_
  cases h : s.seals.find generation with
  | some row => exact .pure ⟨rfl, rfl⟩
  | none => exact .throw

/-! ## alarms -/

theorem unseen_section {metadata candidates recordConflicts pageCursors alarmSchedule physicalAlarm
    now} : Section L d s { s with metadata, candidates, recordConflicts, pageCursors, alarmSchedule,
                                  physicalAlarm, now } :=
  .one (.unseen _ _ _ _ _ _ _)

theorem rearm_ok : Ok L d rearmPhysicalAlarm (fun _ _ => True) s :=
  (Rules.Does.modify fun _ => unseen_section).bind fun _ _ _ _ => .pause

theorem schedule_ok {purpose : Purpose} {timestampMs generation : Nat} :
    Ok L d (scheduleAlarmPurpose purpose timestampMs generation) (fun _ _ => True) s :=
  (Rules.Does.modify fun _ => unseen_section).bind fun _ _ _ _ => rearm_ok

theorem clear_ok {purpose : Purpose} : Ok L d (clearAlarmPurpose purpose) (fun _ _ => True) s :=
  (Rules.Does.modify fun _ => unseen_section).bind fun _ _ _ _ => rearm_ok

theorem ensureAlarm_ok {timestampMs : Nat} :
    Ok L d (ensureAlarmAtOrBefore timestampMs) (fun _ _ => True) s := schedule_ok

/-! ## the ledger of the predecessor -/

/-- the ledger is closed, and holds nothing later than `maximum` -/
def ClosedBy (maximum : Int) (s : Store) : Prop :=
  s.bucket.legacyClosed = true ∧
    ∀ row ∈ s.records.rows, (row.record.commitDecidedAt : Int) ≤ maximum

theorem closedBy_stable (maximum : Int) : (rules L d).Stable (ClosedBy maximum) := by
  refine stable_of_move fun {s s'} _ hm h => ?_
  cases hm with
  | closeLegacy => exact ⟨rfl, h.2⟩
  | insertRecord row hopen => simp [h.1] at hopen
  | records t ht =>
    refine ⟨h.1, fun row hrow => ?_⟩
    obtain ⟨row₀, hrow₀, he⟩ := ht row hrow
    exact he ▸ h.2 row₀ hrow₀
  | _ => exact h

theorem le_foldl_max (rows : List LegacyRow) : ∀ m : Int,
    m ≤ rows.foldl (fun maximum row => max maximum row.commitDecidedAt) m ∧
      ∀ row ∈ rows, (row.commitDecidedAt : Int) ≤
        rows.foldl (fun maximum row => max maximum row.commitDecidedAt) m := by
  induction rows with
  | nil => exact fun m => ⟨le_rfl, nofun⟩
  | cons row rows ih =>
    intro m
    obtain ⟨h₁, h₂⟩ := ih (max m row.commitDecidedAt)
    refine ⟨(le_max_left _ _).trans h₁, fun r hr => ?_⟩
    rcases List.mem_cons.mp hr with rfl | hr
    · exact (le_max_right _ _).trans h₁
    · exact h₂ r hr

theorem closeLegacy_closed : ClosedBy (legacyMaximum (closeLegacy s).1) (closeLegacy s).2 := by
  refine ⟨rfl, fun row hrow => ?_⟩
  have hmem : row ∈ s.records.ordered (fun _ => true) (·.record.txId) :=
    Keyed.mem_ordered.mpr ⟨hrow, rfl⟩
  exact (le_foldl_max (closeLegacy s).1 (-1)).2 _ (List.mem_map_of_mem hmem)

theorem ensureLegacyCertificate_ok :
    Ok L d (ensureLegacyCertificate L) (fun _ _ => True) s := by
  refine gets_ok.bind fun bucket s₁ _ _ => ?_
  have certify : ∀ s₁, Ok L d (do
      let legacyRows ← sync closeLegacy
      let maximum := legacyMaximum legacyRows
      let recordsRoot ← digest (L.hash (.legacyRows legacyRows))
      let certificateHash ← digest (L.hash (.certificate
        { imported := !legacyRows.isEmpty, recordCount := legacyRows.length, recordsRoot
          maximumCommitDecidedAtMs := maximum }))
      sync (certifySync certificateHash maximum)) (fun _ _ => True) s₁ := by
    intro s₁
    refine (sync_ok fun _ => .one .closeLegacy).bind fun rows s₂ _ he => ?_
    obtain ⟨rfl, rfl⟩ := Prod.mk.inj he
    refine digest_ok.bind fun root s₃ hl₃ _ => digest_ok.bind fun hash s₄ hl₄ _ => ?_
    have hclosed := Rules.Stable.later (closedBy_stable _) (hl₃.trans hl₄) (closeLegacy_closed (s := s₁))
    refine (sync_ok fun _ => ?_).done
    unfold certifySync
    split
    · exact .refl
    · exact .one (.certify _ _ hclosed.1 hclosed.2)
  split
  · exact .pure trivial
  · exact certify s₁

/-! ## reservations -/

theorem fixMetadata_section {metadata : PartitionMetadata} :
    Section L d s (fixMetadata metadata s) := by
  unfold fixMetadata
  split
  · exact .refl
  · exact unseen_section

theorem reserveRow_section {reservation : ManifestReservation} {reservationHash : Hash}
    {floor : Nat} {certificateHash : Hash} :
    Section L d s (reserveRow reservation reservationHash floor certificateHash s).2 := by
  unfold reserveRow
  split
  case h_1 existing _ =>
    split
    · split <;> exact .refl
    · exact .one (.conflict _ _ _)
  case h_2 h => exact .one (.reserve _ _ h)

theorem reserveSync_section {reservation : ManifestReservation} {reservationHash : Hash}
    {floor : Nat} {certificateHash : Hash} :
    Section L d s (reserveSync reservation reservationHash floor certificateHash s).2 := by
  unfold reserveSync
  simp only
  split
  · exact .refl
  · split
    · exact fixMetadata_section
    · exact (fixMetadata_section.trans (.one (.raiseFloor _ _))).trans reserveRow_section

theorem reserve_ok {reservation : ManifestReservation} {claimed : Hash} {floor : Nat} :
    Ok L d (reserve L reservation claimed floor) (fun _ _ => True) s := by
  refine Rules.Does.rescue ?_ fun _ _ => .pure trivial
  refine liftContract_ok.bind fun hash s₁ _ _ => digest_ok.bind fun _ s₂ _ _ => ?_
  split
  · exact .pure trivial
  · split
    · exact .pure trivial
    · refine ensureLegacyCertificate_ok.bind fun cert s₃ _ _ => gets_ok.bind fun now s₄ _ _ => ?_
      refine (sync_ok fun _ => reserveSync_section).bind fun result s₅ _ _ => ?_
      cases result with
      | reserved => exact ensureAlarm_ok.bind fun _ _ _ _ => .pure trivial
      | refused => exact .pure trivial

/-! ## outcomes -/

/-- the reservation is decided, with this intent -/
def FinalizedBy (txId : TxId) (intentHash : Hash) (s : Store) : Prop :=
  ∃ row decidedAtMs sequence published, s.reservations.find txId = some row ∧
    row.state = .finalized intentHash decidedAtMs sequence published

theorem finalizeSync_section {intent : ManifestFinalizeIntent} {intentHash : Hash}
    (hd : d.careful → Respectful (.finalizeIntent intent) () s) :
    Section L d s (finalizeSync intent intentHash s).2 := by
  unfold finalizeSync
  simp only
  split
  · exact .refl
  · rename_i row hrow
    split
    · exact .refl
    · rename_i hname
      split
      · exact .refl
      · rename_i hq
        split
        · exact .one (.conflict _ _ _)
        · split
          · exact .one (.conflict _ _ _)
          · split
            · exact .refl
            · split <;> exact .refl
        · rename_i hs
          split
          · exact .refl
          · rename_i hnamed
            have hnamed := not_or.mp hnamed
            refine .one (.assign _ _ row hrow hs (by simpa using hq) fun hc => ?_)
            exact hd hc row hrow hs ⟨not_not.mp hname, not_not.mp hnamed.1, not_not.mp hnamed.2⟩

/-- a record that `finalize` answers from its first transaction belongs to a decided row -/
theorem finalizeSync_complete {intent : ManifestFinalizeIntent} {intentHash : Hash}
    {record : ManifestRecordV2} {recordHash : Hash} {s' : Store}
    (h : finalizeSync intent intentHash s = (.complete record recordHash, s')) :
    FinalizedBy intent.txId intentHash s' := by
  unfold finalizeSync at h
  simp only at h
  split at h
  · cases h
  · rename_i row hrow
    split at h
    · cases h
    · split at h
      · cases h
      · split at h
        · cases h
        · rename_i terminal decidedAtMs sequence published hs
          split at h
          · cases h
          · rename_i hne
            obtain rfl : terminal = intentHash := not_not.mp hne
            split at h
            · cases h
              exact ⟨row, decidedAtMs, sequence, _, hrow, hs⟩
            · split at h <;> cases h
        · split at h <;> cases h

/-- a finalize refuses, or the reservation has become what it asked for -/
theorem finalizeSync_error {intent : ManifestFinalizeIntent} {intentHash : Hash}
    {result : FinalizeResult} {s' : Store}
    (h : finalizeSync intent intentHash s = (.error result, s')) :
    ∃ status error, result = .refused status error := by
  unfold finalizeSync finalizeConflict at h
  simp only at h
  repeat' split at h
  all_goals cases h
  all_goals exact ⟨_, _, rfl⟩

theorem publishSync_section {txId : TxId} {intentHash : Hash} {decidedAtMs sequence : Nat}
    {record : PublishedRecord} {persisted : Bool} {s' : Store}
    (hr : record.retentionDeadlineMs = decidedAtMs + v2HistoryRetentionMs)
    (h : publishSync txId intentHash decidedAtMs sequence record s = .ok (persisted, s')) :
    Section L d s s' ∧ (persisted = true → FinalizedBy txId intentHash s') := by
  unfold publishSync at h
  split at h
  · cases h
  · rename_i row hrow
    split at h
    · rename_i terminal commitDecidedAtMs decisionSequence published hs
      split at h
      case isTrue hsame =>
        obtain ⟨rfl, rfl, rfl⟩ := hsame
        split at h
        · cases h
          exact ⟨.refl, fun _ => ⟨row, _, _, _, hrow, hs⟩⟩
        · cases h
          refine ⟨.one (.publish txId row _ _ _ record hrow hs hr), fun _ => ?_⟩
          refine ⟨{ row with
            state := .finalized terminal commitDecidedAtMs decisionSequence (some record)
            updatedAtMs := s.now }, _, _, _, ?_, rfl⟩
          show (s.reservations.modify txId _).find txId = _
          rw [Keyed.find_modify (by exact fun _ => rfl), if_pos rfl, hrow]
          rfl
      case isFalse =>
        cases h
        exact ⟨.refl, nofun⟩
    · cases h
      exact ⟨.refl, nofun⟩

/-- what an answer of `finalize` says about the reservation when it is given -/
def FinalizeAnswer (txId : TxId) (result : FinalizeResult) (s : Store) : Prop :=
  ∀ already record recordHash, result = .finalized already record recordHash →
    ∃ intentHash, FinalizedBy txId intentHash s

theorem publish_ok {intent : ManifestFinalizeIntent} {intentHash : Hash}
    {reservation : ManifestReservation} {decidedAtMs sequence : Nat} :
    Ok L d (publish L intent intentHash reservation decidedAtMs sequence)
      (FinalizeAnswer intent.txId) s := by
  refine ensureAlarm_ok.bind fun _ s₁ _ _ => liftContract_ok.bind fun hash s₂ _ _ => ?_
  refine digest_ok.bind fun _ s₃ _ _ => ?_
  refine (Rules.Does.transact fun _ _ _ h => (publishSync_section rfl h).1).bind ?_
  intro persisted s₄ _ h
  split
  · exact .pure (nofun)
  · rename_i hp
    obtain ⟨_, hfin⟩ := publishSync_section (L := L) (d := d) rfl h
    refine oneReservation_ok.bind fun row s₅ _ hrow => ?_
    split
    · exact .pure nofun
    · refine .pure fun _ _ _ _ => ⟨intentHash, ?_⟩
      rw [hrow.1]
      exact hfin (by simpa using hp)

theorem finalize_ok {intent : ManifestFinalizeIntent} :
    Ok L d (finalize L intent) (FinalizeAnswer intent.txId) s := by
  refine Rules.Does.rescue ?_ fun _ _ => .pure nofun
  refine liftContract_ok.bind fun hash s₁ _ _ => Rules.Does.ask.bind fun _ s₂ _ ha => ?_
  refine (sync_ok fun _ => finalizeSync_section ha).bind fun assignment s₃ _ h => ?_
  cases assignment with
  | error result =>
    obtain ⟨status, error, rfl⟩ := finalizeSync_error h
    exact .pure nofun
  | complete record recordHash =>
    exact .pure fun _ _ _ _ => ⟨hash, finalizeSync_complete h⟩
  | assigned => exact publish_ok

theorem cancelSync_section {intent : ManifestCancelIntent} {intentHash : Hash}
    (hd : d.careful → Respectful (.cancelIntent intent) () s) :
    Section L d s (cancelSync intent intentHash s).2 := by
  unfold cancelSync
  simp only
  split
  · exact .refl
  · rename_i row hrow
    split
    · exact .refl
    · rename_i hname
      split
      · exact .refl
      · rename_i hq
        split
        · split
          · exact .refl
          · exact .one (.conflict _ _ _)
        · exact .one (.conflict _ _ _)
        · rename_i hs
          split
          · exact .refl
          · rename_i hnamed
            have hnamed := not_or.mp hnamed
            refine .one (.cancel _ _ row hrow hs (by simpa using hq) fun hc => ?_)
            exact hd hc row hrow hs ⟨not_not.mp hname, not_not.mp hnamed.1, not_not.mp hnamed.2⟩

/-- a cancel that answers so leaves the reservation cancelled -/
theorem cancelSync_cancelled {intent : ManifestCancelIntent} {intentHash : Hash} {already : Bool}
    {s' : Store} (h : cancelSync intent intentHash s = (.cancelled already, s')) :
    ∃ row hash, s'.reservations.find intent.txId = some row ∧ row.state = .cancelled hash := by
  unfold cancelSync cancelConflict at h
  simp only at h
  split at h
  · cases h
  · rename_i row hrow
    split at h
    · cases h
    · split at h
      · cases h
      · split at h
        · rename_i terminal hs
          split at h
          · cases h
            exact ⟨row, terminal, hrow, hs⟩
          · cases h
        · cases h
        · split at h
          · cases h
          · cases h
            refine ⟨{ row with state := .cancelled intentHash, updatedAtMs := s.now }, _, ?_, rfl⟩
            show (s.reservations.modify intent.txId _).find intent.txId = _
            rw [Keyed.find_modify (by exact fun _ => rfl), if_pos rfl, hrow]
            rfl

/-- the reservation is cancelled, or a sweep has deleted it since it was -/
def CancelledBy (txId : TxId) (s : Store) : Prop :=
  txId ∈ s.sweptTx ∨ ∃ row hash, s.reservations.find txId = some row ∧ row.state = .cancelled hash

theorem CancelledBy.later {s' : Store} {txId : TxId} (h : CancelledBy txId s)
    (hl : (rules L d).Later s s') : CancelledBy txId s' := by
  have hkept := Kept.later hl
  rcases h with hsw | ⟨row, hash, hrow, hs⟩
  · exact .inl (hkept.sweptTx hsw)
  · rcases hkept.state txId row hrow (by rw [hs]; exact nofun) with hsw | ⟨row', hrow', hset⟩
    · exact .inl hsw
    · rw [hs] at hset
      generalize hs' : row'.state = state at hset
      cases hset
      exact .inr ⟨row', hash, hrow', hs'⟩

theorem cancel_ok {intent : ManifestCancelIntent} :
    Ok L d (cancel L intent)
      (fun result s' => ∀ already, result = .cancelled already → CancelledBy intent.txId s') s := by
  refine Rules.Does.rescue ?_ fun _ _ => .pure nofun
  refine liftContract_ok.bind fun _ s₁ _ _ => Rules.Does.ask.bind fun _ s₂ _ ha => ?_
  refine gets_ok.bind fun now s₃ _ h₃ => ?_
  obtain ⟨rfl, -⟩ := h₃
  refine (sync_ok fun _ => cancelSync_section ha).bind fun result s₄ _ h => ?_
  cases result with
  | cancelled already =>
    have hdone : CancelledBy intent.txId s₄ := .inr (cancelSync_cancelled h)
    exact ensureAlarm_ok.bind fun _ s₅ hl _ => .pure fun _ _ => hdone.later hl
  | refused => exact .pure fun _ he => nomatch he

/-! ## resolutions -/

/-- the outcome of the reservation is not the opposite one -/
def Agrees (resolution : Resolution) (txId : TxId) (s : Store) : Prop :=
  txId ∈ s.sweptTx ∨ ∀ row, s.reservations.find txId = some row →
    row.state ≠ .reserved ∧ ¬ Opposes resolution row.state

theorem answerResolution_ok {request : QuarantineResolutionRequest} {already : Bool} {hash : Hash}
    (h : d.careful → Agrees request.resolution request.reservation.txId s) :
    Ok L d (answerResolution request already hash) (fun _ _ => True) s := by
  refine oneReservation_ok.bind fun row s₁ _ h₁ => ?_
  obtain ⟨rfl, hrow⟩ := h₁
  refine Rules.Does.seq (modify_ok ?_) fun _ _ _ => .pure trivial
  refine .answer _ rfl fun hc => ?_
  rcases h hc with hsw | hall
  · exact .inl hsw
  · exact .inr ⟨row, hrow, hall row hrow⟩

theorem resolveSync_section {request : QuarantineResolutionRequest}
    {requestHash attestationHash : Hash} {already : Bool} {s' : Store}
    (ha : Allows d (.attestation request requestHash attestationHash) () s)
    (h : resolveSync request requestHash attestationHash s = .ok (already, s')) :
    Section L d s s' ∧ Recordable request requestHash attestationHash s := by
  unfold resolveSync typeError at h
  split at h
  · split at h
    · cases h
    · rename_i existing hfind hsame
      cases h
      refine ⟨.refl, (recordable_again hfind).mpr ?_⟩
      simpa only [not_or, not_not] using hsame
  · rename_i hnone
    split at h
    · cases h
    · rename_i current hcurrent
      split at h
      · cases h
      · rename_i hq
        split at h
        · cases h
        · rename_i hu
          have hq : current.unresolved = true := by simpa using hq
          have hfresh : ∀ r ∈ s.resolutions.rows, r.attestationHash ≠ attestationHash :=
            fun r hr he => hu (List.any_eq_true.mpr ⟨r, hr, by simpa using he⟩)
          have hrec : (s.reservations.find request.reservation.txId).any
              ReservationRow.unresolved := by simpa [hcurrent] using hq
          have hready : Recordable request requestHash attestationHash s :=
            (recordable_first hnone).mpr ⟨hrec, hfresh⟩
          cases h
          refine ⟨.one (.resolve
            { idempotencyKey := request.idempotencyKey, txId := request.reservation.txId
              requestHash, resolution := request.resolution, attestationHash }
            current hcurrent hq hnone hfresh fun hc => ha hc current hcurrent hready), hready⟩

/-- a resolution leaves the state of the reservation as it is -/
theorem resolveSync_state {request : QuarantineResolutionRequest} {requestHash attestationHash : Hash}
    {already : Bool} {s' : Store} {row' : ReservationRow}
    (h : resolveSync request requestHash attestationHash s = .ok (already, s'))
    (hrow' : s'.reservations.find request.reservation.txId = some row') :
    ∃ row, s.reservations.find request.reservation.txId = some row ∧ row'.state = row.state := by
  unfold resolveSync typeError at h
  split at h
  · split at h
    · cases h
    · cases h
      exact ⟨row', hrow', rfl⟩
  · split at h
    · cases h
    · split at h
      · cases h
      · split at h
        · cases h
        · cases h
          rcases find_modify_cases (by exact fun _ => rfl) hrow' with ⟨_, row, hrow, rfl⟩ | ⟨hne, _⟩
          · exact ⟨row, hrow, rfl⟩
          · exact absurd rfl hne

/-- the intent of a resolution that has been checked: it asks for the same outcome -/
inductive Matching (txId : TxId) : Resolution → TerminalIntent → Prop where
  | finalize (intent : ManifestFinalizeIntent) (h : intent.txId = txId) :
      Matching txId .finalized (.finalize intent)
  | cancel (intent : ManifestCancelIntent) (h : intent.txId = txId) :
      Matching txId .cancelled (.cancel intent)

theorem matching_of_checks {request : QuarantineResolutionRequest} {intentHash : Hash}
    (h : terminalIntentHash L request = .ok intentHash) (hc : checkIntent request = .ok ()) :
    Matching request.reservation.txId request.resolution request.terminalIntent := by
  unfold terminalIntentHash fail at h
  unfold checkIntent typeError at hc
  split at h
  · rename_i intent hres hint
    rw [hres, hint]
    refine .finalize intent ?_
    by_contra hne
    simp [hint, hne] at hc
  · rename_i intent hres hint
    rw [hres, hint]
    refine .cancel intent ?_
    by_contra hne
    simp [hint, hne] at hc
  · cases h
  · cases h

theorem applyTerminal_ok {resolution : Resolution} {txId : TxId} {intent : TerminalIntent}
    (hm : Matching txId resolution intent) :
    Ok L d (applyTerminal L intent) (fun refusal s' => refusal = none → Agrees resolution txId s')
      s := by
  cases hm with
  | finalize intent htx =>
    refine finalize_ok.bind fun result s₁ _ h => ?_
    cases result with
    | finalized already record recordHash =>
      obtain ⟨hash, row, _, _, _, hrow, hs⟩ := h already record recordHash rfl
      refine .pure fun _ => .inr fun row' hrow' => ?_
      rw [htx] at hrow
      obtain rfl : row = row' := Option.some.inj (hrow.symm.trans hrow')
      rw [hs]
      exact ⟨nofun, id⟩
    | refused => exact .pure nofun
  | cancel intent htx =>
    refine cancel_ok.bind fun result s₁ _ h => ?_
    cases result with
    | cancelled already =>
      refine .pure fun _ => ?_
      rcases htx ▸ h already rfl with hsw | ⟨row, hash, hrow, hs⟩
      · exact .inl hsw
      · refine .inr fun row' hrow' => ?_
        obtain rfl : row = row' := Option.some.inj (hrow.symm.trans hrow')
        rw [hs]
        exact ⟨nofun, id⟩
    | refused => exact .pure nofun

theorem applyResolution_ok {request : QuarantineResolutionRequest}
    {requestHash attestationHash : Hash}
    (ha : Allows d (.attestation request requestHash attestationHash) () s)
    (hm : Matching request.reservation.txId request.resolution request.terminalIntent) :
    Ok L d (applyResolution L request requestHash attestationHash) (fun _ _ => True) s := by
  refine (Rules.Does.transact fun _ _ _ h => (resolveSync_section ha h).1).bind
    fun already s₁ _ h₁ => ?_
  refine oneReservation_ok.bind fun terminal s₂ _ h₂ => ?_
  obtain ⟨rfl, hrow⟩ := h₂
  obtain ⟨row, hbefore, hstate⟩ := resolveSync_state h₁ hrow
  have hrec := (resolveSync_section (L := L) ha h₁).2
  have settled (hne : terminal.state ≠ .reserved) :
      Ok L d (answerResolution request already attestationHash) (fun _ _ => True) s₂ := by
    refine answerResolution_ok fun hc => .inr fun row' hrow' => ?_
    obtain rfl : terminal = row' := Option.some.inj (hrow.symm.trans hrow')
    exact ⟨hne, hstate ▸ ha hc row hbefore hrec⟩
  split
  · refine (applyTerminal_ok hm).bind fun refusal s₃ _ h₃ => ?_
    cases refusal with
    | some refusal => exact .pure trivial
    | none => exact answerResolution_ok fun _ => h₃ rfl
  · rename_i hne
    exact settled hne

theorem resolveQuarantine_ok {request : QuarantineResolutionRequest} :
    Ok L d (resolveQuarantine L request) (fun _ _ => True) s := by
  refine Rules.Does.rescue ?_ fun _ _ => .pure trivial
  refine liftContract_ok.bind fun _ _ _ _ => digest_ok.bind fun _ _ _ _ => ?_
  refine Rules.Does.ofExcept.bind fun _ _ _ _ => digest_ok.bind fun _ _ _ _ => ?_
  split
  · exact .throw
  · refine Rules.Does.ofExcept.bind fun _ _ _ _ => ?_
    refine liftContract_ok.bind fun intentHash _ _ hint => digest_ok.bind fun _ _ _ _ => ?_
    refine Rules.Does.ofExcept.bind fun _ _ _ hchk => ?_
    refine Rules.Does.seq (gets_ok.bind fun _ _ _ _ => Rules.Does.ofExcept.done) fun row _ _ => ?_
    refine digest_ok.bind fun requestHash _ _ _ => Rules.Does.ask.bind fun _ _ _ ha => ?_
    exact applyResolution_ok ha (matching_of_checks hint.2 hchk.2)

end JournalManifest
