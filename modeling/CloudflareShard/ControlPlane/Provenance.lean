import CloudflareShard.Async.Only
import CloudflareShard.ControlPlane.Retention

/-!
# What the hashes of a manifest bucket are hashes of

* `ReservationRow.Sourced`, `CandidateRow.Sourced`   the hash columns come from the contracts;
* `Sourced`          all rows of a bucket do;
* `Sources`          a section that keeps it;
* `handle_sources`   every method only makes such sections;
* `run_sourced`      **every reachable bucket is sourced**.
-/

namespace JournalManifest
open Async Contracts

/-! ## sourced rows -/

structure ReservationRow.Sourced (L : BucketLib) (row : ReservationRow) : Prop where
  reservation : L.hashManifestReservation row.reservation = .ok row.reservationHash
  record : ∀ published, row.published = some published →
    ∃ record, L.hashManifestRecordV2 record = .ok published.recordHash

def CandidateRow.Sourced (L : BucketLib) (c : CandidateRow) : Prop :=
  match c.transitionKind with
  | .reserve => ∃ reservation, L.hashManifestReservation reservation = .ok c.candidateHash
  | .finalize => ∃ intent, L.hashManifestFinalizeIntent intent = .ok c.candidateHash
  | .cancel => ∃ intent, c.candidateHash = L.hashCanonicalJson (.cancelIntent intent)

structure Sourced (L : BucketLib) (s : Store) : Prop where
  rows : ∀ row ∈ s.reservations.rows, row.Sourced L
  candidates : ∀ c ∈ s.candidates.rows, c.Sourced L

/-- sections that leave a sourced bucket sourced -/
def Sources (L : BucketLib) (s s' : Store) : Prop := Sourced L s → Sourced L s'

variable {L : BucketLib} {s s' : Store} {α : Type}

theorem Sources.of_eq (hr : s'.reservations = s.reservations) (hc : s'.candidates = s.candidates) :
    Sources L s s' := by
  intro h
  exact ⟨hr ▸ h.rows, hc ▸ h.candidates⟩

theorem Sources.refl : Sources L s s := .of_eq rfl rfl

theorem Sources.trans {s'' : Store} (h : Sources L s s') (h' : Sources L s' s'') :
    Sources L s s'' := fun hs => h' (h hs)

/-- an update of one reservation that keeps its content -/
theorem Sources.modify {txId : TxId} {f : ReservationRow → ReservationRow}
    (hkey : ∀ row, (f row).txId = row.txId) (hf : ∀ row, row.Sourced L → (f row).Sourced L) :
    Sources L s { s with reservations := s.reservations.modify txId f } := by
  intro h
  refine ⟨fun row hrow => ?_, h.candidates⟩
  cases (Keyed.mem_modify hkey).mp hrow with
  | inl hnew =>
    obtain ⟨row₀, hrow₀, _, rfl⟩ := hnew
    exact hf row₀ (h.rows row₀ hrow₀)
  | inr hold => exact h.rows row hold.1

/-- a change of other columns -/
theorem ReservationRow.Sourced.of_eq {row row' : ReservationRow} (h : row.Sourced L)
    (hreservation : row'.reservation = row.reservation)
    (hhash : row'.reservationHash = row.reservationHash)
    (hpublished : ∀ published, row'.published = some published → row.published = some published) :
    row'.Sourced L := by
  refine ⟨?_, fun published hp => h.record published (hpublished published hp)⟩
  rw [hreservation, hhash]
  exact h.reservation

theorem quarantine_sources {txId : TxId} {candidateHash : Hash} {kind : TransitionKind}
    (hc : (⟨txId, candidateHash, kind⟩ : CandidateRow).Sourced L) :
    Sources L s (s.quarantine txId candidateHash kind) := by
  have hrows : Sources L s { s with
      reservations := s.reservations.modify txId fun row =>
        { row with
          quarantineState := .unresolved, conflictRoot := some candidateHash
          updatedAtMs := s.now } } :=
    .modify (fun _ => rfl) fun row h => h.of_eq rfl rfl fun _ hp => hp
  intro h
  refine ⟨(hrows h).rows, fun c hmem => ?_⟩
  unfold Store.quarantine at hmem
  cases hfind : s.candidates.find (txId, candidateHash) with
  | some _ =>
    simp only [hfind] at hmem
    exact h.candidates c hmem
  | none =>
    simp only [hfind] at hmem
    cases Keyed.mem_put.mp hmem with
    | inl heq =>
      rw [heq]
      exact hc
    | inr hold => exact h.candidates c hold.1

theorem dropReservation_sources {now : Nat} {row : ReservationRow} :
    Sources L s (s.dropReservation now row) := by
  intro h
  refine ⟨fun r hr => h.rows r (Keyed.mem_erase.mp hr).1, fun c hc => ?_⟩
  exact h.candidates c (Keyed.mem_deleteWhere.mp hc).1

theorem drops_sources {now : Nat} (rows : List ReservationRow) :
    ∀ s, Sources L s (rows.foldl (fun s row => s.dropReservation now row) s) := by
  induction rows with
  | nil => exact fun _ => .refl
  | cons row rows ih => exact fun s => dropReservation_sources.trans (ih (s.dropReservation now row))

/-! ## pieces of methods -/

/-- a piece of a method all of whose sections keep the sources -/
abbrev Keeping (L : BucketLib) (p : Bucket α) (post : α → Prop) : Prop := p.Only (Sources L) post

theorem gets_keeping {f : Store → α} : Keeping L (gets f) fun _ => True :=
  .step (fun _ => .refl) fun _ => .pure trivial

theorem sync_keeping {f : Store → α × Store} (h : ∀ s, Sources L s (f s).2) :
    Keeping L (sync f) fun _ => True := .step h fun _ => .pure trivial

theorem transact_keeping {f : Store → Except BucketError (α × Store)}
    (h : ∀ s a s', f s = .ok (a, s') → Sources L s s') :
    Keeping L (.transact f) fun _ => True := Prog.Only.transact (fun _ => .refl) h

theorem liftContract_keeping {x : Except TransactionProtocolError α} :
    Keeping L (liftContract x) fun a => x = .ok a := by
  cases x with
  | ok a => exact .pure rfl
  | error e => exact .throw

theorem digest_keeping {hash : Hash} : Keeping L (digest hash) (· = hash) := .call fun _ => .pure rfl

theorem oneReservation_keeping {txId : TxId} : Keeping L (oneReservation txId) fun _ => True := by
  refine .step (fun _ => .refl) fun s => ?_
  cases s.reservations.find txId with
  | some row => exact .pure trivial
  | none => exact .throw

theorem oneSeal_keeping {generation : Nat} : Keeping L (oneSeal generation) fun _ => True := by
  refine .step (fun _ => .refl) fun s => ?_
  cases s.seals.find generation with
  | some row => exact .pure trivial
  | none => exact .throw

theorem rearm_keeping : Keeping L rearmPhysicalAlarm fun _ => True :=
  (Prog.Only.modify fun _ => .of_eq rfl rfl).bind fun _ _ => .pause

theorem schedule_keeping {purpose : Purpose} {timestampMs generation : Nat} :
    Keeping L (scheduleAlarmPurpose purpose timestampMs generation) fun _ => True :=
  (Prog.Only.modify fun _ => .of_eq rfl rfl).bind fun _ _ => rearm_keeping

theorem clear_keeping {purpose : Purpose} : Keeping L (clearAlarmPurpose purpose) fun _ => True :=
  (Prog.Only.modify fun _ => .of_eq rfl rfl).bind fun _ _ => rearm_keeping

theorem certificate_keeping : Keeping L (ensureLegacyCertificate L) fun _ => True := by
  refine gets_keeping.bind fun bucket _ => ?_
  split
  · exact .pure trivial
  · refine (sync_keeping fun _ => .of_eq rfl rfl).bind fun rows _ => ?_
    refine digest_keeping.bind fun _ _ => digest_keeping.bind fun _ _ => sync_keeping fun s => ?_
    unfold certifySync
    split
    · exact .refl
    · exact .of_eq rfl rfl

/-! ## reserve -/

theorem fixMetadata_sources {metadata : PartitionMetadata} : Sources L s (fixMetadata metadata s) := by
  unfold fixMetadata
  split
  · exact .refl
  · exact .of_eq rfl rfl

theorem reserveRow_sources {reservation : ManifestReservation} {reservationHash : Hash} {floor : Nat}
    {certificateHash : Hash} (h : L.hashManifestReservation reservation = .ok reservationHash) :
    Sources L s (reserveRow reservation reservationHash floor certificateHash s).2 := by
  unfold reserveRow
  split
  · split
    · split
      · exact .refl
      · exact .refl
    · exact quarantine_sources ⟨reservation, h⟩
  · intro hs
    refine ⟨fun row hrow => ?_, hs.candidates⟩
    cases Keyed.mem_put.mp hrow with
    | inl heq =>
      rw [heq]
      exact ⟨h, fun _ hp => absurd hp (by nofun)⟩
    | inr hold => exact hs.rows row hold.1

theorem reserveSync_sources {reservation : ManifestReservation} {reservationHash : Hash} {floor : Nat}
    {certificateHash : Hash} (h : L.hashManifestReservation reservation = .ok reservationHash) :
    Sources L s (reserveSync reservation reservationHash floor certificateHash s).2 := by
  unfold reserveSync
  dsimp only
  split
  · exact .refl
  · split
    · exact fixMetadata_sources
    · have hfix : Sources L s (fixMetadata
          (PartitionMetadata.ofRoute reservation.fleetId reservation.route) s) := fixMetadata_sources
      have hfloor : Sources L s (raiseFloor reservation.route.partitionConfigHash floor (fixMetadata
          (PartitionMetadata.ofRoute reservation.fleetId reservation.route) s)) :=
        hfix.trans (.of_eq rfl rfl)
      exact hfloor.trans (reserveRow_sources h)

theorem reserve_keeping {reservation : ManifestReservation} {claimed : Hash} {floor : Nat} :
    Keeping L (reserve L reservation claimed floor) fun _ => True := by
  refine Prog.Only.rescue ?_ fun _ => .pure trivial
  refine liftContract_keeping.bind fun reservationHash h => digest_keeping.bind fun _ _ => ?_
  split
  · exact .pure trivial
  · split
    · exact .pure trivial
    · refine certificate_keeping.bind fun _ _ => gets_keeping.bind fun _ _ => ?_
      refine (sync_keeping fun _ => reserveSync_sources h).bind fun result _ => ?_
      cases result with
      | reserved => exact schedule_keeping.bind fun _ _ => .pure trivial
      | refused => exact .pure trivial

/-! ## finalize and cancel -/

theorem assign_sources {txId : TxId} {intentHash : Hash} : Sources L s (assign txId intentHash s) := by
  have hrows : Sources L s { s with
      reservations := s.reservations.modify txId fun row =>
        { row with
          state := .finalized intentHash s.decisionTime s.bucket.nextDecisionSequence none
          updatedAtMs := s.now } } :=
    .modify (fun _ => rfl) fun row h => h.of_eq rfl rfl fun _ hp => absurd hp (by nofun)
  exact hrows.trans (.of_eq rfl rfl)

theorem finalizeSync_sources {intent : ManifestFinalizeIntent} {intentHash : Hash}
    (h : L.hashManifestFinalizeIntent intent = .ok intentHash) :
    Sources L s (finalizeSync intent intentHash s).2 := by
  have hconflict : Sources L s (s.quarantine intent.txId intentHash .finalize) :=
    quarantine_sources ⟨intent, h⟩
  unfold finalizeSync
  split
  · exact .refl
  · dsimp only
    split
    · exact .refl
    · split
      · exact .refl
      · split
        · exact hconflict
        · split
          · exact hconflict
          · split
            · exact .refl
            · split
              · exact .refl
              · exact .refl
        · split
          · exact .refl
          · exact assign_sources

theorem publishSync_sources {txId : TxId} {intentHash : Hash} {decidedAtMs sequence : Nat}
    {record : PublishedRecord} {persisted : Bool}
    (hrecord : ∃ r, L.hashManifestRecordV2 r = .ok record.recordHash)
    (h : publishSync txId intentHash decidedAtMs sequence record s = .ok (persisted, s')) :
    Sources L s s' := by
  unfold publishSync at h
  split at h
  · cases h
  · split at h
    · split at h
      · split at h
        · cases h
          exact .refl
        · cases h
          refine .modify (fun _ => rfl) fun row hrow => ⟨hrow.reservation, fun published hp => ?_⟩
          cases hp
          exact hrecord
      · cases h
        exact .refl
    · cases h
      exact .refl

theorem finalize_keeping {intent : ManifestFinalizeIntent} :
    Keeping L (finalize L intent) fun _ => True := by
  refine Prog.Only.rescue ?_ fun _ => .pure trivial
  refine liftContract_keeping.bind fun intentHash h => Prog.Only.ask.bind fun _ _ => ?_
  refine (sync_keeping fun _ => finalizeSync_sources h).bind fun assignment _ => ?_
  cases assignment with
  | error result => exact .pure trivial
  | complete record recordHash => exact .pure trivial
  | assigned reservation decidedAtMs sequence =>
    refine schedule_keeping.bind fun _ _ => liftContract_keeping.bind fun recordHash hrecord => ?_
    refine digest_keeping.bind fun _ _ => ?_
    refine (transact_keeping fun _ _ _ h => publishSync_sources ⟨_, hrecord⟩ h).bind
      fun persisted _ => ?_
    split
    · exact .pure trivial
    · refine oneReservation_keeping.bind fun published _ => ?_
      split
      · exact .pure trivial
      · exact .pure trivial

theorem cancelSync_sources {intent : ManifestCancelIntent} :
    Sources L s (cancelSync intent (L.hashCanonicalJson (.cancelIntent intent)) s).2 := by
  have hconflict : Sources L s
      (s.quarantine intent.txId (L.hashCanonicalJson (.cancelIntent intent)) .cancel) :=
    quarantine_sources ⟨intent, rfl⟩
  unfold cancelSync
  split
  · exact .refl
  · dsimp only
    split
    · exact .refl
    · split
      · exact .refl
      · split
        · split
          · exact .refl
          · exact hconflict
        · exact hconflict
        · split
          · exact .refl
          · exact .modify (fun _ => rfl) fun row h => h.of_eq rfl rfl fun _ hp => absurd hp (by nofun)

theorem cancel_keeping {intent : ManifestCancelIntent} : Keeping L (cancel L intent) fun _ => True := by
  refine Prog.Only.rescue ?_ fun _ => .pure trivial
  refine liftContract_keeping.bind fun _ _ => Prog.Only.ask.bind fun _ _ => gets_keeping.bind fun _ _ => ?_
  refine (sync_keeping fun _ => cancelSync_sources).bind fun result _ => ?_
  cases result with
  | cancelled => exact schedule_keeping.bind fun _ _ => .pure trivial
  | refused => exact .pure trivial

/-! ## resolveQuarantine -/

theorem resolveSync_sources {request : QuarantineResolutionRequest} {requestHash attestationHash : Hash}
    {already : Bool} (h : resolveSync request requestHash attestationHash s = .ok (already, s')) :
    Sources L s s' := by
  unfold resolveSync typeError at h
  split at h
  · split at h
    · cases h
    · cases h
      exact .refl
  · split at h
    · cases h
    · split at h
      · cases h
      · split at h
        · cases h
        · cases h
          have hrows : Sources L s { s with
              reservations := s.reservations.modify request.reservation.txId fun row =>
                { row with
                  quarantineState := .resolved
                  resolutionAttestationHash := some attestationHash, updatedAtMs := s.now } } :=
            .modify (fun _ => rfl) fun row h => h.of_eq rfl rfl fun _ hp => hp
          exact hrows.trans (.of_eq rfl rfl)

theorem answerResolution_keeping {request : QuarantineResolutionRequest} {already : Bool}
    {attestationHash : Hash} :
    Keeping L (answerResolution request already attestationHash) fun _ => True :=
  oneReservation_keeping.bind fun _ _ =>
    (Prog.Only.modify fun _ => .of_eq rfl rfl).bind fun _ _ => .pure trivial

theorem applyTerminal_keeping {intent : TerminalIntent} :
    Keeping L (applyTerminal L intent) fun _ => True := by
  cases intent with
  | finalize intent =>
    refine finalize_keeping.bind fun result _ => ?_
    cases result with
    | finalized => exact .pure trivial
    | refused => exact .pure trivial
  | cancel intent =>
    refine cancel_keeping.bind fun result _ => ?_
    cases result with
    | cancelled => exact .pure trivial
    | refused => exact .pure trivial

theorem applyResolution_keeping {request : QuarantineResolutionRequest}
    {requestHash attestationHash : Hash} :
    Keeping L (applyResolution L request requestHash attestationHash) fun _ => True := by
  refine (transact_keeping fun _ _ _ h => resolveSync_sources h).bind
    fun already _ => oneReservation_keeping.bind fun terminal _ => ?_
  split
  · refine applyTerminal_keeping.bind fun refusal _ => ?_
    cases refusal with
    | some refusal => exact .pure trivial
    | none => exact answerResolution_keeping
  · exact answerResolution_keeping

theorem resolveQuarantine_keeping {request : QuarantineResolutionRequest} :
    Keeping L (resolveQuarantine L request) fun _ => True := by
  refine Prog.Only.rescue ?_ fun _ => .pure trivial
  refine liftContract_keeping.bind fun _ _ => digest_keeping.bind fun _ _ => ?_
  refine Prog.Only.ofExcept.bind fun _ _ => digest_keeping.bind fun _ _ => ?_
  split
  · exact .throw
  · refine Prog.Only.ofExcept.bind fun _ _ => liftContract_keeping.bind fun _ _ => ?_
    refine digest_keeping.bind fun _ _ => Prog.Only.ofExcept.bind fun _ _ => ?_
    refine (gets_keeping.bind fun _ _ => Prog.Only.ofExcept.done).bind fun row _ => ?_
    refine digest_keeping.bind fun _ _ => Prog.Only.ask.bind fun _ _ => ?_
    exact applyResolution_keeping

/-! ## seals -/

theorem closeSync_sources {request : SealRequest} : Sources L s (closeSync request s).2 := by
  unfold closeSync
  split
  · exact .refl
  · split
    · exact .refl
    · split
      · rename_i replay hreplay
        unfold replaySeal
        split
        · exact .refl
        · split
          · exact .refl
          · split
            · exact .of_eq rfl rfl
            · exact .refl
          · exact .refl
      · split
        · exact .refl
        · split
          · exact .refl
          · exact .of_eq rfl rfl

theorem progressSync_sources {generation : Nat} {seen : SealRow} {rows : List ReservationRow}
    {root : Hash} {progressed : Bool}
    (h : progressSync generation seen rows root s = .ok (progressed, s')) : Sources L s s' := by
  unfold progressSync at h
  split at h
  · cases h
  · split at h
    · cases h
      exact .refl
    · cases h
      exact .of_eq rfl rfl

theorem publishSealSync_sources {generation : Nat} {seen : SealRow} {receipt : SealReceipt}
    {published : Bool} (h : publishSealSync generation seen receipt s = .ok (published, s')) :
    Sources L s s' := by
  unfold publishSealSync at h
  split at h
  · cases h
  · dsimp only at h
    split at h
    · cases h
      exact .refl
    · cases h
      exact .of_eq rfl rfl

theorem digestRows_keeping (rows : List ReservationRow) :
    ∀ root, Keeping L (digestRows L rows root) fun _ => True := by
  induction rows with
  | nil => exact fun _ => .pure trivial
  | cons row rows ih =>
    exact fun _ => digest_keeping.bind fun _ _ => digest_keeping.bind fun root _ => ih root

theorem sealPending_keeping {generation cutoffMs : Nat} :
    Keeping L (sealPending generation cutoffMs) fun _ => True :=
  gets_keeping.bind fun _ _ => schedule_keeping.bind fun _ _ => .pure trivial

theorem sealQuarantined_keeping {generation cutoffMs : Nat} :
    Keeping L (sealQuarantined generation cutoffMs) fun _ => True :=
  clear_keeping.bind fun _ _ => .pure trivial

theorem publishSeal_keeping {generation cutoffMs : Nat} {request : SealRequest} {final : SealFinal}
    {certificateHash : Hash} :
    Keeping L (publishSeal L generation cutoffMs request final certificateHash) fun _ => True := by
  have hroot : Keeping L (conflictResolutionRoot L final.conflictRoots) fun _ => True := by
    unfold conflictResolutionRoot
    split
    · exact .pure trivial
    · exact digest_keeping.done
  refine hroot.bind fun _ _ => digest_keeping.bind fun _ _ => ?_
  refine (transact_keeping fun _ _ _ h => publishSealSync_sources h).bind fun published _ => ?_
  split
  · refine rearm_keeping.bind fun _ _ => gets_keeping.bind fun _ _ => ?_
    exact schedule_keeping.bind fun _ _ => .pure trivial
  · exact sealPending_keeping

theorem digestPage_keeping {generation : Nat} {request : SealRequest} {seen : SealRow}
    {rows : List ReservationRow} :
    Keeping L (digestPage L generation request seen rows) fun _ => True := by
  refine (digestRows_keeping rows _).bind fun root _ => ?_
  refine (transact_keeping fun _ _ _ h => progressSync_sources h).bind fun progressed _ => ?_
  split
  · exact sealPending_keeping
  · refine (gets_keeping.bind fun _ _ => Prog.Only.ofExcept.done).bind fun final _ => ?_
    split
    · exact sealPending_keeping
    · split
      · exact sealPending_keeping
      · exact publishSeal_keeping

theorem resumeSeal_keeping {generation : Nat} {request : SealRequest} :
    Keeping L (resumeSeal L generation request) fun _ => True := by
  refine oneSeal_keeping.bind fun row _ => ?_
  split
  · exact clear_keeping.bind fun _ _ => .pure trivial
  · exact sealQuarantined_keeping
  · refine gets_keeping.bind fun unresolved _ => ?_
    split
    · exact (Prog.Only.modify fun _ => .of_eq rfl rfl).bind fun _ _ => sealQuarantined_keeping
    · refine gets_keeping.bind fun evidence _ => ?_
      split
      · exact (Prog.Only.modify fun _ => .of_eq rfl rfl).bind fun _ _ => sealPending_keeping
      · refine gets_keeping.bind fun rows _ => ?_
        split
        · exact sealPending_keeping
        · exact digestPage_keeping

theorem closeThrough_keeping {request : SealRequest} :
    Keeping L (closeThrough L request) fun _ => True := by
  refine Prog.Only.rescue ?_ fun _ => .pure trivial
  refine liftContract_keeping.bind fun _ _ => gets_keeping.bind fun now _ => ?_
  split
  · exact .pure trivial
  · refine certificate_keeping.bind fun _ _ => ?_
    refine (sync_keeping fun _ => closeSync_sources).bind fun start _ => ?_
    cases start with
    | resume => exact resumeSeal_keeping
    | complete => exact clear_keeping.bind fun _ _ => .pure trivial
    | result result =>
      dsimp only
      split
      · exact clear_keeping.bind fun _ _ => .pure trivial
      · exact .pure trivial

theorem initializeForSeal_keeping {request : SealRequest} {floor since : Nat} :
    Keeping L (initializeForSeal L request floor since) fun _ => True := by
  refine liftContract_keeping.bind fun _ _ => ?_
  split
  · exact .throw
  · split
    · exact .throw
    · refine certificate_keeping.bind fun _ _ => gets_keeping.bind fun maximum _ => ?_
      split
      · exact .pure trivial
      · refine (transact_keeping fun s _ s' h => ?_).bind fun _ _ => .pure trivial
        unfold initializeSync at h
        dsimp only at h
        split at h
        · cases h
        · split at h
          · cases h
          · cases h
            exact fixMetadata_sources.trans (.of_eq rfl rfl)

/-! ## pages, registrations and releases -/

theorem localPageSync_sources {request : LocalPageRequest} {requestHash : Hash} {now lease : Nat} :
    Sources L s (localPageSync request requestHash now lease s).2 := by
  unfold localPageSync
  split
  · exact .refl
  · exact .of_eq rfl rfl

theorem localPage_keeping {request : LocalPageRequest} :
    Keeping L (localPage L request) fun _ => True := by
  refine Prog.Only.rescue ?_ fun _ => .pure trivial
  refine liftContract_keeping.bind fun requestHash _ => digest_keeping.bind fun _ _ => ?_
  have hpage : Keeping L (do
      let now ← gets (·.now)
      let leaseExpiresAtMs := now + manifestCursorLeaseMs
      ensureAlarmAtOrBefore leaseExpiresAtMs
      sync (localPageSync request requestHash now leaseExpiresAtMs)) fun _ => True :=
    gets_keeping.bind fun _ _ => schedule_keeping.bind fun _ _ =>
      sync_keeping fun _ => localPageSync_sources
  split
  · exact liftContract_keeping.bind fun _ _ => hpage
  · exact hpage

theorem sealReceipt_keeping {receiptHash : Hash} :
    Keeping L (sealReceipt receiptHash) fun _ => True := by
  unfold sealReceipt
  split
  · exact .pure trivial
  · exact gets_keeping

theorem registerSync_sources {registration : ManifestRegistration} :
    Sources L s (registerSync registration s).2 := by
  unfold registerSync
  dsimp only
  split
  · exact .refl
  · have hfix : Sources L s (fixMetadata
        { fleetId := registration.record.fleetId, utcDay := registration.record.utcDay
          partition := registration.record.partition
          routingKey := registration.record.routingKey } s) := fixMetadata_sources
    revert hfix
    generalize fixMetadata _ s = s₁
    intro hfix
    split
    · split
      · exact hfix
      · split
        · exact hfix.trans (.of_eq rfl rfl)
        · exact hfix
    · split
      · exact hfix
      · exact hfix.trans (.of_eq rfl rfl)

theorem register_keeping {registration : ManifestRegistration} :
    Keeping L (register L registration) fun _ => True := by
  refine Prog.Only.rescue ?_ fun _ => .pure trivial
  refine liftContract_keeping.bind fun _ _ => Prog.Only.ask.bind fun _ _ => ?_
  exact schedule_keeping.bind fun _ _ => sync_keeping fun _ => registerSync_sources

theorem releaseSync_sources {txId : TxId} {recordHash : Hash} :
    Sources L s (releaseSync txId recordHash s).2 := by
  unfold releaseSync
  split
  · exact .refl
  · split
    · exact .refl
    · split
      · exact .refl
      · exact .of_eq rfl rfl

theorem releaseV2Sync_sources {txId : TxId} {reservationHash recordHash : Hash} :
    Sources L s (releaseV2Sync txId reservationHash recordHash s).2 := by
  unfold releaseV2Sync
  split
  · exact .refl
  · split
    · exact .refl
    · split
      · exact .refl
      · split
        · exact .refl
        · exact .modify (fun _ => rfl) fun row h => h.of_eq rfl rfl fun _ hp => hp

theorem afterRelease_keeping {result : ReleaseStep} :
    Keeping L (afterRelease result) fun _ => True := by
  unfold afterRelease
  split
  · exact gets_keeping.bind fun _ _ => schedule_keeping.bind fun _ _ => .pure trivial
  · exact .pure trivial

theorem release_keeping {txId : TxId} {recordHash : Hash} :
    Keeping L (release txId recordHash) fun _ => True := by
  unfold release
  split
  · exact .pure trivial
  · refine Prog.Only.rescue ?_ fun _ => .pure trivial
    exact (sync_keeping fun _ => releaseSync_sources).bind fun _ _ => afterRelease_keeping

theorem releaseV2_keeping {txId : TxId} {reservationHash recordHash : Hash} :
    Keeping L (releaseV2 txId reservationHash recordHash) fun _ => True := by
  unfold releaseV2
  split
  · exact .pure trivial
  · refine Prog.Only.rescue ?_ fun _ => .pure trivial
    exact (sync_keeping fun _ => releaseV2Sync_sources).bind fun _ _ => afterRelease_keeping

/-! ## sweeps -/

theorem retentionSync_sources {now : Nat} {candidates : List RetentionCandidate} {root : Hash} :
    Sources L s (retentionSync now candidates root s).2 := by
  unfold retentionSync
  split
  · exact .refl
  · split
    · exact .refl
    · dsimp only
      split
      · exact .refl
      · exact (drops_sources _ s).trans (.of_eq rfl rfl)

theorem sweepV2HistorySync_sources {now : Nat} : Sources L s (sweepV2HistorySync now s).2 := by
  unfold sweepV2HistorySync
  exact (drops_sources _ s).trans (.of_eq rfl rfl)

theorem sweepV2Retention_keeping {now : Nat} : Keeping L (sweepV2Retention L now) fun _ => True := by
  refine (Prog.Only.modify fun _ => .of_eq rfl rfl).bind fun _ _ => ?_
  refine (Prog.Only.read fun _ => .refl).bind fun s _ => ?_
  split
  · exact .pure trivial
  · dsimp only
    split
    · exact .pure trivial
    · split
      · exact .pure trivial
      · refine digest_keeping.bind fun root _ => ?_
        refine (sync_keeping fun _ => retentionSync_sources).bind fun _ _ => ?_
        exact gets_keeping.bind fun _ _ => .pure trivial

theorem lifecycleSweep_keeping {now : Nat} : Keeping L (lifecycleSweep L now) fun _ => True := by
  have hhistory : Keeping L (sweepV2History now) fun _ => True :=
    (sync_keeping fun _ => sweepV2HistorySync_sources).bind fun _ _ =>
      gets_keeping.bind fun _ _ => .pure trivial
  refine hhistory.bind fun _ _ => sweepV2Retention_keeping.bind fun _ _ => ?_
  exact (sync_keeping fun _ => .of_eq rfl rfl).bind fun _ _ => .pure trivial

theorem executeLifecycleAlarm_keeping {now : Nat} :
    Keeping L (executeLifecycleAlarm L now) fun _ => True := by
  refine Prog.Only.rescue (lifecycleSweep_keeping.bind fun next _ => ?_) fun _ =>
    schedule_keeping.rescue fun _ => .throw
  cases next with
  | none => exact clear_keeping
  | some => exact schedule_keeping

theorem alarmSeal_keeping {due : AlarmRow} : Keeping L (alarmSeal L due) fun _ => True := by
  refine (Prog.Only.modify fun _ => .of_eq rfl rfl).bind fun _ _ => ?_
  refine (Prog.Only.read fun _ => .refl).bind fun s _ => ?_
  split
  · refine Prog.Only.rescue (resumeSeal_keeping.bind fun _ _ => .pure trivial) fun _ => ?_
    exact gets_keeping.bind fun _ _ => schedule_keeping
  · exact Prog.Only.modify fun _ => .of_eq rfl rfl

theorem alarmSeals_keeping (due : List AlarmRow) : Keeping L (alarmSeals L due) fun _ => True := by
  induction due with
  | nil => exact .pure trivial
  | cons due rest ih => exact alarmSeal_keeping.bind fun _ _ => ih

theorem alarm_keeping : Keeping L (alarm L) fun _ => True := by
  refine (Prog.Only.modify fun _ => .of_eq rfl rfl).bind fun _ _ => ?_
  refine gets_keeping.bind fun now _ => gets_keeping.bind fun due _ => ?_
  refine (alarmSeals_keeping due).bind fun _ _ => gets_keeping.bind fun retention _ => ?_
  split
  · exact clear_keeping.bind fun _ _ => executeLifecycleAlarm_keeping
  · exact rearm_keeping

/-! ## the object -/

theorem handle_sources (request : Request) : Keeping L (handle L request) fun _ => True := by
  cases request with
  | reserve => exact reserve_keeping.bind fun _ _ => .pure trivial
  | finalize => exact finalize_keeping.bind fun _ _ => .pure trivial
  | cancel => exact cancel_keeping.bind fun _ _ => .pure trivial
  | resolveQuarantine => exact resolveQuarantine_keeping.bind fun _ _ => .pure trivial
  | closeThrough => exact closeThrough_keeping.bind fun _ _ => .pure trivial
  | initializeForSeal => exact initializeForSeal_keeping.bind fun _ _ => .pure trivial
  | localPage => exact localPage_keeping.bind fun _ _ => .pure trivial
  | sealReceipt => exact sealReceipt_keeping.bind fun _ _ => .pure trivial
  | register => exact register_keeping.bind fun _ _ => .pure trivial
  | release => exact release_keeping.bind fun _ _ => .pure trivial
  | releaseV2 => exact releaseV2_keeping.bind fun _ _ => .pure trivial
  | alarm => exact alarm_keeping.bind fun _ _ => .pure trivial

variable (L) in
def sourceRules : Rules Store where
  inv := Sourced L
  move := Sources L
  move_refl _ := .refl
  inv_move hi hm := hm hi

/-- whatever comes in from outside -/
def anything : Terms Store Ask Ask.Answer Request Event where
  accept _ := True
  ok _ _ _ _ := True
  event _ _ := True

theorem anything_allowed (L : BucketLib) {c : Config Store Ask Ask.Answer BucketError Response Request}
    (x : Choice Ask Ask.Answer Request Event) : x.Allowed (system L) anything c := by
  cases x with
  | run a => cases a with
    | arrive r => exact trivial
    | resume i ans => exact fun _ _ _ _ _ _ => trivial
  | crash a n => cases a with
    | arrive r => exact trivial
    | resume i ans => exact fun _ _ _ _ _ _ => trivial
  | event x => exact trivial

theorem obeys_sources (L : BucketLib) : Obeys (sourceRules L) (system L) anything where
  handler request _ _ := (Rules.Does.of_only (handle_sources request) fun _ h => h).done
  event
    | .clock _, _, _, _ => .of_eq rfl rfl
  restart _ _ := .refl

/-- **every reachable bucket is sourced** -/
theorem run_sourced (L : BucketLib) (now : Nat) (xs : List (Choice Ask Ask.Answer Request Event)) :
    Sourced L ((system L).run ⟨.initial now, []⟩ xs).store := by
  have hinit : Sourced L (.initial now) :=
    ⟨fun row hrow => absurd hrow List.not_mem_nil, fun c hc => absurd hc List.not_mem_nil⟩
  have hmeets : (system L).Meets (fun c x => x.Allowed (system L) anything c)
      ⟨.initial now, []⟩ (xs ++ []) := System.meets_of_forall _ fun _ x => anything_allowed L x
  exact ((obeys_sources L).reachable hinit hmeets).1

end JournalManifest
