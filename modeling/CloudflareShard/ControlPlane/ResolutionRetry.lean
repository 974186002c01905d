import CloudflareShard.Async.Eval
import CloudflareShard.ControlPlane.Terminal

/-!
# Sending a resolution again

A call of `resolveQuarantine` looks at the reservation before it looks for the record of an earlier
call.  The earlier call may have changed the reservation.

* `WellFormed`, `Selects`      the checks that look at the request, and at the reservation;
* `FirstCall`, `Undisturbed`   a call that was recorded, a reservation that is left to its evidence;
* `record_kept`                only a sweep takes the record away;
* `retry_ok_iff`               **when the same call is answered in the same way**.
-/

namespace JournalManifest
open Async Contracts

variable {L : BucketLib} {R : QuarantineResolutionRequest} {intentHash : Hash}
  {row row₁ : ReservationRow} {s s₁ s₂ s₃ s' : Store} {ans : ∀ q, Ask.Answer q}

/-! ## the checks -/

/-- the checks of a request that it passes whatever is in the bucket -/
structure WellFormed (L : BucketLib) (R : QuarantineResolutionRequest) (intentHash : Hash) : Prop where
  reservation : L.hashManifestReservation R.reservation = .ok R.reservationHash
  request : checkRequest R R.reservationHash = .ok ()
  state : L.hashCanonicalJson (.attestation R.coordinatorState) = R.coordinatorStateHash
  coordinator : checkCoordinator R = .ok ()
  intent : terminalIntentHash L R = .ok intentHash
  named : checkIntent R = .ok ()

/-- the evidence that a request selects, next to what the reservation has come to -/
def Selects (R : QuarantineResolutionRequest) (intentHash : Hash) (candidate : Option CandidateRow)
    (row : ReservationRow) : Prop :=
  match row.state with
  | .finalized terminal _ _ _ =>
    R.resolution = .finalized ∧ some R.selectedHash = row.recordHash ∧ intentHash = terminal
  | .cancelled terminal =>
    R.resolution = .cancelled ∧ R.selectedHash = terminal ∧ intentHash = terminal
  | .reserved =>
    R.selectedHash = intentHash ∧
      ¬candidate.any (·.transitionKind ≠ selectedKind R.resolution) = true

theorem checkEvidence_ok (hfind : s.reservations.find R.reservation.txId = some row)
    (hr : row.reservationHash = R.reservationHash)
    (hsource : R.coordinatorState.authorizationSourceHash = intentHash)
    (hs : Selects R intentHash (s.candidates.find (row.txId, R.selectedHash)) row) :
    checkEvidence R intentHash s = .ok row := by
  unfold checkEvidence
  simp only [hfind]
  rw [if_neg (not_not.mpr hr), if_neg (not_not.mpr hsource)]
  unfold Selects at hs
  cases hstate : row.state with
  | finalized terminal decidedAtMs sequence published =>
    rw [hstate] at hs
    exact if_neg (by simp [hs.1, hs.2.1, hs.2.2])
  | cancelled terminal =>
    rw [hstate] at hs
    exact if_neg (by simp [hs.1, hs.2.1, hs.2.2])
  | reserved =>
    rw [hstate] at hs
    exact if_neg (not_or.mpr ⟨not_not.mpr hs.1, hs.2⟩)

theorem selects_of_checkEvidence (h : checkEvidence R intentHash s = .ok row) :
    s.reservations.find R.reservation.txId = some row ∧ row.reservationHash = R.reservationHash ∧
      R.coordinatorState.authorizationSourceHash = intentHash ∧
      Selects R intentHash (s.candidates.find (row.txId, R.selectedHash)) row := by
  unfold checkEvidence typeError at h
  cases hfind : s.reservations.find R.reservation.txId with
  | none =>
    simp only [hfind] at h
    cases h
  | some row' =>
    simp only [hfind] at h
    split at h
    · cases h
    · rename_i hr
      split at h
      · cases h
      · rename_i hsource
        unfold Selects
        split at h <;> rename_i hstate <;> split at h <;> rename_i hc
        all_goals cases h
        all_goals
          refine ⟨rfl, not_not.mp hr, not_not.mp hsource, ?_⟩
          rw [hstate]
          simpa using hc

/-! ## two calls -/

def requestHashOf (L : BucketLib) (R : QuarantineResolutionRequest) : Hash :=
  L.hash (.resolutionRequest R)

/-- the attestation of a call that has read `row` -/
def attestationHashOf (L : BucketLib) (R : QuarantineResolutionRequest) (row : ReservationRow) : Hash :=
  L.hash (.resolutionAttestation (attestationOf R (row.conflictRoot.getD zeroHash)))

/-- A call has read `row₁` in the bucket `s₁`, and later its transaction has recorded the resolution
and left `s₃`. -/
structure FirstCall (L : BucketLib) (R : QuarantineResolutionRequest) (intentHash : Hash)
    (s₁ s₃ : Store) (row₁ : ReservationRow) : Prop where
  wellFormed : WellFormed L R intentHash
  evidence : checkEvidence R intentHash s₁ = .ok row₁
  recorded : ∃ s₂,
    resolveSync R (requestHashOf L R) (attestationHashOf L R row₁) s₂ = .ok (false, s₃)

/-- the resolution has decided the reservation -/
def Decides (intentHash : Hash) : Resolution → ReservationState → Prop
  | .finalized, .finalized terminal _ _ _ => terminal = intentHash
  | .cancelled, .cancelled terminal => terminal = intentHash
  | _, _ => False

/-- No other evidence about the reservation has come in: it is as the call read it in `s₁`, or the
call has decided it. -/
structure Undisturbed (R : QuarantineResolutionRequest) (intentHash : Hash) (s₁ : Store)
    (row₁ : ReservationRow) (s : Store) (row : ReservationRow) : Prop where
  reservation : row.reservation = R.reservation
  reservationHash : row.reservationHash = row₁.reservationHash
  conflictRoot : row.conflictRoot = row₁.conflictRoot
  resolved : row.quarantineState = .resolved
  candidates : s.candidates.find (row.txId, R.selectedHash) =
    s₁.candidates.find (row₁.txId, R.selectedHash)
  state : row.state = row₁.state ∨
    row₁.state = .reserved ∧ Decides intentHash R.resolution row.state

/-- the record of the first call is there -/
def Recorded (L : BucketLib) (R : QuarantineResolutionRequest) (row₁ : ReservationRow) (s : Store) :
    Prop :=
  ∃ existing, s.resolutions.find R.idempotencyKey = some existing ∧
    existing.requestHash = requestHashOf L R ∧ existing.attestationHash = attestationHashOf L R row₁

/-- the request selects the record of a reservation that is finalized -/
def Confirms (R : QuarantineResolutionRequest) (row : ReservationRow) : Prop :=
  row.isFinalized → row.recordHash = some R.selectedHash

/-- The call is answered ok with the resolution and the attestation of the first one, and with the
record that the reservation has in the end. -/
def Answered (L : BucketLib) (R : QuarantineResolutionRequest) (row₁ : ReservationRow)
    (outcome : Store × Option (Except BucketError ResolutionResult)) : Prop :=
  ∃ row, outcome.1.reservations.find R.reservation.txId = some row ∧
    outcome.2 = some (.ok (.resolved true R.resolution (attestationHashOf L R row₁)
      (row.published.map fun published => (published.record, published.recordHash)))) ∧
    (R.resolution = .finalized → row.published.isSome)

/-! ## the checks of the second call -/

theorem recordHash_of_state {row row' : ReservationRow} (h : row.state = row'.state) :
    row.recordHash = row'.recordHash := by
  unfold ReservationRow.recordHash ReservationRow.published
  rw [h]

theorem selects_again {candidate : Option CandidateRow} (h : Selects R intentHash candidate row₁)
    (hstate : row.state = row₁.state ∨
      row₁.state = .reserved ∧ Decides intentHash R.resolution row.state)
    (hc : Confirms R row) : Selects R intentHash candidate row := by
  rcases hstate with hsame | ⟨hreserved, hdecides⟩
  · unfold Selects at h ⊢
    rw [hsame, recordHash_of_state hsame]
    exact h
  · unfold Selects at h
    rw [hreserved] at h
    unfold Decides at hdecides
    unfold Selects
    split at hdecides
    · rename_i terminal decidedAtMs sequence published hres hstate
      have hrecord : row.recordHash = some R.selectedHash := hc (by
        unfold ReservationRow.isFinalized
        rw [hstate])
      rw [hstate]
      exact ⟨hres, hrecord.symm, hdecides.symm⟩
    · rename_i terminal hres hstate
      rw [hstate]
      exact ⟨hres, h.1.trans hdecides.symm, hdecides.symm⟩
    · exact hdecides.elim

theorem resolve_eval (hw : WellFormed L R intentHash) : (resolveQuarantine L R).eval ans s =
    ((Prog.ofExcept (checkEvidence R intentHash s) >>= fun row =>
        applyResolution L R (requestHashOf L R) (attestationHashOf L R row)).rescue
      fun e => return resolveFailed e).eval ans s := by
  unfold resolveQuarantine
  rw [Prog.eval_rescue, Prog.eval_rescue]
  refine congrArg (Prog.orElse _ ans) ?_
  simp only [Prog.eval_bind, liftContract, hw.reservation, Prog.eval, Prog.andThen, digest, hw.request,
    Prog.ofExcept, hw.state]
  rw [if_neg (not_not.mpr rfl)]
  simp only [Prog.eval_bind, hw.coordinator, hw.intent, hw.named, Prog.eval, Prog.andThen, Prog.ofExcept,
    gets, id_eq]
  cases checkEvidence R intentHash s <;> rfl

theorem resolve_refused (hw : WellFormed L R intentHash) {e : BucketError}
    (he : checkEvidence R intentHash s = .error e) :
    (resolveQuarantine L R).eval ans s = (s, some (.ok (resolveFailed e))) := by
  rw [resolve_eval hw, he]
  rfl

/-! ## the second call goes through -/

theorem transact_again (h : Recorded L R row₁ s) (hroot : row.conflictRoot = row₁.conflictRoot) :
    resolveSync R (requestHashOf L R) (attestationHashOf L R row) s = .ok (true, s) := by
  obtain ⟨existing, hfind, hrequest, hattestation⟩ := h
  unfold resolveSync
  simp only [hfind]
  rw [if_neg]
  rw [not_or, not_not, not_not]
  exact ⟨hrequest, by rw [hattestation, attestationHashOf, attestationHashOf, hroot]⟩

theorem oneReservation_eval {txId : TxId} (h : s.reservations.find txId = some row) :
    (oneReservation txId).eval ans s = (s, some (.ok row)) := by
  simp only [oneReservation, Prog.eval, h, id_eq]

theorem answerResolution_eval (ans : ∀ q, Ask.Answer q) (already : Bool) (attestationHash : Hash)
    (h : s.reservations.find R.reservation.txId = some row) :
    ∃ s', s'.reservations = s.reservations ∧
      (answerResolution R already attestationHash).eval ans s = (s', some (.ok
        (.resolved already R.resolution attestationHash
          (row.published.map fun published => (published.record, published.recordHash))))) := by
  refine ⟨{ s with
    answers := s.answers ++
      [{ resolution := R.resolution, txId := R.reservation.txId
         row := s.reservations.find R.reservation.txId }] }, rfl, ?_⟩
  rw [answerResolution, Prog.eval_bind_ok (oneReservation_eval h)]
  rfl

/-- setting an alarm leaves the reservations as they are -/
theorem ensureAlarm_eval (ans : ∀ q, Ask.Answer q) (s : Store) (timestampMs : Nat) :
    ∃ s', s'.reservations = s.reservations ∧
      (ensureAlarmAtOrBefore timestampMs).eval ans s = (s', some (.ok ())) :=
  ⟨(s.schedule .retention timestampMs 0).rearm, rfl, rfl⟩

theorem liftContract_eval {α : Type} {x : Except TransactionProtocolError α} {a : α} (h : x = .ok a) :
    (liftContract x).eval ans s = (s, some (.ok a)) := by
  rw [h]
  rfl

theorem sync_eval {α : Type} {f : Store → α × Store} {a : α} (h : f s = (a, s')) :
    (sync f).eval ans s = (s', some (.ok a)) := by
  simp only [sync, Prog.eval, h]

/-- what `assign` leaves of the reservation -/
def assignedRow (intentHash : Hash) (s : Store) (row : ReservationRow) : ReservationRow :=
  { row with
    state := .finalized intentHash s.decisionTime s.bucket.nextDecisionSequence none
    updatedAtMs := s.now }

theorem find_modify_self {txId : TxId} (f : ReservationRow → ReservationRow)
    (hf : ∀ row, (f row).txId = row.txId) (h : s.reservations.find txId = some row) :
    (s.reservations.modify txId f).find txId = some (f row) := by
  rw [Keyed.find_modify hf, if_pos rfl, h]
  rfl

theorem finalizeSync_reserved {intent : ManifestFinalizeIntent}
    (hrow : s.reservations.find intent.txId = some row) (hstate : row.state = .reserved)
    (hq : row.unresolved = false)
    (hn : row.Named intent.reservationHash intent.operationHash intent.decisionEpoch) :
    finalizeSync intent intentHash s =
      (.assigned row.reservation s.decisionTime s.bucket.nextDecisionSequence,
        assign intent.txId intentHash s) := by
  unfold finalizeSync
  simp only [hrow, hstate, hn.reservation, hq, hn.operation, hn.epoch]
  simp

/-- what the publication of `record` leaves of the reservation -/
def publishedRow (intentHash : Hash) (decidedAtMs sequence : Nat) (record : PublishedRecord) (now : Nat)
    (row : ReservationRow) : ReservationRow :=
  { row with
    state := .finalized intentHash decidedAtMs sequence (some record), updatedAtMs := now }

theorem publishSync_first {txId : TxId} {decidedAtMs sequence : Nat} (record : PublishedRecord)
    (hrow : s.reservations.find txId = some row)
    (hstate : row.state = .finalized intentHash decidedAtMs sequence none) :
    publishSync txId intentHash decidedAtMs sequence record s = .ok (true, { s with
      reservations := s.reservations.modify txId
        (publishedRow intentHash decidedAtMs sequence record s.now) }) := by
  unfold publishSync
  simp only [hrow, hstate, and_self, if_true]
  rfl

/-- the record of a reservation that has just been decided is published -/
theorem publish_eval (ans : ∀ q, Ask.Answer q) {intent : ManifestFinalizeIntent} {decidedAtMs sequence : Nat} {recordHash : Hash}
    (hrow : s.reservations.find intent.txId = some row)
    (hstate : row.state = .finalized intentHash decidedAtMs sequence none)
    (hq : row.unresolved = false)
    (hrecord : L.hashManifestRecordV2 (manifestRecord row.reservation intent decidedAtMs sequence) =
      .ok recordHash) :
    ∃ s' row', s'.reservations.find intent.txId = some row' ∧ row'.published.isSome ∧
      row'.unresolved = false ∧
      (publish L intent intentHash row.reservation decidedAtMs sequence).eval ans s =
        (s', some (.ok (.finalized false
          (manifestRecord row.reservation intent decidedAtMs sequence) recordHash))) := by
  obtain ⟨s₁, hres, halarm⟩ := ensureAlarm_eval ans s (decidedAtMs + v2HistoryRetentionMs)
  rw [← hres] at hrow
  let record : PublishedRecord :=
    { record := manifestRecord row.reservation intent decidedAtMs sequence, recordHash
      retentionDeadlineMs := decidedAtMs + v2HistoryRetentionMs }
  have hpublish := publishSync_first record hrow hstate
  have hfind := find_modify_self (publishedRow intentHash decidedAtMs sequence record s₁.now)
    (fun _ => rfl) hrow
  refine ⟨{ s₁ with
    reservations := s₁.reservations.modify intent.txId
      (publishedRow intentHash decidedAtMs sequence record s₁.now) }, _, hfind, ?_, hq, ?_⟩
  · rfl
  · unfold publish
    rw [Prog.eval_bind_ok halarm, Prog.eval_bind_ok (liftContract_eval hrecord)]
    show ((Prog.transact (publishSync _ _ _ _ _)) >>= _).eval ans s₁ = _
    rw [Prog.eval_bind_ok (Prog.eval_transact_ok hpublish)]
    show ((oneReservation intent.txId) >>= _).eval ans _ = _
    rw [Prog.eval_bind_ok (oneReservation_eval hfind)]
    have hq' : (publishedRow intentHash decidedAtMs sequence record s₁.now row).unresolved = false := hq
    rw [hq']
    rfl

theorem finalize_eval (ans : ∀ q, Ask.Answer q) {intent : ManifestFinalizeIntent} {recordHash : Hash}
    (hi : L.hashManifestFinalizeIntent intent = .ok intentHash)
    (hrow : s.reservations.find intent.txId = some row) (hstate : row.state = .reserved)
    (hq : row.unresolved = false)
    (hn : row.Named intent.reservationHash intent.operationHash intent.decisionEpoch)
    (hrecord : L.hashManifestRecordV2 (manifestRecord row.reservation intent s.decisionTime
      s.bucket.nextDecisionSequence) = .ok recordHash) :
    ∃ s' row' record, s'.reservations.find intent.txId = some row' ∧ row'.published.isSome ∧
      row'.unresolved = false ∧ (finalize L intent).eval ans s = (s', some (.ok (.finalized false record recordHash))) := by
  have hassigned : (assign intent.txId intentHash s).reservations.find intent.txId =
      some (assignedRow intentHash s row) :=
    find_modify_self (assignedRow intentHash s) (fun _ => rfl) hrow
  have hq' : (assignedRow intentHash s row).unresolved = false := hq
  obtain ⟨s', row', hrow', hpublished, hq', heval⟩ := publish_eval ans hassigned rfl hq' hrecord
  refine ⟨s', row', manifestRecord row.reservation intent s.decisionTime s.bucket.nextDecisionSequence,
    hrow', hpublished, hq', ?_⟩
  refine Prog.eval_rescue_ok ?_
  rw [Prog.eval_bind_ok (liftContract_eval hi)]
  show (sync (finalizeSync intent intentHash) >>= _).eval ans s = _
  rw [Prog.eval_bind_ok (sync_eval (finalizeSync_reserved hrow hstate hq hn))]
  exact heval

/-- what a cancellation leaves of the reservation -/
def cancelledRow (intentHash : Hash) (now : Nat) (row : ReservationRow) : ReservationRow :=
  { row with state := .cancelled intentHash, updatedAtMs := now }

def withCancelled (txId : TxId) (intentHash : Hash) (s : Store) : Store :=
  { s with reservations := s.reservations.modify txId (cancelledRow intentHash s.now) }

theorem cancelSync_reserved {intent : ManifestCancelIntent}
    (hrow : s.reservations.find intent.txId = some row) (hstate : row.state = .reserved)
    (hq : row.unresolved = false)
    (hn : row.Named intent.reservationHash intent.operationHash intent.decisionEpoch) :
    cancelSync intent intentHash s = (.cancelled false, withCancelled intent.txId intentHash s) := by
  unfold cancelSync
  simp only [hrow, hstate, hn.reservation, hq, hn.operation, hn.epoch]
  simp [withCancelled]
  rfl

theorem cancel_eval (ans : ∀ q, Ask.Answer q) {intent : ManifestCancelIntent}
    (hi : L.validateManifestCancelIntent intent = .ok ())
    (hrow : s.reservations.find intent.txId = some row) (hstate : row.state = .reserved)
    (hq : row.unresolved = false)
    (hn : row.Named intent.reservationHash intent.operationHash intent.decisionEpoch) :
    ∃ s' row', s'.reservations.find intent.txId = some row' ∧
      row'.state = .cancelled (L.hashCanonicalJson (.cancelIntent intent)) ∧
      (cancel L intent).eval ans s = (s', some (.ok (.cancelled false))) := by
  let hash := L.hashCanonicalJson (.cancelIntent intent)
  have hcancelled := find_modify_self (cancelledRow hash s.now) (fun _ => rfl) hrow
  have hsync : cancelSync intent hash s = _ := cancelSync_reserved hrow hstate hq hn
  obtain ⟨s', hres, halarm⟩ := ensureAlarm_eval ans (withCancelled intent.txId hash s)
    (s.now + v2HistoryRetentionMs)
  refine ⟨s', cancelledRow hash s.now row, ?_, rfl, Prog.eval_rescue_ok ?_⟩
  · rw [hres]
    exact hcancelled
  · rw [Prog.eval_bind_ok (liftContract_eval hi)]
    show (sync (cancelSync intent hash) >>= _).eval ans s = _
    rw [Prog.eval_bind_ok (sync_eval hsync)]
    show ((ensureAlarmAtOrBefore (s.now + v2HistoryRetentionMs)) >>= _).eval ans _ = _
    rw [Prog.eval_bind_ok halarm]
    rfl

/-! ## the second call -/

/-- the terminal intent names the reservation -/
theorem named_of_wellFormed (hw : WellFormed L R intentHash) (hreservation : row.reservation = R.reservation)
    (hhash : row.reservationHash = R.reservationHash) :
    match R.terminalIntent with
    | .finalize intent => intent.txId = R.reservation.txId ∧
        row.Named intent.reservationHash intent.operationHash intent.decisionEpoch
    | .cancel intent => intent.txId = R.reservation.txId ∧
        row.Named intent.reservationHash intent.operationHash intent.decisionEpoch := by
  have hn := hw.named
  unfold checkIntent typeError at hn
  cases hint : R.terminalIntent with
  | finalize intent =>
    simp only [hint] at hn
    split at hn
    · cases hn
    · rename_i hc
      simp only [decide_eq_true_eq, not_or, not_not] at hc
      exact ⟨hc.1, by rw [hhash, hc.2.1], by rw [hreservation, hc.2.2.1],
        by rw [hreservation, hc.2.2.2]⟩
  | cancel intent =>
    simp only [hint] at hn
    split at hn
    · cases hn
    · rename_i hc
      simp only [decide_eq_true_eq, not_or, not_not] at hc
      exact ⟨hc.1, by rw [hhash, hc.2.1], by rw [hreservation, hc.2.2.1],
        by rw [hreservation, hc.2.2.2]⟩

/-- the validator takes the record that the bucket makes of the intent -/
def ValidRecord (L : BucketLib) (R : QuarantineResolutionRequest) (s : Store) : Prop :=
  ∀ intent, R.terminalIntent = .finalize intent → L.validateManifestRecordV2
    (manifestRecord R.reservation intent s.decisionTime s.bucket.nextDecisionSequence) = .ok ()

theorem record_hashed (hw : WellFormed L R intentHash) (hv : ValidRecord L R s)
    {intent : ManifestFinalizeIntent} (hint : R.terminalIntent = .finalize intent)
    (hhash : intent.reservationHash = R.reservationHash) :
    ∃ recordHash, L.hashManifestRecordV2 (manifestRecord R.reservation intent s.decisionTime
      s.bucket.nextDecisionSequence) = .ok recordHash := by
  have hreservation : L.hashManifestReservation R.reservation = .ok intent.reservationHash :=
    hhash ▸ hw.reservation
  refine ⟨L.hashCanonicalJson (.recordV2 (manifestRecord R.reservation intent s.decisionTime
    s.bucket.nextDecisionSequence)), ?_⟩
  unfold ContractLib.hashManifestRecordV2
  rw [hv intent hint]
  show (L.hashManifestReservation R.reservation >>= _) = _
  rw [hreservation]
  exact if_neg (not_not.mpr rfl)

/-- a reservation that no seal waits for: cancelled, or recorded and not parked -/
inductive ReservationRow.Done (row : ReservationRow) : Prop where
  | published (h : row.published.isSome) (hq : row.unresolved = false)
  | cancelled {intentHash : Hash} (h : row.state = .cancelled intentHash)

/-- a reservation without an outcome is brought to the one that the request asks for -/
theorem applyTerminal_eval (ans : ∀ q, Ask.Answer q) (hw : WellFormed L R intentHash)
    (hv : ValidRecord L R s) (hrow : s.reservations.find R.reservation.txId = some row)
    (hstate : row.state = .reserved) (hq : row.unresolved = false)
    (hreservation : row.reservation = R.reservation)
    (hhash : row.reservationHash = R.reservationHash) :
    ∃ s' row', s'.reservations.find R.reservation.txId = some row' ∧ row'.Done ∧
      (R.resolution = .finalized → row'.published.isSome) ∧
      (applyTerminal L R.terminalIntent).eval ans s = (s', some (.ok none)) := by
  have hn := named_of_wellFormed hw hreservation hhash
  have hi := hw.intent
  unfold terminalIntentHash fail at hi
  cases hint : R.terminalIntent with
  | finalize intent =>
    simp only [hint] at hn hi
    cases hres : R.resolution with
    | cancelled =>
      rw [hres] at hi
      cases hi
    | finalized =>
      rw [hres] at hi
      obtain ⟨recordHash, hrecord⟩ := record_hashed hw hv hint (hn.2.reservation.symm.trans hhash)
      rw [← hreservation] at hrecord
      obtain ⟨s', row', record, hrow', hpublished, hq', heval⟩ :=
        finalize_eval ans hi (hn.1 ▸ hrow) hstate hq hn.2 hrecord
      refine ⟨s', row', hn.1 ▸ hrow', .published hpublished hq', fun _ => hpublished, ?_⟩
      show ((finalize L intent) >>= _).eval ans s = _
      rw [Prog.eval_bind_ok heval]
      rfl
  | cancel intent =>
    simp only [hint] at hn hi
    cases hres : R.resolution with
    | finalized =>
      rw [hres] at hi
      cases hi
    | cancelled =>
      rw [hres] at hi
      have hvalid : L.validateManifestCancelIntent intent = .ok () := by
        cases hc : L.validateManifestCancelIntent intent with
        | ok u => rfl
        | error e =>
          simp only [hc] at hi
          cases hi
      obtain ⟨s', row', hrow', hcancelled, heval⟩ :=
        cancel_eval ans hvalid (hn.1 ▸ hrow) hstate hq hn.2
      refine ⟨s', row', hn.1 ▸ hrow', .cancelled hcancelled, nofun, ?_⟩
      show ((cancel L intent) >>= _).eval ans s = _
      rw [Prog.eval_bind_ok heval]
      rfl

theorem answered_of_eval (h : s.reservations.find R.reservation.txId = some row)
    (hp : R.resolution = .finalized → row.published.isSome) :
    Answered L R row₁ ((answerResolution R true (attestationHashOf L R row₁)).eval ans s) := by
  obtain ⟨s', hres, heval⟩ := answerResolution_eval ans true (attestationHashOf L R row₁) h
  rw [heval]
  exact ⟨row, hres ▸ h, rfl, hp⟩

theorem answered_rescue {p : Bucket ResolutionResult} {f : BucketError → Bucket ResolutionResult}
    (h : Answered L R row₁ (p.eval ans s)) : Answered L R row₁ ((p.rescue f).eval ans s) := by
  rw [Prog.eval_rescue]
  generalize p.eval ans s = outcome at h
  obtain ⟨s', result⟩ := outcome
  obtain ⟨row, hrow, hresult, hpublished⟩ := h
  cases hresult
  exact ⟨row, hrow, rfl, hpublished⟩

/-- **a call that still selects what has come of the reservation is answered like the first one** -/
theorem retry_ok (hw : WellFormed L R intentHash)
    (he : checkEvidence R intentHash s₁ = .ok row₁) (hr : Recorded L R row₁ s)
    (hrow : s.reservations.find R.reservation.txId = some row)
    (hu : Undisturbed R intentHash s₁ row₁ s row) (hc : Confirms R row)
    (hv : row.state = .reserved → ValidRecord L R s) :
    Answered L R row₁ ((resolveQuarantine L R).eval ans s) := by
  obtain ⟨-, hhash₁, hsource, hselects₁⟩ := selects_of_checkEvidence he
  have hhash : row.reservationHash = R.reservationHash := hu.reservationHash.trans hhash₁
  have hselects : Selects R intentHash (s.candidates.find (row.txId, R.selectedHash)) row :=
    hu.candidates ▸ selects_again hselects₁ hu.state hc
  have hagain := checkEvidence_ok hrow hhash hsource hselects
  have hq : row.unresolved = false := by
    unfold ReservationRow.unresolved
    rw [hu.resolved]
    rfl
  have hattestation : attestationHashOf L R row = attestationHashOf L R row₁ := by
    rw [attestationHashOf, attestationHashOf, hu.conflictRoot]
  have hsync := transact_again hr hu.conflictRoot
  have heval : Answered L R row₁ ((applyResolution L R (requestHashOf L R)
      (attestationHashOf L R row)).eval ans s) := by
    unfold applyResolution
    rw [Prog.eval_bind_ok (Prog.eval_transact_ok hsync), Prog.eval_bind_ok (oneReservation_eval hrow)]
    rw [hattestation]
    cases hstate : row.state with
    | reserved =>
      obtain ⟨s', row', hrow', -, hpublished, happly⟩ :=
        applyTerminal_eval ans hw (hv hstate) hrow hstate hq hu.reservation hhash
      dsimp only
      rw [Prog.eval_bind_ok happly]
      exact answered_of_eval hrow' hpublished
    | cancelled terminal =>
      refine answered_of_eval hrow fun hfinalized => ?_
      unfold Selects at hselects
      rw [hstate, hfinalized] at hselects
      cases hselects.1
    | finalized terminal decidedAtMs sequence published =>
      refine answered_of_eval hrow fun _ => ?_
      have hrecord : row.recordHash = some R.selectedHash := hc (by
        unfold ReservationRow.isFinalized
        rw [hstate])
      unfold ReservationRow.recordHash at hrecord
      exact Option.isSome_map.symm.trans (by rw [hrecord]; rfl)
  rw [resolve_eval hw, hagain]
  exact answered_rescue heval

theorem refused_not_answered {e : BucketError} {s' : Store} :
    ¬Answered L R row₁ (s', some (.ok (resolveFailed e))) := by
  rintro ⟨row, -, h, -⟩
  cases h

/-- a transaction that fails is answered with a refusal -/
theorem resolve_conflict (hw : WellFormed L R intentHash) (he : checkEvidence R intentHash s = .ok row)
    {e : BucketError}
    (hsync : resolveSync R (requestHashOf L R) (attestationHashOf L R row) s = .error e) :
    (resolveQuarantine L R).eval ans s = (s, some (.ok (resolveFailed e))) := by
  have htransact : (Prog.transact (resolveSync R (requestHashOf L R) (attestationHashOf L R row)) :
      Bucket Bool).eval ans s = (s, some (.error e)) := by
    simp only [Prog.transact, Prog.eval, hsync]
  rw [resolve_eval hw, he]
  have hcall : (Prog.ofExcept (.ok row) >>= fun row =>
      applyResolution L R (requestHashOf L R) (attestationHashOf L R row)).eval ans s =
        (s, some (.error e)) := by
    show (Prog.transact _ >>= _).eval ans s = _
    rw [Prog.eval_bind_error htransact]
  rw [Prog.eval_rescue_error hcall]
  rfl

/-- nothing but such a call is answered like the first one -/
theorem of_answered (hw : WellFormed L R intentHash)
    (hu : ∀ row, s.reservations.find R.reservation.txId = some row →
      Undisturbed R intentHash s₁ row₁ s row)
    (h : Answered L R row₁ ((resolveQuarantine L R).eval ans s)) :
    Recorded L R row₁ s ∧
      ∃ row, s.reservations.find R.reservation.txId = some row ∧ Confirms R row := by
  cases he : checkEvidence R intentHash s with
  | error e =>
    rw [resolve_refused hw he] at h
    exact absurd h refused_not_answered
  | ok row =>
    obtain ⟨hrow, -, -, hselects⟩ := selects_of_checkEvidence he
    have hu := hu row hrow
    refine ⟨?_, row, hrow, fun hfinalized => ?_⟩
    · by_contra hnone
      have herror : ∃ e, resolveSync R (requestHashOf L R) (attestationHashOf L R row) s = .error e := by
        unfold resolveSync typeError
        cases hfind : s.resolutions.find R.idempotencyKey with
        | none =>
          simp only [hrow]
          exact ⟨_, if_pos (by simp [ReservationRow.unresolved, hu.resolved])⟩
        | some existing =>
          refine ⟨_, if_pos ?_⟩
          by_contra hsame
          rw [not_or, not_not, not_not] at hsame
          refine hnone ⟨existing, hfind, hsame.1, hsame.2.trans ?_⟩
          rw [attestationHashOf, attestationHashOf, hu.conflictRoot]
      obtain ⟨e, herror⟩ := herror
      rw [resolve_conflict hw he herror] at h
      exact refused_not_answered h
    · unfold Selects at hselects
      unfold ReservationRow.isFinalized at hfinalized
      split at hselects
      · exact hselects.2.1.symm
      · rename_i hstate
        rw [hstate] at hfinalized
        cases hfinalized
      · rename_i hstate
        rw [hstate] at hfinalized
        cases hfinalized

/-! ## the record stays -/

/-- the sweeps since `s₃` -/
def SweptSince (txId : TxId) (s₃ s : Store) : Prop :=
  ∃ l, s.swept = s₃.swept ++ l ∧ ∃ e ∈ l, e.row.txId = txId

/-- only a sweep of the reservation takes the record of a resolution away -/
theorem record_kept {r : ResolutionRow} (hl : (rules L ⟨false⟩).Later s₃ s)
    (hr : r ∈ s₃.resolutions.rows) : r ∈ s.resolutions.rows ∨ SweptSince r.txId s₃ s := by
  have hstable : (rules L ⟨false⟩).Stable fun s => ∃ l, s.swept = s₃.swept ++ l ∧
      (r ∈ s.resolutions.rows ∨ ∃ e ∈ l, e.row.txId = r.txId) := by
    apply stable_of_move
    intro s s' _ hm h
    obtain ⟨l, hl, h⟩ := h
    cases hm with
    | resolve r' row _ _ hk =>
      refine ⟨l, hl, h.imp (fun hmem => ?_) id⟩
      refine Keyed.mem_put.mpr (.inr ⟨hmem, fun hkey => ?_⟩)
      exact Keyed.find_eq_none.mp hk r hmem hkey
    | drop now row hrow =>
      refine ⟨l ++ [⟨row, now⟩], ?_, ?_⟩
      · show _ ++ _ = _
        rw [hl, List.append_assoc]
      · by_cases htx : row.txId = r.txId
        · exact .inr ⟨_, List.mem_append_right _ (List.mem_singleton.mpr rfl), htx⟩
        · refine h.imp (fun hmem => ?_) fun ⟨e, he, hetx⟩ => ⟨e, List.mem_append_left _ he, hetx⟩
          exact Keyed.mem_deleteWhere.mpr ⟨hmem, by simpa using Ne.symm htx⟩
    | _ => exact ⟨l, hl, h⟩
  obtain ⟨l, hl, h⟩ := Rules.Stable.later hstable hl ⟨[], by simp, .inl hr⟩
  exact h.imp id fun h => ⟨l, hl, h⟩

theorem resolveSync_first {requestHash attestationHash : Hash}
    (h : resolveSync R requestHash attestationHash s₂ = .ok (false, s₃)) :
    (⟨R.idempotencyKey, R.reservation.txId, requestHash, R.resolution, attestationHash⟩ :
      ResolutionRow) ∈ s₃.resolutions.rows := by
  unfold resolveSync typeError at h
  split at h
  · split at h <;> cases h
  · split at h
    · cases h
    · split at h
      · cases h
      · split at h
        · cases h
        · cases h
          exact Keyed.mem_put.mpr (.inl rfl)

theorem FirstCall.kept (h : FirstCall L R intentHash s₁ s₃ row₁)
    (hl : (rules L ⟨false⟩).Later s₃ s) :
    Recorded L R row₁ s ∨ SweptSince R.reservation.txId s₃ s := by
  obtain ⟨s₂, hsync⟩ := h.recorded
  refine (record_kept hl (resolveSync_first hsync)).imp (fun hmem => ?_) id
  exact ⟨_, Keyed.find_of_mem hmem, rfl, rfl⟩

/-- **A resolution that is sent again.**  Let a call of `resolveQuarantine` have been recorded, and
let no other evidence about its reservation have come in since.  The same call is answered like the
first one if and only if the record is still there, which only a sweep can change, and the
reservation is not finalized under another record than the one that the call selects. -/
theorem retry_ok_iff (L : BucketLib) (R : QuarantineResolutionRequest) (intentHash : Hash)
    (s₁ s₃ s : Store) (row₁ : ReservationRow) (h : FirstCall L R intentHash s₁ s₃ row₁)
    (hl : (rules L ⟨false⟩).Later s₃ s)
    (hu : ∀ row, s.reservations.find R.reservation.txId = some row →
      Undisturbed R intentHash s₁ row₁ s row)
    (hv : ∀ row, s.reservations.find R.reservation.txId = some row → row.state = .reserved →
      ValidRecord L R s) (ans : ∀ q, Ask.Answer q) :
    (Answered L R row₁ ((resolveQuarantine L R).eval ans s) ↔ Recorded L R row₁ s ∧
      ∃ row, s.reservations.find R.reservation.txId = some row ∧ Confirms R row) ∧
      (Recorded L R row₁ s ∨ SweptSince R.reservation.txId s₃ s) := by
  refine ⟨⟨of_answered h.wellFormed hu, ?_⟩, h.kept hl⟩
  rintro ⟨hr, row, hrow, hc⟩
  exact retry_ok h.wellFormed h.evidence hr hrow (hu row hrow) hc (hv row hrow)

/-! ## a lost reply -/

/-- the reservation of the runs, parked by another one -/
def disputedStore : Store := ((system exampleLib).run ⟨.initial 10, []⟩ disputed).store

def exampleCall (s : Store) : Store × Option (Except BucketError ResolutionResult) :=
  (resolveQuarantine exampleLib exampleResolution).eval (fun _ => ()) s

def isResolved : Option (Except BucketError ResolutionResult) → Bool
  | some (.ok (.resolved _ resolution _ (some _))) => resolution == .finalized
  | _ => false

def isTerminalConflict : Option (Except BucketError ResolutionResult) → Bool
  | some (.ok (.refused _ error)) => error.code == .manifestTerminalConflict
  | _ => false

/-- **a call that has finalized the reservation is refused when it comes again** -/
theorem finalized_retry_refused :
    isResolved (exampleCall disputedStore).2 = true ∧
      isTerminalConflict (exampleCall (exampleCall disputedStore).1).2 = true := by
  decide +kernel

theorem isReserved_iff : row.isReserved ↔ row.state = .reserved := by
  unfold ReservationRow.isReserved
  cases row.state <;> simp

theorem disputed_row : ∃ row, disputedStore.reservations.find "t1" = some row ∧
    row.state = .reserved ∧ row.unresolved = true ∧ row.reservation = exampleReservation ∧
      row.reservationHash = hex 'a' := by
  have hany : (disputedStore.reservations.find "t1").any fun row => row.isReserved &&
      row.unresolved && decide (row.reservation = exampleReservation) &&
        decide (row.reservationHash = hex 'a') := by decide +kernel
  obtain ⟨row, hrow, hany⟩ := (Option.any_eq_true _ _).mp hany
  simp only [Bool.and_eq_true, decide_eq_true_eq, isReserved_iff] at hany
  exact ⟨row, hrow, hany.1.1.1, hany.1.1.2, hany.1.2, hany.2⟩

/-- the bucket when the resolution has been recorded, and nothing else -/
def recordedStore (attestationHash : Hash) : Store :=
  { disputedStore with
    resolutions := disputedStore.resolutions.put
      ⟨"resolution", "t1", hex '6', .finalized, attestationHash⟩
    reservations := disputedStore.reservations.modify "t1" fun row =>
      { row with
        quarantineState := .resolved, resolutionAttestationHash := some attestationHash
        updatedAtMs := disputedStore.now }
    bucket := { disputedStore.bucket with
      evidenceRevision := disputedStore.bucket.evidenceRevision + 1 } }

theorem example_wellFormed : WellFormed exampleLib exampleResolution (hex 'c') where
  reservation := rfl
  request := if_neg (by decide +kernel)
  state := rfl
  coordinator := by
    unfold checkCoordinator
    dsimp only
    rw [if_neg (by decide +kernel), if_pos (by decide +kernel)]
  intent := rfl
  named := by
    unfold checkIntent
    dsimp only
    rw [if_neg (by decide +kernel)]

/-- the object crashes once the resolution is recorded, and the call comes again -/
theorem crashed_retry_answered : ∃ row₁ attestationHash,
    disputedStore.reservations.find "t1" = some row₁ ∧
      resolveSync exampleResolution (hex '6') attestationHash disputedStore =
        .ok (false, recordedStore attestationHash) ∧
      Answered exampleLib exampleResolution row₁ (exampleCall (recordedStore attestationHash)) := by
  obtain ⟨row₁, hrow, hstate, hq, hreservation, hhash⟩ := disputed_row
  have hcandidate : disputedStore.candidates.find ("t1", hex 'c') = none := by
    refine Option.isNone_iff_eq_none.mp ?_
    decide +kernel
  have hnone : disputedStore.resolutions.find "resolution" = none := by
    refine Option.isNone_iff_eq_none.mp ?_
    decide +kernel
  have hrows : disputedStore.resolutions.rows = [] := by
    refine List.isEmpty_iff.mp ?_
    decide +kernel
  have htx : row₁.txId = "t1" := Keyed.key_find hrow
  let attestationHash := attestationHashOf exampleLib exampleResolution row₁
  have hsync : resolveSync exampleResolution (hex '6') attestationHash disputedStore =
      .ok (false, recordedStore attestationHash) := by
    unfold resolveSync
    rw [show exampleResolution.idempotencyKey = "resolution" from rfl, hnone]
    rw [show exampleResolution.reservation.txId = "t1" from rfl, hrow]
    simp only [hq, hrows]
    rfl
  have hfirst : FirstCall exampleLib exampleResolution (hex 'c') disputedStore
      (recordedStore attestationHash) row₁ := by
    refine ⟨example_wellFormed, checkEvidence_ok hrow hhash rfl ?_, disputedStore, hsync⟩
    unfold Selects
    rw [hstate, htx]
    exact ⟨rfl, by rw [show exampleResolution.selectedHash = hex 'c' from rfl, hcandidate]; nofun⟩
  refine ⟨row₁, attestationHash, hrow, hsync, ?_⟩
  have hfind : (recordedStore attestationHash).reservations.find "t1" = some _ :=
    find_modify_self (s := disputedStore) _ (fun _ => rfl) hrow
  refine (retry_ok_iff exampleLib exampleResolution (hex 'c') disputedStore
    (recordedStore attestationHash) (recordedStore attestationHash) row₁ hfirst .refl ?_ ?_
    fun _ => ()).1.mpr ⟨?_, _, hfind, ?_⟩
  · intro row hrow'
    obtain rfl := Option.some.inj (hfind.symm.trans hrow')
    exact ⟨hreservation, rfl, rfl, rfl, rfl, .inl rfl⟩
  · exact fun _ _ _ _ _ => rfl
  · exact ⟨_, Keyed.find_put_self, rfl, rfl⟩
  · intro hfinalized
    rw [ReservationRow.isFinalized, hstate] at hfinalized
    cases hfinalized

end JournalManifest
