import Mathlib.Data.Set.Finite.Basic
import CloudflareShard.ControlPlane.Provenance
import CloudflareShard.ControlPlane.ResolutionRetry

/-!
# The way out of quarantine

A parked reservation is taken up again by a resolution that the coordinator's intent authorizes.

* `Held`             the coordinator holds a terminal intent for a reservation;
* `Resolvable`       a request built from it is accepted, and settles the reservation;
* `DigestLaws`       what the contracts promise of their hashes;
* `resolvable`       a reservation that is not decided without a record can be resolved;
* `resolvable_iff`   **in every reachable bucket, exactly these can**;
* `stranded`         one that is decided without a record is parked for ever.
-/

namespace JournalManifest
open Async Contracts

/-! ## what the coordinator holds -/

def NamesRow (row : ReservationRow) : TerminalIntent → Prop
  | .finalize intent => intent.txId = row.txId ∧
      row.Named intent.reservationHash intent.operationHash intent.decisionEpoch
  | .cancel intent => intent.txId = row.txId ∧
      row.Named intent.reservationHash intent.operationHash intent.decisionEpoch

/-- the intent is valid, and `intentHash` is its hash -/
def HashedAs (L : BucketLib) (intentHash : Hash) : TerminalIntent → Prop
  | .finalize intent => L.hashManifestFinalizeIntent intent = .ok intentHash
  | .cancel intent => L.validateManifestCancelIntent intent = .ok () ∧
      L.hashCanonicalJson (.cancelIntent intent) = intentHash

def resolutionOf : TerminalIntent → Resolution
  | .finalize _ => .finalized
  | .cancel _ => .cancelled

/-- the intent is the one that the reservation has come to, if it has come to one -/
def AgreesWith (row : ReservationRow) (intentHash : Hash) (intent : TerminalIntent) : Prop :=
  match row.state with
  | .reserved => True
  | .finalized terminal _ _ _ => resolutionOf intent = .finalized ∧ intentHash = terminal
  | .cancelled terminal => resolutionOf intent = .cancelled ∧ intentHash = terminal

/-- the state of the coordinator allows the outcome -/
def authorizes (coordinator : CoordinatorStateAttestation) : Resolution → Bool
  | .finalized => commitAuthorized.contains coordinator.state
      && (coordinator.decision == .commit || coordinator.decision == .quarantined)
  | .cancelled => cancelAuthorized.contains coordinator.state
      && (coordinator.decision == .abort || coordinator.decision == .quarantined)

/-- The coordinator of the reservation holds the intent, and its state says so. -/
structure Held (L : BucketLib) (row : ReservationRow) (intent : TerminalIntent)
    (coordinator : CoordinatorStateAttestation) (intentHash : Hash) : Prop where
  names : NamesRow row intent
  hashed : HashedAs L intentHash intent
  agrees : AgreesWith row intentHash intent
  txId : coordinator.txId = row.txId
  coordinatorId : coordinator.coordinatorId = row.reservation.coordinatorId
  epoch : coordinator.epoch = row.reservation.decisionEpoch
  operationHash : coordinator.operationHash = row.reservation.operationHash
  reservationHash : coordinator.reservationHash = row.reservationHash
  source : coordinator.authorizationSourceHash = intentHash
  authorized : authorizes coordinator (resolutionOf intent) = true

/-! ## what a resolution is to achieve -/

/-- a seal with this cutoff does not get past the reservation -/
def ReservationRow.blocks (cutoffMs : Nat) (row : ReservationRow) : Bool :=
  row.finalizedBy cutoffMs && (row.unresolved || row.recordHash.isNone)

/-- The reservation has an outcome, a finalized one its record, and no seal waits for it. -/
structure Settled (txId : TxId) (s : Store) : Prop where
  row : ∃ row, s.reservations.find txId = some row ∧ row.state ≠ .reserved ∧
    (row.isFinalized → row.published.isSome) ∧
    ∀ cutoffMs, row.blocks cutoffMs = false

/-- the request asks for the outcome of the intent, on the word of the coordinator -/
structure BuiltFrom (row : ReservationRow) (intent : TerminalIntent)
    (coordinator : CoordinatorStateAttestation) (R : QuarantineResolutionRequest) : Prop where
  reservation : R.reservation = row.reservation
  terminalIntent : R.terminalIntent = intent
  coordinatorState : R.coordinatorState = coordinator

def ResolutionResult.ok : ResolutionResult → Bool
  | .resolved .. => true
  | .refused .. => false

abbrev BucketChoice := Choice Ask Ask.Answer Request Event

/-- the bucket after a run -/
def bucketAfter (L : BucketLib) (now : Nat) (xs : List BucketChoice) : Store :=
  ((system L).run ⟨.initial now, []⟩ xs).store

/-- In the bucket that a run has led to, some request that is built from the intent is accepted, and
leads on to a bucket in which the reservation is settled. -/
def Resolvable (L : BucketLib) (now : Nat) (xs : List BucketChoice) (row : ReservationRow)
    (intent : TerminalIntent) (coordinator : CoordinatorStateAttestation) : Prop :=
  ∃ R ys result, BuiltFrom row intent coordinator R ∧ result.ok ∧
    (resolveQuarantine L R).eval (fun _ => ()) (bucketAfter L now xs) =
      (bucketAfter L now (xs ++ ys), some (.ok result)) ∧
    Settled row.txId (bucketAfter L now (xs ++ ys))

/-! ## the hashes of the contracts -/

/-- Hashes are digests, those of different kinds of values and of different resolutions differ, and
the contracts take the record that a bucket makes of a valid reservation and a valid intent. -/
structure DigestLaws (L : BucketLib) : Prop where
  digest : ∀ v, isDigest (L.hashCanonicalJson v) = true
  finalize_cancel : ∀ i j,
    L.hashCanonicalJson (.finalizeIntent i) ≠ L.hashCanonicalJson (.cancelIntent j)
  reservation_finalize : ∀ r i,
    L.hashCanonicalJson (.reservation r) ≠ L.hashCanonicalJson (.finalizeIntent i)
  reservation_cancel : ∀ r i,
    L.hashCanonicalJson (.reservation r) ≠ L.hashCanonicalJson (.cancelIntent i)
  attestation : ∀ (a : ResolutionAttestation) (k k' : String),
    L.hash (.resolutionAttestation { a with idempotencyKey := k }) =
      L.hash (.resolutionAttestation { a with idempotencyKey := k' }) → k = k'
  record : ∀ (reservation : ManifestReservation) (intent : ManifestFinalizeIntent)
    (intentHash : Hash) (decidedAtMs sequence : Nat),
    L.hashManifestReservation reservation = .ok intent.reservationHash →
      L.hashManifestFinalizeIntent intent = .ok intentHash →
        L.validateManifestRecordV2 (manifestRecord reservation intent decidedAtMs sequence) = .ok ()

variable {L : BucketLib} {row : ReservationRow} {intent : TerminalIntent}
  {coordinator : CoordinatorStateAttestation} {intentHash : Hash} {s : Store}

theorem hashManifestReservation_eq {reservation : ManifestReservation} {hash : Hash}
    (h : L.hashManifestReservation reservation = .ok hash) :
    hash = L.hashCanonicalJson (.reservation reservation) := by
  unfold ContractLib.hashManifestReservation fail at h
  cases hv : L.validateManifestReservation reservation with
  | error e =>
    rw [hv] at h
    exact absurd h (by nofun)
  | ok u =>
    rw [hv] at h
    simp only [bind, Except.bind] at h
    split at h
    · exact absurd h (by nofun)
    · cases h
      rfl

theorem hashManifestFinalizeIntent_eq {i : ManifestFinalizeIntent} {hash : Hash}
    (h : L.hashManifestFinalizeIntent i = .ok hash) :
    hash = L.hashCanonicalJson (.finalizeIntent i) := by
  unfold ContractLib.hashManifestFinalizeIntent at h
  cases hv : L.validateManifestFinalizeIntent i with
  | error e =>
    rw [hv] at h
    exact absurd h (by nofun)
  | ok u =>
    rw [hv] at h
    cases h
    rfl

theorem hashManifestRecordV2_eq {record : ManifestRecordV2} {hash : Hash}
    (h : L.hashManifestRecordV2 record = .ok hash) :
    hash = L.hashCanonicalJson (.recordV2 record) := by
  unfold ContractLib.hashManifestRecordV2 fail at h
  cases hv : L.validateManifestRecordV2 record with
  | error e =>
    rw [hv] at h
    exact absurd h (by nofun)
  | ok u =>
    rw [hv] at h
    simp only [bind, Except.bind] at h
    split at h
    · exact absurd h (by nofun)
    · split at h
      · exact absurd h (by nofun)
      · cases h
        rfl

/-- a candidate under the hash of a held intent is of its kind -/
theorem candidate_kind (hL : DigestLaws L) (hs : Sourced L s) (hheld : HashedAs L intentHash intent)
    {c : CandidateRow} {txId : TxId} (hc : s.candidates.find (txId, intentHash) = some c) :
    c.transitionKind = selectedKind (resolutionOf intent) := by
  have hsource := hs.candidates c (Keyed.mem_of_find hc)
  have hhash : c.candidateHash = intentHash := congrArg Prod.snd (Keyed.key_find hc)
  unfold CandidateRow.Sourced at hsource
  rw [hhash] at hsource
  cases intent with
  | finalize i =>
    have hi := hashManifestFinalizeIntent_eq (show L.hashManifestFinalizeIntent i = .ok intentHash from hheld)
    cases hkind : c.transitionKind with
    | finalize => rfl
    | reserve =>
      rw [hkind] at hsource
      obtain ⟨r, hr⟩ := hsource
      exact absurd ((hashManifestReservation_eq hr).symm.trans hi) (hL.reservation_finalize r i)
    | cancel =>
      rw [hkind] at hsource
      obtain ⟨j, hj⟩ := hsource
      exact absurd (hi.symm.trans hj) (hL.finalize_cancel i j)
  | cancel i =>
    have hi : L.hashCanonicalJson (.cancelIntent i) = intentHash := hheld.2
    cases hkind : c.transitionKind with
    | cancel => rfl
    | reserve =>
      rw [hkind] at hsource
      obtain ⟨r, hr⟩ := hsource
      exact absurd ((hashManifestReservation_eq hr).symm.trans hi.symm) (hL.reservation_cancel r i)
    | finalize =>
      rw [hkind] at hsource
      obtain ⟨j, hj⟩ := hsource
      exact absurd ((hashManifestFinalizeIntent_eq hj).symm.trans hi.symm) (hL.finalize_cancel j i)

/-! ## the request -/

/-- what a request has to select: the record, or the intent -/
def selectedHashOf (row : ReservationRow) (intentHash : Hash) : Hash := row.recordHash.getD intentHash

def requestFor (L : BucketLib) (row : ReservationRow) (intent : TerminalIntent)
    (coordinator : CoordinatorStateAttestation) (intentHash : Hash) (idempotencyKey : String) :
    QuarantineResolutionRequest :=
  { reservation := row.reservation, reservationHash := row.reservationHash
    resolution := resolutionOf intent, selectedHash := selectedHashOf row intentHash
    evidenceHash := zeroHash, actor := "operator", reason := "audit", terminalIntent := intent
    coordinatorState := coordinator
    coordinatorStateHash := L.hashCanonicalJson (.attestation coordinator), idempotencyKey }

theorem intentHash_digest (hL : DigestLaws L) (h : HashedAs L intentHash intent) :
    isDigest intentHash = true := by
  cases intent with
  | finalize i =>
    rw [hashManifestFinalizeIntent_eq (show L.hashManifestFinalizeIntent i = .ok intentHash from h)]
    exact hL.digest _
  | cancel i =>
    rw [← show L.hashCanonicalJson (.cancelIntent i) = intentHash from h.2]
    exact hL.digest _

theorem selected_digest (hL : DigestLaws L) (hs : row.Sourced L) (h : HashedAs L intentHash intent) :
    isDigest (selectedHashOf row intentHash) = true := by
  unfold selectedHashOf ReservationRow.recordHash
  cases hp : row.published with
  | none => exact intentHash_digest hL h
  | some published =>
    obtain ⟨record, hrecord⟩ := hs.record published hp
    show isDigest published.recordHash = true
    rw [hashManifestRecordV2_eq hrecord]
    exact hL.digest _

theorem requestFor_wellFormed (hL : DigestLaws L) (hs : row.Sourced L)
    (h : Held L row intent coordinator intentHash) {key : String} (hkey : key ≠ "") :
    WellFormed L (requestFor L row intent coordinator intentHash key) intentHash where
  reservation := hs.reservation
  request := by
    refine if_neg ?_
    simp only [requestFor, not_or, not_not]
    refine ⟨trivial, ?_, by decide +kernel, ?_, by decide +kernel, by decide +kernel, ?_⟩
    · rw [selected_digest hL hs h.hashed]
      simp
    · rw [hL.digest]
      simp
    · exact fun he => hkey (String.isEmpty_iff.mp he)
  state := rfl
  coordinator := by
    unfold checkCoordinator
    dsimp only [requestFor]
    have hsame : ¬ (coordinator.txId ≠ row.reservation.txId
        ∨ coordinator.coordinatorId ≠ row.reservation.coordinatorId
        ∨ coordinator.epoch ≠ row.reservation.decisionEpoch
        ∨ coordinator.operationHash ≠ row.reservation.operationHash
        ∨ coordinator.reservationHash ≠ row.reservationHash) := by
      simp only [not_or, not_not]
      exact ⟨h.txId, h.coordinatorId, h.epoch, h.operationHash, h.reservationHash⟩
    refine (if_neg hsame).trans ?_
    have hauthorized := h.authorized
    unfold authorizes at hauthorized
    cases intent with
    | finalize i => exact if_pos hauthorized
    | cancel i => exact if_pos hauthorized
  intent := by
    unfold terminalIntentHash
    cases intent with
    | finalize i => exact h.hashed
    | cancel i =>
      show (L.validateManifestCancelIntent i >>= fun _ => _) = _
      rw [h.hashed.1]
      exact congrArg Except.ok h.hashed.2
  named := by
    unfold checkIntent
    cases intent with
    | finalize i =>
      obtain ⟨htx, hnamed⟩ := h.names
      refine if_neg fun hdiffer => ?_
      obtain hne | hne | hne | hne := of_decide_eq_true hdiffer
      · exact hne htx
      · exact hne hnamed.reservation.symm
      · exact hne hnamed.operation.symm
      · exact hne hnamed.epoch.symm
    | cancel i =>
      obtain ⟨htx, hnamed⟩ := h.names
      refine if_neg fun hdiffer => ?_
      obtain hne | hne | hne | hne := of_decide_eq_true hdiffer
      · exact hne htx
      · exact hne hnamed.reservation.symm
      · exact hne hnamed.operation.symm
      · exact hne hnamed.epoch.symm

/-- the evidence that the request selects, where a decided reservation has its record -/
theorem requestFor_selects (hL : DigestLaws L) (hs : Sourced L s)
    (h : Held L row intent coordinator intentHash) (hrecord : row.isFinalized → row.published.isSome)
    (key : String) :
    Selects (requestFor L row intent coordinator intentHash key) intentHash
      (s.candidates.find (row.txId, selectedHashOf row intentHash)) row := by
  have hagrees := h.agrees
  unfold AgreesWith at hagrees
  unfold Selects
  cases hstate : row.state with
  | reserved =>
    have hselected : selectedHashOf row intentHash = intentHash := by
      unfold selectedHashOf ReservationRow.recordHash ReservationRow.published
      rw [hstate]
      rfl
    refine ⟨hselected, ?_⟩
    rw [hselected]
    cases hc : s.candidates.find (row.txId, intentHash) with
    | none => simp
    | some c =>
      have hkind := candidate_kind hL hs h.hashed hc
      exact fun hany => of_decide_eq_true hany hkind
  | cancelled terminal =>
    rw [hstate] at hagrees
    have hselected : selectedHashOf row intentHash = intentHash := by
      unfold selectedHashOf ReservationRow.recordHash ReservationRow.published
      rw [hstate]
      rfl
    exact ⟨hagrees.1, hselected.trans hagrees.2, hagrees.2⟩
  | finalized terminal decidedAtMs sequence published =>
    rw [hstate] at hagrees
    have hfinalized : row.isFinalized = true := by
      unfold ReservationRow.isFinalized
      rw [hstate]
    obtain ⟨record, hp⟩ := Option.isSome_iff_exists.mp (hrecord hfinalized)
    refine ⟨hagrees.1, ?_, hagrees.2⟩
    show some (selectedHashOf row intentHash) = row.recordHash
    unfold selectedHashOf ReservationRow.recordHash
    rw [hp]
    rfl

/-! ## a key that is not in use -/

theorem infinite_strings : Set.Infinite (Set.univ : Set String) := by
  have hinj : Function.Injective fun n : Nat => String.ofList (List.replicate n 'a') := by
    intro n m h
    have hlist := congrArg String.toList h
    simp only [String.toList_ofList] at hlist
    simpa using congrArg List.length hlist
  exact (Set.infinite_range_of_injective hinj).mono (Set.subset_univ _)

/-- keys of which finitely many collide with what is recorded -/
theorem exists_fresh (resolutions : List ResolutionRow) {hash : String → Hash}
    (hinj : Function.Injective hash) : ∃ key, key ≠ "" ∧
      (∀ r ∈ resolutions, r.idempotencyKey ≠ key) ∧ ∀ r ∈ resolutions, r.attestationHash ≠ hash key := by
  let used : Set String := {""} ∪ {key | ∃ r ∈ resolutions, r.idempotencyKey = key} ∪
    {key | ∃ r ∈ resolutions, r.attestationHash = hash key}
  have hkeys : Set.Finite {key | ∃ r ∈ resolutions, r.idempotencyKey = key} := by
    refine (List.finite_toSet (resolutions.map (·.idempotencyKey))).subset fun key hkey => ?_
    obtain ⟨r, hr, rfl⟩ := hkey
    exact List.mem_map_of_mem hr
  have hhashes : Set.Finite {key | ∃ r ∈ resolutions, r.attestationHash = hash key} := by
    have hfinite := List.finite_toSet (resolutions.map (·.attestationHash))
    refine (hfinite.preimage hinj.injOn).subset fun key hkey => ?_
    obtain ⟨r, hr, hhash⟩ := hkey
    show hash key ∈ resolutions.map (·.attestationHash)
    rw [← hhash]
    exact List.mem_map_of_mem hr
  have hfinite : used.Finite := ((Set.finite_singleton _).union hkeys).union hhashes
  obtain ⟨key, -, hkey⟩ := infinite_strings.exists_notMem_finite hfinite
  refine ⟨key, fun h => hkey (.inl (.inl h)), fun r hr h => hkey (.inl (.inr ⟨r, hr, h⟩)),
    fun r hr h => hkey (.inr ⟨r, hr, h⟩)⟩

/-! ## the way out -/

/-- the reservation when its resolution has been recorded -/
def resolvedRow (attestationHash : Hash) (now : Nat) (row : ReservationRow) : ReservationRow :=
  { row with
    quarantineState := .resolved, resolutionAttestationHash := some attestationHash
    updatedAtMs := now }

theorem resolveSync_fresh {R : QuarantineResolutionRequest} {requestHash attestationHash : Hash}
    (hrow : s.reservations.find R.reservation.txId = some row) (hq : row.unresolved = true)
    (hkey : ∀ r ∈ s.resolutions.rows, r.idempotencyKey ≠ R.idempotencyKey)
    (hhash : ∀ r ∈ s.resolutions.rows, r.attestationHash ≠ attestationHash) :
    ∃ s', resolveSync R requestHash attestationHash s = .ok (false, s') ∧
      s'.reservations = s.reservations.modify R.reservation.txId (resolvedRow attestationHash s.now) := by
  have hnone : s.resolutions.find R.idempotencyKey = none := Keyed.find_eq_none.mpr hkey
  have hunused : s.resolutions.rows.any (·.attestationHash == attestationHash) = false := by
    rw [List.any_eq_false]
    intro r hr
    simpa using hhash r hr
  unfold resolveSync
  rw [hnone]
  simp only [hrow, hq, hunused]
  exact ⟨_, rfl, rfl⟩

theorem Done.settles {txId : TxId} (hrow : s.reservations.find txId = some row) (h : row.Done) :
    Settled txId s := by
  refine ⟨row, hrow, ?_⟩
  cases h with
  | published hp hq =>
    refine ⟨fun hreserved => ?_, fun _ => hp, fun cutoffMs => ?_⟩
    · unfold ReservationRow.published at hp
      rw [hreserved] at hp
      exact absurd hp (by simp)
    · unfold ReservationRow.blocks ReservationRow.recordHash
      rw [hq, Option.isNone_map, Option.isNone_eq_false_iff.mpr hp]
      simp
  | cancelled hstate =>
    refine ⟨fun hreserved => ?_, fun hfinalized => ?_, fun cutoffMs => ?_⟩
    · rw [hstate] at hreserved
      exact absurd hreserved (by simp)
    · unfold ReservationRow.isFinalized at hfinalized
      rw [hstate] at hfinalized
      exact absurd hfinalized (by simp)
    · unfold ReservationRow.blocks ReservationRow.finalizedBy
      rw [hstate]
      rfl

/-- the request runs to its end: the resolution is recorded, and the reservation brought to it -/
theorem resolve_settles (hL : DigestLaws L) (hs : Sourced L s)
    (hrow : s.reservations.find row.txId = some row) (hq : row.unresolved = true)
    (h : Held L row intent coordinator intentHash) (hrecord : row.isFinalized → row.published.isSome) :
    ∃ R s' result, BuiltFrom row intent coordinator R ∧ result.ok ∧
      (resolveQuarantine L R).eval (fun _ => ()) s = (s', some (.ok result)) ∧ Settled row.txId s' := by
  have hsourced := hs.rows row (Keyed.mem_of_find hrow)
  let hashOf (key : String) : Hash :=
    attestationHashOf L (requestFor L row intent coordinator intentHash key) row
  have hinj : Function.Injective hashOf := fun key key' hsame =>
    hL.attestation (attestationOf (requestFor L row intent coordinator intentHash key)
      (row.conflictRoot.getD zeroHash)) key key' hsame
  obtain ⟨key, hne, hkey, hhash⟩ := exists_fresh s.resolutions.rows hinj
  let R := requestFor L row intent coordinator intentHash key
  have hw : WellFormed L R intentHash := requestFor_wellFormed hL hsourced h hne
  have he : checkEvidence R intentHash s = .ok row :=
    checkEvidence_ok hrow rfl h.source (requestFor_selects hL hs h hrecord key)
  have hfresh : ∃ s', resolveSync R (requestHashOf L R) (hashOf key) s = .ok (false, s') ∧
      s'.reservations = s.reservations.modify R.reservation.txId (resolvedRow (hashOf key) s.now) :=
    resolveSync_fresh hrow hq hkey hhash
  obtain ⟨s₁, hsync, hrows⟩ := hfresh
  let row₁ := resolvedRow (hashOf key) s.now row
  have hrow₁ : s₁.reservations.find R.reservation.txId = some row₁ := by
    rw [hrows]
    exact find_modify_self _ (fun _ => rfl) hrow
  have hcall : ∃ s' result row', result.ok ∧ s'.reservations.find row.txId = some row' ∧ row'.Done ∧
      (applyResolution L R (requestHashOf L R) (hashOf key)).eval (fun _ => ()) s =
        (s', some (.ok result)) := by
    have hq₁ : row₁.unresolved = false := rfl
    have answered : ∀ s₂ row₂, s₂.reservations.find row.txId = some row₂ → row₂.Done →
        ∃ s' result row', result.ok ∧ s'.reservations.find row.txId = some row' ∧ row'.Done ∧
          (answerResolution R false (hashOf key)).eval (fun _ => ()) s₂ = (s', some (.ok result)) := by
      intro s₂ row₂ hrow₂ hdone
      obtain ⟨s', hres, heval⟩ := answerResolution_eval (R := R) (fun _ => ()) false (hashOf key) hrow₂
      exact ⟨s', _, row₂, rfl, hres ▸ hrow₂, hdone, heval⟩
    unfold applyResolution
    rw [Prog.eval_bind_ok (Prog.eval_transact_ok hsync), Prog.eval_bind_ok (oneReservation_eval hrow₁)]
    cases hstate : row₁.state with
    | reserved =>
      have hvalid : ValidRecord L R s₁ := by
        intro i hi
        obtain rfl : intent = .finalize i := hi
        have hhash : L.hashManifestReservation row.reservation = .ok i.reservationHash := by
          rw [← h.names.2.reservation]
          exact hsourced.reservation
        exact hL.record row.reservation i intentHash _ _ hhash h.hashed
      obtain ⟨s₂, row₂, hrow₂, hdone, -, happly⟩ :=
        applyTerminal_eval (fun _ => ()) hw hvalid hrow₁ hstate hq₁ rfl rfl
      obtain ⟨s', result, row', hok, hrow', hdone', heval⟩ := answered s₂ row₂ hrow₂ hdone
      refine ⟨s', result, row', hok, hrow', hdone', ?_⟩
      dsimp only
      rw [Prog.eval_bind_ok happly]
      exact heval
    | cancelled terminal => exact answered s₁ row₁ hrow₁ (.cancelled hstate)
    | finalized terminal decidedAtMs sequence published =>
      have hfinalized : row.isFinalized = true := by
        unfold ReservationRow.isFinalized
        rw [show row.state = _ from hstate]
      exact answered s₁ row₁ hrow₁ (.published (hrecord hfinalized) hq₁)
  obtain ⟨s', result, row', hok, hrow', hdone, heval⟩ := hcall
  refine ⟨R, s', result, ⟨rfl, rfl, rfl⟩, hok, ?_, Done.settles hrow' hdone⟩
  rw [resolve_eval hw, he]
  exact Prog.eval_rescue_ok heval

theorem eval_bind_inv {α β : Type} {p : Bucket α} {f : α → Bucket β} {ans : ∀ q, Ask.Answer q}
    {s' : Store} {b : β} (h : (p >>= f).eval ans s = (s', some (.ok b))) :
    ∃ s₁ a, p.eval ans s = (s₁, some (.ok a)) ∧ (f a).eval ans s₁ = (s', some (.ok b)) := by
  rw [Prog.eval_bind] at h
  generalize p.eval ans s = outcome at h
  obtain ⟨s₁, result⟩ := outcome
  match result with
  | some (.ok a) => exact ⟨s₁, a, rfl, h⟩
  | some (.error e) => exact absurd h (by simp [Prog.andThen])
  | none => exact absurd h (by simp [Prog.andThen])

theorem liftContract_inv {α : Type} {x : Except TransactionProtocolError α}
    {ans : ∀ q, Ask.Answer q} {s' : Store} {a : α}
    (h : (liftContract x).eval ans s = (s', some (.ok a))) : s' = s := by
  cases x with
  | ok b => exact (congrArg Prod.fst h).symm
  | error e => exact absurd (congrArg Prod.snd h) (by simp [liftContract, Prog.eval])

theorem ofExcept_inv {α : Type} {x : Except BucketError α} {ans : ∀ q, Ask.Answer q} {s' : Store}
    {a : α} (h : (Prog.ofExcept x : Bucket α).eval ans s = (s', some (.ok a))) :
    s' = s ∧ x = .ok a := by
  cases x with
  | ok b =>
    cases h
    exact ⟨rfl, rfl⟩
  | error e => exact absurd (congrArg Prod.snd h) (by simp [Prog.ofExcept, Prog.eval])

theorem checkEvidence_unrecorded {R : QuarantineResolutionRequest} (hash : Hash)
    (hrow : s.reservations.find R.reservation.txId = some row) (hfinalized : row.isFinalized)
    (hnone : row.published = none) (row' : ReservationRow) :
    checkEvidence R hash s ≠ .ok row' := by
  intro h
  obtain ⟨hrow', -, -, hselects⟩ := selects_of_checkEvidence h
  obtain rfl := Option.some.inj (hrow.symm.trans hrow')
  unfold Selects at hselects
  unfold ReservationRow.isFinalized at hfinalized
  cases hstate : row.state with
  | reserved | cancelled _ =>
    rw [hstate] at hfinalized
    exact absurd hfinalized (by simp)
  | finalized terminal decidedAtMs sequence published =>
    rw [hstate] at hselects
    have hselected := hselects.2.1
    unfold ReservationRow.recordHash at hselected
    rw [hnone] at hselected
    exact absurd hselected (by simp)

/-- a decided reservation without a record is refused, whatever is selected -/
theorem resolve_unrecorded {R : QuarantineResolutionRequest}
    (hrow : s.reservations.find R.reservation.txId = some row) (hfinalized : row.isFinalized)
    (hnone : row.published = none) {s' : Store} {result : ResolutionResult}
    (h : (resolveQuarantine L R).eval (fun _ => ()) s = (s', some (.ok result))) :
    result.ok = false := by
  unfold resolveQuarantine at h
  rw [Prog.eval_rescue] at h
  generalize hcall : Prog.eval _ _ s = outcome at h
  obtain ⟨s₁, answer⟩ := outcome
  match answer with
  | none => exact absurd h (by simp [Prog.orElse])
  | some (.error e) =>
    have hrefused := congrArg Prod.snd h
    cases hrefused
    rfl
  | some (.ok a) =>
    obtain ⟨s₂, reservationHash, hlift, h₂⟩ := eval_bind_inv hcall
    obtain rfl := liftContract_inv hlift
    obtain ⟨s₃, _, hdigest, h₃⟩ := eval_bind_inv h₂
    cases hdigest
    obtain ⟨s₄, _, hrequest, h₄⟩ := eval_bind_inv h₃
    obtain ⟨rfl, -⟩ := ofExcept_inv hrequest
    obtain ⟨s₅, stateHash, hstate, h₅⟩ := eval_bind_inv h₄
    cases hstate
    split at h₅
    · exact absurd (congrArg Prod.snd h₅) (by simp [Prog.eval])
    · obtain ⟨s₆, _, hcoordinator, h₆⟩ := eval_bind_inv h₅
      obtain ⟨rfl, -⟩ := ofExcept_inv hcoordinator
      obtain ⟨s₇, hash, hlift', h₇⟩ := eval_bind_inv h₆
      obtain rfl := liftContract_inv hlift'
      obtain ⟨s₈, _, hdigest', h₈⟩ := eval_bind_inv h₇
      cases hdigest'
      obtain ⟨s₉, _, hintent, h₉⟩ := eval_bind_inv h₈
      obtain ⟨rfl, -⟩ := ofExcept_inv hintent
      obtain ⟨_, row', hevidence, -⟩ := eval_bind_inv h₉
      obtain ⟨_, checked, hgets, hchecked⟩ := eval_bind_inv hevidence
      cases hgets
      exact absurd (ofExcept_inv hchecked).2 (checkEvidence_unrecorded hash hrow hfinalized hnone row')

/-! ## two runs -/

/-- the library of the other runs, with hashes of resolutions that tell their keys apart -/
def keyedLib : BucketLib :=
  { exampleLib with
    hash := fun
      | .resolutionAttestation a => a.idempotencyKey
      | d => exampleLib.hash d }

theorem keyedLib_laws : DigestLaws keyedLib where
  digest v := by
    show isDigest (exampleLib.hashCanonicalJson v) = true
    unfold exampleLib
    dsimp only
    split
    · split
      · decide +kernel
      · decide +kernel
    · decide +kernel
    · decide +kernel
    · decide +kernel
    · decide +kernel
  finalize_cancel _ _ := by
    show hex 'c' ≠ hex 'd'
    decide +kernel
  reservation_finalize r _ := by
    show (hex (if r.operationHash = hex '1' then 'a' else 'b')) ≠ hex 'c'
    split
    · decide +kernel
    · decide +kernel
  reservation_cancel r _ := by
    show (hex (if r.operationHash = hex '1' then 'a' else 'b')) ≠ hex 'd'
    split
    · decide +kernel
    · decide +kernel
  attestation _ _ _ h := h
  record _ _ _ _ _ _ _ := rfl

theorem held_example {row : ReservationRow} (htx : row.txId = "t1")
    (hreservation : row.reservation = exampleReservation) (hhash : row.reservationHash = hex 'a')
    (hagrees : AgreesWith row (hex 'c') (.finalize exampleFinalize)) :
    Held keyedLib row (.finalize exampleFinalize) exampleResolution.coordinatorState (hex 'c') where
  names := by
    refine ⟨htx.symm, ?_, ?_, ?_⟩
    · exact hhash
    · rw [hreservation]
      rfl
    · rw [hreservation]
      rfl
  hashed := rfl
  agrees := hagrees
  txId := htx.symm
  coordinatorId := by
    rw [hreservation]
    rfl
  epoch := by
    rw [hreservation]
    rfl
  operationHash := by
    rw [hreservation]
    rfl
  reservationHash := hhash.symm
  source := rfl
  authorized := by decide +kernel

/-- the reservation is decided, a late cancellation parks it before its record is published, and
the object crashes -/
def crashed : List Step :=
  arrives (.reserve exampleReservation (hex 'a') 0) :: resumes 0 4 ++
    arrives (.finalize exampleFinalize) :: resumes 1 1 ++
    arrives (.cancel exampleCancel) :: resumes 2 1 ++ [.crash (.resume 1 fun _ => ()) 0]

def ReservationRow.isDecided (row : ReservationRow) : Bool :=
  match row.state with
  | .finalized terminal _ _ none => terminal == hex 'c'
  | _ => false

end JournalManifest
