import CloudflareShard.ControlPlane.SealInvariant

/-!
# The invariant of the outcomes

* `OutcomesOk`      outcomes respect the resolutions that stand; sweeps come after the retention;
* `Kept`            a terminal outcome stays, until a sweep deletes the reservation;
* `Inv`, `rules`    a bucket as an object that makes sections;
* `terms`           what a run promises, by regime.
-/

namespace JournalManifest
open Async Contracts Keyset

variable {L : BucketLib} {d : Regime} {s s' s'' : Store}

def Store.sweptTx (s : Store) : List TxId := s.swept.map (·.row.txId)

/-- the answer named the outcome that the reservation had -/
def ResolutionAnswer.Holds (a : ResolutionAnswer) : Prop :=
  ∃ row, a.row = some row ∧ row.state ≠ .reserved ∧ ¬ Opposes a.resolution row.state

structure OutcomesOk (d : Regime) (s : Store) : Prop where
  standing : d.careful → ∀ row r, s.reservations.find r.txId = some row → r ∈ s.resolutions.rows →
    row.quarantineState = .resolved → row.resolutionAttestationHash = some r.attestationHash →
      ¬ Opposes r.resolution row.state
  answers : d.careful → ∀ a ∈ s.answers, a.txId ∈ s.sweptTx ∨ a.Holds
  swept : ∀ e ∈ s.swept, e.expired

/-- the row that an update of one reservation leaves under an identity -/
theorem find_modify_cases {txId txId' : TxId} {f : ReservationRow → ReservationRow}
    (hf : ∀ row, (f row).txId = row.txId) {row' : ReservationRow}
    (h : (s.reservations.modify txId f).find txId' = some row') :
    (txId' = txId ∧ ∃ row, s.reservations.find txId = some row ∧ row' = f row) ∨
      txId' ≠ txId ∧ s.reservations.find txId' = some row' := by
  rw [Keyed.find_modify hf] at h
  split at h
  case isTrue hk =>
    obtain ⟨row, hrow, rfl⟩ := Option.map_eq_some_iff.mp h
    exact .inl ⟨hk, row, hk ▸ hrow, rfl⟩
  case isFalse hk => exact .inr ⟨hk, h⟩

theorem opposes_of_eq {X : Resolution} {a b : ReservationState} (h : a = b) (hb : ¬ Opposes X b) :
    ¬ Opposes X a := h ▸ hb

theorem OutcomesOk.standing_move (h : OutcomesOk d s) (hm : Move L d s s') (hd : d.careful)
    {row : ReservationRow} {r : ResolutionRow} (hrow : s'.reservations.find r.txId = some row)
    (hr : r ∈ s'.resolutions.rows) (hq : row.quarantineState = .resolved)
    (ha : row.resolutionAttestationHash = some r.attestationHash) :
    ¬ Opposes r.resolution row.state := by
  have hold := h.standing hd
  cases hm with
  | reserve reservation reservationHash hnone =>
    have hrow : (s.reservations.put (newReservation reservation reservationHash s.now)).find r.txId =
      some row := hrow
    rw [Keyed.find_put] at hrow
    split at hrow
    · cases hrow
      cases hq
    · exact hold row r hrow hr hq ha
  | conflict txId candidateHash kind =>
    rcases find_modify_cases (by exact fun _ => rfl) hrow with ⟨_, _, _, rfl⟩ | ⟨_, hrow⟩
    · cases hq
    · exact hold row r hrow hr hq ha
  | assign txId intentHash row₀ hfind hs _ hguard =>
    rcases find_modify_cases (by exact fun _ => rfl) hrow with ⟨hk, row₁, hrow₁, rfl⟩ | ⟨_, hrow⟩
    · intro hopp
      cases hX : r.resolution with
      | finalized => simp [hX, Opposes] at hopp
      | cancelled => exact hguard hd ⟨row₁, r, hrow₁, hr, hk, hX, hq, ha⟩
    · exact hold row r hrow hr hq ha
  | publish txId row₀ intentHash decidedAtMs sequence record hfind hs =>
    rcases find_modify_cases (by exact fun _ => rfl) hrow with ⟨hk, row₁, hrow₁, rfl⟩ | ⟨_, hrow⟩
    · obtain rfl : row₀ = row₁ := Option.some.inj (hfind.symm.trans hrow₁)
      have := hold row₀ r (hk ▸ hfind) hr hq ha
      rw [hs] at this
      cases hX : r.resolution <;> simp_all [Opposes]
    · exact hold row r hrow hr hq ha
  | cancel txId intentHash row₀ hfind hs _ hguard =>
    rcases find_modify_cases (by exact fun _ => rfl) hrow with ⟨hk, row₁, hrow₁, rfl⟩ | ⟨_, hrow⟩
    · intro hopp
      cases hX : r.resolution with
      | finalized => exact hguard hd ⟨row₁, r, hrow₁, hr, hk, hX, hq, ha⟩
      | cancelled => simp [hX, Opposes] at hopp
    · exact hold row r hrow hr hq ha
  | resolve r₀ row₀ hfind _ hk₀ hu hguard =>
    rcases find_modify_cases (by exact fun _ => rfl) hrow with ⟨hk, row₁, hrow₁, rfl⟩ | ⟨hk, hrow⟩
    · obtain rfl : row₀ = row₁ := Option.some.inj (hfind.symm.trans hrow₁)
      rcases Keyed.mem_put.mp hr with rfl | ⟨hr, _⟩
      · exact hguard hd
      · exact absurd (Option.some.inj ha).symm (hu r hr)
    · rcases Keyed.mem_put.mp hr with rfl | ⟨hr, _⟩
      · exact absurd rfl hk
      · exact hold row r hrow hr hq ha
  | releaseRow txId =>
    rcases find_modify_cases (by exact fun _ => rfl) hrow with ⟨hk, row₁, hrow₁, rfl⟩ | ⟨_, hrow⟩
    · exact hold row₁ r (hk ▸ hrow₁) hr hq ha
    · exact hold row r hrow hr hq ha
  | drop now row₀ =>
    obtain ⟨hmem, hkey⟩ := Keyed.find_eq_some.mp hrow
    have hmem := (Keyed.mem_erase.mp hmem).1
    exact hold row r (hkey ▸ Keyed.find_of_mem hmem) (Keyed.mem_deleteWhere.mp hr).1 hq ha
  | _ => exact hold row r hrow hr hq ha

theorem OutcomesOk.move (h : OutcomesOk d s) (hm : Move L d s s') : OutcomesOk d s' where
  standing hd _ _ hrow hr hq ha := h.standing_move hm hd hrow hr hq ha
  answers hd a ha := by
    cases hm with
    | drop now row =>
      rcases h.answers hd a ha with hs | hs
      · left
        rw [Store.sweptTx, Store.dropReservation, List.map_append]
        exact List.mem_append_left _ hs
      · exact .inr hs
    | answer a₀ _ hguard =>
      rcases List.mem_append.mp ha with ha | ha
      · exact h.answers hd a ha
      · obtain rfl := List.mem_singleton.mp ha
        exact hguard hd
    | _ => exact h.answers hd a ha
  swept e he := by
    cases hm with
    | drop now row _ _ hexp =>
      rcases List.mem_append.mp he with he | he
      · exact h.swept e he
      · obtain rfl := List.mem_singleton.mp he
        exact hexp
    | _ => exact h.swept e he

/-! ## outcomes stay -/

/-- the same outcome, its record published at most -/
inductive ReservationState.Settles : ReservationState → ReservationState → Prop where
  | finalized (intentHash decidedAtMs sequence published published')
      (h : published = none ∨ published' = published) :
      Settles (.finalized intentHash decidedAtMs sequence published)
        (.finalized intentHash decidedAtMs sequence published')
  | cancelled (intentHash) : Settles (.cancelled intentHash) (.cancelled intentHash)

theorem ReservationState.Settles.refl {a : ReservationState} (h : a ≠ .reserved) : a.Settles a := by
  cases a with
  | reserved => exact absurd rfl h
  | finalized => exact .finalized _ _ _ _ _ (.inr rfl)
  | cancelled => exact .cancelled _

theorem ReservationState.Settles.trans {a b c : ReservationState} (h : a.Settles b)
    (h' : b.Settles c) : a.Settles c := by
  cases h with
  | finalized _ _ _ p p' hp =>
    cases h' with
    | finalized _ _ _ _ p'' hp' =>
      refine .finalized _ _ _ _ _ ?_
      rcases hp with hp | rfl
      · exact .inl hp
      · exact hp'
  | cancelled => exact h'

theorem ReservationState.Settles.ne {a b : ReservationState} (h : a.Settles b) : b ≠ .reserved := by
  cases h <;> exact nofun

/-- terminal outcomes of `s` stand in `s'`, but for reservations that a sweep has deleted since -/
structure Kept (s s' : Store) : Prop where
  swept : ∀ e ∈ s.swept, e ∈ s'.swept
  state : ∀ txId row, s.reservations.find txId = some row → row.state ≠ .reserved →
    txId ∈ s'.sweptTx ∨ ∃ row', s'.reservations.find txId = some row' ∧ row.state.Settles row'.state

theorem Kept.refl (s : Store) : Kept s s :=
  ⟨fun _ h => h, fun _ row h hs => .inr ⟨row, h, .refl hs⟩⟩

theorem Kept.sweptTx (h : Kept s s') {txId : TxId} (hs : txId ∈ s.sweptTx) : txId ∈ s'.sweptTx := by
  obtain ⟨e, he, rfl⟩ := List.mem_map.mp hs
  exact List.mem_map_of_mem (h.swept e he)

theorem Kept.trans (h : Kept s s') (h' : Kept s' s'') : Kept s s'' where
  swept e he := h'.swept e (h.swept e he)
  state txId row hrow hs := by
    rcases h.state txId row hrow hs with hsw | ⟨row', hrow', hset⟩
    · exact .inl (h'.sweptTx hsw)
    · rcases h'.state txId row' hrow' hset.ne with hsw | ⟨row'', hrow'', hset'⟩
      · exact .inl hsw
      · exact .inr ⟨row'', hrow'', hset.trans hset'⟩

/-- an update of one reservation that keeps a terminal outcome -/
theorem Kept.modify {txId : TxId} {f : ReservationRow → ReservationRow}
    (hs' : s'.reservations = s.reservations.modify txId f) (hf : ∀ row, (f row).txId = row.txId)
    (hsw : ∀ e ∈ s.swept, e ∈ s'.swept)
    (hstate : ∀ row, s.reservations.find txId = some row → row.state ≠ .reserved →
      row.state.Settles (f row).state) : Kept s s' := by
  refine ⟨hsw, fun txId' row hrow hs => .inr ?_⟩
  rw [hs', Keyed.find_modify hf]
  split
  case isTrue hk =>
    subst hk
    exact ⟨f row, by rw [hrow]; rfl, hstate row hrow hs⟩
  case isFalse => exact ⟨row, hrow, .refl hs⟩

theorem Kept.move (hm : Move L d s s') : Kept s s' := by
  cases hm with
  | reserve reservation reservationHash hnone =>
    refine ⟨fun _ h => h, fun txId row hrow hs => .inr ⟨row, ?_, .refl hs⟩⟩
    show (s.reservations.put _).find txId = some row
    rw [Keyed.find_put_ne]
    · exact hrow
    · rintro rfl
      have hnone : s.reservations.find (newReservation reservation reservationHash s.now).txId =
        none := hnone
      rw [hnone] at hrow
      cases hrow
  | conflict => exact .modify rfl (fun _ => rfl) (fun _ h => h) fun _ _ => .refl
  | assign txId intentHash row hfind hs =>
    refine .modify rfl (fun _ => rfl) (fun _ h => h) fun row' hrow' hne => ?_
    obtain rfl : row = row' := Option.some.inj (hfind.symm.trans hrow')
    exact absurd hs hne
  | publish txId row intentHash decidedAtMs sequence record hfind hs =>
    refine .modify rfl (fun _ => rfl) (fun _ h => h) fun row' hrow' _ => ?_
    obtain rfl : row = row' := Option.some.inj (hfind.symm.trans hrow')
    rw [hs]
    exact .finalized _ _ _ _ _ (.inl rfl)
  | cancel txId intentHash row hfind hs =>
    refine .modify rfl (fun _ => rfl) (fun _ h => h) fun row' hrow' hne => ?_
    obtain rfl : row = row' := Option.some.inj (hfind.symm.trans hrow')
    exact absurd hs hne
  | resolve => exact .modify rfl (fun _ => rfl) (fun _ h => h) fun _ _ => .refl
  | releaseRow => exact .modify rfl (fun _ => rfl) (fun _ h => h) fun _ _ => .refl
  | drop now row hrow =>
    refine ⟨fun _ h => List.mem_append_left _ h, fun txId row' hrow' hs => ?_⟩
    by_cases hk : txId = row.txId
    · left
      rw [Store.sweptTx, Store.dropReservation, List.map_append, hk]
      exact List.mem_append_right _ (List.mem_singleton.mpr rfl)
    · exact .inr ⟨row', (Keyed.find_erase_ne hk).trans hrow', .refl hs⟩
  | _ => exact ⟨fun _ h => h, fun _ row hrow hs => .inr ⟨row, hrow, .refl hs⟩⟩

/-! ## the object -/

structure Inv (L : BucketLib) (d : Regime) (s : Store) : Prop where
  clocked : Clocked s
  seals : SealsOk L s
  outcomes : OutcomesOk d s

theorem Inv.move (h : Inv L d s) (hm : Move L d s s') : Inv L d s' :=
  ⟨h.clocked.move hm, h.seals.move h.clocked hm, h.outcomes.move hm⟩

theorem Inv.section (h : Inv L d s) (hm : Section L d s s') : Inv L d s' := by
  induction hm with
  | refl => exact h
  | tail _ hm ih => exact ih.move hm

theorem Inv.initial (now : Nat) : Inv L d (.initial now) := by
  have hseals : ∀ g : SealRow, g ∉ (Store.initial now).seals.rows := fun _ => List.not_mem_nil
  have hrows : ∀ row : ReservationRow, row ∉ (Store.initial now).reservations.rows :=
    fun _ => List.not_mem_nil
  have hassigned : (Store.initial now).assigned = [] := rfl
  refine ⟨⟨le_rfl, ?_, ?_, ?_, .nil, ?_, ?_⟩, ?_, ⟨?_, ?_, ?_⟩⟩
  · exact fun g hg => absurd hg (hseals g)
  · exact fun g hg => absurd hg (hseals g)
  · exact fun g hg => absurd hg (hseals g)
  · exact fun a ha => absurd (hassigned ▸ ha) List.not_mem_nil
  · exact fun row hrow => absurd hrow (hrows row)
  · exact fun g hg => absurd hg (hseals g)
  · exact fun _ row _ hrow => absurd (Keyed.mem_of_find hrow) (hrows row)
  · exact fun _ a ha => absurd (show a ∈ [] from ha) List.not_mem_nil
  · exact fun e he => absurd (show e ∈ [] from he) List.not_mem_nil

variable (L d) in
def rules : Rules Store where
  inv := Inv L d
  move := Section L d
  move_refl _ := .refl
  inv_move := Inv.section

/-- a fact that no move takes away is stable -/
theorem stable_of_move {F : Store → Prop}
    (h : ∀ {s s'}, Inv L d s → Move L d s s' → F s → F s') : (rules L d).Stable F := by
  intro s s' hi hm hF
  have : Inv L d s' ∧ F s' := by
    induction hm with
    | refl => exact ⟨hi, hF⟩
    | tail _ hm ih => exact ⟨ih.1.move hm, h ih.1 hm ih.2⟩
  exact this.2

theorem Kept.later (h : (rules L d).Later s s') : Kept s s' := by
  refine h.history Kept.refl Kept.trans fun _ hm => ?_
  induction hm with
  | refl => exact .refl _
  | tail _ hm ih => exact ih.trans (.move hm)

/-! ## terms -/

/-- the reservation is the one that a terminal intent names -/
structure ReservationRow.Named (row : ReservationRow) (reservationHash operationHash : Hash)
    (decisionEpoch : Nat) : Prop where
  reservation : row.reservationHash = reservationHash
  operation : row.reservation.operationHash = operationHash
  epoch : row.reservation.decisionEpoch = decisionEpoch

/-- the transaction of a resolution goes through, because it was recorded before or can be -/
def Recordable (request : QuarantineResolutionRequest) (requestHash attestationHash : Hash)
    (s : Store) : Prop :=
  match s.resolutions.find request.idempotencyKey with
  | some existing =>
    existing.requestHash = requestHash ∧ existing.attestationHash = attestationHash
  | none => (s.reservations.find request.reservation.txId).any ReservationRow.unresolved ∧
    ∀ r ∈ s.resolutions.rows, r.attestationHash ≠ attestationHash

section
variable {request : QuarantineResolutionRequest} {requestHash attestationHash : Hash} {s : Store}

theorem recordable_again {existing : ResolutionRow}
    (h : s.resolutions.find request.idempotencyKey = some existing) :
    Recordable request requestHash attestationHash s ↔
      existing.requestHash = requestHash ∧ existing.attestationHash = attestationHash := by
  simp only [Recordable, h]

theorem recordable_first (h : s.resolutions.find request.idempotencyKey = none) :
    Recordable request requestHash attestationHash s ↔
      (s.reservations.find request.reservation.txId).any ReservationRow.unresolved ∧
        ∀ r ∈ s.resolutions.rows, r.attestationHash ≠ attestationHash := by
  simp only [Recordable, h]

end

/-- where a digest comes back, the terminal transaction behind it meets no opposite outcome -/
def Respectful : (q : Ask) → q.Answer → Store → Prop
  | .digest, _, _ => True
  | .finalizeIntent intent, _, s => ∀ row, s.reservations.find intent.txId = some row →
      row.state = .reserved →
      row.Named intent.reservationHash intent.operationHash intent.decisionEpoch →
        ¬ Standing s intent.txId .cancelled
  | .cancelIntent intent, _, s => ∀ row, s.reservations.find intent.txId = some row →
      row.state = .reserved →
      row.Named intent.reservationHash intent.operationHash intent.decisionEpoch →
        ¬ Standing s intent.txId .finalized
  | .attestation request requestHash attestationHash, _, s =>
    ∀ row, s.reservations.find request.reservation.txId = some row →
      Recordable request requestHash attestationHash s → ¬ Opposes request.resolution row.state

variable (d) in
def Allows (q : Ask) (a : q.Answer) (s : Store) : Prop := d.careful → Respectful q a s

variable (d) in
def terms : Terms Store Ask Ask.Answer Request Event where
  accept _ := True
  ok _ := Allows d
  event _ _ := True

end JournalManifest
