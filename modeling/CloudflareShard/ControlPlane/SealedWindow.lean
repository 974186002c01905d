import CloudflareShard.ControlPlane.JournalFollows

/-!
# What a published seal still says of the bucket

* `Sees`              the reservations decided by the cutoff are those of the publication, but for
                      what the watermark of the sweeps has passed;
* `SealedOk`          every generation is published once, and sees its cutoff;
* `sealedOk_stable`   **no move takes that away**;
* `Swept.stable`      what the sweeps have deleted lies behind the watermark.
-/

namespace JournalManifest
open Async Contracts Keyset

variable {L : BucketLib} {d : Regime} {s s' : Store} {cutoffMs : Nat} {p : Publication}

/-- two rows of one reservation that a page does not tell apart -/
structure ReservationRow.SameRecord (row row' : ReservationRow) : Prop where
  reservation : row'.reservation = row.reservation
  state : row'.state = row.state

namespace ReservationRow.SameRecord
variable {row row' row'' : ReservationRow}

theorem refl (row : ReservationRow) : row.SameRecord row := ⟨rfl, rfl⟩

theorem symm (h : row.SameRecord row') : row'.SameRecord row := ⟨h.reservation.symm, h.state.symm⟩

theorem trans (h : row.SameRecord row') (h' : row'.SameRecord row'') : row.SameRecord row'' :=
  ⟨h'.reservation.trans h.reservation, h'.state.trans h.state⟩

theorem txId (h : row.SameRecord row') : row'.txId = row.txId := by
  unfold ReservationRow.txId
  rw [h.reservation]

theorem finalizedBy (h : row.SameRecord row') (cutoffMs : Nat) :
    row'.finalizedBy cutoffMs = row.finalizedBy cutoffMs := by
  unfold ReservationRow.finalizedBy
  rw [h.state]

theorem finalizedIn (h : row.SameRecord row') (startMs cutoffMs : Nat) :
    row'.finalizedIn startMs cutoffMs = row.finalizedIn startMs cutoffMs := by
  unfold ReservationRow.finalizedIn
  rw [h.state]

theorem published (h : row.SameRecord row') : row'.published = row.published := by
  unfold ReservationRow.published
  rw [h.state]

theorem key (h : row.SameRecord row') : row'.key = row.key := by
  unfold ReservationRow.key
  rw [h.state, h.txId]

end ReservationRow.SameRecord

/-- Of the reservations that were decided by the cutoff when the seal was published, the bucket has
those that no sweep has passed, and it has no others. -/
structure Sees (s : Store) (cutoffMs : Nat) (p : Publication) : Prop where
  published : ∀ row ∈ s.reservations.rows, row.finalizedBy cutoffMs → row.published.isSome
  origin : ∀ row ∈ s.reservations.rows, row.finalizedBy cutoffMs →
    ∃ row₀ ∈ p.reservations.rows, row₀.SameRecord row
  kept : ∀ row₀ ∈ p.reservations.rows, row₀.finalizedBy cutoffMs →
    row₀.finalizedBy s.bucket.recordsDeletedThroughMs = false →
      ∃ row ∈ s.reservations.rows, row₀.SameRecord row

namespace Sees

/-- the reservations stay, and the watermark does not fall -/
theorem still (h : Sees s cutoffMs p) (hr : s'.reservations = s.reservations)
    (hw : s.bucket.recordsDeletedThroughMs ≤ s'.bucket.recordsDeletedThroughMs) :
    Sees s' cutoffMs p := by
  refine ⟨hr ▸ h.published, hr ▸ h.origin, fun row₀ hrow₀ hfin hleft => ?_⟩
  rw [hr]
  refine h.kept row₀ hrow₀ hfin ?_
  rw [← Bool.not_eq_true] at hleft ⊢
  intro hswept
  apply hleft
  unfold ReservationRow.finalizedBy at hswept ⊢
  split
  · rename_i hstate
    rw [hstate] at hswept
    exact decide_eq_true ((of_decide_eq_true hswept).trans hw)
  · rename_i hstate
    split at hswept
    · rename_i hfinal
      exact absurd hfinal (hstate _ _ _ _)
    · exact hswept

/-- an update that leaves a row as a page sees it, or behind the cutoff -/
theorem modify {txId : TxId} {f : ReservationRow → ReservationRow} (h : Sees s cutoffMs p)
    (hr : s'.reservations = s.reservations.modify txId f)
    (hw : s'.bucket.recordsDeletedThroughMs = s.bucket.recordsDeletedThroughMs)
    (hf : ∀ row, (f row).reservation = row.reservation)
    (hsame : ∀ row ∈ s.reservations.rows, row.txId = txId → (f row).state = row.state ∨
      row.finalizedBy cutoffMs = false ∧ (f row).finalizedBy cutoffMs = false) :
    Sees s' cutoffMs p := by
  have htx : ∀ row, (f row).txId = row.txId := fun row => congrArg (·.txId) (hf row)
  have hrow : ∀ row' ∈ s'.reservations.rows, row'.finalizedBy cutoffMs →
      ∃ row ∈ s.reservations.rows, row.SameRecord row' := by
    intro row' hrow' hfin
    rw [hr] at hrow'
    rcases (Keyed.mem_modify htx).mp hrow' with ⟨row, hrow, hk, rfl⟩ | ⟨hrow, -⟩
    · rcases hsame row hrow hk with hstate | hbehind
      · exact ⟨row, hrow, hf row, hstate⟩
      · rw [hbehind.2] at hfin
        cases hfin
    · exact ⟨row', hrow, .refl row'⟩
  refine ⟨fun row' hrow' hfin => ?_, fun row' hrow' hfin => ?_, fun row₀ hrow₀ hfin hleft => ?_⟩
  · obtain ⟨row, hrow, he⟩ := hrow row' hrow' hfin
    rw [he.published]
    exact h.published row hrow ((he.finalizedBy cutoffMs).symm.trans hfin)
  · obtain ⟨row, hrow, he⟩ := hrow row' hrow' hfin
    obtain ⟨row₀, hrow₀, he₀⟩ := h.origin row hrow ((he.finalizedBy cutoffMs).symm.trans hfin)
    exact ⟨row₀, hrow₀, he₀.trans he⟩
  · obtain ⟨row, hrow, he⟩ := h.kept row₀ hrow₀ hfin (hw ▸ hleft)
    rw [hr]
    by_cases hk : row.txId = txId
    · refine ⟨f row, (Keyed.mem_modify htx).mpr (.inl ⟨row, hrow, hk, rfl⟩), ?_⟩
      rcases hsame row hrow hk with hstate | hbehind
      · exact he.trans ⟨hf row, hstate⟩
      · rw [he.finalizedBy, hfin] at hbehind
        exact absurd hbehind.1 (by simp)
    · exact ⟨row, (Keyed.mem_modify htx).mpr (.inr ⟨hrow, hk⟩), he⟩

/-- the row that is updated is the one that was found -/
theorem modify_found {txId : TxId} {f : ReservationRow → ReservationRow} {row : ReservationRow}
    (h : Sees s cutoffMs p) (hr : s'.reservations = s.reservations.modify txId f)
    (hw : s'.bucket.recordsDeletedThroughMs = s.bucket.recordsDeletedThroughMs)
    (hf : ∀ row, (f row).reservation = row.reservation)
    (hrow : s.reservations.find txId = some row)
    (hbehind : row.finalizedBy cutoffMs = false ∧ (f row).finalizedBy cutoffMs = false) :
    Sees s' cutoffMs p := by
  refine h.modify hr hw hf fun row' hrow' hk => .inr ?_
  have hfound := Keyed.find_of_mem hrow'
  rw [hk, hrow] at hfound
  exact Option.some.inj hfound ▸ hbehind

theorem move (h : Sees s cutoffMs p) (hfloor : cutoffMs ≤ s.bucket.decisionFloorMs)
    (hm : Move L d s s') : Sees s' cutoffMs p := by
  cases hm with
  | reserve reservation reservationHash hnone =>
    have hput : ∀ row', row' ∈ (s.reservations.put
        (newReservation reservation reservationHash s.now)).rows → row'.finalizedBy cutoffMs →
          row' ∈ s.reservations.rows := by
      intro row' hrow' hfin
      rcases Keyed.mem_put.mp hrow' with rfl | ⟨hrow, -⟩
      · cases hfin
      · exact hrow
    refine ⟨fun row' hrow' hfin => h.published row' (hput row' hrow' hfin) hfin,
      fun row' hrow' hfin => h.origin row' (hput row' hrow' hfin) hfin,
      fun row₀ hrow₀ hfin hleft => ?_⟩
    obtain ⟨row, hrow, he⟩ := h.kept row₀ hrow₀ hfin hleft
    exact ⟨row, Keyed.mem_put.mpr (.inr ⟨hrow, Keyed.find_eq_none.mp hnone row hrow⟩), he⟩
  | conflict => exact h.modify rfl rfl (fun _ => rfl) fun _ _ _ => .inl rfl
  | resolve => exact h.modify rfl rfl (fun _ => rfl) fun _ _ _ => .inl rfl
  | releaseRow => exact h.modify rfl rfl (fun _ => rfl) fun _ _ _ => .inl rfl
  | assign txId intentHash row hrow hs =>
    refine h.modify_found rfl rfl (fun _ => rfl) hrow ⟨finalizedBy_reserved hs, ?_⟩
    have hlater : cutoffMs < s.decisionTime := hfloor.trans_lt decisionTime_gt
    exact decide_eq_false (Nat.not_le.mpr hlater)
  | publish txId row intentHash decidedAtMs sequence record hrow hs =>
    have hbehind : row.finalizedBy cutoffMs = false := by
      rw [← Bool.not_eq_true]
      intro hfin
      have hpublished := h.published row (Keyed.mem_of_find hrow) hfin
      unfold ReservationRow.published at hpublished
      rw [hs] at hpublished
      cases hpublished
    refine h.modify_found rfl rfl (fun _ => rfl) hrow ⟨hbehind, ?_⟩
    unfold ReservationRow.finalizedBy at hbehind ⊢
    rw [hs] at hbehind
    exact hbehind
  | cancel txId intentHash row hrow hs =>
    exact h.modify_found rfl rfl (fun _ => rfl) hrow ⟨finalizedBy_reserved hs, rfl⟩
  | expire deletedThroughMs evidenceRoot hle => exact h.still rfl hle
  | drop now row hrow hq he hs hd =>
    refine ⟨fun row' hrow' => h.published row' (Keyed.mem_erase.mp hrow').1,
      fun row' hrow' => h.origin row' (Keyed.mem_erase.mp hrow').1,
      fun row₀ hrow₀ hfin hleft => ?_⟩
    obtain ⟨row', hrow', he'⟩ := h.kept row₀ hrow₀ hfin hleft
    refine ⟨row', Keyed.mem_erase.mpr ⟨hrow', fun hk => ?_⟩, he'⟩
    have hfound := Keyed.find_of_mem hrow'
    rw [hk, Keyed.find_of_mem hrow] at hfound
    obtain rfl := Option.some.inj hfound
    rcases hd with hd | hd
    · have hleft : row₀.finalizedBy s.bucket.recordsDeletedThroughMs = false := hleft
      rw [he'.finalizedBy, hleft] at hd
      cases hd
    · unfold ReservationRow.isFinalized at hd
      have hfin' := (he'.finalizedBy cutoffMs).trans hfin
      unfold ReservationRow.finalizedBy at hfin'
      cases hstate : row.state with
      | finalized => rw [hstate] at hd; cases hd
      | reserved => rw [hstate] at hfin'; cases hfin'
      | cancelled => rw [hstate] at hfin'; cases hfin'
  | _ => exact h.still rfl le_rfl

end Sees

/-! ## generations -/

/-- a publication is the one of its generation, which sees its cutoff as long as it is there -/
structure SealedOk (s : Store) : Prop where
  generation : ∀ p ∈ s.publications, p.generation < s.bucket.nextSealGeneration
  once : ∀ p ∈ s.publications, ∀ p' ∈ s.publications, p.generation = p'.generation → p = p'
  sees : ∀ p ∈ s.publications, ∀ g ∈ s.seals.rows, g.generation = p.generation →
    g.status = .complete p.receipt ∧ Sees s g.cutoffMs p

theorem SealedOk.initial (now : Nat) : SealedOk (.initial now) where
  generation _ hp := absurd hp List.not_mem_nil
  once _ hp := absurd hp List.not_mem_nil
  sees _ hp := absurd hp List.not_mem_nil

/-- no new publication, and every seal of a published generation is an old one -/
theorem SealedOk.keep (h : SealedOk s) (hc : Clocked s) (hm : Move L d s s')
    (hp : s'.publications = s.publications)
    (hn : s.bucket.nextSealGeneration ≤ s'.bucket.nextSealGeneration)
    (hg : ∀ p ∈ s.publications, ∀ g ∈ s'.seals.rows, g.generation = p.generation →
      g ∈ s.seals.rows) : SealedOk s' where
  generation p hp' := (h.generation p (hp ▸ hp')).trans_le hn
  once p hp' p' hp'' := h.once p (hp ▸ hp') p' (hp ▸ hp'')
  sees p hp' g hg' hk := by
    have hmem := hg p (hp ▸ hp') g hg' hk
    obtain ⟨hstatus, hsees⟩ := h.sees p (hp ▸ hp') g hmem hk
    exact ⟨hstatus, hsees.move (hc.cutoff g hmem) hm⟩

/-- an update of a generation that is not complete, or that is left as it is -/
theorem SealedOk.old_of_modify (h : SealedOk s) {generation : Nat} {f : SealRow → SealRow}
    (hf : ∀ g, (f g).generation = g.generation)
    (hopen : ∀ g ∈ s.seals.rows, g.generation = generation → ∀ receipt,
      g.status = .complete receipt → f g = g) {p : Publication} (hp : p ∈ s.publications)
    {g' : SealRow} (hg' : g' ∈ (s.seals.modify generation f).rows)
    (hk : g'.generation = p.generation) : g' ∈ s.seals.rows := by
  obtain ⟨g, hg, rfl | ⟨hgen, rfl⟩⟩ := mem_seals_modify hf hg'
  · exact hg
  · rw [hf] at hk
    rw [hopen g hg hgen p.receipt (h.sees p hp g hg hk).1]
    exact hg

theorem seal_unique {g row : SealRow} (hg : g ∈ s.seals.rows) (hrow : row ∈ s.seals.rows)
    (hk : g.generation = row.generation) : g = row := by
  have hfound := Keyed.find_of_mem hg
  rw [hk, Keyed.find_of_mem hrow] at hfound
  exact (Option.some.inj hfound).symm

theorem SealedOk.move (h : SealedOk s) (hi : Inv L d s) (hm : Move L d s s') : SealedOk s' := by
  have hkeep := h.keep hi.clocked hm
  cases hm with
  | insertSeal request =>
    refine hkeep rfl (Nat.le_succ _) fun p hp g hg hk => ?_
    rcases Keyed.mem_put.mp hg with rfl | ⟨hg, -⟩
    · exact absurd (h.generation p hp) (by
        have hk : s.bucket.nextSealGeneration = p.generation := hk
        omega)
    · exact hg
  | requeue row hrow hq =>
    refine hkeep rfl le_rfl fun p hp g hg hk => h.old_of_modify (by exact fun _ => rfl) ?_ hp hg hk
    intro g hg hgen receipt hstatus
    rw [seal_unique hg hrow hgen] at hstatus
    unfold SealRow.isQuarantined at hq
    rw [hstatus] at hq
    cases hq
  | quarantineSeal row hrow hd =>
    refine hkeep rfl le_rfl fun p hp g hg hk =>
      h.old_of_modify (by intro g; split <;> rfl) ?_ hp hg hk
    intro g hg hgen receipt hstatus
    exact absurd hstatus (draining_not_complete (seal_unique hg hrow hgen ▸ hd))
  | restartSeal generation =>
    refine hkeep rfl le_rfl fun p hp g hg hk =>
      h.old_of_modify (by intro g; split <;> rfl) ?_ hp hg hk
    intro g hg hgen receipt hstatus
    exact if_neg fun hd => draining_not_complete hd hstatus
  | progress row rows root hrow hd =>
    refine hkeep rfl le_rfl fun p hp g hg hk => h.old_of_modify (by exact fun _ => rfl) ?_ hp hg hk
    intro g hg hgen receipt hstatus
    exact absurd hstatus (draining_not_complete (seal_unique hg hrow hgen ▸ hd))
  | publishSeal row receipt hrow hd he hcount hu hready =>
    -- the generation was draining, so nothing was published for it
    have hnew : ∀ p ∈ s.publications, p.generation ≠ row.generation := fun p hp hk =>
      draining_not_complete hd (h.sees p hp row hrow hk.symm).1
    refine ⟨fun p hp => ?_, fun p hp p' hp' hk => ?_, fun p hp g' hg' hk => ?_⟩
    · rcases List.mem_append.mp hp with hp | hp
      · exact h.generation p hp
      · obtain rfl := List.mem_singleton.mp hp
        exact hi.clocked.generation row hrow
    · rcases List.mem_append.mp hp with hp | hp
      · rcases List.mem_append.mp hp' with hp' | hp'
        · exact h.once p hp p' hp' hk
        · obtain rfl := List.mem_singleton.mp hp'
          exact absurd hk (hnew p hp)
      · obtain rfl := List.mem_singleton.mp hp
        rcases List.mem_append.mp hp' with hp' | hp'
        · exact absurd hk.symm (hnew p' hp')
        · exact (List.mem_singleton.mp hp').symm
    · obtain ⟨g, hg, rfl | ⟨hgen, rfl⟩⟩ := mem_seals_modify (by exact fun _ => rfl) hg'
      · rcases List.mem_append.mp hp with hp | hp
        · obtain ⟨hstatus, hsees⟩ := h.sees p hp g' hg hk
          exact ⟨hstatus, hsees.still rfl le_rfl⟩
        · obtain rfl := List.mem_singleton.mp hp
          -- the row of the generation has been updated
          exfalso
          rcases (Keyed.mem_modify (by exact fun _ => rfl)).mp hg' with ⟨g, hg₁, hk₁, he⟩ | ⟨-, hne⟩
          · rw [seal_unique hg hrow hk] at he
            have hstatus : row.status = .complete receipt := congrArg SealRow.status he
            exact draining_not_complete hd hstatus
          · exact hne hk
      · rcases List.mem_append.mp hp with hp | hp
        · exact absurd hk.symm (fun hk => hnew p hp (hk.trans hgen))
        · obtain rfl := List.mem_singleton.mp hp
          rw [seal_unique hg hrow hgen]
          refine ⟨rfl, fun r hr hfin => ?_, fun r hr _ => ⟨r, hr, .refl r⟩,
            fun r hr _ _ => ⟨r, hr, .refl r⟩⟩
          have hsome := hready r (mem_members.mpr ⟨hr, hfin⟩)
          unfold ReservationRow.recordHash at hsome
          simpa using hsome
  | dropSeal row => exact hkeep rfl le_rfl fun _ _ g hg _ => (Keyed.mem_erase.mp hg).1
  | _ => exact hkeep rfl le_rfl fun _ _ _ hg _ => hg

theorem sealedOk_stable : (rules L d).Stable SealedOk :=
  stable_of_move fun hi hm h => h.move hi hm

/-! ## the watermark -/

/-- every record that a sweep has deleted was decided by the watermark -/
def SweptBehind (s : Store) : Prop :=
  ∀ e ∈ s.swept, e.row.isFinalized → e.row.finalizedBy s.bucket.recordsDeletedThroughMs

theorem sweptBehind_stable : (rules L d).Stable SweptBehind := by
  refine stable_of_move fun {s s'} _ hm h => ?_
  cases hm with
  | expire deletedThroughMs evidenceRoot hle =>
    intro e he hfinalized
    have hbehind := h e he hfinalized
    unfold ReservationRow.finalizedBy at hbehind ⊢
    cases hstate : e.row.state with
    | finalized =>
      rw [hstate] at hbehind
      exact decide_eq_true ((of_decide_eq_true hbehind).trans hle)
    | _ =>
      rw [hstate] at hbehind
      exact hbehind
  | drop now row hrow hq he hs hd =>
    intro e he hfinalized
    rcases List.mem_append.mp he with he | he
    · exact h e he hfinalized
    · obtain rfl := List.mem_singleton.mp he
      rcases hd with hd | hd
      · exact hd
      · exact absurd (hd.symm.trans hfinalized) (by simp)
  | _ => exact h

end JournalManifest
