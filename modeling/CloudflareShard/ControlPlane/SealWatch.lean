import CloudflareShard.ControlPlane.Outcomes

/-!
# What a handler that digests a page may rely on

* `seal_origin`   where a seal of the next store comes from;
* `Watch`         what was read of a generation is still right whenever the generation is still
                  draining under the same evidence;
* `watch_stable`  **no move takes that away**.
-/

namespace JournalManifest
open Async Contracts Keyset

variable {L : BucketLib} {d : Regime} {s s' : Store}

/-- a generation that digests again has moved on to newer evidence -/
structure SealRow.Origin (g g' : SealRow) : Prop extends g.Same g' where
  evidence : g.evidenceRevision ≤ g'.evidenceRevision
  draining : g'.isDraining →
    g.isDraining ∧ g.evidenceRevision = g'.evidenceRevision ∨
      g.evidenceRevision < g'.evidenceRevision

theorem SealRow.Origin.refl (g : SealRow) : g.Origin g := ⟨⟨rfl, rfl⟩, le_rfl, fun h => .inl ⟨h, rfl⟩⟩

theorem seal_origin (hi : Inv L d s) (hm : Move L d s s') {g' : SealRow}
    (hg' : g' ∈ s'.seals.rows) :
    g'.generation = s.bucket.nextSealGeneration ∨ ∃ g ∈ s.seals.rows, g.Origin g' := by
  have hold : ∀ g ∈ s.seals.rows, g.generation = s.bucket.nextSealGeneration ∨
      ∃ g₀ ∈ s.seals.rows, g₀.Origin g := fun g hg => .inr ⟨g, hg, .refl g⟩
  have same : ∀ {g row : SealRow}, g ∈ s.seals.rows → row ∈ s.seals.rows →
      g.generation = row.generation → g = row := by
    intro g row hg hrow hk
    have := Keyed.find_of_mem hg
    rw [hk, Keyed.find_of_mem hrow] at this
    exact (Option.some.inj this).symm
  cases hm with
  | insertSeal request =>
    rcases Keyed.mem_put.mp hg' with rfl | ⟨hg, _⟩
    · exact .inl rfl
    · exact hold _ hg
  | requeue row hrow hq hu =>
    obtain ⟨g, hg, rfl | ⟨hk, rfl⟩⟩ := mem_seals_modify (by exact fun _ => rfl) hg'
    · exact hold _ hg
    · obtain rfl := same hg hrow hk
      have hlt : g.evidenceRevision < s.bucket.evidenceRevision := by
        rcases (hi.seals g hg).quarantined hq with hlt | hex
        · exact hlt
        · have := unresolvedCount_pos.mpr hex
          omega
      exact .inr ⟨g, hg, ⟨rfl, rfl⟩, hlt.le, fun _ => .inr hlt⟩
  | quarantineSeal row =>
    obtain ⟨g, hg, rfl | ⟨_, rfl⟩⟩ := mem_seals_modify (by intro g; split <;> rfl) hg'
    · exact hold _ hg
    · refine .inr ⟨g, hg, ?_⟩
      split
      · exact ⟨⟨rfl, rfl⟩, le_rfl, nofun⟩
      · exact .refl g
  | restartSeal generation =>
    obtain ⟨g, hg, rfl | ⟨_, rfl⟩⟩ := mem_seals_modify (by intro g; split <;> rfl) hg'
    · exact hold _ hg
    · refine .inr ⟨g, hg, ?_⟩
      split
      case isTrue hd =>
        have hle := hi.clocked.evidence g hg
        refine ⟨⟨rfl, rfl⟩, hle, fun _ => ?_⟩
        rcases Nat.lt_or_eq_of_le hle with hlt | he
        · exact .inr hlt
        · exact .inl ⟨hd, he⟩
      case isFalse => exact .refl g
  | progress row rows root hrow hd =>
    obtain ⟨g, hg, rfl | ⟨hk, rfl⟩⟩ := mem_seals_modify (by exact fun _ => rfl) hg'
    · exact hold _ hg
    · exact .inr ⟨g, hg, ⟨rfl, rfl⟩, le_rfl, fun h => .inl ⟨h, rfl⟩⟩
  | publishSeal row receipt hrow =>
    obtain ⟨g, hg, rfl | ⟨_, rfl⟩⟩ := mem_seals_modify (by exact fun _ => rfl) hg'
    · exact hold _ hg
    · exact .inr ⟨g, hg, ⟨rfl, rfl⟩, le_rfl, nofun⟩
  | dropSeal row => exact hold _ (Keyed.mem_erase.mp hg').1
  | _ => exact hold _ hg'

theorem nextSealGeneration_mono (hm : Move L d s s') :
    s.bucket.nextSealGeneration ≤ s'.bucket.nextSealGeneration := by
  cases hm with
  | insertSeal => exact Nat.le_succ _
  | _ => exact le_rfl

variable (L) in
/-- `seen` was read of the generation, and `rows` are the page behind its cursor -/
structure Watch (seen : SealRow) (rows : List ReservationRow) (s : Store) : Prop where
  generation : seen.generation < s.bucket.nextSealGeneration
  origin : ∀ g ∈ s.seals.rows, g.generation = seen.generation →
    seen.evidenceRevision ≤ g.evidenceRevision ∧ g.cutoffMs = seen.cutoffMs
  still : ∀ g ∈ s.seals.rows, g.generation = seen.generation → g.isDraining →
    g.evidenceRevision = seen.evidenceRevision →
    s.bucket.evidenceRevision = seen.evidenceRevision →
      Digested L s seen ∧ s.Covers seen.cutoffMs seen.cursor (rows.map ReservationRow.entry)
        (reached seen.cursor rows ReservationRow.key)

theorem Digested.grows {g : SealRow} (h : Digested L s g)
    (hg : Grows Entry.key Entry.ready (s.entries g.cutoffMs) (s'.entries g.cutoffMs)) :
    Digested L s' g := by
  obtain ⟨l, hl, hrest⟩ := h
  exact ⟨l, hl.grows hg, hrest⟩

theorem watch_stable (seen : SealRow) (rows : List ReservationRow) :
    (rules L d).Stable (Watch L seen rows) := by
  refine stable_of_move fun {s s'} hi hm h => ?_
  have origin : ∀ g' ∈ s'.seals.rows, g'.generation = seen.generation →
      ∃ g ∈ s.seals.rows, g.generation = seen.generation ∧ g.Origin g' := by
    intro g' hg' hk
    rcases seal_origin hi hm hg' with hnew | ⟨g, hg, ho⟩
    · have := h.generation
      omega
    · exact ⟨g, hg, ho.generation ▸ hk, ho⟩
  refine ⟨h.generation.trans_le (nextSealGeneration_mono hm), ?_, ?_⟩
  · intro g' hg' hk
    obtain ⟨g, hg, hgk, ho⟩ := origin g' hg' hk
    obtain ⟨hev, hcut⟩ := h.origin g hg hgk
    exact ⟨hev.trans ho.evidence, ho.cutoff.trans hcut⟩
  · intro g' hg' hk hd hev hb
    obtain ⟨g, hg, hgk, ho⟩ := origin g' hg' hk
    obtain ⟨hle, hcut⟩ := h.origin g hg hgk
    have hmono := evidence_mono hm
    have hclock := hi.clocked.evidence g hg
    rcases ho.draining hd with ⟨hgd, hgev⟩ | hlt
    · have hsb : s.bucket.evidenceRevision = seen.evidenceRevision := by omega
      obtain ⟨hdig, hcov⟩ := h.still g hg hgk hgd (by omega) hsb
      have hgrow := entries_grow hm (hi.clocked.cutoff g hg) ⟨g, hg, hgd⟩ (by omega)
      rw [hcut] at hgrow
      exact ⟨hdig.grows hgrow, hcov.grows hgrow⟩
    · omega

/-- the page that a draining generation reads, when all its records are published -/
theorem Watch.read (hi : Inv L d s) {seen : SealRow} (hseen : seen ∈ s.seals.rows)
    (hd : seen.isDraining) (he : s.bucket.evidenceRevision = seen.evidenceRevision)
    {pageSize : Nat} (hr : ∀ row ∈ s.sealPage seen pageSize, row.recordHash.isSome) :
    Watch L seen (s.sealPage seen pageSize) s := by
  have same : ∀ g ∈ s.seals.rows, g.generation = seen.generation → g = seen := by
    intro g hg hk
    have := Keyed.find_of_mem hg
    rw [hk, Keyed.find_of_mem hseen] at this
    exact (Option.some.inj this).symm
  refine ⟨hi.clocked.generation seen hseen, ?_, ?_⟩
  · intro g hg hk
    obtain rfl := same g hg hk
    exact ⟨le_rfl, rfl⟩
  · intro g hg hk _ _ _
    refine ⟨(hi.seals seen hseen).digest hd he.symm, ?_⟩
    have hsorted : ((s.members seen.cutoffMs).map ReservationRow.entry).Pairwise
        fun a b => a.key < b.key := List.pairwise_map.mpr (members_sorted s seen.cutoffMs)
    have hpage : page (fun a => (Entry.key a : WithBot MemberKey))
        ((s.members seen.cutoffMs).map ReservationRow.entry) pageSize seen.cursor = _ :=
      page_map ReservationRow.entry (s.members seen.cutoffMs) pageSize seen.cursor
    have hcov : Covers Entry.key Entry.ready _ _ _ _ :=
      Keyset.Covers.page hsorted pageSize seen.cursor (by
        rw [hpage]
        intro e he
        obtain ⟨row, hrow, rfl⟩ := List.mem_map.mp he
        exact hr row hrow)
    rw [hpage, reached_map] at hcov
    have hE : {e | e ∈ (s.members seen.cutoffMs).map ReservationRow.entry} =
        s.entries seen.cutoffMs := by
      ext e
      simp only [Set.mem_ofPred_eq, List.mem_map, mem_members, mem_entries, and_assoc]
    rw [hE] at hcov
    exact hcov

/-- what `progressSync` finds unchanged is unchanged as a whole -/
theorem Watch.current {seen g : SealRow} {rows : List ReservationRow} (h : Watch L seen rows s)
    (hi : Inv L d s) (hg : g ∈ s.seals.rows) (hk : g.generation = seen.generation)
    (hd : g.isDraining) (hev : g.evidenceRevision = seen.evidenceRevision)
    (hb : s.bucket.evidenceRevision = g.evidenceRevision) (hc : g.cursor = seen.cursor) :
    g.digestRoot = seen.digestRoot ∧ s.Covers g.cutoffMs g.cursor (rows.map ReservationRow.entry)
      (reached g.cursor rows ReservationRow.key) := by
  obtain ⟨hdig, hcov⟩ := h.still g hg hk hd hev (hb.trans hev)
  have hcut := (h.origin g hg hk).2
  obtain ⟨l, hl, -, hroot⟩ := hdig
  obtain ⟨l', hl', -, hroot'⟩ := (hi.seals g hg).digest hd hb.symm
  rw [hcut, hc] at hl'
  obtain rfl := hl.unique hl'
  exact ⟨hroot'.trans hroot.symm, by rw [hcut, hc]; exact hcov⟩

end JournalManifest
