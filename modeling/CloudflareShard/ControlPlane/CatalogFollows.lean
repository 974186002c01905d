import CloudflareShard.ControlPlane.CatalogReceipts

/-!
# The fleet catalog makes sections

What the methods of the catalog do, in moves.

* `Respectful`, `terms`   a close is still the one that was read, where its digest comes back;
* `SnapshotRead`, `PageRead`   what a suspended method knows of what it has read;
* `assignRoute_ok`, …     **each method only makes sections**;
* `obeys`                 **the object as a whole does**.
-/

namespace FleetCatalog
open Async Contracts Keyset

variable {L : CatalogLib} {d : Regime} {s : Store} {α β : Type}

/-! ## terms -/

/-- the close that is found has the snapshot, and at its end the receipts, that were read before -/
def Respectful : Ask → Store → Prop
  | .closeKeys seen, s => ∀ c, s.closes.find seen.closeKey = some c →
      c.progressCursorSequence = seen.progressCursorSequence →
        c.snapshotGeneration = seen.snapshotGeneration
  | .fleetRoot seen receipts, s => ∀ c, s.closes.find seen.closeKey = some c → c.isPending →
      (s.progress.count fun p => p.closeKey == seen.closeKey && p.exactReceiptHash.isSome) =
        c.totalEntries →
        c.snapshotGeneration = seen.snapshotGeneration ∧ s.receipts seen.closeKey = receipts
  | _, _ => True

variable (d) in
def Allows (q : Ask) (_ : q.Answer) (s : Store) : Prop := d.careful → Respectful q s

variable (d) in
def terms : Terms Store Ask Ask.Answer Request Event where
  accept _ := True
  ok _ := Allows d
  event _ _ := True

/-! ## pieces -/

/-- a piece of a method that only makes sections -/
abbrev Ok (L : CatalogLib) (d : Regime) (p : Catalog α) (post : α → Store → Prop) (s : Store) :
    Prop := (rules L d).Does (Allows d) p post s

theorem Section.one {s' : Store} (h : Move L d s s') : Section L d s s' :=
  Relation.ReflTransGen.single h

theorem Section.refl : Section L d s s := Relation.ReflTransGen.refl

theorem Section.trans {s' s'' : Store} (h : Section L d s s') (h' : Section L d s' s'') :
    Section L d s s'' := Relation.ReflTransGen.trans h h'

theorem gets_ok {f : Store → α} : Ok L d (gets f) (fun a s' => s' = s ∧ a = f s) s :=
  .step (fun _ => .refl) (.pure ⟨rfl, rfl⟩)

theorem sync_ok {f : Store → α × Store} (h : Inv L d s → Section L d s (f s).2) :
    Ok L d (sync f) (fun a s' => f s = (a, s')) s := .step h (.pure rfl)

theorem modify_ok {f : Store → Store} (h : Move L d s (f s)) :
    Ok L d (.modify f) (fun _ _ => True) s := (Rules.Does.modify fun _ => Section.one h).done

theorem digest_ok {hash : Hash} : Ok L d (digest hash) (fun a _ => a = hash) s :=
  .call fun _ _ _ _ => .pure rfl

theorem require_ok {condition : Bool} {message : String} :
    Ok L d (require condition message) (fun _ s' => s' = s ∧ condition) s := by
  unfold require
  cases condition with
  | true => exact .pure ⟨rfl, rfl⟩
  | false => exact .throw

theorem assertText_ok {value name : String} : Ok L d (assertText value name) (fun _ _ => True) s :=
  require_ok.done

theorem assertHash_ok {value : Hash} {name : String} :
    Ok L d (assertHash value name) (fun _ s' => s' = s) s :=
  require_ok.mono fun _ _ h => h.1

theorem pageSize_ok {value : Option Nat} : Ok L d (pageSize value) (fun _ s' => s' = s) s := by
  unfold pageSize
  dsimp only
  split
  · exact .throw
  · exact .pure rfl

/-- what the awaited method leaves, as far as it outlasts the await -/
theorem awaited_ok {p : Catalog α} {post : α → Store → Prop} {F : α → Store → Prop}
    (hp : Ok L d p post s) (hF : ∀ a s', post a s' → F a s') (hs : ∀ a, (rules L d).Stable (F a)) :
    Ok L d (awaited p) F s := by
  refine hp.bind fun a s₁ _ h₁ => ?_
  refine Rules.Does.pause.later.bind fun _ s₂ _ h₂ => .pure ?_
  exact Rules.Stable.later (hs a) h₂.2 (hF a s₁ h₁)

theorem awaited_done {p : Catalog α} {post : α → Store → Prop} (hp : Ok L d p post s) :
    Ok L d (awaited p) (fun _ _ => True) s :=
  awaited_ok hp (fun _ _ _ => trivial) fun _ _ _ _ _ _ => trivial

theorem transact_ok {f : Store → Except CatalogError (α × Store)}
    (h : ∀ a s', Inv L d s → f s = .ok (a, s') → Section L d s s') :
    Ok L d (.transact f) (fun a s' => f s = .ok (a, s')) s := Rules.Does.transact h

theorem one_ok {r : Option α} {a : α} (h : one r = .ok a) : r = some a := by
  cases r with
  | none => cases h
  | some b =>
    cases h
    rfl

theorem oneSnapshot_ok {generation : Nat} : Ok L d (oneSnapshot generation)
    (fun row s' => s' = s ∧ s.snapshots.find generation = some row) s := by
  refine gets_ok.bind fun x s₁ _ h₁ => ?_
  obtain ⟨rfl, rfl⟩ := h₁
  exact Rules.Does.ofExcept.mono fun row _ h => ⟨h.1, one_ok h.2⟩

theorem oneClose_ok {closeKey : Hash} : Ok L d (oneClose closeKey)
    (fun row s' => s' = s ∧ s.closes.find closeKey = some row) s := by
  refine gets_ok.bind fun x s₁ _ h₁ => ?_
  obtain ⟨rfl, rfl⟩ := h₁
  exact Rules.Does.ofExcept.mono fun row _ h => ⟨h.1, one_ok h.2⟩

/-! ## alarms -/

theorem unseen_section {configs activationKeys alarmSchedule assignments cursors physicalAlarm now} :
    Section L d s { s with configs, activationKeys, alarmSchedule, assignments, cursors
                           physicalAlarm, now } :=
  .one (.unseen _ _ _ _ _ _ _)

theorem schedule_section {row : AlarmPurpose} : Section L d s (s.schedule row) := by
  unfold Store.schedule
  split
  · split
    · exact .refl
    · exact unseen_section
  · exact unseen_section

theorem schedulePurpose_ok {row : AlarmPurpose} :
    Ok L d (schedulePurpose row) (fun _ _ => True) s := by
  unfold schedulePurpose
  split
  · exact .throw
  · exact (Rules.Does.modify fun _ => schedule_section).done

theorem armNextAlarm_ok : Ok L d armNextAlarm (fun _ _ => True) s := by
  refine gets_ok.bind fun next s₁ _ _ => gets_ok.bind fun current s₂ _ _ => ?_
  refine Rules.Does.ask.bind fun _ s₃ _ _ => ?_
  split
  · refine (Rules.Does.modify fun _ => unseen_section).bind fun _ _ _ _ => ?_
    exact Rules.Does.ask.done
  · exact .pure trivial

theorem completePurpose_ok {row : AlarmPurpose} :
    Ok L d (completePurposeIfCurrent row) (fun _ _ => True) s := by
  refine (sync_ok fun _ => ?_).done
  split
  · exact unseen_section
  · exact .refl

theorem reschedulePurpose_ok {row : AlarmPurpose} {fireAtMs attemptCount : Nat} :
    Ok L d (reschedulePurposeAfterFailure row fireAtMs attemptCount) (fun _ _ => True) s := by
  refine (sync_ok fun _ => ?_).done
  split
  · exact unseen_section
  · exact .refl

/-! ## the fleet -/

theorem ensureFleet_ok {fleetId : String} : Ok L d (ensureFleet L fleetId) (fun _ _ => True) s := by
  refine assertText_ok.bind fun _ s₁ _ _ => digest_ok.bind fun hash s₂ _ _ => ?_
  refine (transact_ok fun m s' _ h => ?_).done
  unfold ensureFleetSync at h
  split at h
  · split at h
    · cases h
    · cases h
      exact .refl
  · rename_i hnone
    cases h
    refine Section.trans (.one (.create fleetId hash hnone)) unseen_section

theorem partitionConfigForDay_ok {fleetId : String} {day : Day} :
    Ok L d (partitionConfigForDay L fleetId day) (fun _ _ => True) s := by
  refine (awaited_done ensureFleet_ok).bind fun _ s₁ _ _ => gets_ok.bind fun _ s₂ _ _ => ?_
  exact Rules.Does.ofExcept.done

theorem coverageState_ok {fleetId : String} :
    Ok L d (coverageState L fleetId) (fun _ _ => True) s := by
  refine (awaited_done ensureFleet_ok).bind fun _ s₁ _ _ => gets_ok.bind fun _ s₂ _ _ => ?_
  exact Rules.Does.ofExcept.done

theorem appendPartitionConfig_ok {fleetId : String} {day : Day} {count : Nat} :
    Ok L d (appendPartitionConfig L fleetId day count) (fun _ _ => True) s := by
  refine gets_ok.bind fun now s₁ _ _ => require_ok.bind fun _ s₂ _ _ => ?_
  refine (awaited_done ensureFleet_ok).bind fun metadata s₃ _ _ => ?_
  refine require_ok.bind fun _ s₄ _ _ => digest_ok.bind fun hash s₅ _ _ => ?_
  refine (transact_ok fun row s' _ h => ?_).done
  unfold appendConfigSync at h
  cases hlatest : s₅.latestConfig with
  | error e => simp [hlatest, bind, Except.bind] at h
  | ok latest =>
    simp only [hlatest, bind, Except.bind] at h
    split at h
    · split at h
      · cases h
      · cases h
        exact .refl
    · split at h
      · cases h
      · split at h
        · cases h
        · cases h
          exact Section.trans (.one (.configRoot hash)) unseen_section

/-! ## routes -/

theorem assignRoute_ok {draft : ManifestRouteDraft} {key : Hash} :
    Ok L d (assignRoute L draft key) (fun _ _ => True) s := by
  refine gets_ok.bind fun now s₁ _ _ => assertText_ok.bind fun _ s₂ _ _ => ?_
  refine digest_ok.bind fun requestHash s₃ _ _ => ?_
  refine (awaited_done ensureFleet_ok).bind fun _ s₄ _ _ => gets_ok.bind fun found s₅ _ _ => ?_
  cases found with
  | some existing =>
    dsimp only
    split
    · exact .throw
    · exact .pure trivial
  | none =>
    refine (awaited_done partitionConfigForDay_ok).bind fun config s₆ _ _ => ?_
    have create : ∀ s', Ok L d (createManifestReservation L draft config.configHash now)
        (fun _ _ => True) s' := by
      intro s'
      refine digest_ok.bind fun _ s₁ _ _ => ?_
      dsimp only
      cases L.validateManifestReservation _ with
      | error e => exact .throw
      | ok a => exact .pure trivial
    refine (awaited_done (create s₆)).bind fun reservation s₇ _ _ => ?_
    refine Rules.Does.seq ?_ fun reservationHash s₈ _ => ?_
    · cases L.hashManifestReservation reservation with
      | error e => exact .throw
      | ok a => exact .pure trivial
    · refine digest_ok.bind fun _ s₉ _ _ => ?_
      refine (transact_ok fun a s' _ h => ?_).done
      unfold assignSync at h
      split at h
      · split at h
        · cases h
        · cases h
          exact .refl
      · cases hmeta : s₉.metadata with
        | none => simp [Store.meta, hmeta, one, bind, Except.bind] at h
        | some m =>
          simp only [Store.meta, hmeta, one, bind, Except.bind, pure, Except.pure,
            Except.ok.injEq, Prod.mk.injEq] at h
          obtain ⟨-, rfl⟩ := h
          refine Section.trans (.one (.assign reservation.txId m _ hmeta ?_)) unseen_section
          exact (by omega : m.legacyAdmittedThroughMs <
            ((max s₉.now (m.legacyAdmittedThroughMs + 1).toNat : Nat) : Int))

theorem purgeReleasedRoutes_ok {now : Nat} :
    Ok L d (purgeReleasedRoutes now) (fun _ _ => True) s := (sync_ok fun _ => unseen_section).done

theorem assignManifestRoute_ok {draft : ManifestRouteDraft} {key : Hash} :
    Ok L d (assignManifestRoute L draft key) (fun _ _ => True) s := by
  refine (awaited_done assignRoute_ok).bind fun result s₁ _ _ => gets_ok.bind fun now s₂ _ _ => ?_
  refine purgeReleasedRoutes_ok.bind fun next s₃ _ _ => ?_
  cases next with
  | none => exact Rules.Does.seq (.pure trivial) fun _ _ _ => .pure trivial
  | some next =>
    refine digest_ok.bind fun _ s₄ _ _ => schedulePurpose_ok.bind fun _ s₅ _ _ => ?_
    exact armNextAlarm_ok.bind fun _ _ _ _ => .pure trivial

theorem releaseManifestRoute_ok {fleetId : String} {txId : TxId} {hash : Hash} {deleteAfterMs : Nat} :
    Ok L d (releaseManifestRoute L fleetId txId hash deleteAfterMs) (fun _ _ => True) s := by
  refine gets_ok.bind fun now s₁ _ _ => purgeReleasedRoutes_ok.bind fun existing s₂ _ _ => ?_
  refine digest_ok.bind fun _ s₃ _ _ => schedulePurpose_ok.bind fun _ s₄ _ _ => ?_
  refine armNextAlarm_ok.bind fun _ s₅ _ _ => assertText_ok.bind fun _ s₆ _ _ => ?_
  refine assertText_ok.bind fun _ s₇ _ _ => assertHash_ok.bind fun _ s₈ _ _ => ?_
  refine (transact_ok fun a s' _ h => ?_).done
  unfold releaseRouteSync at h
  split at h
  · cases h
  · split at h
    · cases h
      exact .refl
    · split at h
      · cases h
      · cases h
        exact unseen_section

/-! ## the legacy horizons -/

theorem grid_ok {fleetId : String} {day : Day} :
    Ok L d (advanceLegacyGridMaterializedThrough L fleetId day) (fun _ _ => True) s := by
  refine (awaited_done ensureFleet_ok).bind fun _ s₁ _ _ => ?_
  refine (transact_ok fun a s' _ h => ?_).done
  unfold gridSync at h
  cases hmeta : s₁.metadata with
  | none => simp [Store.meta, hmeta, one, bind, Except.bind] at h
  | some m =>
    simp only [Store.meta, hmeta, one, bind, Except.bind] at h
    split at h
    · cases h
    · split at h
      · cases h
        exact .refl
      · split at h
        · cases h
        · split at h
          · cases h
          · split at h
            · cases h
            · cases h
              exact .one (.grid day m hmeta)

theorem scanned_ok {fleetId : String} {day : Day} {closeKey : Hash} :
    Ok L d (advanceLegacyScannedThrough L fleetId day closeKey) (fun _ _ => True) s := by
  refine assertHash_ok.bind fun _ s₁ _ _ => ?_
  refine (awaited_done ensureFleet_ok).bind fun _ s₂ _ _ => ?_
  refine (transact_ok fun a s' _ h => ?_).done
  unfold scannedSync at h
  cases hmeta : s₂.metadata with
  | none => simp [Store.meta, hmeta, one, bind, Except.bind] at h
  | some m =>
    simp only [Store.meta, hmeta, one, bind, Except.bind] at h
    split at h
    · cases h
    · rename_i first hfirst
      split at h
      · cases h
        exact .refl
      · split at h
        · cases h
        · rename_i hday
          split at h
          · cases h
          · rename_i config hconfig
            split at h
            · cases h
            · rename_i close hclose
              split at h
              · cases h
              · rename_i hcovers
                split at h
                · cases h
                · rename_i hcount
                  cases h
                  have hclose := one_ok hclose
                  refine .one (.scanned day m first hmeta hfirst (not_not.mp hday) ?_)
                  refine ⟨config, close, hconfig, Keyed.mem_of_find hclose, ?_, ?_, not_not.mp hcount⟩
                  · by_contra hn
                    exact hcovers (.inl (by simpa using hn))
                  · by_contra hn
                    exact hcovers (.inr (not_le.mp hn))

/-! ## buckets -/

theorem answer_section {m : Metadata} {bucket : Bucket} {floor generation : Nat}
    (h : s.metadata = some m) (hf : m.requiredDecisionFloorMs = floor)
    (hg : m.currentSnapshotGeneration = generation) :
    Section L d s { s with
      floors := s.floors ++
        [{ bucket, requiredDecisionFloorMs := floor, snapshotGeneration := generation }] } := by
  subst hf hg
  exact .one (.answer m bucket h)

theorem activateSync_section {entry : Entry} {activationKey : Hash} {nowMs : Nat}
    {a : ActivationResult} {s' : Store} (h : activateSync entry activationKey nowMs s = .ok (a, s')) :
    Section L d s s' := by
  unfold activateSync at h
  cases hmeta : s.metadata with
  | none => simp [Store.meta, hmeta, one, bind, Except.bind] at h
  | some m =>
    simp only [Store.meta, hmeta, one, bind, Except.bind, pure, Except.pure] at h
    split at h
    · split at h
      · cases h
      · split at h
        · cases h
        · rename_i row hrow
          have hrow := one_ok hrow
          have hb : row.entry.bucket = entry.bucket := by simpa using Keyed.key_find hrow
          split at h
          · rename_i hret
            cases h
            refine Section.trans (.one (.activate m { row with
              activationSequence := m.nextEventSequence + 1, activationKey, retired := none } entry
                hmeta ?_ hb rfl rfl)) (answer_section rfl rfl rfl)
            intro old hold
            rw [hrow] at hold
            cases hold
            exact hret
          · cases h
            exact answer_section hmeta rfl rfl
    · split at h
      · rename_i existing hexisting
        have hb : existing.entry.bucket = entry.bucket := by simpa using Keyed.key_find hexisting
        split at h
        · cases h
        · split at h
          · cases h
            exact Section.trans unseen_section (answer_section hmeta rfl rfl)
          · rename_i hret
            cases h
            refine Section.trans (.one (.activate m { existing with
              activationSequence := m.nextEventSequence + 1, activationKey, retired := none } entry
                hmeta ?_ hb rfl rfl)) (Section.trans unseen_section (answer_section rfl rfl rfl))
            intro old hold
            rw [hexisting] at hold
            cases hold
            exact Option.isSome_iff_ne_none.mpr fun hnone => hret (by simp [hnone])
      · rename_i hnone
        cases h
        refine Section.trans (.one (.activate m
          { entry, activationSequence := m.nextEventSequence + 1, activationKey, retired := none }
            entry hmeta ?_ rfl rfl rfl)) (Section.trans unseen_section (answer_section rfl rfl rfl))
        intro old hold
        rw [hnone] at hold
        cases hold

theorem activateBucket_ok {request : ActivationRequest} :
    Ok L d (activateBucket L request) (fun _ _ => True) s := by
  refine gets_ok.bind fun now s₁ _ _ => require_ok.bind fun _ s₂ _ _ => ?_
  refine assertText_ok.bind fun _ s₃ _ _ => assertHash_ok.bind fun _ s₄ _ _ => ?_
  refine (awaited_done partitionConfigForDay_ok).bind fun config s₅ _ _ => ?_
  refine require_ok.bind fun _ s₆ _ _ => digest_ok.bind fun hash s₇ _ _ => ?_
  exact (transact_ok fun a s' _ h => activateSync_section h).done

theorem admit_section {m : Metadata} {commitDecidedAtMs : Nat} (h : s.metadata = some m)
    (ho : m.reservationRequiredSinceDay = none) :
    Section L d s (admitThrough commitDecidedAtMs s) := .one (.admitLegacy _ m h ho)

theorem admitSync_section {entry : Entry} {activationKey : Hash} {commitDecidedAtMs nowMs : Nat}
    {a : LegacyAdmission} {s' : Store}
    (h : admitSync entry activationKey commitDecidedAtMs nowMs s = .ok (a, s')) :
    Section L d s s' := by
  unfold admitSync at h
  cases hmeta : s.metadata with
  | none => simp [Store.meta, hmeta, one, bind, Except.bind] at h
  | some m =>
    simp only [Store.meta, hmeta, one, bind, Except.bind, pure, Except.pure] at h
    split at h
    · cases h
      exact .refl
    · rename_i hopen
      have ho : m.reservationRequiredSinceDay = none := by simpa using hopen
      split at h
      · split at h
        · cases h
        · split at h
          · cases h
          · cases h
            exact admit_section hmeta ho
      · cases hfind : s.active.find entry.bucket with
        | some existing =>
          have hb : existing.entry.bucket = entry.bucket := by simpa using Keyed.key_find hfind
          simp only [hfind] at h
          split at h
          · cases h
            exact Section.trans unseen_section (admit_section hmeta ho)
          · rename_i hret
            cases h
            refine Section.trans (.one (.activate m
              { entry, activationSequence := m.nextEventSequence + 1, activationKey, retired := none }
                entry hmeta ?_ rfl rfl rfl)) (Section.trans unseen_section (admit_section rfl ho))
            intro old hold
            rw [hfind] at hold
            cases hold
            exact Option.isSome_iff_ne_none.mpr fun hnone => hret (by simp [hnone])
        | none =>
          simp only [hfind] at h
          cases h
          refine Section.trans (.one (.activate m
            { entry, activationSequence := m.nextEventSequence + 1, activationKey, retired := none }
              entry hmeta ?_ rfl rfl rfl)) (Section.trans unseen_section (admit_section rfl ho))
          intro old hold
          rw [hfind] at hold
          cases hold

theorem admitLegacyRegistration_ok {request : LegacyRegistration} :
    Ok L d (admitLegacyRegistration L request) (fun _ _ => True) s := by
  refine gets_ok.bind fun now s₁ _ _ => assertHash_ok.bind fun _ s₂ _ _ => ?_
  refine assertHash_ok.bind fun _ s₃ _ _ => require_ok.bind fun _ s₄ _ _ => ?_
  refine (awaited_done partitionConfigForDay_ok).bind fun config s₅ _ _ => ?_
  refine require_ok.bind fun _ s₆ _ _ => digest_ok.bind fun key s₇ _ _ => ?_
  refine digest_ok.bind fun hash s₈ _ _ => ?_
  exact (transact_ok fun a s' _ h => admitSync_section h).done

theorem retireBucket_ok {fleetId : String} {bucket : Bucket} {certificateHash : Hash} :
    Ok L d (retireBucket L fleetId bucket certificateHash) (fun _ _ => True) s := by
  refine gets_ok.bind fun now s₁ _ _ => assertHash_ok.bind fun _ s₂ _ _ => ?_
  refine (awaited_done ensureFleet_ok).bind fun _ s₃ _ _ => ?_
  refine (transact_ok fun a s' _ h => ?_).done
  unfold retireSync at h
  cases hmeta : s₃.metadata with
  | none => simp [Store.meta, hmeta, one, bind, Except.bind] at h
  | some m =>
    simp only [Store.meta, hmeta, one, bind, Except.bind, pure, Except.pure] at h
    split at h
    · cases h
    · rename_i row hrow
      split at h
      · split at h
        · cases h
        · cases h
          exact .refl
      · rename_i hret
        cases h
        exact .one (.retire m bucket row certificateHash now hmeta hrow hret)

end FleetCatalog
