import CloudflareShard.Restore.FleetExecuting

/-!
# The last stages of an execution

* `reconcileNextTransaction_does`   the redo envelopes;
* `Complete.of_counts`, `Reported.of_times`   the evidence of a complete restore;
* `completeRestore_does`, `finishRollback_writes`   the two ends;
* `runStage_does`, `advance_works`   **one step of an operation keeps what holds of all**.
-/

namespace FleetRestore
open Async Json Wire

section
variable {E : Env} {T : Int → Prop} {C : JsString → Prop} {g : Option Nat} {restoreId : Text}
  {s s' : World} {operation : OperationRow} (hD : Clocked E.platform.dates T)

/-! ## redo -/

theorem redoIntent_named (raw : JsonValue) : Named (redoIntent raw) := by
  unfold redoIntent
  split
  · exact named_ok _
  · exact named_failRestore _ _ _

theorem redoIntents_named (participant : Entries) : Named (redoIntents participant) := by
  have heach : ∀ intents : List JsonValue, Named (intents.mapM redoIntent) := by
    intro intents
    induction intents with
    | nil => exact named_ok _
    | cons intent intents ih =>
      rw [List.mapM_cons]
      refine Named.bind (redoIntent_named intent) fun _ _ => ?_
      exact Named.bind ih fun _ _ => named_ok _
  unfold redoIntents
  split
  · exact Named.bind (heach _) fun _ _ => named_ok _
  · exact named_ok _

theorem checkRestored_named (txId participantId : JsString) (exactPrepareProof : Bool)
    (status : Entries) : Named (checkRestored txId participantId exactPrepareProof status) := by
  unfold checkRestored
  refine Named.bind named_refuseIf fun _ _ => ?_
  refine Named.bind named_refuseIf fun _ _ => ?_
  exact Named.bind named_refuseIf fun _ _ => named_ok _

theorem prepareAgain_asks {target : Target} {envelope participant : Entries} {prepares : Bool} :
    Asks E T C g operation.restoreId (prepareAgain operation target envelope participant prepares)
      s := by
  cases prepares with
  | false => exact pure_asks
  | true =>
    refine Asks.bind (ofExcept_asks (redoIntents_named _)) fun intents s₁ _ => ?_
    exact postToStub_asks.bind fun _ _ _ => pure_asks

theorem redoParticipant_asks {txId : JsString} {envelope : Entries} {raw : JsonValue} :
    Asks E T C g operation.restoreId (redoParticipant operation txId envelope raw) s := by
  unfold redoParticipant
  split
  · split
    · refine postToStub_asks.bind fun status s₁ _ => ?_
      refine Asks.bind (ofExcept_asks (checkRestored_named _ _ _ _)) fun prepares s₂ _ => ?_
      refine Asks.bind prepareAgain_asks fun _ s₃ _ => ?_
      split
      · exact pure_asks
      · exact postToStub_asks.bind fun _ _ _ => pure_asks
    · exact throw_asks
  · exact throw_asks

theorem redoEach_asks {txId : JsString} {envelope : Entries} : ∀ (raws : List JsonValue) (s : World),
    Asks E T C g operation.restoreId (redoEach operation txId envelope raws) s
  | [], _ => pure_asks
  | _ :: raws, _ => redoParticipant_asks.bind fun _ s₁ _ => redoEach_asks raws s₁

theorem reconcileRecord_does {record : RecordRow} (hat : At s operation.restoreId .executing) :
    Does E T C g operation.restoreId (reconcileRecord operation record) (fun _ _ => True) s := by
  unfold reconcileRecord
  split
  · exact .throw (blames_violation _)
  · split
    · refine .bind (redoEach_asks _ s).does fun _ s₁ h₁ => ?_
      exact .mono (setRecord_does (h₁.at hat) (by decide)) (fun _ _ _ => trivial) fun _ _ => id
    · exact .throw (blames_violation _)

include hD in
theorem reconcileNextTransaction_does (hat : At s operation.restoreId .executing) :
    Does E T C g operation.restoreId (reconcileNextTransaction E operation)
      (fun _ _ => True) s := by
  unfold reconcileNextTransaction
  refine read_does ?_
  split
  · exact advance_gated hat (fun _ => ⟨rfl, rfl, rfl⟩) fun op hnow hsound hst =>
      hsound.executing hst (.of_eq rfl) (hD.stamp hnow) rfl (.inr rfl)
  · exact reconcileRecord_does hat

/-! ## verification -/

include hD in
theorem verifyNextParticipant_does (hat : At s operation.restoreId .executing) :
    Does E T C g operation.restoreId (verifyNextParticipant E operation) (fun _ _ => True) s := by
  unfold verifyNextParticipant
  refine read_does ?_
  split
  · exact advance_done hat (fun _ => ⟨rfl, rfl, rfl⟩) fun op _ hnow hsound hst =>
      hsound.executing hst (.of_eq rfl) (hD.stamp hnow) rfl (.inl rfl)
  · refine .bind postToStub_does fun result s₁ h₁ => ?_
    refine .bind throwIf_does fun _ s₂ h₂ => ?_
    subst h₂
    exact setParticipant_done (h₁.at hat) (by decide) fun _ => rfl

include hD in
theorem discardNextCoordinator_does (hat : At s operation.restoreId .executing) :
    Does E T C g operation.restoreId (discardNextCoordinator E operation) (fun _ _ => True) s := by
  unfold discardNextCoordinator
  refine read_does ?_
  split
  · exact advance_done hat (fun _ => ⟨rfl, rfl, rfl⟩) fun op _ hnow hsound hst =>
      hsound.executing hst (.of_eq rfl) (hD.stamp hnow) rfl (.inl rfl)
  · refine .bind postToStub_does fun discarded s₁ h₁ => ?_
    refine .bind throwIf_does fun _ s₂ h₂ => ?_
    exact setWork_does fun _ _ h => .inl h

/-! ## the end of a restore -/

theorem releaseCatalogs_asks : ∀ (is : List Nat) (s : World),
    Asks E T C g operation.restoreId (releaseCatalogs operation is) s
  | [], _ => pure_asks
  | _ :: is, _ => postToStub_asks.bind fun _ s₁ _ => releaseCatalogs_asks is s₁

theorem Stamp.columnTime_eq {lo : Int} {text : JsString} (h : Stamp E.platform.dates lo text) :
    lo ≤ columnTime E text ∧ columnTime E text ≤ maxTimeMs := by
  obtain ⟨ms, hlo, hhi, hparse, -⟩ := h
  have htime : columnTime E text = ms := by
    show (E.platform.dates.parse text).getD 0 = ms
    rw [hparse, Option.getD_some]
  rw [htime]
  exact ⟨hlo, hhi⟩

/-- no participant or coordinator was drained after the last time of `Date` -/
theorem closeWatermarks_le (hs : Inv E T C s) :
    ∀ t ∈ closeWatermarks s restoreId, columnTime E t ≤ maxTimeMs := by
  intro t ht
  rcases List.mem_append.mp ht with hmem | hmem
  · obtain ⟨p, hp, hclosed⟩ := List.mem_filterMap.mp hmem
    exact (hs.participants p (List.mem_filter.mp hp).1 t hclosed).columnTime_eq.2
  · obtain ⟨w, hw, hclosed⟩ := List.mem_filterMap.mp hmem
    exact (hs.work w (List.mem_filter.mp hw).1 t hclosed).columnTime_eq.2

include hD in
/-- the report of a restore is in the range of the contract -/
theorem Reported.of_times {lossHashes : List JsString} (hs : Inv E T C s) (ht : Timed E C operation)
    (hcount : lossHashes.length ≤ maxRows) : Reported E (reportOf E operation lossHashes s) := by
  have hnow : Stamp E.platform.dates 0 (isoOf E s.now) := hD.stamp hs.now
  have hsince : ∀ text : Option JsString,
      (∀ t, text = some t → Stamp E.platform.dates 0 t) →
        0 ≤ columnTime E (text.getD (isoOf E s.now)) ∧
          columnTime E (text.getD (isoOf E s.now)) ≤ maxTimeMs := by
    intro text htext
    cases text with
    | none => exact hnow.columnTime_eq
    | some t => exact (htext t rfl).columnTime_eq
  have hcutoff := ht.cutoff.columnTime_eq.1
  have hstarted := (hsince _ ht.startedAt).1
  have hclosed : ((closeWatermarks s operation.restoreId).map (columnTime E)).foldl max
      (columnTime E (operation.fenceInstalledAt.getD (isoOf E s.now))) ≤ maxTimeMs := by
    refine List.foldlRecOn (motive := fun t => t ≤ maxTimeMs) _ max
      (hsince _ ht.fenceInstalledAt).2 fun b hb a ha => max_le hb ?_
    obtain ⟨t, htime, rfl⟩ := List.mem_map.mp ha
    exact closeWatermarks_le hs t htime
  have hlast : s.now ≤ maxTimeMs :=
    (hD.bounded _ _ (Client.canonicalTime_dated (hD.reads _ hs.now)).1).2
  refine ⟨rfl, hcount.trans (by decide), hashJson_hex _ _, ⟨le_max_left _ _, ?_⟩,
    ⟨le_max_left _ _, ?_⟩, hnow⟩
  · show max 0 (_ - _) ≤ ((maxSafe : Nat) : Int)
    unfold pitrWindowMs at hcutoff
    unfold maxTimeMs at hclosed
    unfold maxSafe
    omega
  · show max 0 (_ - _) ≤ ((maxSafe : Nat) : Int)
    unfold maxTimeMs at hlast
    unfold maxSafe
    omega

theorem openGate_same : (s.openGate restoreId).participants = s.participants
    ∧ (s.openGate restoreId).manifestRecords = s.manifestRecords := by
  unfold World.openGate
  split <;> exact ⟨rfl, rfl⟩

/-- when nothing is incomplete all is released and reconciled -/
theorem released_of_not_incomplete (h : incomplete s restoreId = false) :
    (∀ p ∈ s.participants.rows, p.restoreId = restoreId → p.status = .released)
      ∧ ∀ r ∈ s.manifestRecords.rows, r.restoreId = restoreId → r.reconciled = true := by
  obtain ⟨h, -⟩ := Bool.or_eq_false_iff.mp h
  obtain ⟨hparticipants, hrecords⟩ := Bool.or_eq_false_iff.mp h
  have hnone : ∀ {n : Nat}, decide (0 < n) = false → n = 0 :=
    fun h => Nat.eq_zero_of_not_pos (of_decide_eq_false h)
  refine ⟨fun p hp hid => ?_, fun r hr hid => ?_⟩
  · have hrow := Capped.count_eq_zero (hnone hparticipants) p hp
    rw [hid, beq_self_eq_true, Bool.true_and] at hrow
    exact bne_eq_false_iff_eq.mp hrow
  · have hrow := Capped.count_eq_zero (hnone hrecords) r hr
    rw [hid, beq_self_eq_true, Bool.true_and] at hrow
    simpa using hrow

include hD in
/-- the last transaction leaves a restore with all its evidence -/
theorem finishRestore_writes {lossHashes : List JsString} (hs : Inv E T C s)
    (ht : Timed E C operation) (hcount : lossHashes.length ≤ maxRows) {a : Unit}
    (hat : At s operation.restoreId .executing)
    (h : finishRestore E operation lossHashes s = .ok (a, s')) : Writes E T C s s' := by
  have hreport := Reported.of_times hD hs ht hcount
  unfold finishRestore at h
  dsimp only at h
  split at h
  · cases h
  · split at h
    · cases h
    · rename_i hincomplete
      split at h
      · cases h
      · cases h
        obtain ⟨hparticipants, hrecords⟩ :=
          released_of_not_incomplete (Bool.eq_false_iff.mpr hincomplete)
        obtain ⟨hsame, hsame'⟩ : (s.openGate operation.restoreId).participants = s.participants
          ∧ (s.openGate operation.restoreId).manifestRecords = s.manifestRecords := openGate_same
        refine (Writes.openGate operation.restoreId hs).trans
          (.setOperation hs.openGate (fun _ => ⟨rfl, rfl, rfl⟩) fun op hop hsound => ?_)
        obtain ⟨op', hop', hst⟩ := hat
        unfold World.operation at hop hop'
        rw [openGate_operations, hop'] at hop
        cases hop
        have hid : op.restoreId = operation.restoreId := restoreId_of_operation hop'
        have hstamp := hD.stamp hs.now
        refine ⟨{ hsound.timed with
            updatedAt := hstamp, completedAt := fun t hcompleted => ?_, report := fun r hr => ?_ },
          (hsound.running hst).1.rewrite rfl rfl rfl rfl (fun _ hno => absurd hno List.not_mem_nil),
          rfl, rfl, rfl, ?_, ?_⟩
        · cases hcompleted
          exact hstamp
        · cases hr
          exact hreport
        · intro p hp hpid
          rw [hsame] at hp
          exact hparticipants p hp (hpid.trans hid)
        · intro r hr hrid
          rw [hsame'] at hr
          exact hrecords r hr (hrid.trans hid)

include hD in
theorem completeRestore_does (ht : Timed E C operation) (hat : At s operation.restoreId .executing) :
    Does E T C g operation.restoreId (completeRestore E operation) (fun _ _ => True) s := by
  unfold completeRestore
  refine read_does (.ite (fun _ => schedule_done) fun _ => ?_)
  refine .bind throwIf_does fun _ s₁ h₁ => ?_
  subst h₁
  refine .bind (releaseCatalogs_asks _ s₁).does fun _ s₂ h₂ => read_does ?_
  refine .bind .pause fun _ s₃ h₃ => ?_
  have hat₃ : At s₃ operation.restoreId .executing := Quiet.at h₃ (h₂.at hat)
  refine .transact (fun hi => ⟨hi, Kept.refl s₃⟩) (fun a s' hs' hi => ?_) fun e he hempty => ?_
  · have hwrites := finishRestore_writes hD hi ht
      (by rw [List.length_map]; exact Capped.ordered_le) hat₃ hs'
    exact ⟨⟨hwrites.work, hwrites.mutations⟩, trivial⟩
  · subst hempty
    unfold finishRestore at he
    dsimp only at he
    split at he
    · cases he
    · split at he
      · cases he
      · split at he <;> cases he

include hD in
theorem releaseNextParticipant_does (ht : Timed E C operation)
    (hat : At s operation.restoreId .executing) :
    Does E T C g operation.restoreId (releaseNextParticipant E operation) (fun _ _ => True) s := by
  unfold releaseNextParticipant
  refine read_does ?_
  split
  · exact completeRestore_does hD ht hat
  · refine .bind postToStub_does fun result s₁ h₁ => ?_
    exact setParticipant_done (h₁.at hat) (by decide) fun _ => rfl

/-! ## rollback -/

theorem verifyUndo_does {participant : ParticipantRow} {undo : Text}
    (hat : At s operation.restoreId .executing) :
    Does E T C g operation.restoreId (verifyUndo operation participant undo) (fun _ _ => True) s := by
  unfold verifyUndo
  refine .bind postToStub_does fun result s₁ h₁ => ?_
  refine .ite (fun _ => .ite (fun _ => applyQuietly_does) fun _ => .pure trivial) fun _ => ?_
  refine .bind throwIf_does fun _ s₂ h₂ => ?_
  subst h₂
  exact setParticipant_done (h₁.at hat) (by decide) fun _ => rfl

include hD in
theorem rollbackNextParticipant_does (hat : At s operation.restoreId .executing) :
    Does E T C g operation.restoreId (rollbackNextParticipant E operation) (fun _ _ => True) s := by
  unfold rollbackNextParticipant
  refine read_does ?_
  split
  · exact advance_done hat (fun _ => ⟨rfl, rfl, rfl⟩) fun op _ hnow hsound hst =>
      hsound.executing hst (.of_eq rfl) (hD.stamp hnow) rfl (.inl rfl)
  · split
    · exact .throw (blames_violation _)
    · refine .bind postToStub_does fun result s₁ h₁ => ?_
      exact setParticipant_done (h₁.at hat) (by decide) fun _ => rfl
    · exact .bind (setParticipant_done hat (by decide) fun _ => rfl) fun _ _ _ => applyQuietly_does
    · exact verifyUndo_does hat

include hD in
theorem finishRollback_writes (hs : Inv E T C s) (hat : At s operation.restoreId .executing) :
    Writes E T C s (finishRollback E operation s) := by
  have hrewrite : ∀ s₁, Inv E T C s₁ → At s₁ operation.restoreId .executing → s₁.now = s.now →
      Writes E T C s₁ (s₁.setOperation operation.restoreId fun op => { op with
        phase := .rolledBack
        stage := .rolledBack
        completedAt := some (isoOf E s.now)
        updatedAt := isoOf E s.now
        blockerJson := none }) := by
    intro s₁ hi hat₁ hnow
    refine .setOperation hi (fun _ => ⟨rfl, rfl, rfl⟩) fun op hop hsound => ?_
    obtain ⟨op', hop', hst⟩ := hat₁
    rw [hop'] at hop
    cases hop
    have hstamp := hD.stamp hs.now
    refine ⟨{ hsound.timed with updatedAt := hstamp, completedAt := fun t ht => ?_ },
      (hsound.running hst).1.rewrite rfl rfl rfl rfl nofun, nofun, rfl, rfl⟩
    cases ht
    exact hstamp
  unfold finishRollback
  by_cases hgate : some s.gate.generation = operation.fenceGeneration
  · rw [if_pos hgate]
    have hopened := Writes.openGate operation.restoreId hs
    refine hopened.trans (hrewrite _ hopened.work.1 ?_ ?_)
    · obtain ⟨op, hop, hst⟩ := hat
      refine ⟨op, ?_, hst⟩
      unfold World.operation at hop ⊢
      rw [openGate_operations]
      exact hop
    · unfold World.openGate
      split <;> rfl
  · rw [if_neg hgate]
    exact hrewrite s hs hat rfl

include hD in
theorem releaseNextRollbackParticipant_does (hat : At s operation.restoreId .executing) :
    Does E T C g operation.restoreId (releaseNextRollbackParticipant E operation)
      (fun _ _ => True) s := by
  unfold releaseNextRollbackParticipant
  refine read_does ?_
  split
  · refine .bind postToStub_does fun result s₁ h₁ => ?_
    exact setParticipant_done (h₁.at hat) (by decide) fun _ => rfl
  · refine .bind throwIf_does fun _ s₁ h₁ => ?_
    subst h₁
    refine .bind (releaseCatalogs_asks _ s₁).does fun _ s₂ h₂ => ?_
    refine (Writes.works fun hi => finishRollback_writes hD hi (h₂.at hat)).mono
      (fun _ _ _ => trivial) fun _ _ => id

/-! ## one step -/

include hD in
theorem runStage_does (ht : Timed E C operation) (hworks : operation.stage.terminal = false)
    (hat : At s operation.restoreId operation.stage.standing) :
    Does E T C g operation.restoreId (runStage E operation) (fun _ _ => True) s := by
  unfold runStage
  generalize operation.stage = stage at hat hworks ⊢
  cases stage with
  | previewed | complete | rolledBack | failed | manualRepairRequired => cases hworks
  | reconciling =>
    -- the phase is set before the envelopes are redone
    refine .bind (advance_does hat (fun _ => ⟨rfl, rfl, rfl⟩) fun op hnow hsound hst =>
      ⟨?_, hst⟩) fun _ s₁ hat₁ =>
      reconcileNextTransaction_does hD hat₁
    exact hsound.executing hst (.of_eq rfl) (hD.stamp hnow) hst (.inr rfl)
  | closingManifest => exact closeManifest_does hD hat
  | enumeratingManifest => exact enumerateManifest_does hD hat
  | materializingEnvelopes => exact materializeNextEnvelope_does hD hat
  | previewingParticipants => exact previewNextParticipant_does hD hat
  | fencingCatalogs => exact fenceCatalogs_does hD hat
  | fencingParticipants => exact fenceNextParticipant_does hD hat
  | revalidatingParticipants => exact revalidateNextParticipant_does hD hat
  | materializingLoss => exact materializeNextLossPage_does hD hat
  | restoringParticipants => exact restoreNextParticipant_does hD hat
  | verifyingParticipants => exact verifyNextParticipant_does hD hat
  | discardingCoordinators => exact discardNextCoordinator_does hD hat
  | releasingParticipants => exact releaseNextParticipant_does hD ht hat
  | rollbackParticipants => exact rollbackNextParticipant_does hD hat
  | rollbackReleasingParticipants => exact releaseNextRollbackParticipant_does hD hat

/-- a step that went through is noted -/
theorem settleAdvance_does :
    Does E T C g restoreId (settleAdvance restoreId) (fun _ _ => True) s := by
  unfold settleAdvance
  refine .bind (Writes.works fun hi => .setOperation hi (fun _ => ⟨rfl, rfl, rfl⟩)
    fun op _ hsound => ?_) fun _ s₁ _ => ?_
  · exact hsound.retained (.of_eq rfl) hsound.timed.updatedAt rfl rfl rfl ⟨rfl, rfl⟩
  · exact read_does (.ite (fun _ => schedule_done) fun _ => .pure trivial)

include hD in
theorem advance_works :
    Does E T C g restoreId (advance E restoreId) (fun _ _ => True) s := by
  unfold advance
  refine .start fun hi => read_does ?_
  split
  · exact .throw (blames_violation _)
  · rename_i operation hoperation
    split
    · exact schedule_done
    · refine .ite (fun _ => .pure trivial) fun hworks => ?_
      have hid := restoreId_of_operation hoperation
      subst hid
      refine .bind (runStage_does hD (hi.soundOf hoperation).timed (Bool.eq_false_iff.mpr hworks)
        ⟨operation, hoperation, rfl⟩) fun _ s₁ _ => settleAdvance_does

end
end FleetRestore
