import CloudflareShard.Restore.FleetFinishing
import CloudflareShard.Restore.FleetResponses

/-!
# The requests that are queued

* `advanceOrPark_works`, `advanceOrThrow_works`   a step, and what becomes of its failure;
* `handlePreview_works`, `handleExecute_works`, `handleReconcile_works`, `handleRollback_works`,
  `alarm_works`                  **what is queued keeps the store, and its answers are taken**.
-/

namespace FleetRestore
open Async Json Wire
open Client (bind_ok)

/-- a piece of a queued request -/
abbrev Ends {α : Type} (E : Env) (T : Int → Prop) (C : JsString → Prop) (g : Option Nat)
    (p : Coord α) (post : α → Prop) (s : World) : Prop :=
  (guarded E T C).Works Answered g p (fun a _ => post a) (fun _ _ => True) s

section
variable {E : Env} {T : Int → Prop} {C : JsString → Prop} {g : Option Nat} {restoreId : Text}
  {s s' : World} {op operation : OperationRow} (hD : Clocked E.platform.dates T)

/-! ## steps -/

theorem ofExcept_ends {α : Type} {x : Try α} :
    (guarded E T C).Works Answered g (.ofExcept x) (fun a s' => x = .ok a ∧ s' = s)
      (fun _ _ => True) s := .ofExcept (fun _ ha => ⟨ha, rfl⟩) fun _ _ => trivial

theorem read_ends {α : Type} {f : World → Coord α} {post : α → Prop}
    (h : Ends E T C g (f s) post s) : Ends E T C g (.read >>= f) post s :=
  .read h fun hi => ⟨hi, Kept.refl s⟩

theorem refuseIf_ok {condition : Bool} {code : Restore.RestoreErrorCode} {message : Text}
    {details : Details} {u : Unit} (h : refuseIf condition code message details = .ok u) :
    condition = false := by
  cases condition with
  | false => rfl
  | true => cases h

theorem jsonBody_ok {body : Option JsonValue} {value : JsonValue} (h : jsonBody body = .ok value) :
    body = some value := by
  unfold jsonBody at h
  split at h
  · cases h
    rfl
  · cases h

include hD in
theorem advanceOrPark_works : Ends E T C g (advanceOrPark E restoreId) (fun _ => True) s :=
  Guarded.Works.rescue (advance_works hD) fun _ _ h => retryOrPark_works hD h

include hD in
theorem advanceOrThrow_works : Ends E T C g (advanceOrThrow E restoreId) (fun _ => True) s := by
  refine Guarded.Works.rescue ((advance_works hD).mono (fun _ _ _ => trivial) fun _ _ => id)
    fun e s₁ h => ?_
  exact .bind (retryOrPark_works hD h) fun _ _ _ => .throw trivial

theorem schedule_ends {work : Option Text} {delayMs : Int} :
    Ends E T C g (schedule work delayMs) (fun _ => True) s := by
  unfold schedule
  cases work with
  | none =>
    exact .read (askNobody_works.mono (fun _ _ _ => trivial) fun _ _ _ => trivial)
      fun hi => ⟨hi, Kept.refl s⟩
  | some restoreId =>
    have hask : ∀ q, Asks E T C g restoreId (FleetRestore.ask (some restoreId) q) s :=
      fun _ => ask_asks
    exact .read ((hask _).mono (fun _ _ _ => trivial) fun _ _ _ => trivial)
      fun hi => ⟨hi, Kept.refl s⟩

theorem Sound.of_plan {plan : JsonValue} (h : Sound E C s op) (hplan : op.planJson = some plan) :
    Planned E op := by
  by_cases hearly : op.stage.standing = .early
  · rw [(h.unplanned hearly).1.plan] at hplan
    cases hplan
  · by_cases hfailed : op.stage.standing = .failed
    · have hstands := h.stands
      unfold Stands at hstands
      rw [hfailed] at hstands
      rcases hstands.1 with hno | hyes
      · rw [hno.plan] at hplan
        cases hplan
      · exact hyes
    · exact h.planned hearly hfailed

/-- the hash of a plan is there with the plan -/
theorem Sound.of_hash {digest : JsString} (h : Sound E C s op) (hhash : op.planHash = some digest) :
    Planned E op ∧ isSha256Hex digest = true := by
  have hplan : Planned E op := by
    rcases h.told (by rw [hhash]; rfl) with hplan | ⟨hno, -⟩
    · exact hplan
    · rw [hno.hash] at hhash
      cases hhash
  obtain ⟨digest', hdigest, hhex⟩ := hplan.hash
  rw [hhash] at hdigest
  cases hdigest
  exact ⟨hplan, hhex⟩

/-! ## preview -/

theorem cutoff_canonical {D : DateLib} {value : JsonValue} {request : PreviewRequest}
    (h : validateRestorePreviewRequest D value = .ok request) :
    ∃ ms, Client.Dated D ms request.cutoff.val := by
  obtain ⟨es, -, h⟩ := bind_ok h
  obtain ⟨fleetId, -, h⟩ := bind_ok h
  obtain ⟨ms, htime, h⟩ := bind_ok h
  obtain ⟨cutoff, hcutoff, h⟩ := bind_ok h
  obtain ⟨idempotencyKey, -, h⟩ := bind_ok h
  cases h
  obtain ⟨text, htext, htime⟩ := bind_ok htime
  rw [hcutoff] at htext
  cases htext
  cases hcanonical : canonicalTime D cutoff.val with
  | none =>
    rw [hcanonical] at htime
    cases htime
  | some ms' => exact ⟨ms', Client.canonicalTime_dated hcanonical⟩

theorem accepted_preview {D : DateLib} {value : JsonValue} {request : PreviewRequest}
    {response : Response} (hrequest : validateRestorePreviewRequest D value = .ok request)
    (h : Client.validateRestorePreviewResponse D response.body request.fleetId.val request.cutoff.val
      = .ok ()) : Accepted D (.fetch .preview (some value)) response := by
  intro _ request' hrequest'
  rw [hrequest] at hrequest'
  cases hrequest'
  exact h

theorem refreshed_works : (guarded E T C).Works Answered g (refreshed restoreId)
    (fun op s' => s'.operation restoreId = some op) (fun _ _ => True) s := by
  unfold refreshed
  refine .read ?_ fun hi => ⟨hi, Kept.refl s⟩
  split
  · rename_i op hop
    exact .pure hop
  · exact .throw trivial

include hD in
/-- a preview goes on, and the operation that it is of stays the one that was asked for -/
theorem advanced_works {f : OperationRow → Coord Response} {post : Response → Prop}
    (hop : s.operation restoreId = some op)
    (hf : ∀ op' s', Sound E C s' op' → op'.fleetId = op.fleetId → op'.cutoff = op.cutoff →
      Ends E T C g (f op') post s') :
    Ends E T C g (do
      advanceOrThrow E restoreId
      let operation ← refreshed restoreId
      f operation) post s := by
  refine .bind ((advanceOrThrow_works hD).kept.mono (fun _ _ => id) fun _ _ _ => trivial)
    fun _ s₁ h₁ => ?_
  refine .bind ((refreshed_works.kept.mono (fun _ _ => id) fun _ _ _ => trivial).inv.mono
    (fun _ _ => id) fun _ _ _ => trivial) fun op' s₂ h₂ => ?_
  obtain ⟨⟨hop', hlater⟩, hi⟩ := h₂
  obtain ⟨op₂, hop₂, -, hfleet, hcutoff⟩ := Kept.trans h₁.2 hlater restoreId op hop
  rw [hop'] at hop₂
  cases hop₂
  exact hf op' s₂ (hi.soundOf hop') hfleet hcutoff

include hD in
theorem previewExisting_works (hop : s.operation op.restoreId = some op) (hsound : Sound E C s op) :
    Ends E T C g (previewExisting E op) (fun response =>
      Client.validateRestorePreviewResponse E.platform.dates response.body op.fleetId.val
        op.cutoff.val = .ok ()) s := by
  unfold previewExisting
  split
  · rename_i plan hplan
    exact .pure (previewedResponse_taken (hsound.of_plan hplan) hplan)
  · refine advanced_works hD hop fun op' s₁ hsound' hfleet hcutoff => ?_
    split
    · rename_i plan hplan
      refine .pure ?_
      rw [← hfleet, ← hcutoff]
      exact previewedResponse_taken (hsound'.of_plan hplan) hplan
    · exact .ite (fun _ => .throw trivial) fun _ =>
        .pure (previewingResponse_taken hsound.timed.cutoff)

/-- what a preview that is let through was checked for -/
theorem checkPreview_ok {request : PreviewRequest} {u : Unit}
    (h : checkPreview E request s = .ok u) : request.fleetId = deploymentFleetId E
      ∧ s.now - pitrWindowMs + pitrSafetyMarginMs ≤ columnTime E request.cutoff.val := by
  obtain ⟨_, hfleet, h⟩ := bind_ok h
  obtain ⟨_, -, h⟩ := bind_ok h
  obtain ⟨_, hwindow, -⟩ := bind_ok h
  exact ⟨bne_eq_false_iff_eq.mp (refuseIf_ok hfleet), not_lt.mp (of_decide_eq_false (refuseIf_ok hwindow))⟩

include hD in
/-- an operation that was just asked for -/
theorem newOperation_sound {request : PreviewRequest} {nowMs : Int} {lo : Int} (hnow : T nowMs)
    (hfleet : request.fleetId = deploymentFleetId E) (hC : C request.cutoff.val)
    (hcutoff : Stamp E.platform.dates lo request.cutoff.val) (hlo : -pitrWindowMs ≤ lo) :
    Sound E C s (newOperation E request restoreId
      (hashRestorePreviewParameters E.platform.sha256 request) nowMs) where
  timed := {
    fleet := hfleet
    asked := hC
    parameters := rfl
    cutoff := hcutoff.mono hlo
    updatedAt := hD.stamp hnow
    startedAt := nofun
    fenceInstalledAt := nofun
    completedAt := nofun
    report := nofun }
  stands := ⟨⟨rfl, rfl⟩, rfl, rfl, rfl⟩

theorem insertOperation_works (hop : Sound E C s op) :
    (guarded E T C).Works Answered g (insertOperation op)
      (fun _ s' => s'.operation op.restoreId = some op) (fun _ _ => True) s := by
  unfold insertOperation
  refine .transact (fun hi => ⟨hi, Kept.refl s⟩) (fun _ s' hs' hi => ?_) fun _ _ => trivial
  split at hs'
  · cases hs'
  · rename_i hfresh
    split at hs'
    · rename_i operations hinsert
      cases hs'
      have hnone : s.operations.find op.restoreId = none := by
        rw [Bool.or_eq_true, not_or] at hfresh
        exact Option.not_isSome_iff_eq_none.mp hfresh.1
      have hmem : op ∈ operations.rows := (Capped.mem_insertOrIgnore hinsert).mpr (.inr ⟨hnone, rfl⟩)
      refine ⟨⟨⟨{ hi with sound := fun op' hop' => ?_ }, fun restoreId op' hop' => ?_⟩, rfl⟩,
        Keyed.find_of_mem hmem⟩
      · have hsound : Sound E C s op' := by
          rcases (Capped.mem_insertOrIgnore hinsert).mp hop' with hold | ⟨-, rfl⟩
          · exact hi.sound op' hold
          · exact hop
        exact hsound.rows fun _ => ⟨fun _ hp _ => hp, fun _ hr _ => hr⟩
      · exact ⟨op', Capped.find_insertOrIgnore hinsert hop', rfl, rfl, rfl⟩
    · cases hs'

include hD in
theorem previewNew_works {request : PreviewRequest} {nowMs : Int} {lo : Int} (hnow : T nowMs)
    (hfleet : request.fleetId = deploymentFleetId E) (hC : C request.cutoff.val)
    (hcutoff : Stamp E.platform.dates lo request.cutoff.val) (hlo : -pitrWindowMs ≤ lo) :
    Ends E T C g (previewNew E request (hashRestorePreviewParameters E.platform.sha256 request) nowMs)
      (fun response => Client.validateRestorePreviewResponse E.platform.dates response.body
        request.fleetId.val request.cutoff.val = .ok ()) s := by
  unfold previewNew
  refine .bind .pause fun _ s₁ _ => ?_
  dsimp only
  refine .bind (insertOperation_works (newOperation_sound hD hnow hfleet hC hcutoff hlo))
    fun _ s₂ hop => ?_
  refine advanced_works hD hop fun op' s₃ hsound hfleet' hcutoff' => ?_
  split
  · rename_i plan hplan
    refine .pure ?_
    have htaken := previewedResponse_taken (hsound.of_plan hplan) hplan
    rw [hfleet', hcutoff'] at htaken
    exact htaken
  · exact .bind schedule_ends fun _ _ _ => .pure (previewingResponse_taken hcutoff)

/-- what is asked for is told apart by its hash -/
def Apart (E : Env) (C : JsString → Prop) : Prop :=
  ∀ c c', C c → C c' → hashJson E.platform.sha256 (previewParameters (deploymentFleetId E).val c) =
    hashJson E.platform.sha256 (previewParameters (deploymentFleetId E).val c') → c = c'

include hD in
theorem handlePreview_works {body : Option JsonValue} (hapart : Apart E C)
    (hC : ∀ value request, body = some value →
      validateRestorePreviewRequest E.platform.dates value = .ok request → C request.cutoff.val) :
    Ends E T C g (handlePreview E body) (Accepted E.platform.dates (.fetch .preview body)) s := by
  unfold handlePreview
  refine .bind ofExcept_ends fun value s₁ h₁ => ?_
  obtain ⟨hvalue, rfl⟩ := h₁
  have hbody := jsonBody_ok hvalue
  subst hbody
  refine .bind ofExcept_ends fun request s₂ h₂ => ?_
  obtain ⟨hrequest, rfl⟩ := h₂
  refine .start fun hi => read_ends ?_
  refine .bind ofExcept_ends fun _ s₃ h₃ => ?_
  obtain ⟨hcheck, rfl⟩ := h₃
  obtain ⟨hfleet, hwindow⟩ := checkPreview_ok hcheck
  have hasked := hC value request rfl hrequest
  have hcutoff : Stamp E.platform.dates (-pitrWindowMs) request.cutoff.val := by
    obtain ⟨ms, hdated⟩ := cutoff_canonical hrequest
    have htime : columnTime E request.cutoff.val = ms := by
      show (E.platform.dates.parse request.cutoff.val).getD 0 = ms
      rw [hdated.1, Option.getD_some]
    have hepoch := hD.epoch s₃.now hi.now
    unfold pitrSafetyMarginMs at hwindow
    exact ⟨ms, by omega, (hD.bounded _ _ hdated.1).2, hdated⟩
  have hnow := hi.now
  refine .bind .pause fun _ s₄ _ => .start fun hi₄ => read_ends ?_
  split
  · rename_i existing hexisting
    refine .ite (fun _ => .throw trivial) fun hsame => ?_
    have hmem : existing ∈ s₄.operations.rows := List.mem_of_find?_eq_some hexisting
    have hsound := hi₄.sound existing hmem
    have hthis : existing.cutoff = request.cutoff := by
      have hhash := hsound.timed.parameters.symm.trans (not_not.mp hsame)
      rw [hsound.timed.fleet] at hhash
      refine Subtype.ext (hapart _ _ hsound.timed.asked hasked (hhash.trans ?_))
      rw [← hfleet]
      rfl
    refine (previewExisting_works hD (operation_of_mem hmem) hsound).mono (fun response _ h => ?_)
      fun _ _ => id
    rw [hsound.timed.fleet, ← hfleet, hthis] at h
    exact accepted_preview hrequest h
  · exact (previewNew_works hD hnow hfleet hasked hcutoff le_rfl).mono
      (fun _ _ h => accepted_preview hrequest h) fun _ _ => id

/-! ## execution -/

/-- the client takes `response` for its request about a plan -/
abbrev TakenFor (request : PlanRequest) (response : Response) : Prop :=
  Client.validateRestoreAcceptedResponse response.body request.restoreId.val request.planHash = .ok ()

theorem takenFor_accepted {request : PlanRequest} {status : String} {httpStatus : Nat}
    (hhash : isSha256Hex request.planHash = true)
    (hstatus : ["accepted", "already_started"].any (status == ·) = true) :
    TakenFor request (acceptedResponse status request.restoreId request.planHash httpStatus) :=
  acceptedResponse_taken hstatus hhash

/-- what is found before an execution -/
theorem checkExecute_ok {request : PlanRequest} (hi : Inv E T C s) {found : Response ⊕ OperationRow}
    (h : checkExecute E request s = .ok found) : isSha256Hex request.planHash = true ∧
      (∀ response, found = .inl response → TakenFor request response) ∧
      ∀ operation, found = .inr operation →
        s.operation request.restoreId = some operation ∧ operation.stage = .previewed := by
  unfold checkExecute at h
  split at h
  · cases h
  · rename_i operation hoperation
    split at h
    · cases h
    · split at h
      · cases h
      · rename_i hsame
        have hhex := ((hi.soundOf hoperation).of_hash (not_not.mp hsame)).2
        refine ⟨hhex, ?_⟩
        split at h
        · cases h
          refine ⟨fun response hr => ?_, fun _ hno => absurd hno Sum.inl_ne_inr⟩
          rw [← Sum.inl.inj hr]
          exact takenFor_accepted hhex (by decide)
        · split at h
          · cases h
          · split at h
            · cases h
              refine ⟨fun response hr => ?_, fun _ hno => absurd hno Sum.inl_ne_inr⟩
              rw [← Sum.inl.inj hr]
              exact takenFor_accepted hhex (by decide)
            · rename_i hstage
              split at h
              · cases h
              · split at h
                · cases h
                · cases h
                  refine ⟨fun _ hno => absurd hno Sum.inr_ne_inl, fun operation' hop => ?_⟩
                  cases hop
                  exact ⟨hoperation, not_not.mp hstage⟩

include hD in
/-- an operation that has a plan and is executed now -/
theorem Sound.begun {now : Int} {generation : Nat} (h : Sound E C s op) (hnow : T now)
    (hplanned : Planned E op) : Sound E C s { op with
      phase := .fencing
      stage := .fencingCatalogs
      fenceGeneration := some generation
      fenceInstalledAt := some (isoOf E now)
      startedAt := some (isoOf E now)
      updatedAt := isoOf E now } := by
  have hstamp : Stamp E.platform.dates 0 (isoOf E now) := hD.stamp hnow
  refine ⟨{ h.timed with
      updatedAt := hstamp, startedAt := fun t ht => ?_, fenceInstalledAt := fun t ht => ?_ },
    hplanned.rewrite rfl rfl rfl rfl hplanned.blockers, rfl⟩
  · cases ht
    exact hstamp
  · cases ht
    exact hstamp

include hD in
/-- the fence of an operation that has a plan goes up -/
theorem begun_writes (hi : Inv E T C s) (hop : s.operation operation.restoreId = some operation)
    (hstage : operation.stage = .previewed) (h : begun E operation s = some s') :
    Writes E T C s s' := by
  obtain ⟨coordinatorWork, hwork, h⟩ := Option.bind_eq_some_iff.mp h
  cases h
  have hrows := Capped.forall_insertEach hwork hi.work fun w hw t ht => by
    obtain ⟨r, -, rfl⟩ := List.mem_map.mp hw
    cases ht
  have hset : Writes E T C s (s.setOperation operation.restoreId fun op => { op with
      phase := .fencing
      stage := .fencingCatalogs
      fenceGeneration := some (s.gate.generation + 1)
      fenceInstalledAt := some (isoOf E s.now)
      startedAt := some (isoOf E s.now)
      updatedAt := isoOf E s.now }) := by
    refine .setOperation hi (fun _ => ⟨rfl, rfl, rfl⟩) fun op hop' hsound => ?_
    rw [hop] at hop'
    cases hop'
    have hplanned := hsound.planned (by rw [hstage]; decide) (by rw [hstage]; decide)
    exact hsound.begun hD hi.now hplanned
  refine hset.trans ⟨⟨?_, .same rfl⟩, rfl⟩
  have hi' := hset.work.1
  exact { hi' with
    sound := fun op hop => (hi'.sound op hop).rows fun _ => ⟨fun _ hp _ => hp, fun _ hr _ => hr⟩
    work := hrows }

theorem accepted_execute {D : DateLib} {value : JsonValue} {request : PlanRequest}
    {response : Response} (hrequest : validateRestoreExecuteRequest value = .ok request)
    (h : TakenFor request response) : Accepted D (.fetch .execute (some value)) response := by
  intro _ request' hrequest'
  rw [hrequest] at hrequest'
  cases hrequest'
  exact h

theorem insert_ends {f : World → Option World}
    (h : ∀ s', f s = some s' → Inv E T C s → Writes E T C s s') :
    Ends E T C g (insert f) (fun _ => True) s := by
  refine .transact (fun hi => ⟨hi, Kept.refl s⟩) (fun _ s' hs' hi => ?_) fun _ _ => trivial
  cases hf : f s with
  | none =>
    rw [hf] at hs'
    cases hs'
  | some s₁ =>
    rw [hf] at hs'
    cases hs'
    have hwrites := h _ hf hi
    exact ⟨⟨hwrites.work, hwrites.mutations⟩, trivial⟩

include hD in
theorem handleExecute_works {body : Option JsonValue} :
    Ends E T C g (handleExecute E body) (Accepted E.platform.dates (.fetch .execute body)) s := by
  unfold handleExecute
  refine .bind ofExcept_ends fun value s₁ h₁ => ?_
  obtain ⟨hvalue, rfl⟩ := h₁
  have hbody := jsonBody_ok hvalue
  subst hbody
  refine .bind ofExcept_ends fun request s₂ h₂ => ?_
  obtain ⟨hrequest, rfl⟩ := h₂
  refine .start fun hi => read_ends ?_
  refine .bind ofExcept_ends fun found s₃ h₃ => ?_
  obtain ⟨hfound, rfl⟩ := h₃
  obtain ⟨hhex, hdone, hgoes⟩ := checkExecute_ok hi hfound
  split
  · exact .pure (accepted_execute hrequest (hdone _ rfl))
  · rename_i operation
    obtain ⟨hop, hstage⟩ := hgoes operation rfl
    have hid := restoreId_of_operation hop
    rw [← hid] at hop
    refine .bind (insert_ends fun s' hs' hi => begun_writes hD hi hop hstage hs') fun _ s₄ _ => ?_
    · refine .bind (advanceOrPark_works hD) fun _ s₅ _ => ?_
      refine .bind schedule_ends fun _ s₆ _ => .pure ?_
      exact accepted_execute hrequest (takenFor_accepted hhex (by decide))

/-! ## checkpoints -/

include hD in
/-- an operation that is taken up where it was parked -/
theorem Sound.resumed {now : Int} (h : Sound E C s op) (hnow : T now)
    (hst : op.stage.standing = .manual) (hresume : op.resumeStage.isSome) : Sound E C s { op with
      phase := op.resumePhase.getD op.phase
      stage := op.resumeStage.getD op.stage
      blockerJson := none
      resumePhase := none
      resumeStage := none
      updatedAt := isoOf E now } := by
  have hstands := h.stands
  unfold Stands at hstands
  rw [hst] at hstands
  obtain ⟨hplanned, hphase, hstage, hphase'⟩ := hstands
  obtain ⟨stage, hsome⟩ := Option.isSome_iff_exists.mp hresume
  refine ⟨h.timed.rewrite rfl rfl rfl rfl rfl rfl rfl (hD.stamp hnow), ?_⟩
  unfold Stands
  dsimp only
  rw [hsome, Option.getD_some, hstage stage hsome]
  refine ⟨hplanned.rewrite rfl rfl rfl rfl nofun, ?_⟩
  show (op.resumePhase.getD op.phase).settled = false
  cases hresumed : op.resumePhase with
  | none => exact hphase
  | some phase => exact hphase' phase hresumed

include hD in
theorem resumed_writes (hi : Inv E T C s) (hop : s.operation restoreId = some operation)
    (hst : operation.stage = .manualRepairRequired) (hresume : operation.resumeStage.isSome) :
    Writes E T C s (resumed E restoreId s) := by
  refine .setOperation hi (fun _ => ⟨rfl, rfl, rfl⟩) fun op hop' hsound => ?_
  rw [hop] at hop'
  cases hop'
  exact hsound.resumed hD hi.now (by rw [hst]; rfl) hresume

/-! ## reconciliation -/

theorem findReconciliation_ok {request : PlanRequest} (hi : Inv E T C s) {found : Reconciliation}
    (h : findReconciliation request s = .ok found) : isSha256Hex request.planHash = true ∧
      (∀ response, found = .done response → TakenFor request response) ∧
      (found = .resume → ∃ operation, s.operation request.restoreId = some operation
        ∧ operation.stage = .manualRepairRequired ∧ operation.resumeStage.isSome) := by
  unfold findReconciliation at h
  split at h
  · cases h
  · rename_i operation hoperation
    split at h
    · cases h
    · rename_i hsame
      have hhex := ((hi.soundOf hoperation).of_hash (not_not.mp hsame)).2
      refine ⟨hhex, ?_⟩
      split at h
      · cases h
        refine ⟨fun response hr => ?_, fun hno => by cases hno⟩
        rw [← Reconciliation.done.inj hr]
        exact takenFor_accepted hhex (by decide)
      · split at h
        · cases h
        · split at h
          · cases h
            exact ⟨fun _ hno => (by cases hno), fun hno => (by cases hno)⟩
          · rename_i hstage
            split at h
            · cases h
            · split at h
              · cases h
              · rename_i hresume
                cases h
                refine ⟨fun _ hno => (by cases hno), fun _ => ⟨operation, hoperation,
                  not_not.mp hstage, ?_⟩⟩
                rw [Bool.or_eq_true, not_or] at hresume
                exact Option.isSome_iff_ne_none.mpr fun hno => hresume.1 (by rw [hno]; rfl)

theorem accepted_reconcile {D : DateLib} {value : JsonValue} {request : PlanRequest}
    {response : Response} (hrequest : validateRestoreReconcileRequest value = .ok request)
    (h : TakenFor request response) : Accepted D (.fetch .reconcile (some value)) response := by
  intro _ request' hrequest'
  rw [hrequest] at hrequest'
  cases hrequest'
  exact h

include hD in
/-- a step, the next alarm, and the answer -/
theorem goOn_ends {response : Response} {post : Response → Prop} (h : post response) :
    Ends E T C g (do
      advanceOrPark E restoreId
      schedule none
      return response) post s :=
  .bind (advanceOrPark_works hD) fun _ _ _ => .bind schedule_ends fun _ _ _ => .pure h

theorem modify_ends {upd : World → World} (h : Inv E T C s → Writes E T C s (upd s)) :
    Ends E T C g (.modify upd) (fun _ => True) s :=
  (Writes.works h).mono (fun _ _ _ => trivial) fun _ _ => id

include hD in
theorem handleReconcile_works {body : Option JsonValue} :
    Ends E T C g (handleReconcile E body) (Accepted E.platform.dates (.fetch .reconcile body)) s := by
  unfold handleReconcile
  refine .bind ofExcept_ends fun value s₁ h₁ => ?_
  obtain ⟨hvalue, rfl⟩ := h₁
  have hbody := jsonBody_ok hvalue
  subst hbody
  refine .bind ofExcept_ends fun request s₂ h₂ => ?_
  obtain ⟨hrequest, rfl⟩ := h₂
  refine .start fun hi => read_ends ?_
  refine .bind ofExcept_ends fun found s₃ h₃ => ?_
  obtain ⟨hfound, rfl⟩ := h₃
  obtain ⟨hhex, hdone, hresume⟩ := findReconciliation_ok hi hfound
  have htaken : Accepted E.platform.dates (.fetch .reconcile (some value))
      (acceptedResponse "already_started" request.restoreId request.planHash) :=
    accepted_reconcile hrequest (takenFor_accepted hhex (by decide))
  split
  · exact .pure (accepted_reconcile hrequest (hdone _ rfl))
  · obtain ⟨operation, hop, hst, hsome⟩ := hresume rfl
    exact .bind (modify_ends fun hi => resumed_writes hD hi hop hst hsome) fun _ _ _ =>
      goOn_ends hD htaken
  · exact goOn_ends hD htaken

/-! ## rollback -/

theorem checkRollback_ok {plan : JsonValue} {u : Unit} (h : checkRollback E op plan s = .ok u) :
    op.stage ≠ .complete := by
  obtain ⟨_, -, h⟩ := bind_ok h
  obtain ⟨_, -, h⟩ := bind_ok h
  obtain ⟨_, hcomplete, -⟩ := bind_ok h
  intro hno
  have hrefused := refuseIf_ok hcomplete
  rw [hno] at hrefused
  cases hrefused

/-- what is found before a rollback -/
theorem findRollback_ok {request : PlanRequest} (hi : Inv E T C s) {found : Rollback}
    (h : findRollback E request s = .ok found) : isSha256Hex request.planHash = true ∧
      (∀ response, found = .done response → TakenFor request response) ∧
      (found = .resume → ∃ operation, s.operation request.restoreId = some operation
        ∧ operation.stage = .manualRepairRequired ∧ operation.resumeStage.isSome) ∧
      (found = .start → ∃ operation, s.operation request.restoreId = some operation
        ∧ Planned E operation ∧ operation.stage ≠ .complete) := by
  unfold findRollback at h
  split at h
  · cases h
  · rename_i operation hoperation
    split at h
    · cases h
    · split at h
      · cases h
      · rename_i hsame
        obtain ⟨hplanned, hhex⟩ := (hi.soundOf hoperation).of_hash (not_not.mp hsame)
        refine ⟨hhex, ?_⟩
        split at h
        · cases h
          refine ⟨fun response hr => ?_, fun hno => (by cases hno), fun hno => (by cases hno)⟩
          rw [← Rollback.done.inj hr]
          exact takenFor_accepted hhex (by decide)
        · split at h
          · cases h
            exact ⟨fun _ hno => (by cases hno), fun hno => (by cases hno), fun hno => (by cases hno)⟩
          · split at h
            · rename_i hmanual
              split at h
              · cases h
              · rename_i hresume
                cases h
                refine ⟨fun _ hno => (by cases hno), fun _ => ⟨operation, hoperation, hmanual.1, ?_⟩,
                  fun hno => (by cases hno)⟩
                rw [Bool.or_eq_true, not_or] at hresume
                exact Option.isSome_iff_ne_none.mpr fun hno => hresume.2 (by rw [hno]; rfl)
            · obtain ⟨_, hcheck, h⟩ := bind_ok h
              cases h
              exact ⟨fun _ hno => (by cases hno), fun hno => (by cases hno),
                fun _ => ⟨operation, hoperation, hplanned, checkRollback_ok hcheck⟩⟩

include hD in
theorem turnedBack_writes (hi : Inv E T C s) (hop : s.operation restoreId = some operation)
    (hplanned : Planned E operation) (hst : operation.stage ≠ .complete) :
    Writes E T C s (turnedBack E restoreId s) := by
  have hne : operation.stage.standing ≠ .complete := by
    intro hno
    cases hstage : operation.stage <;> rw [hstage] at hno <;>
      first | exact hst hstage | cases hno
  have hrows : Writes E T C s { s with
      participants := s.participants.updateWhere
        (fun p => p.restoreId == restoreId && p.status != .rollbackReleased)
        (fun p => { p with
          status := if p.undoBookmark.isNone then .rollbackNotNeeded else .rollbackPending })
        fun _ => rfl } := by
    refine ⟨⟨hi.updateParticipants _ (fun p hp => ?_) ⟨operation, hop, rfl⟩ hne fun p t ht => ?_,
      .same rfl⟩, rfl⟩
    · exact beq_iff_eq.mp (Bool.and_eq_true_iff.mp hp).1
    · exact .inl ht
  refine .setGatePhase (hrows.trans (.setOperation hrows.work.1 (fun _ => ⟨rfl, rfl, rfl⟩)
    fun op hop' hsound => ?_))
  have hthis : s.operation restoreId = some op := hop'
  rw [hop] at hthis
  cases hthis
  exact ⟨hsound.timed.rewrite rfl rfl rfl rfl rfl rfl rfl (hD.stamp hi.now),
    hplanned.rewrite rfl rfl rfl rfl nofun, rfl⟩

theorem accepted_rollback {D : DateLib} {value : JsonValue} {request : PlanRequest}
    {response : Response} (hrequest : validateRestoreRollbackRequest value = .ok request)
    (h : TakenFor request response) : Accepted D (.fetch .rollback (some value)) response := by
  intro _ request' hrequest'
  rw [hrequest] at hrequest'
  cases hrequest'
  exact h

include hD in
theorem handleRollback_works {body : Option JsonValue} :
    Ends E T C g (handleRollback E body) (Accepted E.platform.dates (.fetch .rollback body)) s := by
  unfold handleRollback
  refine .bind ofExcept_ends fun value s₁ h₁ => ?_
  obtain ⟨hvalue, rfl⟩ := h₁
  have hbody := jsonBody_ok hvalue
  subst hbody
  refine .bind ofExcept_ends fun request s₂ h₂ => ?_
  obtain ⟨hrequest, rfl⟩ := h₂
  refine .start fun hi => read_ends ?_
  refine .bind ofExcept_ends fun found s₃ h₃ => ?_
  obtain ⟨hfound, rfl⟩ := h₃
  obtain ⟨hhex, hdone, hresume, hstart⟩ := findRollback_ok hi hfound
  have htaken : ∀ status, ["accepted", "already_started"].any (status == ·) = true →
      Accepted E.platform.dates (.fetch .rollback (some value))
        (acceptedResponse status request.restoreId request.planHash) :=
    fun status h => accepted_rollback hrequest (takenFor_accepted hhex h)
  split
  · exact .pure (accepted_rollback hrequest (hdone _ rfl))
  · exact .bind schedule_ends fun _ _ _ => .pure (htaken _ (by decide))
  · obtain ⟨operation, hop, hst, hsome⟩ := hresume rfl
    exact .bind (modify_ends fun hi => resumed_writes hD hi hop hst hsome) fun _ _ _ =>
      goOn_ends hD (htaken _ (by decide))
  · obtain ⟨operation, hop, hplanned, hst⟩ := hstart rfl
    exact .bind (modify_ends fun hi => turnedBack_writes hD hi hop hplanned hst) fun _ _ _ =>
      goOn_ends hD (htaken _ (by decide))

/-! ## the alarm -/

include hD in
theorem alarm_works : Ends E T C g (alarm E) (fun _ => True) s := by
  unfold alarm
  refine read_ends ?_
  split
  · exact .pure trivial
  · rename_i operation _
    refine .bind (modify_ends fun hi => .setOperation hi (fun _ => ⟨rfl, rfl, rfl⟩)
      fun op _ hsound => ?_) fun _ s₁ _ => ?_
    · exact hsound.retained (.of_eq rfl) (hD.stamp hi.now) rfl rfl rfl ⟨rfl, rfl⟩
    · refine .bind (advanceOrPark_works hD) fun _ s₂ _ => read_ends ?_
      split
      · exact .pure trivial
      · exact schedule_ends

end
end FleetRestore
