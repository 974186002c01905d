import CloudflareShard.Restore.FleetHandlers
import CloudflareShard.Restore.FleetPlans

/-!
# What holds of every restore operation

* `Clocked`, `Stamp`             what is asked of `Date`; the texts of its times;
* `Standing`                     where an operation stands, whatever its stage is called;
* `Planned`, `Unplanned`, `Stands`, `Timed`, `Sound`   an operation that can be told about;
* `Advances`                     what most steps leave alone;
* `Sound.retained`, `Sound.early`, `Sound.executing`   the steps inside a standing;
* `Inv`, `Quiet`, `Kept`         the store, what others do to it next to a restore, what nobody undoes.
-/

namespace FleetRestore
open Async Json Wire

/-! ## times -/

def maxTimeMs : Int := 8640000000000000

/-- `Date`, where the clock shows the times in `T` -/
structure Clocked (D : DateLib) (T : Int → Prop) : Prop where
  reads : ∀ t, T t → canonicalTime D (D.iso t) = some t
  epoch : ∀ t, T t → 0 ≤ t
  bounded : ∀ s t, D.parse s = some t → -maxTimeMs ≤ t ∧ t ≤ maxTimeMs
  empty : D.parse [] = none

/-- the text of a time from `lo` on -/
def Stamp (D : DateLib) (lo : Int) (text : JsString) : Prop :=
  ∃ ms, lo ≤ ms ∧ ms ≤ maxTimeMs ∧ Client.Dated D ms text

section
variable {D : DateLib} {T : Int → Prop} {lo t : Int} {text : JsString}

theorem Stamp.mono {lo' : Int} (h : Stamp D lo text) (hle : lo' ≤ lo) : Stamp D lo' text := by
  obtain ⟨ms, hlo, hmax, hdated⟩ := h
  exact ⟨ms, hle.trans hlo, hmax, hdated⟩

theorem Clocked.stamp (h : Clocked D T) (ht : T t) : Stamp D 0 (D.iso t) := by
  have hdated := Client.canonicalTime_dated (h.reads t ht)
  exact ⟨t, h.epoch t ht, (h.bounded _ t hdated.1).2, hdated⟩

/-- a column that was checked when it was read -/
theorem Clocked.stamp_of_canonical (h : Clocked D T) {value : Field}
    (hvalue : canonicalTimestamp D value = some text) : Stamp D (-maxTimeMs) text := by
  unfold canonicalTimestamp at hvalue
  split at hvalue
  · rename_i s
    split at hvalue
    · rename_i hsome
      cases hvalue
      obtain ⟨ms, hms⟩ := Option.isSome_iff_exists.mp hsome
      have hdated := Client.canonicalTime_dated hms
      exact ⟨ms, (h.bounded _ ms hdated.1).1, (h.bounded _ ms hdated.1).2, hdated⟩
    · cases hvalue
  · cases hvalue

theorem Stamp.canonical (h : Stamp D lo text) : (canonicalTime D text).isSome := by
  obtain ⟨ms, -, -, hparse, hiso⟩ := h
  unfold canonicalTime
  rw [hparse]
  show (if D.iso ms = text then some ms else none).isSome = true
  rw [if_pos hiso]
  rfl

theorem Clocked.ne_nil (h : Clocked D T) (hs : Stamp D lo text) : text ≠ [] := by
  rintro rfl
  obtain ⟨ms, -, -, hparse, -⟩ := hs
  rw [h.empty] at hparse
  cases hparse

end

/-! ## where an operation stands -/

/-- no stage of one standing makes a promise that another one does not -/
inductive Standing where
  | early
  | previewed
  | executing
  | complete
  | rolledBack
  | manual
  | failed
  deriving DecidableEq

def Stage.standing : Stage → Standing
  | closingManifest | enumeratingManifest | materializingEnvelopes | previewingParticipants => .early
  | previewed => .previewed
  | complete => .complete
  | rolledBack => .rolledBack
  | manualRepairRequired => .manual
  | failed => .failed
  | _ => .executing

/-- a phase that the contract asks evidence for -/
def Phase.settled : Phase → Bool
  | complete | rolledBack => true
  | _ => false

theorem Stage.terminal_iff {stage : Stage} :
    stage.terminal = false ↔ stage.standing = .early ∨ stage.standing = .executing := by
  cases stage <;> decide

section
variable (E : Env)

/-- a plan that the client takes, of the fleet and the cutoff of the operation -/
structure Planned (op : OperationRow) : Prop where
  plan : ∃ es, op.planJson = some (.obj es)
    ∧ Client.validateRestorePlan E.platform.dates (some (.obj es)) = .ok es
    ∧ Client.boundTo es op.fleetId.val op.cutoff.val = true
  hash : ∃ digest, op.planHash = some digest ∧ isSha256Hex digest = true
  blockers : ∀ blocker ∈ op.blockerJson.getD [], blocker.message ≠ []

structure Unplanned (op : OperationRow) : Prop where
  plan : op.planJson = none
  hash : op.planHash = none

structure Reported (report : Report) : Prop where
  complete : report.discardedWriteReportComplete = true
  count : report.discardedWriteCount ≤ maxSafe
  hash : isSha256Hex report.discardedWriteReportHash = true
  rpo : 0 ≤ report.measuredRpoMs ∧ report.measuredRpoMs ≤ maxSafe
  rto : 0 ≤ report.measuredRtoMs ∧ report.measuredRtoMs ≤ maxSafe
  verified : Stamp E.platform.dates 0 report.verifiedAt

/-- all evidence is there -/
structure Complete (s : World) (op : OperationRow) : Prop where
  completedAt : op.completedAt.isSome
  report : op.reportJson.isSome
  blockers : op.blockerJson = none
  participants : ∀ p ∈ s.participants.rows, p.restoreId = op.restoreId → p.status = .released
  records : ∀ r ∈ s.manifestRecords.rows, r.restoreId = op.restoreId → r.reconciled = true

/-- what the stage of an operation promises -/
def Stands (s : World) (op : OperationRow) : Prop :=
  match op.stage.standing with
  | .early =>
    Unplanned op ∧ op.phase = .previewing ∧ op.fenceGeneration = none ∧ op.blockerJson = none
  | .previewed | .executing => Planned E op ∧ op.phase.settled = false
  | .manual =>
    Planned E op ∧ op.phase.settled = false
      ∧ (∀ stage, op.resumeStage = some stage → stage.standing = .executing)
      ∧ ∀ phase, op.resumePhase = some phase → phase.settled = false
  | .failed => (Unplanned op ∨ Planned E op) ∧ op.phase.settled = false
  | .complete => Planned E op ∧ Complete s op
  | .rolledBack =>
    Planned E op ∧ op.phase ≠ .complete ∧ op.completedAt.isSome ∧ op.blockerJson = none

/-- what was asked for, and when what happened -/
structure Timed (C : JsString → Prop) (op : OperationRow) : Prop where
  fleet : op.fleetId = deploymentFleetId E
  asked : C op.cutoff.val
  parameters : op.parameterHash =
    hashJson E.platform.sha256 (previewParameters op.fleetId.val op.cutoff.val)
  cutoff : Stamp E.platform.dates (-pitrWindowMs) op.cutoff.val
  updatedAt : Stamp E.platform.dates 0 op.updatedAt
  startedAt : ∀ t, op.startedAt = some t → Stamp E.platform.dates 0 t
  fenceInstalledAt : ∀ t, op.fenceInstalledAt = some t → Stamp E.platform.dates 0 t
  completedAt : ∀ t, op.completedAt = some t → Stamp E.platform.dates 0 t
  report : ∀ report, op.reportJson = some report → Reported E report

structure Sound (C : JsString → Prop) (s : World) (op : OperationRow) : Prop where
  timed : Timed E C op
  stands : Stands E s op

end

/-- what most steps leave alone -/
structure Advances (op op' : OperationRow) : Prop where
  restoreId : op'.restoreId = op.restoreId
  fleetId : op'.fleetId = op.fleetId
  cutoff : op'.cutoff = op.cutoff
  parameterHash : op'.parameterHash = op.parameterHash
  startedAt : op'.startedAt = op.startedAt
  fenceInstalledAt : op'.fenceInstalledAt = op.fenceInstalledAt
  completedAt : op'.completedAt = op.completedAt
  reportJson : op'.reportJson = op.reportJson
  planJson : op'.planJson = op.planJson
  planHash : op'.planHash = op.planHash
  blockerJson : op'.blockerJson = op.blockerJson

/-- the columns that most steps leave alone -/
def OperationRow.leftAlone (op : OperationRow) :=
  (op.restoreId, op.fleetId, op.cutoff, op.parameterHash, op.startedAt, op.fenceInstalledAt,
    op.completedAt, op.reportJson, op.planJson, op.planHash, op.blockerJson)

theorem Advances.of_eq {op op' : OperationRow} (h : op'.leftAlone = op.leftAlone) :
    Advances op op' := by
  simp only [OperationRow.leftAlone, Prod.mk.injEq] at h
  obtain ⟨h₁, h₂, h₃, h₄, h₅, h₆, h₇, h₈, h₉, h₁₀, h₁₁⟩ := h
  exact ⟨h₁, h₂, h₃, h₄, h₅, h₆, h₇, h₈, h₉, h₁₀, h₁₁⟩

section
variable {E : Env} {C : JsString → Prop} {s : World} {op op' : OperationRow}

theorem Timed.rewrite (h : Timed E C op) (hfleet : op'.fleetId = op.fleetId)
    (hcutoff : op'.cutoff = op.cutoff) (hparameters : op'.parameterHash = op.parameterHash)
    (hstarted : op'.startedAt = op.startedAt)
    (hfence : op'.fenceInstalledAt = op.fenceInstalledAt)
    (hcompleted : op'.completedAt = op.completedAt) (hreport : op'.reportJson = op.reportJson)
    (hupdated : Stamp E.platform.dates 0 op'.updatedAt) : Timed E C op' where
  fleet := hfleet ▸ h.fleet
  asked := hcutoff ▸ h.asked
  parameters := by
    rw [hparameters, hfleet, hcutoff]
    exact h.parameters
  cutoff := hcutoff ▸ h.cutoff
  updatedAt := hupdated
  startedAt := hstarted ▸ h.startedAt
  fenceInstalledAt := hfence ▸ h.fenceInstalledAt
  completedAt := hcompleted ▸ h.completedAt
  report := hreport ▸ h.report

theorem Timed.advances (h : Timed E C op) (ha : Advances op op')
    (hupdated : Stamp E.platform.dates 0 op'.updatedAt) : Timed E C op' :=
  h.rewrite ha.fleetId ha.cutoff ha.parameterHash ha.startedAt ha.fenceInstalledAt ha.completedAt
    ha.reportJson hupdated

theorem Planned.rewrite (h : Planned E op) (hplan : op'.planJson = op.planJson)
    (hhash : op'.planHash = op.planHash) (hfleet : op'.fleetId = op.fleetId)
    (hcutoff : op'.cutoff = op.cutoff)
    (hblockers : ∀ blocker ∈ op'.blockerJson.getD [], blocker.message ≠ []) : Planned E op' where
  plan := by
    rw [hplan, hfleet, hcutoff]
    exact h.plan
  hash := hhash ▸ h.hash
  blockers := hblockers

theorem Planned.advances (h : Planned E op) (ha : Advances op op') : Planned E op' :=
  h.rewrite ha.planJson ha.planHash ha.fleetId ha.cutoff (ha.blockerJson ▸ h.blockers)

theorem Unplanned.advances (h : Unplanned op) (ha : Advances op op') : Unplanned op' :=
  ⟨ha.planJson.trans h.plan, ha.planHash.trans h.hash⟩

theorem Complete.advances (h : Complete s op) (ha : Advances op op') : Complete s op' where
  completedAt := ha.completedAt ▸ h.completedAt
  report := ha.reportJson ▸ h.report
  blockers := ha.blockerJson.trans h.blockers
  participants p hp hid := h.participants p hp (hid.trans ha.restoreId)
  records r hr hid := h.records r hr (hid.trans ha.restoreId)

/-- a step that stays in its stage -/
theorem Sound.retained (h : Sound E C s op) (ha : Advances op op')
    (hupdated : Stamp E.platform.dates 0 op'.updatedAt) (hstage : op'.stage = op.stage) (hphase : op'.phase = op.phase)
    (hfence : op'.fenceGeneration = op.fenceGeneration)
    (hresume : op'.resumeStage = op.resumeStage ∧ op'.resumePhase = op.resumePhase) :
    Sound E C s op' := by
  refine ⟨h.timed.advances ha hupdated, ?_⟩
  have hstands := h.stands
  unfold Stands at hstands ⊢
  rw [hstage]
  split at hstands
  · exact ⟨hstands.1.advances ha, hphase.trans hstands.2.1, hfence.trans hstands.2.2.1,
      ha.blockerJson.trans hstands.2.2.2⟩
  · exact ⟨hstands.1.advances ha, hphase ▸ hstands.2⟩
  · exact ⟨hstands.1.advances ha, hphase ▸ hstands.2⟩
  · exact ⟨hstands.1.advances ha, hphase ▸ hstands.2.1, hresume.1 ▸ hstands.2.2.1,
      hresume.2 ▸ hstands.2.2.2⟩
  · exact ⟨hstands.1.imp (·.advances ha) (·.advances ha), hphase ▸ hstands.2⟩
  · exact ⟨hstands.1.advances ha, hstands.2.advances ha⟩
  · exact ⟨hstands.1.advances ha, hphase ▸ hstands.2.1, ha.completedAt ▸ hstands.2.2.1,
      ha.blockerJson.trans hstands.2.2.2⟩

theorem Sound.unplanned (h : Sound E C s op) (he : op.stage.standing = .early) :
    Unplanned op ∧ op.phase = .previewing ∧ op.fenceGeneration = none ∧ op.blockerJson = none := by
  have hstands := h.stands
  unfold Stands at hstands
  rw [he] at hstands
  exact hstands

theorem Sound.planned (h : Sound E C s op) (he : op.stage.standing ≠ .early)
    (hf : op.stage.standing ≠ .failed) : Planned E op := by
  have hstands := h.stands
  unfold Stands at hstands
  split at hstands
  · exact absurd ‹_› he
  · exact hstands.1
  · exact hstands.1
  · exact hstands.1
  · exact absurd ‹_› hf
  · exact hstands.1
  · exact hstands.1

theorem Sound.running (h : Sound E C s op) (hx : op.stage.standing = .executing) :
    Planned E op ∧ op.phase.settled = false := by
  have hstands := h.stands
  unfold Stands at hstands
  rw [hx] at hstands
  exact hstands

/-- a step before there is a plan -/
theorem Sound.early (h : Sound E C s op) (he : op.stage.standing = .early) (ha : Advances op op')
    (hupdated : Stamp E.platform.dates 0 op'.updatedAt)
    (hstage : op'.stage.standing = .early) (hphase : op'.phase = op.phase)
    (hfence : op'.fenceGeneration = op.fenceGeneration) : Sound E C s op' := by
  obtain ⟨hplan, hprev, hnone, hblockers⟩ := h.unplanned he
  refine ⟨h.timed.advances ha hupdated, ?_⟩
  unfold Stands
  rw [hstage]
  exact ⟨hplan.advances ha, hphase.trans hprev, hfence.trans hnone, ha.blockerJson.trans hblockers⟩

/-- a step of an execution -/
theorem Sound.executing (h : Sound E C s op) (hx : op.stage.standing = .executing)
    (ha : Advances op op') (hupdated : Stamp E.platform.dates 0 op'.updatedAt)
    (hstage : op'.stage.standing = .executing)
    (hphase : op'.phase = op.phase ∨ op'.phase.settled = false) : Sound E C s op' := by
  obtain ⟨hplan, hsettled⟩ := h.running hx
  refine ⟨h.timed.advances ha hupdated, ?_⟩
  unfold Stands
  rw [hstage]
  refine ⟨hplan.advances ha, ?_⟩
  rcases hphase with hphase | hphase
  · rw [hphase]
    exact hsettled
  · exact hphase

end

/-! ## the store -/

/-- the client takes the answer, and it is bound to what was asked for -/
def Accepted (D : DateLib) : Request → Response → Prop
  | .alarm, _ => True
  | .fetch route body, response =>
    response.ok = true →
      match route, body with
      | .preview, some value => ∀ request, validateRestorePreviewRequest D value = .ok request →
          Client.validateRestorePreviewResponse D response.body request.fleetId.val request.cutoff.val
            = .ok ()
      | .execute, some value => ∀ request, validateRestoreExecuteRequest value = .ok request →
          Client.validateRestoreAcceptedResponse response.body request.restoreId.val request.planHash
            = .ok ()
      | .reconcile, some value => ∀ request, validateRestoreReconcileRequest value = .ok request →
          Client.validateRestoreAcceptedResponse response.body request.restoreId.val request.planHash
            = .ok ()
      | .rollback, some value => ∀ request, validateRestoreRollbackRequest value = .ok request →
          Client.validateRestoreAcceptedResponse response.body request.restoreId.val request.planHash
            = .ok ()
      | .status, some value => ∀ restoreId, validateRestoreStatusRequest value = .ok restoreId →
          Client.validateRestoreStatusResponse D response.body restoreId.val = .ok ()
      | .gate, _ | .registerCoordinator, _ => True
      | _, none => False

structure Inv (E : Env) (T : Int → Prop) (C : JsString → Prop) (s : World) : Prop where
  now : T s.now
  sound : ∀ op ∈ s.operations.rows, Sound E C s op
  participants : ∀ p ∈ s.participants.rows, ∀ t, p.closedThrough = some t →
    Stamp E.platform.dates (-maxTimeMs) t
  work : ∀ w ∈ s.coordinatorWork.rows, ∀ t, w.closedThrough = some t →
    Stamp E.platform.dates (-maxTimeMs) t
  sent : ∀ r ∈ s.sent, Accepted E.platform.dates r.1 r.2

/-- the operation is there and stands so -/
def At (s : World) (restoreId : Text) (standing : Standing) : Prop :=
  ∃ op, s.operation restoreId = some op ∧ op.stage.standing = standing

/-- what others do next to a restore that is at work -/
structure Quiet (s s' : World) : Prop where
  participants : s'.participants = s.participants
  records : s'.manifestRecords = s.manifestRecords
  operation : ∀ restoreId op, s.operation restoreId = some op → ∃ op',
    s'.operation restoreId = some op' ∧ op'.stage.standing = op.stage.standing
      ∧ op'.parameterHash = op.parameterHash ∧ op'.fleetId = op.fleetId ∧ op'.cutoff = op.cutoff

/-- what is never undone -/
def Kept (s s' : World) : Prop :=
  ∀ restoreId op, s.operation restoreId = some op → ∃ op', s'.operation restoreId = some op'
    ∧ op'.parameterHash = op.parameterHash ∧ op'.fleetId = op.fleetId ∧ op'.cutoff = op.cutoff

theorem Quiet.refl (s : World) : Quiet s s :=
  ⟨rfl, rfl, fun _ op h => ⟨op, h, rfl, rfl, rfl, rfl⟩⟩

theorem Quiet.trans {s s' s'' : World} (h : Quiet s s') (h' : Quiet s' s'') : Quiet s s'' := by
  refine ⟨h'.participants.trans h.participants, h'.records.trans h.records, fun restoreId op hop => ?_⟩
  obtain ⟨op', hop', hst, hparam, hfleet, hcutoff⟩ := h.operation restoreId op hop
  obtain ⟨op'', hop'', hst', hparam', hfleet', hcutoff'⟩ := h'.operation restoreId op' hop'
  exact ⟨op'', hop'', hst'.trans hst, hparam'.trans hparam, hfleet'.trans hfleet,
    hcutoff'.trans hcutoff⟩

theorem Kept.refl (s : World) : Kept s s := fun _ op h => ⟨op, h, rfl, rfl, rfl⟩

theorem Kept.trans {s s' s'' : World} (h : Kept s s') (h' : Kept s' s'') : Kept s s'' := by
  intro restoreId op hop
  obtain ⟨op', hop', hparam, hfleet, hcutoff⟩ := h restoreId op hop
  obtain ⟨op'', hop'', hparam', hfleet', hcutoff'⟩ := h' restoreId op' hop'
  exact ⟨op'', hop'', hparam'.trans hparam, hfleet'.trans hfleet, hcutoff'.trans hcutoff⟩

theorem Quiet.kept {s s' : World} (h : Quiet s s') : Kept s s' := by
  intro restoreId op hop
  obtain ⟨op', hop', -, hrest⟩ := h.operation restoreId op hop
  exact ⟨op', hop', hrest⟩

theorem Quiet.at {s s' : World} {restoreId : Text} {standing : Standing} (h : Quiet s s')
    (hat : At s restoreId standing) : At s' restoreId standing := by
  obtain ⟨op, hop, hst⟩ := hat
  obtain ⟨op', hop', hst', -⟩ := h.operation restoreId op hop
  exact ⟨op', hop', hst'.trans hst⟩

/-- the store of a restore coordinator, with the queue for its mutations -/
def guarded (E : Env) (T : Int → Prop) (C : JsString → Prop) : Guarded World where
  barrier := World.mutations
  inv := Inv E T C
  work s s' := Inv E T C s' ∧ Kept s s'
  side s s' := Quiet s s' ∧ (Inv E T C s → Inv E T C s')
  quiet := Quiet
  later := Kept
  quiet_refl := .refl
  quiet_trans := .trans
  later_refl := .refl
  later_trans := .trans
  side_quiet h := h.1
  quiet_later := Quiet.kept
  work_later _ h := h.2
  inv_work _ h := h.1
  inv_side hi h := h.2 hi

/-! ## updates -/

section
variable {E : Env} {T : Int → Prop} {C : JsString → Prop} {s s' : World} {restoreId : Text}
  {f : OperationRow → OperationRow}

/-- rows of an operation that is not complete are rewritten or added -/
theorem Sound.rows {op : OperationRow} (h : Sound E C s op)
    (hrows : op.stage.standing = .complete →
      (∀ p ∈ s'.participants.rows, p.restoreId = op.restoreId →
        p ∈ s.participants.rows) ∧
      ∀ r ∈ s'.manifestRecords.rows, r.restoreId = op.restoreId → r ∈ s.manifestRecords.rows) :
    Sound E C s' op := by
  refine ⟨h.timed, ?_⟩
  have hstands := h.stands
  unfold Stands at hstands ⊢
  cases hst : op.stage.standing with
  | complete =>
    rw [hst] at hstands
    obtain ⟨hp, hr⟩ := hrows hst
    refine ⟨hstands.1, { hstands.2 with participants := fun p hmem hid => ?_, records := fun r hmem hid => ?_ }⟩
    · exact hstands.2.participants p (hp p hmem hid) hid
    · exact hstands.2.records r (hr r hmem hid) hid
  | _ =>
    rw [hst] at hstands
    exact hstands

theorem operation_setOperation (hf : ∀ op, (f op).restoreId = op.restoreId) (id : Text) : (s.setOperation restoreId f hf).operation id =
    (s.operation id).map fun op => if op.restoreId == restoreId then f op else op :=
  Capped.find_updateWhere hf

theorem operation_of_mem {op : OperationRow} (h : op ∈ s.operations.rows) :
    s.operation op.restoreId = some op := Keyed.find_of_mem h

theorem restoreId_of_operation {op : OperationRow} (h : s.operation restoreId = some op) :
    op.restoreId = restoreId := Keyed.key_find h

theorem mem_of_operation {op : OperationRow} (h : s.operation restoreId = some op) :
    op ∈ s.operations.rows := Keyed.mem_of_find h

theorem Inv.soundOf (h : Inv E T C s) {op : OperationRow} (hop : s.operation restoreId = some op) :
    Sound E C s op := h.sound op (mem_of_operation hop)

/-- an operation is rewritten -/
theorem Inv.setOperation (hs : Inv E T C s) (hf : ∀ op, (f op).restoreId = op.restoreId)
    (h : ∀ op, s.operation restoreId = some op → Sound E C s op → Sound E C s (f op)) :
    Inv E T C (s.setOperation restoreId f hf) where
  now := hs.now
  sound op' hmem := by
    obtain ⟨op, hop, rfl⟩ := (Capped.mem_updateWhere hf).mp hmem
    have hsound := hs.sound op hop
    have hsame : ∀ op, Sound E C s op → Sound E C (s.setOperation restoreId f hf) op :=
      fun op hop => hop.rows fun _ => ⟨fun _ hp _ => hp, fun _ hr _ => hr⟩
    by_cases hid : op.restoreId = restoreId
    · rw [if_pos (by rw [hid, beq_self_eq_true])]
      exact hsame _ (h op (hid ▸ operation_of_mem hop) hsound)
    · rw [if_neg (by rw [beq_iff_eq]; exact hid)]
      exact hsame _ hsound
  participants := hs.participants
  work := hs.work
  sent := hs.sent

theorem Kept.setOperation (hf : ∀ op, (f op).restoreId = op.restoreId) (h : ∀ op, (f op).parameterHash = op.parameterHash
    ∧ (f op).fleetId = op.fleetId ∧ (f op).cutoff = op.cutoff) :
    Kept s (s.setOperation restoreId f hf) := by
  intro id op hop
  rw [operation_setOperation, hop, Option.map_some]
  refine ⟨_, rfl, ?_⟩
  by_cases hid : op.restoreId == restoreId
  · rw [if_pos hid]
    exact h op
  · rw [if_neg hid]
    exact ⟨rfl, rfl, rfl⟩

end
end FleetRestore
