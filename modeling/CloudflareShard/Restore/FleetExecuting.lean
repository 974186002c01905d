import CloudflareShard.Restore.FleetSteps

/-!
# The stages of an execution

* `parked_inv`, `retryOrPark_works`   an operation that cannot go on;
* `failBeforeRestore_does`, `orFailBefore_does`   the end of a restore that has rewound nothing;
* `fenceCatalogs_does` and the others   the stages;
* `runStage_does`, `advance_does`     **one step of an operation keeps what holds of all**.
-/

namespace FleetRestore
open Async Json Wire

section
variable {E : Env} {T : Int → Prop} {C : JsString → Prop} {g : Option Nat} {restoreId : Text}
  {s s' : World} {α β : Type} {operation : OperationRow} (hD : Clocked E.platform.dates T)

/-! ## operations that cannot go on -/

include hD in
theorem Sound.stopped {op : OperationRow} {fenced : Bool} {blocker : Blocker} {now : Int}
    (h : Sound E C s op) (hnow : T now) (hworks : op.stage.terminal = false)
    (hfenced : fenced = true → op.fenceGeneration.isSome)
    (hblocker : op.stage.standing = .executing → blocker.message ≠ []) :
    Sound E C s (stopped E fenced blocker now op) := by
  have hmessage : op.stage.standing = .executing → ∀ b ∈ [blocker], b.message ≠ [] := by
    intro hexecuting b hb
    rw [List.mem_singleton.mp hb]
    exact hblocker hexecuting
  refine ⟨h.timed.rewrite rfl rfl rfl rfl rfl rfl rfl (hD.stamp hnow), ?_⟩
  rcases Stage.terminal_iff.mp hworks with hearly | hexecuting
  · obtain ⟨hplan, -, hfence, -⟩ := h.unplanned hearly
    cases fenced with
    | true =>
      -- only executions are fenced
      have := hfenced rfl
      rw [hfence] at this
      cases this
    | false => exact ⟨.inl ⟨hplan.plan, hplan.hash⟩, rfl⟩
  · obtain ⟨hplan, hphase⟩ := h.running hexecuting
    have hplan' : Planned E (FleetRestore.stopped E fenced blocker now op) :=
      hplan.rewrite rfl rfl rfl rfl (hmessage hexecuting)
    cases fenced with
    | false => exact ⟨.inr hplan', rfl⟩
    | true =>
      refine ⟨hplan', rfl, fun stage hstage => ?_, fun phase hphase' => ?_⟩
      · cases hstage
        exact hexecuting
      · cases hphase'
        exact hphase

include hD in
/-- an operation that is parked can be told about, if its blocker says something -/
theorem parked_writes {blocker : Blocker} (hs : Inv E T C s)
    (hblocker : At s restoreId .executing → blocker.message ≠ []) :
    Writes E T C s (parked E restoreId blocker s) := by
  unfold parked
  split
  · exact .refl hs
  · rename_i operation hoperation
    refine .ite (fun _ => .refl hs) fun hworks => ?_
    have hset : ∀ fenced : Bool, (fenced = true → operation.fenceGeneration.isSome) →
        Writes E T C s (s.setOperation restoreId (FleetRestore.stopped E fenced blocker s.now)) := by
      intro fenced hfenced
      refine .setOperation hs (fun _ => ⟨rfl, rfl, rfl⟩) fun op hop hsound => ?_
      rw [hoperation] at hop
      cases hop
      exact hsound.stopped hD hs.now (Bool.eq_false_iff.mpr hworks) hfenced
        fun hst => hblocker ⟨_, hoperation, hst⟩
    have hfenced := hset (operation.fenceGeneration.isSome && s.gate.restoreId == some restoreId)
      fun h => (Bool.and_eq_true_iff.mp h).1
    exact .ite (fun _ => hfenced.setGatePhase) fun _ => hfenced

include hD in
theorem parkForManualRepair_works {error : Thrown} {participantId txId : Option Text}
    {epost : Thrown → World → Prop} (h : Blames restoreId error s) :
    (guarded E T C).Works Answered g (parkForManualRepair E restoreId error participantId txId)
      (fun _ _ => True) epost s := by
  refine (Writes.works fun hi => parked_writes hD hi fun hat => ?_).mono (fun _ _ _ => trivial)
    fun _ _ => id
  cases error with
  | violation v => exact v.message.property
  | other message =>
    rintro rfl
    exact h rfl hat

include hD in
/-- an error is dealt with -/
theorem retryOrPark_works {error : Thrown} (h : Blames restoreId error s) :
    (guarded E T C).Works Answered g (retryOrPark E restoreId error) (fun _ _ => True)
      (fun _ _ => True) s := by
  unfold retryOrPark
  refine .read ?_ fun hi => ⟨hi, Kept.refl s⟩
  split
  · exact .ite (fun _ => .pure trivial) fun _ => parkForManualRepair_works hD h
  · refine .ite (fun _ => .pure trivial) fun _ => .ite (fun _ => ?_) fun _ =>
      parkForManualRepair_works hD h
    refine .bind (Writes.works fun hi => .setOperation hi (fun _ => ⟨rfl, rfl, rfl⟩)
      fun op _ hsound => ?_) fun _ s₁ _ => ?_
    · exact hsound.retained (.of_eq rfl) (hD.stamp hi.now) rfl rfl rfl ⟨rfl, rfl⟩
    · unfold schedule
      refine .read ?_ fun hi => ⟨hi, Kept.refl s₁⟩
      exact askNobody_works.mono (fun _ _ _ => trivial) fun _ _ _ => trivial

/-! ## the end before anything was rewound -/

include hD in
theorem releaseEach_does {message : Text} : ∀ (releases : List Release) (s : World),
    At s operation.restoreId .executing →
      Does E T C g operation.restoreId (releaseEach E operation message releases)
        (fun released s' => released = true → At s' operation.restoreId .executing) s
  | [], _, hat => .pure fun _ => hat
  | release :: releases, s, hat => by
    unfold releaseEach
    refine .bind postQuietly_does fun r s₁ h₁ => ?_
    split
    · exact releaseEach_does releases s₁ (h₁.at hat)
    · refine .bind (parkForManualRepair_works hD (blames_violation _)) fun _ s₂ _ => ?_
      exact .pure nofun

include hD in
/-- an execution that has failed before anything was rewound -/
theorem Sound.refused {op : OperationRow} {now : Int} {code : Restore.RestoreErrorCode}
    {message : Text} (h : Sound E C s op) (hnow : T now) (hst : op.stage.standing = .executing) :
    Sound E C s { op with
      phase := .failed
      stage := .failed
      blockerJson := some [{ code, message := message.val, participantId := none, txId := none }]
      completedAt := some (isoOf E now)
      updatedAt := isoOf E now } := by
  refine ⟨{ h.timed with updatedAt := hD.stamp hnow, completedAt := fun t ht => ?_ },
    .inr ((h.running hst).1.rewrite rfl rfl rfl rfl fun b hb => ?_), rfl⟩
  · cases ht
    exact hD.stamp hnow
  · rw [List.mem_singleton.mp hb]
    exact message.property

include hD in
theorem failBeforeRestore_does {code : Restore.RestoreErrorCode} {message : Text}
    (hat : At s operation.restoreId .executing) :
    Does E T C g operation.restoreId (failBeforeRestore E operation code message)
      (fun _ _ => True) s := by
  unfold failBeforeRestore
  refine read_does (.bind (releaseEach_does hD _ s hat) fun released s₁ h₁ => ?_)
  refine .ite (fun hreleased => ?_) fun _ => .pure trivial
  refine .bind (releaseEach_does hD _ s₁ (h₁ hreleased)) fun released' s₂ h₂ => ?_
  refine .ite (fun hreleased' => ?_) fun _ => .pure trivial
  refine (Writes.works fun hi => (Writes.openGate operation.restoreId hi).trans ?_).mono (fun _ _ _ => trivial)
    fun _ _ => id
  obtain ⟨op, hop, hst⟩ := h₂ hreleased'
  refine .setOperation hi.openGate (fun _ => ⟨rfl, rfl, rfl⟩) fun op' hop' hsound => ?_
  unfold World.operation at hop hop'
  rw [openGate_operations, hop] at hop'
  cases hop'
  exact hsound.refused hD hi.now hst

include hD in
/-- a piece whose fatal errors end the restore -/
theorem orFailBefore_does {p : Coord α} {next : α → Coord Unit}
    (hat : At s operation.restoreId .executing) (hp : Asks E T C g operation.restoreId p s)
    (hnext : ∀ a s', At s' operation.restoreId .executing →
      Does E T C g operation.restoreId (next a) (fun _ _ => True) s') :
    Does E T C g operation.restoreId (orFailBefore E operation p next) (fun _ _ => True) s := by
  unfold orFailBefore
  refine .bind hp.attempt fun r s₁ h₁ => ?_
  cases r with
  | ok a => exact hnext a s₁ ((h₁.1 a rfl).at hat)
  | error e =>
    obtain ⟨hblames, hquiet⟩ := h₁.2 e rfl
    dsimp only
    split
    · exact failBeforeRestore_does hD (hquiet.at hat)
    · exact .throw hblames

/-! ## fences -/

theorem fenceEachCatalog_asks : ∀ (is : List Nat) (s : World),
    Asks E T C g operation.restoreId (fenceEachCatalog operation is) s
  | [], _ => pure_asks
  | i :: is, s => by
    unfold fenceEachCatalog
    split
    · exact throw_asks
    · exact postToStub_asks.bind fun _ s₁ _ => fenceEachCatalog_asks is s₁

include hD in
theorem fenceCatalogs_does (hat : At s operation.restoreId .executing) :
    Does E T C g operation.restoreId (fenceCatalogs E operation) (fun _ _ => True) s := by
  unfold fenceCatalogs
  refine orFailBefore_does hD hat readCatalogProof_asks fun proof s₁ hat₁ => ?_
  refine .ite (fun _ => failBeforeRestore_does hD hat₁) fun _ => ?_
  refine orFailBefore_does hD hat₁ (fenceEachCatalog_asks _ s₁) fun _ s₂ hat₂ => ?_
  exact advance_done hat₂ (fun _ => ⟨rfl, rfl, rfl⟩) fun op _ hnow hsound hst =>
    hsound.executing hst (.of_eq rfl) (hD.stamp hnow) rfl (.inl rfl)

include hD in
theorem fenceNextParticipant_does (hat : At s operation.restoreId .executing) :
    Does E T C g operation.restoreId (fenceNextParticipant E operation) (fun _ _ => True) s := by
  unfold fenceNextParticipant
  refine read_does ?_
  split
  · refine .ite (fun _ => failBeforeRestore_does hD hat) fun _ => ?_
    exact advance_done hat (fun _ => ⟨rfl, rfl, rfl⟩) fun op _ hnow hsound hst =>
      hsound.executing hst (.of_eq rfl) (hD.stamp hnow) rfl (.inl rfl)
  · refine orFailBefore_does hD hat postToStub_asks fun result s₁ hat₁ => ?_
    split
    · rename_i closedThrough _ hclosed _
      refine .mono (setParticipant_does hat₁ (by decide) fun p t ht => .inr ?_)
        (fun _ _ _ => trivial) fun _ _ => id
      cases ht
      exact hD.stamp_of_canonical hclosed
    · exact .throw (blames_violation _)

/-- an operation and the gate move on together -/
theorem advance_gated {standing : Standing} {f : World → OperationRow → OperationRow} {phase : Phase}
    {hf : ∀ s op, (f s op).restoreId = op.restoreId} (hat : At s restoreId standing)
    (hk : ∀ op, (f s op).parameterHash = op.parameterHash ∧ (f s op).fleetId = op.fleetId
      ∧ (f s op).cutoff = op.cutoff)
    (h : ∀ op, T s.now → Sound E C s op → op.stage.standing = standing → Sound E C s (f s op)) :
    Does E T C g restoreId
      (.modify fun s => (s.setOperation restoreId (f s) (hf s)).setGatePhase restoreId phase)
      (fun _ _ => True) s := by
  obtain ⟨op, hop, hst⟩ := hat
  have hsection : Inv E T C s → Writes E T C s (s.setOperation restoreId (f s) (hf s)) := by
    intro hi
    refine .setOperation hi hk fun op' hop' hsound => ?_
    rw [hop] at hop'
    cases hop'
    exact h op hi.now hsound hst
  exact (Writes.works fun hi => (hsection hi).setGatePhase).mono (fun _ _ _ => trivial) fun _ _ => id

include hD in
theorem revalidateNextParticipant_does (hat : At s operation.restoreId .executing) :
    Does E T C g operation.restoreId (revalidateNextParticipant E operation) (fun _ _ => True) s := by
  unfold revalidateNextParticipant
  refine read_does ?_
  split
  · exact advance_gated hat (fun _ => ⟨rfl, rfl, rfl⟩) fun op hnow hsound hst =>
      hsound.executing hst (.of_eq rfl) (hD.stamp hnow) rfl (.inr rfl)
  · refine .bind postToStub_does fun current s₁ h₁ => ?_
    refine .ite (fun _ => failBeforeRestore_does hD (h₁.at hat)) fun _ => ?_
    exact setParticipant_done (h₁.at hat) (by decide) fun _ => rfl

/-! ## what is lost -/

omit hD in
/-- a coordinator that was asked what it has lost -/
theorem Inv.setWork {coordinatorId : Text} {f : WorkRow → WorkRow}
    (hf : ∀ w, ((f w).restoreId, (f w).coordinatorId) = (w.restoreId, w.coordinatorId))
    (hs : Inv E T C s) (h : ∀ w t, (f w).closedThrough = some t → w.closedThrough = some t ∨
      Stamp E.platform.dates (-maxTimeMs) t) :
    Inv E T C (s.setWork restoreId coordinatorId f hf) where
  now := hs.now
  sound op hop := (hs.sound op hop).rows fun _ => ⟨fun _ hp _ => hp, fun _ hr _ => hr⟩
  participants := hs.participants
  work w hw t ht := by
    obtain ⟨w₀, hw₀, rfl⟩ := (Capped.mem_updateWhere hf).mp hw
    split at ht
    · rcases h w₀ t ht with hold | hnew
      · exact hs.work w₀ hw₀ t hold
      · exact hnew
    · exact hs.work w₀ hw₀ t ht
  sent := hs.sent

omit hD in
theorem setWork_does {coordinatorId : Text} {f : WorkRow → WorkRow}
    {hf : ∀ w, ((f w).restoreId, (f w).coordinatorId) = (w.restoreId, w.coordinatorId)}
    (h : ∀ w t, (f w).closedThrough = some t → w.closedThrough = some t ∨
      Stamp E.platform.dates (-maxTimeMs) t) :
    Does E T C g restoreId (.modify fun s => s.setWork restoreId coordinatorId f hf)
      (fun _ _ => True) s :=
  .mono (modify_does rfl fun hi => ⟨hi.setWork hf h, .same rfl⟩) (fun _ _ _ => trivial)
    fun _ _ => id

omit hD in
theorem writeLoss_does {participantId : JsString} : ∀ (entries : List JsonValue) (s : World),
    At s restoreId .executing → Does E T C g restoreId (writeLoss E restoreId participantId entries)
      (fun _ s' => At s' restoreId .executing) s
  | [], s, hat => .pure hat
  | entry :: entries, s, hat => by
    unfold writeLoss
    refine .bind .pause fun _ s₁ h₁ => ?_
    have hat₁ := Quiet.at h₁ hat
    refine .bind (insert_does fun s' hs' hi => ?_) fun _ s₂ h₂ => writeLoss_does entries s₂ h₂
    obtain ⟨lossEntries, -, hs'⟩ := Option.bind_eq_some_iff.mp hs'
    cases hs'
    exact ⟨⟨hi.same ⟨rfl, rfl, rfl, rfl, rfl, rfl⟩, .same rfl⟩, rfl, hat₁⟩

omit hD in
theorem participantLoss_does {participant : ParticipantRow}
    (hat : At s operation.restoreId .executing) :
    Does E T C g operation.restoreId (participantLoss E operation participant) (fun _ _ => True) s := by
  unfold participantLoss
  refine .bind postToStub_does fun result s₁ h₁ => ?_
  split
  · exact .throw (blames_violation _)
  · refine .bind (writeLoss_does _ s₁ (h₁.at hat)) fun _ s₂ hat₂ => ?_
    refine .bind throwIf_does fun _ s₃ h₃ => ?_
    subst h₃
    exact setParticipant_done hat₂ (by decide) fun _ => rfl

include hD in
theorem coordinatorLoss_does {work : WorkRow} (hat : At s operation.restoreId .executing) :
    Does E T C g operation.restoreId (coordinatorLoss E operation work) (fun _ _ => True) s := by
  unfold coordinatorLoss
  refine read_does (.bind postToStub_does fun result s₁ h₁ => ?_)
  split
  · split
    · exact .throw (blames_violation _)
    · rename_i closedThrough hclosed
      refine .bind (writeLoss_does _ s₁ (h₁.at hat)) fun _ s₂ _ => ?_
      refine setWork_does fun w t ht => .inr ?_
      cases ht
      exact hD.stamp_of_canonical hclosed
  · exact .throw (blames_violation _)

include hD in
theorem materializeNextLossPage_does (hat : At s operation.restoreId .executing) :
    Does E T C g operation.restoreId (materializeNextLossPage E operation) (fun _ _ => True) s := by
  unfold materializeNextLossPage
  refine read_does ?_
  split
  · exact participantLoss_does hat
  · split
    · exact coordinatorLoss_does hD hat
    · exact advance_done hat (fun _ => ⟨rfl, rfl, rfl⟩) fun op _ hnow hsound hst =>
        hsound.executing hst (.of_eq rfl) (hD.stamp hnow) rfl (.inl rfl)

/-! ## rewinding -/

omit hD in
theorem applyQuietly_does {participant : ParticipantRow} {rest : List (String × JsonValue)} :
    Does E T C g operation.restoreId (applyQuietly operation participant rest)
      (fun _ _ => True) s := by
  unfold applyQuietly
  exact .bind postQuietly_does fun _ _ _ => .pure trivial

omit hD in
theorem stageParticipant_does {participant : ParticipantRow}
    (hat : At s operation.restoreId .executing) :
    Does E T C g operation.restoreId (stageParticipant operation participant)
      (fun _ _ => True) s := by
  unfold stageParticipant
  refine .bind postToStub_does fun result s₁ h₁ => ?_
  split
  · exact .throw (blames_violation _)
  · exact setParticipant_done (h₁.at hat) (by decide) fun _ => rfl

omit hD in
theorem rehearse_does : Does E T C g restoreId (rehearse E restoreId) (fun _ _ => True) s := by
  unfold rehearse
  refine read_does (.ite (fun _ => ?_) fun _ => .pure trivial)
  refine .bind (modify_does rfl fun hi => ⟨hi.same ⟨rfl, rfl, rfl, rfl, rfl, rfl⟩, .same rfl⟩)
    fun _ s₁ _ => ?_
  exact .throw (blames_violation _)

omit hD in
theorem verifyActivation_does {participant : ParticipantRow}
    (hat : At s operation.restoreId .executing) :
    Does E T C g operation.restoreId (verifyActivation E operation participant)
      (fun _ _ => True) s := by
  unfold verifyActivation
  refine .bind postToStub_does fun result s₁ h₁ => ?_
  refine .ite (fun _ => .ite (fun _ => applyQuietly_does) fun _ => .pure trivial) fun _ => ?_
  refine .bind throwIf_does fun _ s₂ h₂ => ?_
  subst h₂
  exact .bind (setParticipant_done (h₁.at hat) (by decide) fun _ => rfl) fun _ _ _ => rehearse_does

include hD in
theorem restoreNextParticipant_does (hat : At s operation.restoreId .executing) :
    Does E T C g operation.restoreId (restoreNextParticipant E operation) (fun _ _ => True) s := by
  unfold restoreNextParticipant
  refine read_does ?_
  split
  · exact advance_gated hat (fun _ => ⟨rfl, rfl, rfl⟩) fun op hnow hsound hst =>
      hsound.executing hst (.of_eq rfl) (hD.stamp hnow) rfl (.inr rfl)
  · split
    · exact stageParticipant_does hat
    · exact .bind (setParticipant_done hat (by decide) fun _ => rfl) fun _ _ _ => applyQuietly_does
    · exact verifyActivation_does hat
    · exact .throw (blames_violation _)

end
end FleetRestore
