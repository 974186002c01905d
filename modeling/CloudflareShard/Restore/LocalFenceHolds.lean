import CloudflareShard.Restore.LocalFence

/-!
# A fence is released only where nothing has been staged

The guard of a release reads the phase of the row.  The phase keeps a trace of staging as long as no
install writes over it and nothing else takes the row away.

* `Held`, `Sound`        staging under a fence is on record; what holds of every store;
* `fenceTerms`           the answers on which that is so;
* `localFence_obeys`     every call keeps it;
* `release_unstaged`     **what a release and an install can do in every run on these terms**.
-/

namespace LocalFence
open Async

/-! ## the phases -/

/-- a call that stages or applies has written the phase -/
def StagingBegun (phase : String) : Prop :=
  phase ∈ ["staging", "staged", "undo-staging", "undo-staged", "applying"]

def StagedOrApplying (phase : String) : Prop := phase ∈ ["staged", "undo-staged", "applying"]

instance (phase : String) : Decidable (StagingBegun phase) := List.instDecidableMemOfLawfulBEq ..
instance (phase : String) : Decidable (StagedOrApplying phase) := List.instDecidableMemOfLawfulBEq ..

def phaseRank : String → Nat
  | "staging" | "undo-staging" => 1
  | "staged" | "undo-staged" => 2
  | "applying" => 3
  | _ => 0

/-- a watermark that there was is gone, or lies earlier -/
def isEarlier (after before : Option Nat) : Bool := before.any fun ms => after.all (· < ms)

/-- the row of a staged or applying shard is moved backwards -/
def Setback (before after : RestoreState) : Prop :=
  StagedOrApplying before.phase ∧
    (phaseRank after.phase < phaseRank before.phase ∨
      isEarlier after.closedThroughMs before.closedThroughMs)

instance (before after : RestoreState) : Decidable (Setback before after) :=
  inferInstanceAs (Decidable (_ ∧ (_ ∨ _)))

theorem StagedOrApplying.begun {phase : String} (h : StagedOrApplying phase) : StagingBegun phase := by
  simp only [StagedOrApplying, List.mem_cons, List.not_mem_nil, or_false] at h
  rcases h with rfl | rfl | rfl <;> decide

theorem not_begun_of_releasable {phase : String} (h : isReleasable phase) : ¬StagingBegun phase := by
  have hphase : phase = "fenced" ∨ phase = "install" := by simpa [isReleasable] using h
  rcases hphase with rfl | rfl <;> decide

theorem Staging.phase_begun (staging : Staging) : StagingBegun staging.phase := by
  cases staging <;> decide

theorem Staging.completedPhase_begun (staging : Staging) : StagingBegun staging.completedPhase := by
  cases staging <;> decide

/-! ## what is on record -/

/-- a row says that staging has begun under the fence, unless the row was taken away -/
def Held (fence : FenceId) (s : FenceStore) : Prop :=
  fence ∈ s.removed ∨
    ∃ row, s.restoreState = some row ∧ row.fence = fence ∧ StagingBegun row.phase

/-- the watermark of a row is not in the future -/
def Closed (now : Nat) (row : Option RestoreState) : Prop :=
  ∀ r, row = some r → ∀ ms, r.closedThroughMs = some ms → ms ≤ now

structure Sound (s : FenceStore) : Prop where
  staged : ∀ fence ∈ s.staged, Held fence s
  closed : Closed s.now s.restoreState
  history : ∀ bookmark, Closed s.now (s.history bookmark)
  releases : ∀ r ∈ s.releases, r.staged = false
  reinstalls : ∀ p ∈ s.reinstalls, ¬Setback p.1 p.2

def fenceRules : Rules FenceStore where
  inv := Sound
  move s s' := (Sound s → Sound s') ∧ ∀ fence, Held fence s → Held fence s'
  move_refl _ := ⟨id, fun _ => id⟩
  inv_move h hm := hm.1 h

variable {s : FenceStore} {fence : FenceId} {phase : String} {target undo : Option Bookmark}

theorem held_stable (fence : FenceId) : fenceRules.Stable (Held fence) := fun _ hm h => hm.2 fence h

theorem mem_fenceOf {row : Option RestoreState} : fence ∈ fenceOf row ↔ ∃ r, row = some r ∧ r.fence = fence := by
  cases row <;> simp [fenceOf, eq_comm]

/-- a write that does not take back that staging has begun -/
theorem writeRestoreState_move (hp : ∀ row, s.restoreState = some row →
      StagingBegun row.phase → StagingBegun phase) :
    fenceRules.move s (writeRestoreState fence phase target undo s) := by
  have hheld : ∀ f, Held f s → Held f (writeRestoreState fence phase target undo s) := by
    intro f h
    rcases h with h | ⟨row, hrow, hf, hbegun⟩
    · exact .inl (List.mem_append_left _ h)
    · by_cases he : f = fence
      · exact .inr ⟨_, rfl, he.symm, hp row hrow hbegun⟩
      · refine .inl (List.mem_append_right _ (List.mem_filter.mpr ⟨?_, by simpa using he⟩))
        exact mem_fenceOf.mpr ⟨row, hrow, hf⟩
  refine ⟨fun h => ?_, hheld⟩
  refine ⟨fun f hf => hheld f (h.staged f hf), ?_, h.history, h.releases, h.reinstalls⟩
  intro r hr ms hms
  cases hr
  cases hms

theorem mem_reinstalls {write : FenceStore → FenceStore} {p : RestoreState × RestoreState}
    (hm : p ∈ (installing write s).reinstalls) :
    p ∈ s.reinstalls ∨ s.restoreState = some p.1 ∧ (write s).restoreState = some p.2 := by
  rcases List.mem_append.mp hm with hm | hm
  · exact .inl hm
  · obtain ⟨row, hrow, hp⟩ := Option.bind_eq_some_iff.mp (Option.mem_toList.mp hm)
    obtain ⟨after, hafter, rfl⟩ := Option.map_eq_some_iff.mp hp
    exact .inr ⟨hrow, hafter⟩

/-- such a write of an install, over a row under which staging has not begun -/
theorem install_move (hp : ∀ row, s.restoreState = some row → ¬StagingBegun row.phase) :
    fenceRules.move s (installing (writeRestoreState fence phase target undo) s) := by
  have hwrite : fenceRules.move s (writeRestoreState fence phase target undo s) :=
    writeRestoreState_move fun row hrow hbegun => absurd hbegun (hp row hrow)
  refine ⟨fun h => ?_, hwrite.2⟩
  have hw := hwrite.1 h
  refine ⟨hw.staged, hw.closed, hw.history, hw.releases, fun p hm => ?_⟩
  rcases mem_reinstalls hm with hm | ⟨hbefore, -⟩
  · exact h.reinstalls p hm
  · exact fun hback => hp p.1 hbefore hback.1.begun

theorem closeThrough_move {bookmark : Bookmark} :
    fenceRules.move s (installing (closeThrough bookmark) s) := by
  have hheld : ∀ f, Held f s → Held f (installing (closeThrough bookmark) s) := by
    intro f h
    rcases h with h | ⟨row, hrow, hf, hbegun⟩
    · exact .inl h
    · have hrow' : (installing (closeThrough bookmark) s).restoreState = some { row with
          closedThroughMs := some s.now, closedThroughBookmark := some bookmark } :=
        congrArg (Option.map _) hrow
      exact .inr ⟨_, hrow', hf, hbegun⟩
  refine ⟨fun h => ?_, hheld⟩
  refine ⟨fun f hf => hheld f (h.staged f hf), ?_, h.history, h.releases, fun p hm => ?_⟩
  · intro r hr ms hms
    obtain ⟨row, hrow, rfl⟩ := Option.map_eq_some_iff.mp hr
    cases hms
    exact Nat.le_refl _
  · rcases mem_reinstalls hm with hm | ⟨hbefore, hafter⟩
    · exact h.reinstalls p hm
    · obtain ⟨row, hrow, hrow'⟩ := Option.map_eq_some_iff.mp hafter
      rw [hbefore] at hrow
      cases hrow
      rintro ⟨-, hback⟩
      rw [← hrow'] at hback
      rcases hback with hlt | hearlier
      · exact Nat.lt_irrefl _ hlt
      · -- the watermark is the present time
        obtain ⟨ms, hms, hlt⟩ := (Option.any_eq_true ..).mp hearlier
        exact Nat.not_lt_of_le (h.closed p.1 hbefore ms hms) (by simpa using hlt)

theorem recordArming_move {target : Bookmark} {armed : Bool} (hheld : Held fence s) :
    fenceRules.move s (recordArming fence target armed s) := by
  unfold recordArming
  cases armed with
  | false => exact fenceRules.move_refl s
  | true =>
    refine ⟨fun h => ⟨fun f hf => ?_, h.closed, h.history, h.releases, h.reinstalls⟩, fun _ => id⟩
    rcases List.mem_append.mp hf with hf | hf
    · exact h.staged f hf
    · rw [List.mem_singleton.mp hf]
      exact hheld

theorem removeRestoreState_held {f : FenceId} (h : Held f s) : f ∈ (removeRestoreState s).removed := by
  rcases h with h | ⟨row, hrow, hf, -⟩
  · exact List.mem_append_left _ h
  · exact List.mem_append_right _ (mem_fenceOf.mpr ⟨row, hrow, hf⟩)

theorem removeRestoreState_move : fenceRules.move s (removeRestoreState s) :=
  ⟨fun h => ⟨fun f hf => .inl (removeRestoreState_held (h.staged f hf)), nofun, h.history, h.releases,
    h.reinstalls⟩, fun _ h => .inl (removeRestoreState_held h)⟩

theorem restart_move : fenceRules.move s s.restart := by
  unfold FenceStore.restart
  split
  · exact fenceRules.move_refl s
  · exact ⟨fun h => ⟨fun f hf => .inl (removeRestoreState_held (h.staged f hf)), h.history _, h.history,
      h.releases, h.reinstalls⟩, fun _ h => .inl (removeRestoreState_held h)⟩

/-- the row of a release says that staging has not begun -/
theorem recordRelease_move (hremoved : fence ∉ s.removed)
    (hphase : s.restoreState.any (!isReleasable ·.phase) = false) :
    fenceRules.move s (recordRelease fence s) := by
  have hclear : ∀ row, s.restoreState = some row → ¬StagingBegun row.phase := by
    intro row hrow
    rw [hrow] at hphase
    exact not_begun_of_releasable (by simpa using hphase)
  have hheld : ∀ f, Held f s → f ∈ s.removed := by
    intro f h
    rcases h with h | ⟨row, hrow, -, hbegun⟩
    · exact h
    · exact absurd hbegun (hclear row hrow)
  refine ⟨fun h => ⟨fun f hf => .inl (hheld f (h.staged f hf)), nofun, h.history, fun r hr => ?_,
    h.reinstalls⟩, fun f hf => .inl (hheld f hf)⟩
  rcases List.mem_append.mp hr with hr | hr
  · exact h.releases r hr
  · rw [List.mem_singleton.mp hr]
    refine Bool.eq_false_iff.mpr fun hstaged => hremoved ?_
    exact hheld fence (h.staged fence (by simpa using hstaged))

theorem outside_move (event : Outside) : fenceRules.move s (event.apply s) := by
  cases event with
  | tick ms =>
    have later : ∀ {row}, Closed s.now row → Closed (s.now + ms) row := fun h r hr t ht =>
      Nat.le_trans (h r hr t ht) (Nat.le_add_right _ _)
    exact ⟨fun h => ⟨h.staged, later h.closed, fun b => later (h.history b), h.releases,
      h.reinstalls⟩, fun _ => id⟩
  | bookmarked bookmark =>
    refine ⟨fun h => ⟨h.staged, h.closed, fun b => ?_, h.releases, h.reinstalls⟩, fun _ => id⟩
    show Closed s.now (Function.update s.history bookmark s.restoreState b)
    by_cases hb : b = bookmark
    · rw [hb, Function.update_self]
      exact h.closed
    · rw [Function.update_of_ne hb]
      exact h.history b

/-! ## the calls -/

/-- What the answers are on: an install writes when the provider has named the head before it, and
then staging has not begun; and the authority confirms no release of a fence whose row something else
took away. -/
def fenceTerms : Terms FenceStore Ask Ask.Answer ControlRequest Outside where
  accept _ := True
  ok
    | .restoreFence _, .getCurrentBookmark .preFence, _, s =>
      ∀ row, s.restoreState = some row → ¬StagingBegun row.phase
    | .restoreFence body, .restoreGateSnapshot fence, .snapshot gate, s =>
      body.action = some "release" → gate.holds fence → fence ∉ s.removed
    | _, _, _, _ => True
  event _ _ := True

/-- a piece of the handler of `request` -/
abbrev Does {α : Type} (request : ControlRequest) (p : Sh α) (post : α → FenceStore → Prop)
    (s : FenceStore) : Prop := fenceRules.Does (fenceTerms.ok request) p post s

variable {request : ControlRequest} {body : ControlBody}

theorem gets_does {α : Type} {f : FenceStore → α} :
    Does request (gets f) (fun a s' => s' = s ∧ a = f s) s :=
  Rules.Does.step (fun _ => fenceRules.move_refl s) (Rules.Does.pure ⟨rfl, rfl⟩)

theorem askGate_does :
    Does request (askGate fence) (fun gate s' => gate.holds fence ∧
      fenceTerms.ok request (.restoreGateSnapshot fence) (.snapshot gate) s') s := by
  refine Rules.Does.call fun s' reply _ hok => ?_
  cases reply with
  | unconfigured => exact Rules.Does.throw
  | failed => exact Rules.Does.throw
  | snapshot gate =>
    dsimp only
    split
    · rename_i hholds
      exact Rules.Does.pure ⟨hholds, hok⟩
    · exact Rules.Does.throw

theorem matchingRestoreFence_does :
    Does request (matchingRestoreFence body) (fun r s' => r.2.holds r.1 ∧
      fenceTerms.ok request (.restoreGateSnapshot r.1) (.snapshot r.2) s') s := by
  unfold matchingRestoreFence
  split
  · exact askGate_does.bind fun gate _ _ hgate => Rules.Does.pure hgate
  · exact Rules.Does.throw

theorem getCurrentBookmark_does {use : BookmarkUse} :
    Does request (getCurrentBookmark use) (fun bookmark s' =>
      fenceTerms.ok request (.getCurrentBookmark use) (some bookmark) s') s := by
  refine Rules.Does.call fun s' bookmark _ hok => ?_
  cases bookmark with
  | none => exact Rules.Does.throw
  | some bookmark => exact Rules.Does.pure hok

theorem handleRestoreFence_does :
    Does (.restoreFence body) (handleRestoreFence body) (fun _ _ => True) s := by
  refine matchingRestoreFence_does.bind fun r s₁ _ hgate => ?_
  obtain ⟨fence, gate⟩ := r
  refine gets_does.bind fun existing s₂ _ h => ?_
  obtain ⟨rfl, rfl⟩ := h
  split
  · exact Rules.Does.throw
  · split
    · rename_i hrelease
      split
      · exact Rules.Does.throw
      · rename_i hphase
        have hremoved : fence ∉ s₂.removed := hgate.2 hrelease hgate.1
        refine (Rules.Does.modify fun _ => ?_).bind fun _ _ _ _ => Rules.Does.pure trivial
        exact recordRelease_move hremoved (Bool.eq_false_iff.mpr hphase)
    · refine getCurrentBookmark_does.bind fun preFenceBookmark s₃ _ hclear => ?_
      refine (Rules.Does.modify fun _ => install_move hclear).bind fun _ s₄ _ _ => ?_
      refine getCurrentBookmark_does.bind fun closedThroughBookmark s₅ _ _ => ?_
      refine gets_does.bind fun closedThroughMs s₆ _ _ => ?_
      refine (Rules.Does.modify fun _ => closeThrough_move).bind fun _ _ _ _ => ?_
      exact Rules.Does.pure trivial

/-- the row says that staging has begun, until it is taken away -/
theorem arm_does {staging : Staging} {target : Bookmark} {existing : Option RestoreState} :
    Does request (arm staging body fence target existing) (fun _ _ => True) s := by
  have hwrite : Does request (.modify (writeRestoreState fence staging.phase (some target)
      (existing.bind (·.undoBookmark)))) (fun _ s' => Held fence s') s := by
    refine (Rules.Does.modify fun _ => ?_).mono fun _ s' hs => ?_
    · exact writeRestoreState_move fun _ _ _ => staging.phase_begun
    · rw [hs]
      exact .inr ⟨_, rfl, rfl, staging.phase_begun⟩
  refine hwrite.bind fun _ s₁ _ hheld => ?_
  refine Rules.Does.call fun s₂ arming hlater _ => ?_
  have hheld : Held fence s₂ := Rules.Stable.later (held_stable fence) hlater hheld
  refine (Rules.Does.modify fun _ => recordArming_move hheld).bind fun _ s₃ _ _ => ?_
  split
  · exact Rules.Does.throw
  · refine matchingRestoreFence_does.bind fun _ s₄ _ _ => ?_
    refine (Rules.Does.modify fun _ => ?_).bind fun _ _ _ _ => Rules.Does.pure trivial
    exact writeRestoreState_move fun _ _ _ => staging.completedPhase_begun

theorem stagePitrBookmark_does {staging : Staging} :
    Does request (stagePitrBookmark staging body) (fun _ _ => True) s := by
  refine matchingRestoreFence_does.bind fun r s₁ _ _ => ?_
  obtain ⟨fence, gate⟩ := r
  dsimp only
  split
  · exact Rules.Does.throw
  · refine gets_does.bind fun existing s₂ _ _ => ?_
    split
    · exact Rules.Does.throw
    · split
      · exact Rules.Does.throw
      · split
        · exact Rules.Does.pure trivial
        · split
          · exact Rules.Does.throw
          · exact arm_does

theorem handlePitrApply_does : Does request (handlePitrApply body) (fun _ _ => True) s := by
  refine matchingRestoreFence_does.bind fun r s₁ _ _ => ?_
  refine gets_does.bind fun state s₂ _ _ => ?_
  split
  · exact Rules.Does.throw
  · refine (Rules.Does.modify fun _ => ?_).bind fun _ _ _ _ => Rules.Does.stuck
    exact writeRestoreState_move fun _ _ _ => by decide

theorem handlePitrRelease_does : Does request (handlePitrRelease body) (fun _ _ => True) s := by
  refine matchingRestoreFence_does.bind fun r s₁ _ _ => ?_
  refine (Rules.Does.modify fun _ => removeRestoreState_move).bind fun _ _ _ _ => ?_
  exact Rules.Does.pure trivial

theorem localFence_obeys : Obeys fenceRules localFence fenceTerms where
  handler request s _ := by
    cases request with
    | restoreFence body => exact handleRestoreFence_does
    | pitrStage body => exact stagePitrBookmark_does
    | pitrUndo body => exact gets_does.bind fun _ _ _ _ => stagePitrBookmark_does
    | pitrApply body => exact handlePitrApply_does
    | pitrRelease body => exact handlePitrRelease_does
  event event _ _ _ := outside_move event
  restart _ _ := restart_move

/-! ## runs -/

/-- nothing has been staged or released so far -/
structure Unstaged (s : FenceStore) : Prop where
  staged : s.staged = []
  closed : Closed s.now s.restoreState
  history : ∀ bookmark, Closed s.now (s.history bookmark)
  releases : s.releases = []
  reinstalls : s.reinstalls = []

theorem Unstaged.sound (h : Unstaged s) : Sound s where
  staged := by simp [h.staged]
  closed := h.closed
  history := h.history
  releases := by simp [h.releases]
  reinstalls := by simp [h.reinstalls]

/-- **A fence is released only where nothing has been staged.**  In every run in which no install
meets a row under which staging has begun, and no release comes after something else took the row of
its fence away, a release succeeds only when no bookmark has been armed since the fence was
installed, and no install moves a staged or applying shard backwards. -/
theorem release_unstaged (s₀ : FenceStore) (h₀ : Unstaged s₀)
    (xs : List (Choice Ask Ask.Answer ControlRequest Outside))
    (hxs : localFence.Meets (fun c x => x.Allowed localFence fenceTerms c) ⟨s₀, []⟩ xs) :
    (∀ r ∈ (localFence.run ⟨s₀, []⟩ xs).store.releases, r.staged = false) ∧
      ∀ p ∈ (localFence.run ⟨s₀, []⟩ xs).store.reinstalls, ¬Setback p.1 p.2 := by
  rw [← List.append_nil xs] at hxs
  have hsound := (localFence_obeys.reachable h₀.sound hxs).1
  exact ⟨hsound.releases, hsound.reinstalls⟩

/-! ## an install after staging -/

def noRestore : FenceStore :=
  { restoreState := none, armed := none, history := fun _ => none, now := 0
    staged := [], removed := [], releases := [], reinstalls := [] }

/-- the authority holds the fence of the first restore, the provider answers -/
def answering (phase : String) : ∀ q : Ask, q.Answer
  | .restoreGateSnapshot _ =>
    .snapshot { fenced := true, restoreId := some "r", generation := 1, phase := some phase }
  | .getCurrentBookmark _ => some "head"
  | .stageRestoreBookmark _ _ => { armed := true, undoBookmark := some "undo" }

def controlBody (action : String) : ControlBody :=
  { restoreId := some "r", generation := some 1, action := some action
    targetBookmark := some "target" }

/-- the `i`-th call arrives, and gets `n` answers -/
def called (i n : Nat) (request : ControlRequest) (phase : String) :
    List (Choice Ask Ask.Answer ControlRequest Outside) :=
  .run (.arrive request) :: List.replicate n (.run (.resume i (answering phase)))

def install (i : Nat) := called i 3 (.restoreFence (controlBody "install")) "fenced"
def stage (i : Nat) := called i 3 (.pitrStage (controlBody "")) "restoring"
def release (i : Nat) := called i 1 (.restoreFence (controlBody "release")) "fenced"

/-- **a fence is released while a bookmark is armed**, after an install that came twice and moved the
staged shard backwards -/
theorem release_armed :
    (localFence.run ⟨noRestore, []⟩ (install 0 ++ stage 1 ++ install 2 ++ release 3)).store.releases =
        [⟨⟨"r", 1⟩, true⟩] ∧
      (localFence.run ⟨noRestore, []⟩ (install 0 ++ stage 1 ++ install 2 ++ release 3)).store.armed =
        some "target" ∧
      ∃ p ∈ (localFence.run ⟨noRestore, []⟩ (install 0 ++ stage 1 ++ install 2)).store.reinstalls,
        Setback p.1 p.2 := by
  decide +kernel

/-- a restore is given up after its install was sent twice; another one comes as far as the restart -/
def restored : List (Choice Ask Ask.Answer ControlRequest Outside) :=
  install 0 ++ install 1 ++ release 2 ++ install 3 ++ stage 4 ++
    [.run (.arrive (.pitrApply (controlBody ""))), .crash (.resume 5 (answering "restoring")) 2]

def checksTerms : ∀ q : Ask, q.Answer → FenceStore → Bool
  | .getCurrentBookmark .preFence, _, s => s.restoreState.all fun row => !StagingBegun row.phase
  | .restoreGateSnapshot fence, _, s => !s.removed.contains fence
  | _, _, _ => true

theorem terms_of_checks {q : Ask} {a : q.Answer} (h : checksTerms q a s) : fenceTerms.ok request q a s := by
  cases q with
  | stageRestoreBookmark fence target => cases request <;> trivial
  | restoreGateSnapshot fence =>
    have hremoved : fence ∉ s.removed := by simpa [checksTerms] using h
    cases request <;> cases a <;> first | trivial | exact fun _ _ => hremoved
  | getCurrentBookmark use =>
    cases use with
    | closedThrough => cases request <;> trivial
    | preFence =>
      cases request with
      | restoreFence body =>
        intro row hrow
        simpa [checksTerms, hrow] using h
      | _ => trivial

theorem restored_unstaged :
    ((localFence.run ⟨noRestore, []⟩ restored).store.releases = [⟨⟨"r", 1⟩, false⟩] ∧
      (localFence.run ⟨noRestore, []⟩ restored).store.staged = [⟨"r", 1⟩]) ∧
    (∀ r ∈ (localFence.run ⟨noRestore, []⟩ restored).store.releases, r.staged = false) ∧
      ∀ p ∈ (localFence.run ⟨noRestore, []⟩ restored).store.reinstalls, ¬Setback p.1 p.2 := by
  refine ⟨by decide +kernel, release_unstaged noRestore ⟨rfl, nofun, fun _ => nofun, rfl, rfl⟩ restored ?_⟩
  refine System.meets_of_checks (fun _ => trivial) (fun _ _ => trivial)
    (fun _ _ _ _ h => terms_of_checks h) ?_
  decide +kernel

end LocalFence
