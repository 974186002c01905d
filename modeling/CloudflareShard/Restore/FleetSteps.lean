import CloudflareShard.Restore.FleetSound

/-!
# The stages before there is a plan

* `Blames`, `Answered`, `Does`   a piece of work on an operation, and what it may throw;
* `Asks`                         a piece that only asks others;
* `modify_does`, `insert_does`, `postToStub_asks` and the others   the rules they are proved by;
* `readCatalogProof_asks`, `closeManifest_does`, `enumerateManifest_does`,
  `materializeNextEnvelope_does`, `previewNextParticipant_does`   the stages.
-/

namespace FleetRestore
open Async Json Wire

/-- an exception without a message parks no execution -/
def Blames (restoreId : Text) (e : Thrown) (s : World) : Prop :=
  e = .other [] → ¬At s restoreId .executing

/-- no answer whose failure parks an execution is an exception without a message -/
def Answered (call : Call) (answer : call.Answer) (s : World) : Prop :=
  ∀ restoreId, call.work = some restoreId →
    (answer : Except JsString call.ask.Result) = .error [] → ¬At s restoreId .executing

/-- a piece of the work on an operation -/
abbrev Does {α : Type} (E : Env) (T : Int → Prop) (C : JsString → Prop) (g : Option Nat)
    (restoreId : Text) (p : Coord α) (post : α → World → Prop) (s : World) : Prop :=
  (guarded E T C).Works Answered g p post (Blames restoreId) s

/-- a piece that only asks others -/
abbrev Asks {α : Type} (E : Env) (T : Int → Prop) (C : JsString → Prop) (g : Option Nat)
    (restoreId : Text) (p : Coord α) (s : World) : Prop :=
  (guarded E T C).Works Answered g p (fun _ s' => Quiet s s')
    (fun e s' => Blames restoreId e s' ∧ Quiet s s') s

section
variable {E : Env} {T : Int → Prop} {C : JsString → Prop} {g : Option Nat} {restoreId : Text}
  {s s' : World} {α β : Type}

/-! ## rules -/

theorem blames_violation (v : Violation) : Blames restoreId (.violation v) s := nofun

theorem blames_of_at {standing : Standing} (h : At s restoreId standing)
    (hne : standing ≠ .executing) (e : Thrown) : Blames restoreId e s := by
  intro _ hat
  obtain ⟨op, hop, hst⟩ := h
  obtain ⟨op', hop', hst'⟩ := hat
  rw [hop] at hop'
  cases hop'
  exact hne (hst.symm.trans hst')

/-- errors that have something to say -/
def Named {α : Type} (x : Try α) : Prop := x ≠ .error (.other [])

theorem Named.bind {x : Try α} {f : α → Try β} (h : Named x) (hf : ∀ a, x = .ok a → Named (f a)) :
    Named (x >>= f) := by
  cases x with
  | ok a => exact hf a rfl
  | error e => exact fun hno => h (congrArg Except.error (Except.error.inj hno))

theorem named_ok (a : α) : Named (.ok a : Try α) := nofun

theorem named_fail (v : Violation) : Named (.error (.violation v) : Try α) := nofun

theorem named_failRestore (code : Restore.RestoreErrorCode) (message : Text) (details : Details) :
    Named (failRestore code message details : Try α) := nofun

theorem named_ite {condition : Prop} [Decidable condition] {x y : Try α} (hx : Named x)
    (hy : Named y) : Named (if condition then x else y) := by
  split
  · exact hx
  · exact hy

theorem named_refuseIf {condition : Bool} {code : Restore.RestoreErrorCode} {message : Text}
    {details : Details} : Named (refuseIf condition code message details) := by
  unfold refuseIf
  cases condition with
  | true => exact named_fail _
  | false => exact named_ok _

theorem other_ne {message : String} (h : message ≠ "") :
    (Thrown.other (utf16 message) : Thrown) ≠ .other [] :=
  fun hempty => utf16_ne_nil h (Thrown.other.inj hempty)

theorem named_stringOf (value : Field) : Named (foreignly (stringOf value)) := by
  unfold stringOf
  split
  · exact named_ok _
  · split
    · exact named_ok _
    · exact fun h => other_ne (by decide) (Except.error.inj h)

theorem throwIf_does {condition : Bool} {v : Violation} :
    Does E T C g restoreId (throwIf condition (.violation v)) (fun _ s' => s' = s) s := by
  unfold throwIf
  split
  · exact .throw (blames_violation v)
  · exact .pure rfl

theorem read_does {f : World → Coord β} {post : β → World → Prop}
    (h : Does E T C g restoreId (f s) post s) : Does E T C g restoreId (.read >>= f) post s :=
  .read h fun hi => ⟨hi, Kept.refl s⟩

theorem modify_does {upd : World → World} (hb : (upd s).mutations = s.mutations)
    (h : Inv E T C s → Inv E T C (upd s) ∧ Kept s (upd s)) :
    Does E T C g restoreId (.modify upd) (fun _ s' => s' = upd s) s :=
  .modify fun hi => ⟨h hi, hb⟩

theorem insert_does {f : World → Option World} {post : World → Prop}
    (h : ∀ s', f s = some s' → Inv E T C s →
      (Inv E T C s' ∧ Kept s s') ∧ s'.mutations = s.mutations ∧ post s') :
    Does E T C g restoreId (insert f) (fun _ s' => post s') s := by
  refine .transact (fun hi => ⟨hi, Kept.refl s⟩) (fun _ s' hs' hi => ?_) fun e he hempty => ?_
  · cases hf : f s with
    | none =>
      rw [hf] at hs'
      cases hs'
    | some s₁ =>
      rw [hf] at hs'
      cases hs'
      obtain ⟨hwork, hbarrier, hpost⟩ := h _ hf hi
      exact ⟨⟨hwork, hbarrier⟩, hpost⟩
  · split at he
    · cases he
    · refine absurd ?_ (other_ne (show "database or disk is full: SQLITE_FULL" ≠ "" by decide))
      exact (Except.error.inj he).trans hempty

/-! ## questions -/

theorem Asks.does {p : Coord α} (h : Asks E T C g restoreId p s) :
    Does E T C g restoreId p (fun _ s' => Quiet s s') s := h.mono (fun _ _ => id) fun _ _ h => h.1

theorem Asks.bind {p : Coord α} {f : α → Coord β} (hp : Asks E T C g restoreId p s)
    (hf : ∀ a s', Quiet s s' → Asks E T C g restoreId (f a) s') :
    Asks E T C g restoreId (p >>= f) s := by
  refine Guarded.Works.bind (hp.mono (fun _ _ => id) fun _ _ h => h) fun a s' h => ?_
  exact (hf a s' h).mono (fun _ _ h' => Quiet.trans h h') fun _ _ h' => ⟨h'.1, Quiet.trans h h'.2⟩

theorem ofExcept_asks {x : Try α} (h : Named x) : Asks E T C g restoreId (.ofExcept x) s := by
  refine .ofExcept (fun _ _ => Quiet.refl s) fun e he => ⟨fun hempty => ?_, Quiet.refl s⟩
  subst hempty
  exact absurd he h

theorem throwIf_asks {condition : Bool} {v : Violation} :
    Asks E T C g restoreId (throwIf condition (.violation v)) s := by
  unfold throwIf
  split
  · exact .throw ⟨blames_violation v, Quiet.refl s⟩
  · exact .pure (Quiet.refl s)

theorem pause_asks : Asks E T C g restoreId .pause s := .pause

theorem pure_asks {a : α} : Asks E T C g restoreId (.pure a) s := .pure (Quiet.refl s)

theorem throw_asks {v : Violation} :
    Asks E T C g restoreId (.throw (.violation v) : Coord α) s :=
  .throw ⟨blames_violation v, Quiet.refl s⟩

theorem ask_asks {q : Ask} :
    Asks E T C g restoreId (FleetRestore.ask (some restoreId) q) s := by
  show (guarded E T C).Works Answered g (Prog.ask (⟨some restoreId, q⟩ : Call) >>= _) _ _ _
  refine .bind .ask fun a s' h => ?_
  obtain ⟨hquiet, hanswer⟩ := h
  cases a with
  | ok result => exact .pure hquiet
  | error message =>
    refine .throw ⟨fun hempty => ?_, hquiet⟩
    cases hempty
    exact hanswer restoreId rfl rfl

theorem responseJson_named (response : Reply) (context : String) :
    Named (responseJson response context) := by
  unfold responseJson
  split
  · exact named_fail _
  · refine named_ite (named_ok _) ?_
    refine named_ite (named_failRestore _ _ _) ?_
    refine named_ite (named_failRestore _ _ _) ?_
    refine named_ite (named_ite (named_failRestore _ _ _) (named_failRestore _ _ _)) ?_
    refine named_ite ?_ (named_failRestore _ _ _)
    split <;> exact named_failRestore _ _ _
  · exact named_failRestore _ _ _

/-- a request to another object -/
theorem postToStub_asks {target : Target} {path : String} {body : JsonValue} :
    Asks E T C g restoreId (postToStub (some restoreId) target path body) s := by
  unfold postToStub
  refine ask_asks.bind fun r s' _ => ?_
  cases r with
  | none => exact throw_asks
  | some response => exact ofExcept_asks (responseJson_named response path)

theorem postToStub_does {target : Target} {path : String} {body : JsonValue} :
    Does E T C g restoreId (postToStub (some restoreId) target path body)
      (fun _ s' => Quiet s s') s := postToStub_asks.does

/-- what is asked for nobody -/
theorem askNobody_works {q : Ask} :
    (guarded E T C).Works Answered g (FleetRestore.ask none q) (fun _ s' => Quiet s s')
      (fun _ s' => Quiet s s') s := by
  show (guarded E T C).Works Answered g (Prog.ask (⟨none, q⟩ : Call) >>= _) _ _ _
  refine .bind .ask fun a s' h => ?_
  cases a with
  | ok result => exact .pure h.1
  | error message => exact .throw h.1

/-- a request whose failure is no failure of the operation -/
theorem postQuietly_does {target : Target} {path : String} {body : JsonValue} :
    Does E T C g restoreId (postToStub none target path body).attempt
      (fun _ s' => Quiet s s') s := by
  have hpost : (guarded E T C).Works Answered g (postToStub none target path body)
      (fun _ s' => Quiet s s') (fun _ s' => Quiet s s') s := by
    unfold postToStub
    refine .bind askNobody_works fun r s' hquiet => ?_
    cases r with
    | none => exact .throw hquiet
    | some response => exact .ofExcept (fun _ _ => hquiet) fun _ _ => hquiet
  refine hpost.attempt.mono (fun r s' h => ?_) fun _ _ => id
  cases r with
  | ok a => exact h.1 a rfl
  | error e => exact h.2 e rfl

theorem schedule_does {delayMs : Int} :
    Does E T C g restoreId (schedule (some restoreId) delayMs) (fun _ s' => Quiet s s') s := by
  unfold schedule
  exact read_does ask_asks.does

theorem schedule_done {delayMs : Int} :
    Does E T C g restoreId (schedule (some restoreId) delayMs) (fun _ _ => True) s :=
  schedule_does.mono (fun _ _ _ => trivial) fun _ _ => id

/-! ## stores that differ in little -/

/-- what the invariant reads is the same -/
structure Same (s s' : World) : Prop where
  now : s'.now = s.now
  operations : s'.operations = s.operations
  participants : s'.participants = s.participants
  records : s'.manifestRecords = s.manifestRecords
  work : s'.coordinatorWork = s.coordinatorWork
  sent : s'.sent = s.sent

theorem Inv.same (h : Inv E T C s) (hs : Same s s') : Inv E T C s' where
  now := hs.now ▸ h.now
  sound op hop := by
    rw [hs.operations] at hop
    refine (h.sound op hop).rows fun _ => ⟨fun p hp _ => ?_, fun r hr _ => ?_⟩
    · rwa [hs.participants] at hp
    · rwa [hs.records] at hr
  participants := hs.participants ▸ h.participants
  work := hs.work ▸ h.work
  sent := hs.sent ▸ h.sent

theorem Kept.same (h : s'.operations = s.operations) : Kept s s' := by
  intro restoreId op hop
  refine ⟨op, ?_, rfl, rfl, rfl⟩
  unfold World.operation at hop ⊢
  rw [h]
  exact hop

theorem setGatePhase_operations {phase : Phase} :
    (s.setGatePhase restoreId phase).operations = s.operations := by
  unfold World.setGatePhase
  split <;> rfl

theorem Inv.setGatePhase {phase : Phase} (h : Inv E T C s) :
    Inv E T C (s.setGatePhase restoreId phase) := by
  unfold World.setGatePhase
  split
  · exact h.same ⟨rfl, rfl, rfl, rfl, rfl, rfl⟩
  · exact h

theorem Inv.openGate (h : Inv E T C s) : Inv E T C (s.openGate restoreId) := by
  unfold World.openGate
  split
  · exact h.same ⟨rfl, rfl, rfl, rfl, rfl, rfl⟩
  · exact h

/-- an operation that is rewritten as it advances -/
theorem setOperation_does {f : World → OperationRow → OperationRow}
    {hf : ∀ s op, (f s op).restoreId = op.restoreId}
    (hk : ∀ op, (f s op).parameterHash = op.parameterHash ∧ (f s op).fleetId = op.fleetId
      ∧ (f s op).cutoff = op.cutoff)
    (h : ∀ op, s.operation restoreId = some op → T s.now → Sound E C s op → Sound E C s (f s op)) :
    Does E T C g restoreId (.modify fun s => s.setOperation restoreId (f s) (hf s))
      (fun _ s' => s' = s.setOperation restoreId (f s) (hf s)) s :=
  modify_does rfl fun hi => ⟨hi.setOperation (hf s) fun op hop hsound => h op hop hi.now hsound,
    .setOperation (hf s) hk⟩

theorem ne_of_complete {standing : Standing} {op : OperationRow} (hat : At s restoreId standing)
    (hne : standing ≠ .complete) (hop : op ∈ s.operations.rows)
    (hcomplete : op.stage.standing = .complete) : op.restoreId ≠ restoreId := by
  rintro rfl
  obtain ⟨op', hop', hst⟩ := hat
  rw [operation_of_mem hop] at hop'
  cases hop'
  exact hne (hst.symm.trans hcomplete)

/-- participants of an operation that is not complete -/
theorem Inv.updateParticipants {standing : Standing} {rows : ParticipantRow → Bool}
    {f : ParticipantRow → ParticipantRow}
    (hf : ∀ p, ((f p).restoreId, (f p).participantId) = (p.restoreId, p.participantId))
    (hrows : ∀ p, rows p = true → p.restoreId = restoreId) (hs : Inv E T C s)
    (hat : At s restoreId standing) (hne : standing ≠ .complete)
    (h : ∀ p t, (f p).closedThrough = some t → p.closedThrough = some t ∨
      Stamp E.platform.dates (-maxTimeMs) t) :
    Inv E T C { s with participants := s.participants.updateWhere rows f hf } where
  now := hs.now
  sound op hop := by
    refine (hs.sound op hop).rows fun hcomplete => ⟨fun p hp hid => ?_, fun r hr _ => hr⟩
    obtain ⟨p₀, hp₀, rfl⟩ := (Capped.mem_updateWhere hf).mp hp
    by_cases hthis : rows p₀ = true
    · rw [if_pos hthis] at hid
      have hfid : (f p₀).restoreId = p₀.restoreId := congrArg Prod.fst (hf p₀)
      exact absurd (hid.symm.trans (hfid.trans (hrows p₀ hthis)))
        (ne_of_complete hat hne hop hcomplete)
    · rw [if_neg hthis]
      exact hp₀
  participants p hp t ht := by
    obtain ⟨p₀, hp₀, rfl⟩ := (Capped.mem_updateWhere hf).mp hp
    split at ht
    · rcases h p₀ t ht with hold | hnew
      · exact hs.participants p₀ hp₀ t hold
      · exact hnew
    · exact hs.participants p₀ hp₀ t ht
  work := hs.work
  sent := hs.sent

theorem setParticipant_does {standing : Standing} {participantId : Text}
    {f : ParticipantRow → ParticipantRow}
    {hf : ∀ p, ((f p).restoreId, (f p).participantId) = (p.restoreId, p.participantId)}
    (hat : At s restoreId standing) (hne : standing ≠ .complete)
    (h : ∀ p t, (f p).closedThrough = some t → p.closedThrough = some t ∨
      Stamp E.platform.dates (-maxTimeMs) t) :
    Does E T C g restoreId (.modify fun s => s.setParticipant restoreId participantId f hf)
      (fun _ s' => At s' restoreId standing) s :=
  .mono (modify_does rfl fun hi => ⟨hi.updateParticipants hf
      (fun _ hp => beq_iff_eq.mp (Bool.and_eq_true_iff.mp hp).1) hat hne h, .same rfl⟩)
    (fun _ _ he => he ▸ hat) fun _ _ => id

/-- what a stage does to a participant leaves alone when it was closed -/
theorem setParticipant_done {standing : Standing} {participantId : Text}
    {f : ParticipantRow → ParticipantRow}
    {hf : ∀ p, ((f p).restoreId, (f p).participantId) = (p.restoreId, p.participantId)}
    (hat : At s restoreId standing) (hne : standing ≠ .complete)
    (h : ∀ p, (f p).closedThrough = p.closedThrough) :
    Does E T C g restoreId (.modify fun s => s.setParticipant restoreId participantId f hf)
      (fun _ _ => True) s :=
  .mono (setParticipant_does hat hne fun p _ ht => .inl (by rwa [h] at ht)) (fun _ _ _ => trivial)
    fun _ _ => id

/-- a record of an operation that is not complete -/
theorem Inv.setRecord {standing : Standing} {recordHash : JsString} {f : RecordRow → RecordRow}
    (hf : ∀ r, ((f r).restoreId, (f r).recordHash) = (r.restoreId, r.recordHash))
    (hs : Inv E T C s) (hat : At s restoreId standing) (hne : standing ≠ .complete) :
    Inv E T C (s.setRecord restoreId recordHash f hf) where
  now := hs.now
  sound op hop := by
    refine (hs.sound op hop).rows fun hcomplete => ⟨fun p hp _ => hp, fun r hr hid => ?_⟩
    obtain ⟨r₀, hr₀, rfl⟩ := (Capped.mem_updateWhere hf).mp hr
    by_cases hthis : (r₀.restoreId == restoreId && r₀.recordHash == recordHash) = true
    · rw [if_pos hthis] at hid
      have hrestore : r₀.restoreId = restoreId := beq_iff_eq.mp (Bool.and_eq_true_iff.mp hthis).1
      have hfid : (f r₀).restoreId = r₀.restoreId := congrArg Prod.fst (hf r₀)
      exact absurd (hid.symm.trans (hfid.trans hrestore)) (ne_of_complete hat hne hop hcomplete)
    · rw [if_neg hthis]
      exact hr₀
  participants := hs.participants
  work := hs.work
  sent := hs.sent

theorem setRecord_does {standing : Standing} {recordHash : JsString} {f : RecordRow → RecordRow}
    {hf : ∀ r, ((f r).restoreId, (f r).recordHash) = (r.restoreId, r.recordHash)}
    (hat : At s restoreId standing) (hne : standing ≠ .complete) :
    Does E T C g restoreId (.modify fun s => s.setRecord restoreId recordHash f hf)
      (fun _ s' => At s' restoreId standing) s :=
  .mono (modify_does rfl fun hi => ⟨hi.setRecord hf hat hne, .same rfl⟩) (fun _ _ he => he ▸ hat)
    fun _ _ => id

/-- an operation that is rewritten and stays where it stands -/
theorem advance_does {standing standing' : Standing} {f : World → OperationRow → OperationRow}
    {hf : ∀ s op, (f s op).restoreId = op.restoreId} (hat : At s restoreId standing)
    (hk : ∀ op, (f s op).parameterHash = op.parameterHash ∧ (f s op).fleetId = op.fleetId
      ∧ (f s op).cutoff = op.cutoff)
    (h : ∀ op, T s.now → Sound E C s op → op.stage.standing = standing →
      Sound E C s (f s op) ∧ (f s op).stage.standing = standing') :
    Does E T C g restoreId (.modify fun s => s.setOperation restoreId (f s) (hf s))
      (fun _ s' => At s' restoreId standing') s := by
  obtain ⟨op, hop, hst⟩ := hat
  refine Guarded.Works.start fun hi => ?_
  have hthis : ∀ op', s.operation restoreId = some op' → op' = op := fun op' h => by
    rw [hop] at h
    exact (Option.some.inj h).symm
  refine (setOperation_does hk fun op' hop' hnow hsound => ?_).mono (fun _ s' he => ?_)
    fun _ _ => id
  · rw [hthis op' hop']
    exact (h op hnow (hi.soundOf hop) hst).1
  · subst he
    refine ⟨f s op, ?_, (h op hi.now (hi.soundOf hop) hst).2⟩
    rw [operation_setOperation, hop, Option.map_some, restoreId_of_operation hop, beq_self_eq_true,
      if_pos rfl]

theorem advance_done {standing : Standing} {f : World → OperationRow → OperationRow}
    {hf : ∀ s op, (f s op).restoreId = op.restoreId} (hat : At s restoreId standing)
    (hk : ∀ op, (f s op).parameterHash = op.parameterHash ∧ (f s op).fleetId = op.fleetId
      ∧ (f s op).cutoff = op.cutoff)
    (h : ∀ op, s.operation restoreId = some op → T s.now → Sound E C s op →
      op.stage.standing = standing → Sound E C s (f s op)) :
    Does E T C g restoreId (.modify fun s => s.setOperation restoreId (f s) (hf s))
      (fun _ _ => True) s := by
  obtain ⟨op, hop, hst⟩ := hat
  refine (setOperation_does hk fun op' hop' hnow hsound => ?_).mono (fun _ _ _ => trivial)
    fun _ _ => id
  rw [hop] at hop'
  cases hop'
  exact h op hop hnow hsound hst

/-! ## catalogs -/

theorem readProof_named (reading : CatalogReading) (catalogId : Text) (result : Entries) :
    Named (readProof E reading catalogId result) := by
  unfold readProof
  refine Named.bind named_refuseIf fun _ _ => ?_
  refine Named.bind named_refuseIf fun _ _ => ?_
  refine Named.bind named_refuseIf fun _ _ => ?_
  refine Named.bind named_refuseIf fun _ _ => ?_
  refine Named.bind named_refuseIf fun _ _ => ?_
  exact Named.bind named_refuseIf fun _ _ => named_ok _

theorem sortProofs_named (proofs : List Entries) : Named (sortProofs E proofs) := by
  have hkeyed : ∀ proofs : List Entries, Named (proofs.mapM fun proof => do
      let id ← foreignly (stringOf (get proof "catalog_id"))
      return (id, proof)) := by
    intro proofs
    induction proofs with
    | nil => exact named_ok _
    | cons proof proofs ih =>
      rw [List.mapM_cons]
      refine Named.bind (Named.bind (named_stringOf _) fun _ _ => named_ok _) fun _ _ => ?_
      exact Named.bind ih fun _ _ => named_ok _
  unfold sortProofs
  split
  · exact named_ok _
  · exact Named.bind (hkeyed proofs) fun _ _ => named_ok _

variable {operation : OperationRow}

theorem readCatalogs_asks : ∀ (is : List Nat) (reading : CatalogReading) (s : World),
    Asks E T C g operation.restoreId (readCatalogs E operation is reading) s
  | [], _, _ => pure_asks
  | i :: is, reading, s => by
    unfold readCatalogs
    refine postToStub_asks.bind fun result s₁ _ => ?_
    refine Asks.bind (ofExcept_asks (readProof_named _ _ _)) fun reading' s₂ _ => ?_
    exact readCatalogs_asks is reading' s₂

theorem readCatalogProof_asks :
    Asks E T C g operation.restoreId (readCatalogProof E operation) s := by
  unfold readCatalogProof
  refine (readCatalogs_asks _ _ s).bind fun reading s₁ _ => ?_
  refine Asks.bind throwIf_asks fun _ s₂ _ => ?_
  refine Asks.bind (ofExcept_asks (sortProofs_named _)) fun proofs s₃ _ => ?_
  exact Asks.bind pause_asks fun _ s₄ _ => pure_asks

/-! ## the manifest -/

variable (hD : Clocked E.platform.dates T)

/-- rows of an operation without a plan are added -/
theorem Inv.addRows {standing : Standing} (hs : Inv E T C s) (hat : At s restoreId standing)
    (hne : standing ≠ .complete) (hnow : s'.now = s.now) (hoperations : s'.operations = s.operations)
    (hwork : s'.coordinatorWork = s.coordinatorWork) (hsent : s'.sent = s.sent)
    (hparticipants : ∀ p ∈ s'.participants.rows,
      p ∈ s.participants.rows ∨ p.restoreId = restoreId ∧ p.closedThrough = none)
    (hrecords : ∀ r ∈ s'.manifestRecords.rows,
      r ∈ s.manifestRecords.rows ∨ r.restoreId = restoreId) : Inv E T C s' where
  now := hnow ▸ hs.now
  sound op hop := by
    rw [hoperations] at hop
    refine (hs.sound op hop).rows fun hcomplete => ?_
    have hother := ne_of_complete hat hne hop hcomplete
    refine ⟨fun p hp hid => ?_, fun r hr hid => ?_⟩
    · rcases hparticipants p hp with hold | hnew
      · exact hold
      · exact absurd (hid.symm.trans hnew.1) hother
    · rcases hrecords r hr with hold | hnew
      · exact hold
      · exact absurd (hid.symm.trans hnew) hother
  participants p hp t ht := by
    rcases hparticipants p hp with hold | hnew
    · exact hs.participants p hold t ht
    · rw [hnew.2] at ht
      cases ht
  work := hwork ▸ hs.work
  sent := hsent ▸ hs.sent

include hD

theorem pinManifest_does {raw : Entries} (hat : At s operation.restoreId .early) :
    Does E T C g operation.restoreId (pinManifest E operation raw) (fun _ _ => True) s := by
  unfold pinManifest
  refine .bind readCatalogProof_asks.does fun proof s₁ h₁ => ?_
  refine .bind throwIf_does fun _ s₂ h₂ => ?_
  subst h₂
  split
  · exact .throw (blames_violation _)
  · refine insert_does fun s' hs' hi => ?_
    obtain ⟨participants, hparticipants, hs'⟩ := Option.bind_eq_some_iff.mp hs'
    cases hs'
    have hrows := Capped.forall_insertEach hparticipants
      (fun p hp => (.inl hp : p ∈ s₂.participants.rows ∨
        p.restoreId = operation.restoreId ∧ p.closedThrough = none))
      fun p hp => by
        obtain ⟨shardId, -, rfl⟩ := List.mem_map.mp hp
        exact .inr ⟨rfl, rfl⟩
    have hadd : Inv E T C { s₂ with participants := participants } :=
      hi.addRows (h₁.at hat) (by decide) rfl rfl rfl rfl hrows fun r hr => .inl hr
    have hkept : Kept s₂ { s₂ with participants := participants } := .same rfl
    refine ⟨⟨hadd.setOperation _ fun op hop hsound => ?_,
      hkept.trans (.setOperation _ fun _ => ⟨rfl, rfl, rfl⟩)⟩, rfl, trivial⟩
    obtain ⟨op', hop', hst⟩ := h₁.at hat
    have hsame : s₂.operation operation.restoreId = some op := hop
    rw [hop'] at hsame
    cases hsame
    exact hsound.early hst (.of_eq rfl) (hD.stamp hi.now) rfl rfl rfl

theorem closeManifest_does (hat : At s operation.restoreId .early) :
    Does E T C g operation.restoreId (closeManifest E operation) (fun _ _ => True) s := by
  unfold closeManifest
  refine .bind throwIf_does fun _ s₁ h₁ => ?_
  subst h₁
  refine .bind ask_asks.does fun raw s₂ h₂ => ?_
  split
  · split
    · exact .throw (blames_violation _)
    · split
      · exact pinManifest_does hD (h₂.at hat)
      · exact schedule_done
  · exact .throw (blames_violation _)

omit hD in
theorem ofExcept_early {x : Try α} (hat : At s restoreId .early) :
    Does E T C g restoreId (.ofExcept x) (fun a s' => x = .ok a ∧ s' = s) s :=
  .ofExcept (fun _ ha => ⟨ha, rfl⟩) fun e _ => blames_of_at hat (by decide) e

omit hD in
theorem enumerateRecords_does : ∀ (records : List JsonValue) (s : World),
    At s restoreId .early → Does E T C g restoreId (enumerateRecords E restoreId records)
      (fun _ s' => At s' restoreId .early) s
  | [], s, hat => .pure hat
  | record :: records, s, hat => by
    unfold enumerateRecords
    refine read_does (.ite (fun _ => enumerateRecords_does records s hat) fun _ => ?_)
    refine .bind .pause fun _ s₁ h₁ => ?_
    have hat₁ := Quiet.at h₁ hat
    refine .bind (ofExcept_early hat₁) fun recordHash s₂ h₂ => ?_
    obtain ⟨-, rfl⟩ := h₂
    refine .bind (insert_does fun s' hs' hi => ?_) fun _ s₃ h₃ => enumerateRecords_does records s₃ h₃
    obtain ⟨manifestRecords, hinsert, hs'⟩ := Option.bind_eq_some_iff.mp hs'
    cases hs'
    refine ⟨⟨hi.addRows hat₁ (by decide) rfl rfl rfl rfl (fun p hp => .inl hp) fun r hr => ?_,
      .same rfl⟩,
      rfl, hat₁⟩
    rcases (Capped.mem_insertOrIgnore hinsert).mp hr with hold | ⟨-, rfl⟩
    · exact .inl hold
    · exact .inr rfl

omit hD in
theorem enumerateEvidence_does : ∀ (evidence : List JsonValue) (s : World),
    At s restoreId .early → Does E T C g restoreId (enumerateEvidence E restoreId evidence)
      (fun _ s' => At s' restoreId .early) s
  | [], s, hat => .pure hat
  | value :: evidence, s, hat => by
    unfold enumerateEvidence
    refine .bind .pause fun _ s₁ h₁ => ?_
    have hat₁ := Quiet.at h₁ hat
    refine .bind (insert_does fun s' hs' hi => ?_) fun _ s₂ h₂ =>
      enumerateEvidence_does evidence s₂ h₂
    obtain ⟨manifestEvidence, -, hs'⟩ := Option.bind_eq_some_iff.mp hs'
    cases hs'
    exact ⟨⟨hi.same ⟨rfl, rfl, rfl, rfl, rfl, rfl⟩, .same rfl⟩, rfl, hat₁⟩

theorem enumerateManifest_does (hat : At s operation.restoreId .early) :
    Does E T C g operation.restoreId (enumerateManifest E operation) (fun _ _ => True) s := by
  unfold enumerateManifest
  refine .bind throwIf_does fun _ s₁ h₁ => ?_
  subst h₁
  split
  · exact .throw (blames_violation _)
  · refine .bind .pause fun _ s₂ h₂ => ?_
    have hat₂ := Quiet.at h₂ hat
    refine .bind (ofExcept_early hat₂) fun requestHash s₃ h₃ => ?_
    obtain ⟨-, rfl⟩ := h₃
    refine .bind ask_asks.does fun raw s₄ h₄ => ?_
    have hat₄ := h₄.at hat₂
    refine .bind (ofExcept_early hat₄) fun page s₅ h₅ => ?_
    obtain ⟨-, rfl⟩ := h₅
    refine read_does (.start fun hi => ?_)
    -- the time is read before the page is written down
    have hstamp := hD.stamp hi.now
    refine .bind (enumerateRecords_does _ _ hat₄) fun _ s₆ hat₆ => ?_
    refine .bind (enumerateEvidence_does _ _ hat₆) fun _ s₇ hat₇ => ?_
    refine .ite (fun _ => ?_) fun _ => ?_
    · refine .bind throwIf_does fun _ s₈ h₈ => ?_
      subst h₈
      exact advance_done hat₇ (fun _ => ⟨rfl, rfl, rfl⟩) fun op _ _ hsound hst =>
        hsound.early hst (.of_eq rfl) hstamp rfl rfl rfl
    · refine .bind (advance_does hat₇ (fun _ => ⟨rfl, rfl, rfl⟩) fun op _ hsound hst => ⟨?_, hst⟩)
        fun _ s₈ hat₈ => ?_
      · exact hsound.early hst (.of_eq rfl) hstamp hst rfl rfl
      · exact schedule_done

/-! ## redo envelopes -/

theorem materializeNextEnvelope_does (hat : At s operation.restoreId .early) :
    Does E T C g operation.restoreId (materializeNextEnvelope E operation) (fun _ _ => True) s := by
  unfold materializeNextEnvelope
  refine read_does ?_
  split
  · exact advance_done hat (fun _ => ⟨rfl, rfl, rfl⟩) fun op _ hnow hsound hst =>
      hsound.early hst (.of_eq rfl) (hD.stamp hnow) rfl rfl rfl
  · refine .bind postToStub_does fun result s₁ h₁ => ?_
    refine .bind .pause fun _ s₂ h₂ => ?_
    have hat₂ := Quiet.at h₂ (h₁.at hat)
    refine .bind (ofExcept_early hat₂) fun envelope s₃ h₃ => ?_
    obtain ⟨-, rfl⟩ := h₃
    refine .bind (setRecord_does hat₂ (by decide)) fun _ s₄ _ => ?_
    exact schedule_done

/-! ## the plan -/

omit hD in
/-- the plan of an operation is of its fleet and its cutoff -/
theorem planBody_bound {evidence : PlanEvidence} {participants : List PlannedParticipant} {now : Int}
    {planHash : JsString} : Client.boundTo
      (planBody E operation evidence participants now ++ [(utf16 "plan_hash", .str planHash)])
      operation.fleetId.val operation.cutoff.val = true := by
  have hfleet : Wire.get (planBody E operation evidence participants now) "fleet_id" =
      some (jsonText operation.fleetId) := get_object _ _
  have hcutoff : Wire.get (planBody E operation evidence participants now) "cutoff" =
      some (jsonText operation.cutoff) := get_object _ _
  unfold Client.boundTo
  rw [Client.get_append (by decide), Client.get_append (by decide), hfleet, hcutoff]
  exact Bool.and_eq_true_iff.mpr ⟨beq_self_eq_true _, beq_self_eq_true _⟩

/-- the plan is taken over once its body has passed the contract -/
theorem finalizePlan_does (hat : At s restoreId .early) :
    Does E T C g restoreId (finalizePlan E restoreId) (fun _ _ => True) s := by
  unfold finalizePlan
  refine read_does ?_
  split
  · rename_i operation evidence hoperation hevidence
    dsimp only
    split
    · exact .throw (blames_violation _)
    · exact .throw (blames_violation _)
    · refine .bind (ofExcept_early hat) fun planHash s₁ h₁ => ?_
      obtain ⟨hhash, rfl⟩ := h₁
      obtain ⟨_, hbody, hhash⟩ := Client.bind_ok hhash
      cases hhash
      have hdigest := hashJson_hex E.platform.sha256
      refine .bind .pause fun _ s₂ h₂ => ?_
      obtain ⟨op', hop', -, -, hfleet, hcutoff⟩ := Quiet.operation h₂ restoreId operation hoperation
      refine advance_done (Quiet.at h₂ hat) (fun _ => ⟨rfl, rfl, rfl⟩)
        fun op hop hnow hsound hst => ?_
      rw [hop'] at hop
      cases hop
      refine ⟨hsound.timed.rewrite rfl rfl rfl rfl rfl rfl rfl (hD.stamp hnow), ⟨⟨?_, ?_, ?_⟩, rfl⟩⟩
      · refine ⟨_, rfl, Client.validateRestorePlan_of_body hbody (hdigest _), ?_⟩
        show Client.boundTo _ op'.fleetId.val op'.cutoff.val = true
        rw [hfleet, hcutoff]
        exact planBody_bound
      · exact ⟨_, rfl, hdigest _⟩
      · show ∀ blocker ∈ op'.blockerJson.getD [], _
        rw [(hsound.unplanned hst).2.2.2]
        exact nofun
  · exact .throw (blames_violation _)

/-! ## participants -/

theorem previewNextParticipant_does (hat : At s operation.restoreId .early) :
    Does E T C g operation.restoreId (previewNextParticipant E operation) (fun _ _ => True) s := by
  unfold previewNextParticipant
  refine read_does ?_
  split
  · exact finalizePlan_does hD hat
  · refine .bind postToStub_does fun result s₁ h₁ => ?_
    have hat₁ := h₁.at hat
    split
    · exact .throw (blames_violation _)
    · refine .bind throwIf_does fun _ s₂ h₂ => ?_
      subst h₂
      exact .bind (setParticipant_done hat₁ (by decide) fun _ => rfl) fun _ _ _ => schedule_done

/-! ## sections -/

end

/-- what a section of the work on a restore may make of the store -/
structure Writes (E : Env) (T : Int → Prop) (C : JsString → Prop) (s s' : World) : Prop where
  work : Inv E T C s' ∧ Kept s s'
  mutations : s'.mutations = s.mutations

section
variable {E : Env} {T : Int → Prop} {C : JsString → Prop} {g : Option Nat} {restoreId : Text}
  {s s' s'' : World} {f : OperationRow → OperationRow}

theorem Writes.refl (hs : Inv E T C s) : Writes E T C s s := ⟨⟨hs, Kept.refl s⟩, rfl⟩

theorem Writes.trans (h : Writes E T C s s') (h' : Writes E T C s' s'') : Writes E T C s s'' :=
  ⟨⟨h'.work.1, h.work.2.trans h'.work.2⟩, h'.mutations.trans h.mutations⟩

theorem Writes.setOperation {hf : ∀ op, (f op).restoreId = op.restoreId} (hs : Inv E T C s)
    (hk : ∀ op, (f op).parameterHash = op.parameterHash ∧ (f op).fleetId = op.fleetId
      ∧ (f op).cutoff = op.cutoff)
    (h : ∀ op, s.operation restoreId = some op → Sound E C s op → Sound E C s (f op)) :
    Writes E T C s (s.setOperation restoreId f hf) :=
  ⟨⟨hs.setOperation hf h, .setOperation hf hk⟩, rfl⟩

theorem Writes.setGatePhase {phase : Phase} (h : Writes E T C s s') :
    Writes E T C s (s'.setGatePhase restoreId phase) := by
  refine h.trans ⟨⟨h.work.1.setGatePhase, .same setGatePhase_operations⟩, ?_⟩
  unfold World.setGatePhase
  split <;> rfl

theorem openGate_operations : (s.openGate restoreId).operations = s.operations := by
  unfold World.openGate
  split <;> rfl

theorem Writes.openGate (restoreId : Text) (hs : Inv E T C s) : Writes E T C s (s.openGate restoreId) := by
  refine ⟨⟨hs.openGate, .same openGate_operations⟩, ?_⟩
  unfold World.openGate
  split <;> rfl

theorem Writes.ite {condition : Prop} [Decidable condition] (h : condition → Writes E T C s s')
    (h' : ¬condition → Writes E T C s s'') : Writes E T C s (if condition then s' else s'') := by
  by_cases hc : condition
  · rw [if_pos hc]
    exact h hc
  · rw [if_neg hc]
    exact h' hc

/-- a section, whatever is thrown behind it -/
theorem Writes.works {upd : World → World} {epost : Thrown → World → Prop}
    (h : Inv E T C s → Writes E T C s (upd s)) :
    (guarded E T C).Works Answered g (.modify upd) (fun _ s' => s' = upd s) epost s :=
  .modify fun hi => ⟨(h hi).work, (h hi).mutations⟩

end
end FleetRestore
