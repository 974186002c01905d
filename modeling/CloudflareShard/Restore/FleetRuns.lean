import CloudflareShard.Restore.FleetMutations

/-!
# Runs of a restore coordinator

* `Direct`                       a piece of a request that is not queued;
* `registered_quiet`, `handleRegisterCoordinator_direct`   the registration next to a restore;
* `terms`                        what comes in;
* `coordinator_governs`          **all requests keep the store, and all their answers are taken**;
* `sound_run`                    every operation keeps what its stage promises;
* `kept_run`                     no operation is lost or restores something else.
-/

namespace FleetRestore
open Async Json Wire
open Client (bind_ok)

/-- a piece of a request that is not queued -/
abbrev Direct {α : Type} (E : Env) (T : Int → Prop) (C : JsString → Prop) (p : Coord α)
    (post : α → Prop) (s : World) : Prop :=
  (guarded E T C).Outside Answered p (fun a _ => post a) s

section
variable {E : Env} {T : Int → Prop} {C : JsString → Prop} {s s' : World} {op : OperationRow}
  {α : Type} {post : α → Prop} (hD : Clocked E.platform.dates T)

/-! ## rules -/

theorem ofExcept_direct {x : Try α} (h : ∀ a, x = .ok a → post a) :
    Direct E T C (.ofExcept x) post s := by
  cases x with
  | ok a => exact .pure (h a rfl)
  | error e => exact .throw

/-- a section next to the queue -/
theorem step_direct {β : Type} {upd : World → World} {k : World → Coord β} {post : β → Prop}
    (h : Inv E T C s → Inv E T C (upd s)) (hq : Inv E T C s → Quiet s (upd s))
    (hb : (upd s).mutations = s.mutations) (hk : Direct E T C (k s) post (upd s)) :
    Direct E T C (.step upd k) post s :=
  Guarded.Stays.step (fun _ hi => ⟨.side ⟨hq hi, h⟩ hb, trivial⟩) hk

theorem read_direct {β : Type} {f : World → Coord β} {post : β → Prop}
    (h : Direct E T C (f s) post s) : Direct E T C (.read >>= f) post s :=
  step_direct id (fun _ => Quiet.refl s) rfl h

theorem ite_direct {c : Prop} [Decidable c] {p q : Coord α} (hp : Direct E T C p post s)
    (hq : Direct E T C q post s) : Direct E T C (if c then p else q) post s := by
  split
  · exact hp
  · exact hq

theorem insert_direct {f : World → Option World}
    (h : ∀ s', f s = some s' → Inv E T C s → Inv E T C s' ∧ Quiet s s' ∧ s'.mutations = s.mutations) :
    Direct E T C (insert f) (fun _ => True) s := by
  refine .start fun _ hi => ?_
  unfold FleetRestore.insert Prog.transact
  cases hf : f s with
  | some s₁ =>
    obtain ⟨hinv, hquiet, hbarrier⟩ := h s₁ hf hi
    refine step_direct ?_ ?_ ?_ ?_ <;> dsimp only <;> rw [hf]
    · exact fun _ => hinv
    · exact fun _ => hquiet
    · exact hbarrier
    · exact .pure trivial
  | none =>
    refine step_direct ?_ ?_ ?_ ?_ <;> dsimp only <;> rw [hf]
    · exact id
    · exact fun _ => Quiet.refl s
    · exact .throw

theorem schedule_direct {work : Option Text} {delayMs : Int} :
    Direct E T C (schedule work delayMs) (fun _ => True) s := by
  unfold schedule
  refine read_direct ?_
  show Direct E T C (Prog.call (⟨work, _⟩ : Call) _) _ _
  refine .call (fun _ _ => trivial) fun s₁ a _ _ _ => ?_
  cases a with
  | ok _ => exact .pure trivial
  | error _ => exact .throw

/-! ## the gate -/

theorem handleGate_direct {body : Option JsonValue} :
    Direct E T C (handleGate E body) (fun _ => True) s := by
  unfold handleGate
  refine .bind (ofExcept_direct fun _ _ => trivial) fun es s₁ _ => ?_
  exact ite_direct (.pure trivial) (read_direct (.pure trivial))

/-! ## the registry -/

theorem standing_of_rewound {stage : Stage} (h : isRewound stage = true) :
    stage.standing = .executing := by
  cases stage <;> first | rfl | cases h

theorem rewound_standing (now : JsString) (op : OperationRow) :
    (rewound now op).stage.standing = op.stage.standing := by
  unfold rewound
  split
  · rename_i h
    exact (standing_of_rewound h).symm
  · split <;> rfl

theorem rewound_same (now : JsString) (op : OperationRow) :
    (rewound now op).parameterHash = op.parameterHash ∧ (rewound now op).fleetId = op.fleetId
      ∧ (rewound now op).cutoff = op.cutoff := by
  unfold rewound
  split
  · exact ⟨rfl, rfl, rfl⟩
  · split <;> exact ⟨rfl, rfl, rfl⟩

include hD in
theorem Sound.rewound {now : Int} (h : Sound E C s op) (hnow : T now) :
    Sound E C s (rewound (isoOf E now) op) := by
  have hstamp : Stamp E.platform.dates 0 (isoOf E now) := hD.stamp hnow
  unfold FleetRestore.rewound
  split
  · rename_i hstage
    exact h.executing (standing_of_rewound hstage) (.of_eq rfl) hstamp rfl (.inr rfl)
  · split
    · rename_i hmanual
      have hstands := h.stands
      unfold Stands at hstands
      rw [hmanual.1] at hstands
      obtain ⟨hplanned, hphase, -, -⟩ := hstands
      refine ⟨h.timed.rewrite rfl rfl rfl rfl rfl rfl rfl hstamp, ?_⟩
      unfold Stands
      dsimp only
      rw [hmanual.1]
      refine ⟨hplanned.rewrite rfl rfl rfl rfl hplanned.blockers, hphase, fun stage hstage => ?_,
        fun phase hphase => ?_⟩
      · cases hstage
        rfl
      · cases hphase
        rfl
    · exact h

theorem Quiet.setOperation {restoreId : Text} {f : OperationRow → OperationRow}
    (hf : ∀ op, (f op).restoreId = op.restoreId)
    (h : ∀ op, (f op).stage.standing = op.stage.standing)
    (hsame : ∀ op, (f op).parameterHash = op.parameterHash ∧ (f op).fleetId = op.fleetId
      ∧ (f op).cutoff = op.cutoff) : Quiet s (s.setOperation restoreId f hf) := by
  refine ⟨rfl, rfl, fun id op hop => ?_⟩
  rw [operation_setOperation, hop, Option.map_some]
  refine ⟨_, rfl, ?_⟩
  by_cases hid : op.restoreId == restoreId
  · rw [if_pos hid]
    exact ⟨h op, hsame op⟩
  · rw [if_neg hid]
    exact ⟨rfl, rfl, rfl, rfl⟩

theorem Quiet.same (hoperations : s'.operations = s.operations)
    (hparticipants : s'.participants = s.participants)
    (hrecords : s'.manifestRecords = s.manifestRecords) : Quiet s s' := by
  refine ⟨hparticipants, hrecords, fun restoreId op hop => ⟨op, ?_, rfl, rfl, rfl, rfl⟩⟩
  unfold World.operation at hop ⊢
  rw [hoperations]
  exact hop

include hD in
/-- a coordinator is registered next to a restore -/
theorem registered_quiet {coordinatorId : Text} (h : registered E coordinatorId s = some s')
    (hi : Inv E T C s) : Inv E T C s' ∧ Quiet s s' ∧ s'.mutations = s.mutations := by
  obtain ⟨coordinatorRegistry, -, h⟩ := Option.bind_eq_some_iff.mp h
  dsimp only at h
  split at h
  · rename_i restoreId _ _
    obtain ⟨coordinatorWork, hwork, h⟩ := Option.bind_eq_some_iff.mp h
    have hrows : ∀ w ∈ coordinatorWork.rows, ∀ t, w.closedThrough = some t →
        Stamp E.platform.dates (-maxTimeMs) t := by
      intro w hw t ht
      rcases (Capped.mem_insertOrIgnore hwork).mp hw with hold | ⟨-, rfl⟩
      · exact hi.work w hold t ht
      · cases ht
    have hinventoried : Inv E T C { s with
        coordinatorRegistry, coordinatorWork
        coordinatorCoverageStart := some (s.coordinatorCoverageStart.getD (isoOf E s.now)) } :=
      { hi with
        sound := fun op hop => (hi.sound op hop).rows fun _ => ⟨fun _ hp _ => hp, fun _ hr _ => hr⟩
        work := hrows }
    split at h
    · cases h
      exact ⟨hinventoried, .same rfl rfl rfl, rfl⟩
    · cases h
      refine ⟨hinventoried.setOperation _ fun op hop hsound => hsound.rewound hD hi.now, ?_, rfl⟩
      refine Quiet.trans (.same rfl rfl rfl : Quiet s { s with
        coordinatorRegistry, coordinatorWork
        coordinatorCoverageStart := some (s.coordinatorCoverageStart.getD (isoOf E s.now)) }) ?_
      exact .setOperation _ (rewound_standing _) (rewound_same _)
  · cases h
    exact ⟨hi.same ⟨rfl, rfl, rfl, rfl, rfl, rfl⟩, .same rfl rfl rfl, rfl⟩

include hD in
theorem handleRegisterCoordinator_direct {body : Option JsonValue} :
    Direct E T C (handleRegisterCoordinator E body) (fun _ => True) s := by
  unfold handleRegisterCoordinator
  refine .bind (ofExcept_direct fun _ _ => trivial) fun value s₁ _ => ?_
  refine .bind (ofExcept_direct fun _ _ => trivial) fun es s₂ _ => ?_
  refine .bind (ofExcept_direct fun _ _ => trivial) fun registration s₃ _ => read_direct ?_
  refine .bind (ofExcept_direct fun _ _ => trivial) fun _ s₄ _ => ?_
  dsimp only
  refine .bind (insert_direct fun s' hs' hi => registered_quiet hD hs' hi) fun _ s₅ _ => ?_
  split
  · refine .bind ?_ fun _ s₆ (_ : True) => .pure trivial
    unfold scheduleUnless
    split
    · exact .pure trivial
    · exact schedule_direct
  · split <;> exact .pure trivial

/-! ## the status -/

include hD in
theorem handleStatus_direct {body : Option JsonValue} :
    Direct E T C (handleStatus body) (Accepted E.platform.dates (.fetch .status body)) s := by
  unfold handleStatus
  refine .bind (ofExcept_direct fun value h => jsonBody_ok h) fun value s₁ hbody => ?_
  subst hbody
  refine .bind (ofExcept_direct fun restoreId h => h) fun restoreId s₂ hrequest => ?_
  refine .start fun _ hi => read_direct (ofExcept_direct fun response hresponse => ?_)
  intro _ restoreId' hrequest'
  rw [hrequest] at hrequest'
  cases hrequest'
  exact statusOf_taken hD hi hresponse

/-! ## requests -/

theorem accepted_of_refused {D : DateLib} {route : Route} {body : Option JsonValue}
    {response : Response} (h : response.ok = false) : Accepted D (.fetch route body) response := by
  intro hok
  rw [h] at hok
  cases hok

/-- an error that reaches the front of the object -/
def errorResponse : Thrown → Response
  | .violation v => restoreResponse v
  | .other _ => restoreResponse unhandled

theorem errorResponse_accepted {D : DateLib} {route : Route} {body : Option JsonValue} (e : Thrown) :
    Accepted D (.fetch route body) (errorResponse e) := by
  cases e with
  | violation v => exact accepted_of_refused (restoreResponse_refused v)
  | other _ => exact accepted_of_refused (restoreResponse_refused unhandled)

theorem respond_eq (route : Route) (body : Option JsonValue) :
    respond E route body = (handle E route body).rescue fun e => .pure (errorResponse e) := by
  unfold respond
  congr 1
  funext e
  cases e <;> rfl

include hD in
theorem respond_direct {route : Route} {body : Option JsonValue} (h : isDirect route = true) :
    Direct E T C (respond E route body) (Accepted E.platform.dates (.fetch route body)) s := by
  rw [respond_eq]
  refine Guarded.Stays.rescue ?_ fun e _ => .pure (errorResponse_accepted e)
  cases route with
  | gate => exact handleGate_direct.mono fun _ _ _ _ => trivial
  | registerCoordinator => exact (handleRegisterCoordinator_direct hD).mono fun _ _ _ _ => trivial
  | status => exact handleStatus_direct hD
  | preview | execute | reconcile | rollback => cases h

/-- a preview asks for a cutoff in `C` -/
def Asked (D : DateLib) (C : JsString → Prop) : Request → Prop
  | .fetch .preview (some value) =>
    ∀ request, validateRestorePreviewRequest D value = .ok request → C request.cutoff.val
  | _ => True

include hD in
theorem respond_ends {route : Route} {body : Option JsonValue} {g : Option Nat}
    (h : isDirect route = false) (hapart : Apart E C)
    (hC : Asked E.platform.dates C (.fetch route body)) :
    Ends E T C g (respond E route body) (Accepted E.platform.dates (.fetch route body)) s := by
  have hhandle : Ends E T C g (handle E route body)
      (Accepted E.platform.dates (.fetch route body)) s := by
    cases route with
    | preview =>
      refine handlePreview_works hD hapart fun value request hbody hrequest => ?_
      subst hbody
      exact hC request hrequest
    | execute => exact handleExecute_works hD
    | reconcile => exact handleReconcile_works hD
    | rollback => exact handleRollback_works hD
    | gate | registerCoordinator | status => cases h
  rw [respond_eq]
  exact Guarded.Works.rescue hhandle fun e _ _ => .pure (errorResponse_accepted e)

/-! ## runs -/

/-- what comes in: cutoffs in `C`, times in `T`, and no exception without a message for an execution -/
def terms (E : Env) (T : Int → Prop) (C : JsString → Prop) :
    Terms World Call Call.Answer Request Int where
  accept := Asked E.platform.dates C
  ok _ := Answered
  event t _ := T t

theorem side_same (hoperations : s'.operations = s.operations)
    (hparticipants : s'.participants = s.participants)
    (hrecords : s'.manifestRecords = s.manifestRecords)
    (hwork : s'.coordinatorWork = s.coordinatorWork) (hnow : Inv E T C s → T s'.now)
    (hsent : Inv E T C s → ∀ r ∈ s'.sent, Accepted E.platform.dates r.1 r.2) :
    (guarded E T C).side s s' := by
  refine ⟨.same hoperations hparticipants hrecords, fun hi => ⟨hnow hi, fun op hop => ?_, ?_, ?_,
    hsent hi⟩⟩
  · rw [hoperations] at hop
    refine (hi.sound op hop).rows fun _ => ⟨fun p hp _ => ?_, fun r hr _ => ?_⟩
    · rwa [hparticipants] at hp
    · rwa [hrecords] at hr
  · rw [hparticipants]
    exact hi.participants
  · rw [hwork]
    exact hi.work

include hD in
/-- **all requests keep the store, and their answers are taken** -/
theorem coordinator_governs (hapart : Apart E C) :
    Governs (guarded E T C).proto (coordinator E) (terms E T C) (guarded E T C).Share none
      fun _ => True := by
  have hchain : ∀ f s, Inv E T C s → (guarded E T C).side s (World.chain f s)
      ∧ (World.chain f s).mutations = f s.mutations :=
    fun f s _ => ⟨side_same rfl rfl rfl rfl (fun hi => hi.now) fun hi => hi.sent, rfl⟩
  refine Guarded.governs ?_ ?_ ?_
  · intro request s haccept hs
    cases request with
    | alarm =>
      exact Keeps.mono (fun _ _ _ _ => trivial) (fun _ _ _ _ => trivial)
        (Guarded.exclusive_keeps hchain hs fun g s => alarm_works hD)
    | fetch route body =>
      have hanswer : Keeps (guarded E T C).proto Answered
          (fun response _ _ => Accepted E.platform.dates (.fetch route body) response)
          (fun _ _ _ => True) (fetch E route body) none s := by
        unfold fetch
        by_cases hdirect : isDirect route = true
        · rw [if_pos hdirect]
          exact Keeps.mono (fun _ _ _ h => h.2.2) (fun _ _ _ _ => trivial)
            (respond_direct hD hdirect trivial hs)
        · rw [if_neg hdirect]
          exact Guarded.exclusive_keeps hchain hs fun g s =>
            respond_ends hD (Bool.eq_false_iff.mpr hdirect) hapart haccept
      refine Keeps.bind (fun response g s' h => ?_)
        (Keeps.mono (fun _ _ _ => id) (fun _ _ _ h => h.1) (Keeps.inv_post hs hanswer))
      obtain ⟨haccepted, hs'⟩ := h
      refine ⟨g, .side (side_same rfl rfl rfl rfl (fun hi => hi.now) fun hi r hr => ?_) rfl, trivial⟩
      rcases List.mem_append.mp hr with hold | hnew
      · exact hi.sent r hold
      · rw [List.mem_singleton.mp hnew]
        exact haccepted
  · exact fun t s ht => ⟨side_same rfl rfl rfl rfl (fun _ => ht) fun hi => hi.sent, rfl⟩
  · exact fun s hi => ⟨hi.same ⟨rfl, rfl, rfl, rfl, rfl, rfl⟩, rfl⟩

theorem inv_fresh {now : Int} (hnow : T now) : Inv E T C (World.fresh now) :=
  ⟨hnow, fun _ h => absurd h List.not_mem_nil, fun _ h => absurd h List.not_mem_nil,
    fun _ h => absurd h List.not_mem_nil, fun _ h => absurd h List.not_mem_nil⟩

include hD in
theorem follows_run (hapart : Apart E C) {now : Int} (hnow : T now)
    {xs : List (Choice Call Call.Answer Request Int)}
    (h : (coordinator E).Meets (fun c x => x.Allowed (coordinator E) (terms E T C) c)
      ⟨World.fresh now, []⟩ xs) :
    ∃ gs, Follows (guarded E T C).proto (terms E T C) (guarded E T C).Share (fun _ => True)
      ((coordinator E).run ⟨World.fresh now, []⟩ xs) gs := by
  have hfollows : Follows (guarded E T C).proto (terms E T C) (guarded E T C).Share (fun _ => True)
      (⟨World.fresh now, []⟩ : Config World Call Call.Answer Thrown Unit Request) [] :=
    ⟨⟨.fresh, inv_fresh hnow⟩, ⟨by simp, by simp⟩, rfl, by simp⟩
  exact (coordinator_governs hD hapart).run xs hfollows h

include hD in
/-- what holds of every store that is reached -/
theorem inv_run (hapart : Apart E C) {now : Int} (hnow : T now)
    {xs : List (Choice Call Call.Answer Request Int)}
    (h : (coordinator E).Meets (fun c x => x.Allowed (coordinator E) (terms E T C) c)
      ⟨World.fresh now, []⟩ xs) :
    Inv E T C ((coordinator E).run ⟨World.fresh now, []⟩ xs).store := by
  obtain ⟨gs, hf⟩ := follows_run hD hapart hnow h
  exact hf.inv.2

/-- every operation keeps what its stage promises -/
def AllSound (E : Env) (C : JsString → Prop) (s : World) : Prop :=
  ∀ op ∈ s.operations.rows, Sound E C s op

include hD in
/-- **whatever is asked, answered and interrupted, every operation keeps what its stage promises**:
a plan that the client takes once it has left its preview, and all evidence when it is complete -/
theorem sound_run (hapart : Apart E C) {now : Int} (hnow : T now)
    {xs : List (Choice Call Call.Answer Request Int)}
    (h : (coordinator E).Meets (fun c x => x.Allowed (coordinator E) (terms E T C) c)
      ⟨World.fresh now, []⟩ xs) :
    AllSound E C ((coordinator E).run ⟨World.fresh now, []⟩ xs).store :=
  (inv_run hD hapart hnow h).sound

theorem coordinator_hist : Hist (guarded E T C).proto (coordinator E) (terms E T C) Kept :=
  Guarded.hist (W := guarded E T C) (fun _ _ _ _ => .same rfl) fun _ => .same rfl

include hD in
/-- **no operation is lost, and none restores something else than it was asked for** -/
theorem kept_run (hapart : Apart E C) {now : Int} (hnow : T now)
    {xs ys : List (Choice Call Call.Answer Request Int)}
    (h : (coordinator E).Meets (fun c x => x.Allowed (coordinator E) (terms E T C) c)
      ⟨World.fresh now, []⟩ (xs ++ ys)) :
    Kept ((coordinator E).run ⟨World.fresh now, []⟩ xs).store
      ((coordinator E).run ⟨World.fresh now, []⟩ (xs ++ ys)).store := by
  obtain ⟨hxs, hys⟩ := (coordinator E).meets_append.mp h
  obtain ⟨gs, hf⟩ := follows_run hD hapart hnow hxs
  rw [System.run_append]
  exact coordinator_hist.run (coordinator_governs hD hapart) ys hf hys

include hD in
/-- **the client takes every answer, bound to what it asked for**, unless an execution was parked
for an exception without a message -/
theorem answers_taken (hapart : Apart E C) {now : Int} (hnow : T now)
    {xs : List (Choice Call Call.Answer Request Int)}
    (h : (coordinator E).Meets (fun c x => x.Allowed (coordinator E) (terms E T C) c)
      ⟨World.fresh now, []⟩ xs) :
    ∀ r ∈ ((coordinator E).run ⟨World.fresh now, []⟩ xs).store.sent,
      Accepted E.platform.dates r.1 r.2 := (inv_run hD hapart hnow h).sent

end

/-! ## a fleet of one shard -/

namespace OneShard

/-- the 32 bytes of a number -/
def bytesOf (n : Nat) : Vector UInt8 32 := Vector.ofFn fun i => UInt8.ofNat (n / 256 ^ (31 - i.val))

/-- SHA-256 of what is hashed below: the catalogs, a preview with its key, a question about the
manifest, a plan, and what a preview is asked for -/
def digest (bytes : ByteArray) : Vector UInt8 32 :=
  let codes := bytes.data.toList.map (·.toNat)
  if codes[0]? = some '['.toNat then
    if codes[1]? = some '{'.toNat then
      bytesOf 0x9f45c9a1c9afefe0ccba67be6dcefda975fd59173f930892ae700534a9bd2bd2
    else bytesOf 0x89dc8f6c4d5250a386b22064ef50a87655d95d75a06e281032e8e11b2d4e6d8c
  else if codes[3]? = some 'a'.toNat then
    bytesOf 0xfb36e121341130cb9e0d92caf1b56fb43f13fc420fee27b0c0af7cbc4291ff57
  else if codes[38]? = some 'e'.toNat then
    bytesOf 0x2df8340ee76dc29d9f5a150e9454fc0b68c3348d0cec7e8ae538acc90cc11242
  else bytesOf 0xc990233c89823984e51d7fe8c7e378b89026728e4f35edeaeffc82a370bdb8d1

/-- `isoDates`, in the range of `Date` -/
def dates : DateLib where
  parse s := (isoDates.parse s).filter fun t => decide (t ≤ maxTimeMs)
  iso := isoDates.iso

def oneShard : Env where
  platform :=
    { dates, sha256 := digest
      collator := ⟨fun _ _ => .eq, fun _ _ => rfl, fun _ _ _ _ _ => by decide⟩ }
  deploymentFleet := "default"
  catalogShards := some 1
  controlPlane := true
  failAfter := none

/-- 2026-01-01 -/
def newYear : Int := 1767225600000

def newYearText : JsString := dates.iso newYear

def text (s : String) : JsonValue := .str (utf16 s)

/-- what some hash is -/
def someHash : String := String.ofList (List.replicate 64 '0')

def bodyOf (fields : List (String × JsonValue)) : JsonValue := .obj (object fields)

/-- what the other objects of the fleet answer -/
def answerOf : (q : Ask) → q.Result
  | .fetch _ path _ =>
    some { status := 200, body := some (bodyOf (
      if path = "/restore-proof" then
        [("catalog_id", text "catalog-0"), ("topology_epoch", jsonNat 1),
          ("topology_hash", text someHash),
          ("topology_vector", bodyOf [("config", bodyOf [("catalog_shard_count", jsonNat 1)])]),
          ("coverage_start", .str newYearText), ("shard_ids", .arr [text "s-0"])]
      else if path = "/pitr-preview" then
        [("target_bookmark", text "b0"), ("preview_bookmark", text "b1"),
          ("coverage_start", .str newYearText), ("checkpoint_at", .str newYearText)]
      else [])) }
  | .closeFleetThrough _ _ =>
    bodyOf [("ok", .bool true), ("status", text "complete"), ("catalog_close_key", text someHash),
      ("snapshot_hash", text someHash), ("fleet_root_hash", text someHash),
      ("partition_config_hash", text someHash), ("snapshot_generation", jsonNat 1),
      ("coverage_start", .str newYearText)]
  | .enumerateManifest request =>
    let requestHash := match hashManifestRequest dates (fun b => (digest b).toList)
        (some request) with
      | .ok requestHash => .str requestHash
      | .error _ => .null
    bodyOf [("protocol_version", jsonNat Contracts.currentProtocolVersion),
      ("format_version", jsonNat currentManifestEnumerationFormatVersion),
      ("request_hash", requestHash), ("catalog_close_key", text someHash),
      ("fleet_root_hash", text someHash), ("coverage", text "complete"), ("complete", .bool true),
      ("records", .arr []), ("evidence", .arr []), ("next_cursor", .null),
      ("diagnostics", bodyOf [("inspected_buckets", jsonNat 0), ("incomplete_buckets", jsonNat 0),
        ("returned_records", jsonNat 0)])]
  | .setAlarm _ => ()

def answers (call : Call) : call.Answer := .ok (answerOf call.ask)

/-- the storage throws an exception without a message -/
def answersBut (call : Call) : call.Answer :=
  match call with
  | ⟨some _, .setAlarm _⟩ => .error []
  | call => answers call

def version : List (String × JsonValue) := [("protocol_version", jsonNat 1), ("format_version", jsonNat 1)]

def registrationBody : JsonValue := bodyOf [("fleet_id", text "default"), ("tx_id", text "tx-1")]

def previewBody : JsonValue :=
  bodyOf (version ++ [("fleet_id", text "default"), ("cutoff", .str newYearText),
    ("idempotency_key", text "key")])


def restoreId : String := "restore-89dc8f6c4d5250a386b22064ef50a876"

def planHash : String := "2df8340ee76dc29d9f5a150e9454fc0b68c3348d0cec7e8ae538acc90cc11242"

def executeBody : JsonValue :=
  bodyOf (version ++ [("restore_id", text restoreId), ("plan_hash", text planHash)])

def statusBody : JsonValue := bodyOf (version ++ [("restore_id", text restoreId)])

/-- handler `i` goes on for `n` awaits -/
def resumes (i n : Nat) (ans : ∀ call : Call, call.Answer) :
    List (Choice Call Call.Answer Request Int) := List.replicate n (.run (.resume i ans))

/-- a coordinator is registered, a restore previewed and executed, and its status asked for -/
def executed (ans : ∀ call : Call, call.Answer) : List (Choice Call Call.Answer Request Int) :=
  [.run (.arrive (.fetch .registerCoordinator (some registrationBody))), .event (newYear + 1000),
    .run (.arrive (.fetch .preview (some previewBody)))] ++ resumes 1 8 answers
  ++ [.run (.arrive .alarm)] ++ resumes 2 5 answers ++ [.run (.arrive .alarm)] ++ resumes 3 3 answers
  ++ [.run (.arrive .alarm)] ++ resumes 4 5 answers ++ [.run (.arrive .alarm)] ++ resumes 5 2 answers
  ++ [.run (.arrive (.fetch .execute (some executeBody)))] ++ resumes 6 6 ans
  ++ [.run (.arrive (.fetch .status (some statusBody)))]

/-- a success that the client refuses as the status of a restore -/
def isRefused : Request × Response → Bool
  | (.fetch .status (some value), response) =>
    match validateRestoreStatusRequest value with
    | .ok restoreId => response.ok
        && !(Client.validateRestoreStatusResponse dates response.body restoreId.val).isOk
    | .error _ => false
  | _ => false

theorem not_accepted {r : Request × Response} (h : isRefused r = true) : ¬Accepted dates r.1 r.2 := by
  intro haccepted
  unfold isRefused at h
  split at h
  · split at h
    · rename_i restoreId hrequest
      obtain ⟨hok, hrefused⟩ := Bool.and_eq_true_iff.mp h
      rw [haccepted hok restoreId hrequest] at hrefused
      cases hrefused
    · cases h
  · cases h

theorem refused_of_any {sent : List (Request × Response)} (h : sent.any isRefused = true) :
    ∃ r ∈ sent, ¬Accepted dates r.1 r.2 := by
  obtain ⟨r, hr, hno⟩ := List.any_eq_true.mp h
  exact ⟨r, hr, not_accepted hno⟩

/-- an execution that an exception without a message has parked has a status that no client takes -/
theorem unspoken_exception :
    ∃ r ∈ ((coordinator oneShard).run ⟨World.fresh newYear, []⟩ (executed answersBut)).store.sent,
      ¬Accepted dates r.1 r.2 := refused_of_any (by decide +kernel)

theorem parse_bounds {text : JsString} {t : Int} (h : dates.parse text = some t) :
    0 ≤ t ∧ t ≤ maxTimeMs := by
  unfold dates at h
  dsimp only at h
  obtain ⟨hparse, hle⟩ := Option.filter_eq_some_iff.mp h
  refine ⟨?_, of_decide_eq_true hle⟩
  unfold isoDates at hparse
  dsimp only at hparse
  cases hread : parseISO text with
  | none =>
    rw [hread] at hparse
    cases hparse
  | some ms =>
    rw [hread] at hparse
    cases hparse
    exact Int.natCast_nonneg ms

theorem clocked : Clocked dates fun t => t = newYear ∨ t = newYear + 1000 where
  reads := by
    rintro t (rfl | rfl) <;> decide +kernel
  epoch := by
    rintro t (rfl | rfl) <;> decide
  bounded s t h := by
    obtain ⟨hnonneg, hle⟩ := parse_bounds h
    refine ⟨?_, hle⟩
    unfold maxTimeMs
    omega
  empty := by decide +kernel

theorem answered (call : Call) (s : World) : Answered call (answers call) s := by
  intro _ _ h
  unfold answers at h
  cases h

/-- what the preview asks for -/
theorem asked : Asked dates (· = newYearText) (.fetch .preview (some previewBody)) := by
  intro request h
  obtain ⟨es, hes, h⟩ := bind_ok h
  obtain ⟨fleetId, -, h⟩ := bind_ok h
  obtain ⟨ms, -, h⟩ := bind_ok h
  obtain ⟨cutoff, hcutoff, h⟩ := bind_ok h
  obtain ⟨idempotencyKey, -, h⟩ := bind_ok h
  cases h
  obtain ⟨es', hthis, hes⟩ := bind_ok hes
  cases hthis
  obtain ⟨_, -, hes⟩ := bind_ok hes
  obtain ⟨_, -, hes⟩ := bind_ok hes
  cases hes
  have hne : newYearText ≠ [] := clocked.ne_nil (clocked.stamp (.inl rfl))
  have hread := Client.textOfField_str hne
  have hfield : Wire.get (object (version ++ [("fleet_id", text "default"),
      ("cutoff", .str newYearText), ("idempotency_key", text "key")])) "cutoff" =
      some (.str newYearText) := get_object _ _
  unfold assertString at hcutoff
  rw [hfield, hread] at hcutoff
  cases hcutoff
  rfl

theorem apart : Apart oneShard (· = newYearText) := by
  intro c c' hc hc' _
  rw [hc, hc']

theorem executed_allowed : (coordinator oneShard).Meets (fun c x => x.Allowed (coordinator oneShard)
    (terms oneShard (fun t => t = newYear ∨ t = newYear + 1000) (· = newYearText)) c)
    ⟨World.fresh newYear, []⟩ (executed answers) := by
  refine System.meets_of_mem _ fun x hx c => ?_
  have hresumes : ∀ {i n}, x ∈ resumes i n answers → x.Allowed (coordinator oneShard)
      (terms oneShard (fun t => t = newYear ∨ t = newYear + 1000) (· = newYearText)) c := by
    intro i n hx
    rw [List.eq_of_mem_replicate hx]
    exact fun _ _ _ _ _ _ => answered _ _
  unfold executed at hx
  simp only [List.mem_append, List.mem_cons, List.not_mem_nil, or_false] at hx
  obtain ((((((((((((hx | hx | hx) | hx) | hx) | hx) | hx) | hx) | hx) | hx) | hx) | hx) | hx) | hx) | hx := hx
  all_goals first
    | exact hresumes hx
    | rw [hx]
  · trivial
  · exact .inr rfl
  · exact asked
  all_goals trivial

theorem executed_sound : AllSound oneShard (· = newYearText)
    ((coordinator oneShard).run ⟨World.fresh newYear, []⟩ (executed answers)).store := by
  have hnow : newYear = newYear ∨ newYear = newYear + 1000 := .inl rfl
  exact sound_run (E := oneShard) clocked apart hnow executed_allowed

/-- the clock is set back, and the alarm goes off -/
def setBack : List (Choice Call Call.Answer Request Int) := [.event newYear, .run (.arrive .alarm)]

theorem executed_kept :
    Kept ((coordinator oneShard).run ⟨World.fresh newYear, []⟩ (executed answers)).store
      ((coordinator oneShard).run ⟨World.fresh newYear, []⟩ (executed answers ++ setBack)).store := by
  have hnow : newYear = newYear ∨ newYear = newYear + 1000 := .inl rfl
  have hallowed : (coordinator oneShard).Meets (fun c x => x.Allowed (coordinator oneShard)
      (terms oneShard (fun t => t = newYear ∨ t = newYear + 1000) (· = newYearText)) c)
      ⟨World.fresh newYear, []⟩ (executed answers ++ setBack) :=
    (coordinator oneShard).meets_append.mpr ⟨executed_allowed, hnow, trivial, trivial⟩
  exact kept_run (E := oneShard) clocked apart hnow hallowed

/-- without that exception the status is taken, as every answer before it -/
theorem executed_taken :
    ((coordinator oneShard).run ⟨World.fresh newYear, []⟩ (executed answers)).store.sent.Forall
      fun r => Accepted dates r.1 r.2 := by
  have hnow : newYear = newYear ∨ newYear = newYear + 1000 := .inl rfl
  have htaken := answers_taken (E := oneShard) clocked apart hnow executed_allowed
  rw [List.forall_iff_forall_mem]
  exact htaken

end OneShard
end FleetRestore
