import CloudflareShard.Restore.FleetSound

/-!
# Answers that the client takes

* `exact_object`, `string_ok`, `timestamp_ok` and the others   what passes the checks of the client;
* `progress_taken`, `blocker_taken`, `report_taken`   the parts of a status;
* `statusResponse_taken`         **the status of a sound operation**;
* `previewedResponse_taken`, `previewingResponse_taken`, `acceptedResponse_taken`   the other answers;
* `restoreResponse_refused`      an error is no success.
-/

namespace FleetRestore.Client
open Json Wire

section
variable {value : Field} {field : String} {D : DateLib} {lo : Int}

/-- a check that passes -/
theorem passes {α β : Type} {x : Checked α} {f : α → Checked β} {a : α} {r : Checked β}
    (h : x = .ok a) (hf : f a = r) : x >>= f = r := (ok_bind h).trans hf

theorem exact_object {fields : List (String × JsonValue)} {keys : List String}
    (h : fields.map Prod.fst = keys) : exact (object fields) field keys = .ok () := by
  subst h
  have hknown : ((object fields).any fun e => !(fields.map Prod.fst).any fun key => e.1 == utf16 key)
      = false := by
    rw [List.any_eq_false]
    intro e he hno
    obtain ⟨f, hf, rfl⟩ := List.mem_map.mp he
    have hthere : ((fields.map Prod.fst).any fun key => utf16 f.1 == utf16 key) = true :=
      List.any_eq_true.mpr ⟨f.1, List.mem_map.mpr ⟨f, hf, rfl⟩, beq_self_eq_true (utf16 f.1)⟩
    rw [hthere] at hno
    cases hno
  have hthere : ((fields.map Prod.fst).any fun key => !has (object fields) key) = false := by
    rw [List.any_eq_false]
    intro key hkey hno
    obtain ⟨f, hf, rfl⟩ := List.mem_map.mp hkey
    rw [has_object, List.any_eq_true.mpr ⟨f, hf, beq_self_eq_true f.1⟩] at hno
    cases hno
  unfold exact
  rw [hknown, hthere]
  rfl

theorem textOfField_str {s : JsString} (h : s ≠ []) :
    textOfField (some (.str s)) = some ⟨s, h⟩ := dif_pos h

theorem string_ok {s : JsString} (h : s ≠ []) : string (some (.str s)) field = .ok s := by
  unfold string
  rw [textOfField_str h]

theorem hash_ok {s : JsString} (h : isSha256Hex s = true) : hash (some (.str s)) field = .ok s := by
  have hread : digestOf (some (.str s)) = some s := if_pos h
  unfold hash
  rw [hread]

theorem integer_ok {n : Int} (h : 0 ≤ n ∧ n ≤ maxSafe) :
    integer (some (jsonInteger n)) field = .ok n := by
  have hread : (safeValue (some (jsonInteger n))).filter (fun m => decide (((0 : Nat) : Int) ≤ m)) =
      some n := by
    rw [safeValue_jsonInteger (by omega)]
    exact if_pos (decide_eq_true h.1)
  unfold integer
  rw [hread]

theorem natural_ok {n : Nat} (h : n ≤ maxSafe) : integer (some (jsonNat n)) field = .ok (n : Int) :=
  integer_ok (by omega)

theorem timestamp_ok {text : JsString} (h : Stamp D lo text) (hne : text ≠ []) :
    timestamp D (some (.str text)) field = .ok text := by
  unfold timestamp
  rw [ok_bind (string_ok hne), Option.isNone_eq_false_iff.mpr h.canonical]
  rfl

theorem nullableTimestamp_ok {text : Option JsString}
    (h : ∀ t, text = some t → Stamp D lo t ∧ t ≠ []) :
    nullableTimestamp D (some (jsonOption .str text)) field = .ok text := by
  cases text with
  | none => rfl
  | some t =>
    obtain ⟨hstamp, hne⟩ := h t rfl
    show some <$> timestamp D (some (.str t)) field = _
    rw [timestamp_ok hstamp hne]
    rfl

theorem nullableString_ok {text : Option Text} :
    nullableString (some (jsonOption jsonText text)) field = .ok (text.map (·.val)) := by
  cases text with
  | none => rfl
  | some t =>
    show some <$> string (some (.str t.val)) field = _
    rw [string_ok t.property]
    rfl

end
end FleetRestore.Client

namespace FleetRestore
open Async Json Wire
open Restore (RestoreErrorCode restoreErrorHttpStatus)

section
variable {E : Env} {T : Int → Prop} {C : JsString → Prop} {s : World} {op : OperationRow}
  (hD : Clocked E.platform.dates T)

/-! ## the parts of a status -/

theorem isText_utf16 {text text' : String} : isText (some (.str (utf16 text))) text' = (text == text') :=
  utf16_beq text text'

theorem isOneOf_utf16 {text : String} {texts : List String} :
    isOneOf (some (.str (utf16 text))) texts = texts.any fun t => text == t := by
  unfold isOneOf
  congr 1
  funext t
  exact utf16_beq text t

theorem phase_known (phase : Phase) :
    isOneOf (some (.str (utf16 phase.text))) Client.phases = true := by
  rw [isOneOf_utf16]
  cases phase <;> decide

theorem code_known (code : RestoreErrorCode) :
    isOneOf (some (.str (utf16 code.text))) Client.errorCodes = true := by
  rw [isOneOf_utf16]
  cases code <;> decide

/-- what is counted fits into a number -/
theorem count_safe {K R : Type} {key : R → K} {t : Capped K R key maxRows} {p : R → Bool} :
    t.count p ≤ maxSafe := t.count_le.trans (by decide)

def progressOf (s : World) (restoreId : Text) : Client.Progress where
  participantsTotal := s.countParticipants restoreId fun _ => true
  participantsRestored := s.countParticipants restoreId fun p => isRestored p.status
  transactionsTotal := s.countRecords restoreId fun _ => true
  transactionsReconciled := s.countRecords restoreId fun r => r.reconciled

theorem progress_taken (s : World) (restoreId : Text) :
    Client.progressOf (some (progressJson s restoreId)) = .ok (progressOf s restoreId) := by
  have hparticipants : s.countParticipants restoreId (fun p => isRestored p.status)
      ≤ s.countParticipants restoreId fun _ => true :=
    Capped.count_mono fun p _ hp => by
      rw [Bool.and_true]
      exact (Bool.and_eq_true_iff.mp hp).1
  have hrecords : s.countRecords restoreId (fun r => r.reconciled)
      ≤ s.countRecords restoreId fun _ => true :=
    Capped.count_mono fun r _ hr => by
      rw [Bool.and_true]
      exact (Bool.and_eq_true_iff.mp hr).1
  unfold Client.progressOf progressJson
  refine Client.passes (show Client.asObject _ _ = .ok _ from rfl) ?_
  refine Client.passes (Client.exact_object rfl) ?_
  rw [get_object, get_object, get_object, get_object]
  refine Client.passes (Client.natural_ok count_safe) ?_
  refine Client.passes (Client.natural_ok count_safe) ?_
  refine Client.passes (Client.natural_ok count_safe) ?_
  refine Client.passes (Client.natural_ok count_safe) ?_
  rw [decide_eq_false (by omega), decide_eq_false (by omega)]
  rfl

theorem blocker_taken {blocker : Blocker} (h : blocker.message ≠ []) :
    Client.checkBlocker (blockerJson blocker) = .ok () := by
  unfold Client.checkBlocker blockerJson
  refine Client.passes (show Client.asObject _ _ = .ok _ from rfl) ?_
  refine Client.passes (Client.exact_object rfl) ?_
  rw [get_object, get_object, get_object, get_object]
  refine Client.passes (show Client.invalidIf (!isOneOf (some _) _) _ = .ok () from ?_) ?_
  · rw [code_known]
    rfl
  refine Client.passes (Client.string_ok h) ?_
  refine Client.passes Client.nullableString_ok ?_
  exact Client.passes Client.nullableString_ok rfl

theorem blockers_taken : ∀ {blockers : List Blocker}, (∀ b ∈ blockers, b.message ≠ []) →
    ∃ us, (blockers.map blockerJson).mapM Client.checkBlocker = .ok us
  | [], _ => ⟨[], rfl⟩
  | b :: blockers, h => by
    obtain ⟨us, hus⟩ := blockers_taken fun b' hb' => h b' (List.mem_cons_of_mem b hb')
    refine ⟨() :: us, ?_⟩
    rw [List.map_cons, List.mapM_cons, Client.ok_bind (blocker_taken (h b List.mem_cons_self)),
      Client.ok_bind hus]
    rfl

include hD in
theorem report_taken {report : Option Report} (h : ∀ r, report = some r → Reported E r) :
    Client.checkReport E.platform.dates (some (jsonOption reportJson report)) =
      .ok report.isSome := by
  cases report with
  | none => rfl
  | some report =>
    have hreport := h report rfl
    unfold Client.checkReport
    show (Client.asObject (some (reportJson report)) _ >>= _) = _
    unfold reportJson
    refine Client.passes (show Client.asObject _ _ = .ok _ from rfl) ?_
    refine Client.passes (Client.exact_object rfl) ?_
    rw [get_object, get_object, get_object, get_object, get_object, get_object]
    refine Client.passes (Client.natural_ok hreport.count) ?_
    refine Client.passes (Client.hash_ok hreport.hash) ?_
    refine Client.passes (show Client.invalidIf _ _ = .ok () from rfl) ?_
    refine Client.passes (Client.integer_ok hreport.rpo) ?_
    refine Client.passes (Client.integer_ok hreport.rto) ?_
    refine Client.passes (Client.timestamp_ok hreport.verified (hD.ne_nil hreport.verified)) ?_
    show Except.ok (Client.isTrue (some (.bool _))) = _
    rw [hreport.complete]
    rfl

/-! ## the status -/

/-- an operation that a status is told of has a plan or is being previewed -/
theorem Sound.told (h : Sound E C s op) (htold : (op.planHash.isNone && op.stage == .failed) = false) :
    Planned E op ∨ Unplanned op ∧ op.phase = .previewing ∧ op.blockerJson = none := by
  by_cases hearly : op.stage.standing = .early
  · obtain ⟨hplan, hphase, -, hblockers⟩ := h.unplanned hearly
    exact .inr ⟨hplan, hphase, hblockers⟩
  · by_cases hfailed : op.stage.standing = .failed
    · have hstands := h.stands
      unfold Stands at hstands
      rw [hfailed] at hstands
      rcases hstands.1 with hplan | hplan
      · have hstage : op.stage = .failed := by
          cases hst : op.stage <;> rw [hst] at hfailed <;> first | rfl | cases hfailed
        rw [hplan.hash, hstage] at htold
        cases htold
      · exact .inl hplan
    · exact .inl (h.planned hearly hfailed)

theorem Sound.settled (h : Sound E C s op) (hp : op.phase.settled = true) :
    Complete s op ∨ op.phase ≠ .complete ∧ op.completedAt.isSome ∧ op.blockerJson = none := by
  have hstands := h.stands
  unfold Stands at hstands
  split at hstands
  · rw [hstands.2.1] at hp
    cases hp
  · rw [hstands.2] at hp
    cases hp
  · rw [hstands.2] at hp
    cases hp
  · rw [hstands.2.1] at hp
    cases hp
  · rw [hstands.2] at hp
    cases hp
  · exact .inl hstands.2
  · exact .inr hstands.2

theorem Complete.progress (h : Complete s op) :
    s.countParticipants op.restoreId (fun p => isRestored p.status)
        = s.countParticipants op.restoreId (fun _ => true)
      ∧ s.countRecords op.restoreId (fun r => r.reconciled)
        = s.countRecords op.restoreId fun _ => true := by
  constructor
  · refine Capped.count_congr_of fun p hp => ?_
    by_cases hid : p.restoreId = op.restoreId
    · show (_ && isRestored p.status) = _
      rw [h.participants p hp hid]
      rfl
    · rw [beq_false_of_ne hid, Bool.false_and, Bool.false_and]
  · refine Capped.count_congr_of fun r hr => ?_
    by_cases hid : r.restoreId = op.restoreId
    · show (_ && r.reconciled) = _
      rw [h.records r hr hid]
    · rw [beq_false_of_ne hid, Bool.false_and, Bool.false_and]

theorem complete_evidence (h : Sound E C s op) :
    (isText (some (.str (utf16 op.phase.text))) "complete"
      && (op.completedAt.isNone || isNull (some (jsonOption reportJson op.reportJson))
        || !op.reportJson.isSome
        || (progressOf s op.restoreId).participantsRestored
          != (progressOf s op.restoreId).participantsTotal
        || (progressOf s op.restoreId).transactionsReconciled
          != (progressOf s op.restoreId).transactionsTotal
        || !((op.blockerJson.getD []).map blockerJson).isEmpty)) = false := by
  by_cases hphase : op.phase = .complete
  · rcases h.settled (by rw [hphase]; rfl) with hcomplete | ⟨hno, -⟩
    · obtain ⟨report, hreport⟩ := Option.isSome_iff_exists.mp hcomplete.report
      obtain ⟨hparticipants, hrecords⟩ := hcomplete.progress
      have hrestored : (progressOf s op.restoreId).participantsRestored =
          (progressOf s op.restoreId).participantsTotal := congrArg Int.ofNat hparticipants
      have hreconciled : (progressOf s op.restoreId).transactionsReconciled =
          (progressOf s op.restoreId).transactionsTotal := congrArg Int.ofNat hrecords
      rw [Option.isNone_eq_false_iff.mpr hcomplete.completedAt, hreport, hrestored, hreconciled,
        bne_self_eq_false, bne_self_eq_false, hcomplete.blockers]
      exact Bool.and_false _
    · exact absurd hphase hno
  · have hother : isText (some (.str (utf16 op.phase.text))) "complete" = false := by
      rw [isText_utf16]
      cases hp : op.phase <;> first | decide | exact absurd hp hphase
    rw [hother, Bool.false_and]

theorem rolledBack_evidence (h : Sound E C s op) :
    (isText (some (.str (utf16 op.phase.text))) "rolled_back"
      && (op.completedAt.isNone || !((op.blockerJson.getD []).map blockerJson).isEmpty)) = false := by
  by_cases hphase : op.phase = .rolledBack
  · have hend : op.completedAt.isSome ∧ op.blockerJson = none := by
      rcases h.settled (by rw [hphase]; rfl) with hcomplete | ⟨-, hend⟩
      · exact ⟨hcomplete.completedAt, hcomplete.blockers⟩
      · exact hend
    rw [Option.isNone_eq_false_iff.mpr hend.1, hend.2]
    exact Bool.and_false _
  · have hother : isText (some (.str (utf16 op.phase.text))) "rolled_back" = false := by
      rw [isText_utf16]
      cases hp : op.phase <;> first | decide | exact absurd hp hphase
    rw [hother, Bool.false_and]

theorem planHash_taken {es : Entries} (h : Planned E op ∨ Unplanned op ∧ op.phase = .previewing)
    (hhash : Wire.get es "plan_hash" = some (jsonOption .str op.planHash))
    (hphase : Wire.get es "phase" = some (.str (utf16 op.phase.text))) :
    Client.checkPlanHash es = .ok () := by
  unfold Client.checkPlanHash
  rw [hhash, hphase]
  rcases h with hplan | ⟨hplan, hpreviewing⟩
  · obtain ⟨digest, hdigest, hhex⟩ := hplan.hash
    rw [hdigest]
    show (Client.hash (some (.str digest)) _ >>= _) = _
    exact Client.passes (Client.hash_ok hhex) rfl
  · rw [hplan.hash, hpreviewing]
    rw [isText_utf16]
    rfl

include hD in
theorem statusResponse_taken (h : Sound E C s op)
    (htold : (op.planHash.isNone && op.stage == .failed) = false) :
    Client.validateRestoreStatusResponse E.platform.dates (statusResponse s op).body op.restoreId.val
      = .ok () := by
  have hplan := h.told htold
  have hmessages : ∀ b ∈ op.blockerJson.getD [], b.message ≠ [] := by
    rcases hplan with hplan | ⟨-, -, hnone⟩
    · exact hplan.blockers
    · rw [hnone]
      exact nofun
  have hstamped : ∀ text : Option JsString, (∀ t, text = some t → Stamp E.platform.dates 0 t) →
      ∀ t, text = some t → Stamp E.platform.dates 0 t ∧ t ≠ [] :=
    fun _ htext t ht => ⟨htext t ht, hD.ne_nil (htext t ht)⟩
  obtain ⟨us, hblockers⟩ := blockers_taken hmessages
  unfold Client.validateRestoreStatusResponse statusResponse json
  refine Client.passes (show Client.asObject _ _ = .ok _ from rfl) ?_
  refine Client.passes (Client.exact_object rfl) ?_
  rw [planHash_taken (hplan.imp id fun h => ⟨h.1, h.2.1⟩)
    (show Wire.get (object _) "plan_hash" = _ from get_object _ _)
    (show Wire.get (object _) "phase" = _ from get_object _ _)]
  simp only [get_object]
  refine Client.passes (show Client.invalidIf _ _ = .ok () from rfl) ?_
  refine Client.passes (Client.string_ok op.restoreId.property) ?_
  refine Client.passes (a := ()) ?_ ?_
  · rw [bne_self_eq_false, Bool.and_false]
    rfl
  refine Client.passes (Client.string_ok op.fleetId.property) ?_
  refine Client.passes (Client.timestamp_ok h.timed.cutoff op.cutoff.property) ?_
  refine Client.passes (show Client.invalidIf (!isOneOf (some _) _) _ = .ok () from ?_) ?_
  · rw [phase_known]
    rfl
  refine Client.passes rfl ?_
  refine Client.passes (Client.nullableTimestamp_ok (hstamped _ h.timed.startedAt)) ?_
  refine Client.passes (Client.timestamp_ok h.timed.updatedAt (hD.ne_nil h.timed.updatedAt)) ?_
  refine Client.passes (Client.nullableTimestamp_ok (hstamped _ h.timed.completedAt)) ?_
  refine Client.passes (progress_taken s op.restoreId) ?_
  refine Client.passes (show Client.asArray _ _ = .ok _ from rfl) ?_
  refine Client.passes hblockers ?_
  refine Client.passes (report_taken hD h.timed.report) ?_
  refine Client.passes (a := ())
    (congrArg (fun c => Client.invalidIf c _) (complete_evidence h)) ?_
  exact congrArg (fun c => Client.invalidIf c _) (rolledBack_evidence h)

/-- what a question about the status is answered with -/
theorem statusOf_taken {restoreId : Text} {response : Response} (hD : Clocked E.platform.dates T)
    (hs : Inv E T C s) (h : statusOf restoreId s = .ok response) :
    Client.validateRestoreStatusResponse E.platform.dates response.body restoreId.val = .ok () := by
  unfold statusOf at h
  split at h
  · cases h
  · rename_i op hop
    split at h
    · cases h
    · rename_i htold
      cases h
      rw [← restoreId_of_operation hop]
      exact statusResponse_taken hD (hs.soundOf hop) (Bool.eq_false_iff.mpr htold)

/-! ## the other answers -/

theorem previewedResponse_taken {plan : JsonValue} (h : Planned E op) (hplan : op.planJson = some plan) :
    Client.validateRestorePreviewResponse E.platform.dates (previewedResponse plan).body
      op.fleetId.val op.cutoff.val = .ok () := by
  obtain ⟨es, hes, htaken, hbound⟩ := h.plan
  rw [hplan] at hes
  cases hes
  unfold Client.validateRestorePreviewResponse previewedResponse json
  refine Client.passes (show Client.asObject _ _ = .ok _ from rfl) ?_
  simp only [get_object]
  show (if isText (some (.str (utf16 "previewed"))) "previewing" then _
    else if isText (some (.str (utf16 "previewed"))) "previewed" then _ else _) = _
  rw [isText_utf16, isText_utf16]
  refine Client.passes (Client.exact_object rfl) ?_
  refine Client.passes (show Client.invalidIf _ _ = .ok () from rfl) ?_
  refine Client.passes htaken ?_
  rw [hbound]
  rfl

theorem previewingResponse_taken {restoreId fleetId cutoff : Text} {lo : Int}
    (hcutoff : Stamp E.platform.dates lo cutoff.val) :
    Client.validateRestorePreviewResponse E.platform.dates
      (previewingResponse restoreId fleetId cutoff).body fleetId.val cutoff.val = .ok () := by
  unfold Client.validateRestorePreviewResponse previewingResponse json
  refine Client.passes (show Client.asObject _ _ = .ok _ from rfl) ?_
  have hbound : Client.boundTo (object [("ok", .bool true), ("status", .str (utf16 "previewing")),
      ("restore_id", jsonText restoreId), ("fleet_id", jsonText fleetId), ("cutoff", jsonText cutoff),
      ("retry_after_ms", jsonInteger restoreAlarmDelayMs)]) fleetId.val cutoff.val = true := by
    unfold Client.boundTo
    rw [get_object, get_object]
    exact Bool.and_eq_true_iff.mpr ⟨beq_self_eq_true fleetId.val, beq_self_eq_true cutoff.val⟩
  rw [hbound]
  simp only [get_object]
  show (if isText (some (.str (utf16 "previewing"))) "previewing" then _ else _) = _
  rw [isText_utf16]
  refine Client.passes (Client.exact_object rfl) ?_
  refine Client.passes (show Client.invalidIf _ _ = .ok () from rfl) ?_
  refine Client.passes (Client.string_ok restoreId.property) ?_
  refine Client.passes (Client.string_ok fleetId.property) ?_
  refine Client.passes (Client.timestamp_ok hcutoff cutoff.property) ?_
  refine Client.passes (show Client.invalidIf _ _ = .ok () from rfl) ?_
  exact Client.passes (Client.integer_ok (by decide)) rfl

theorem acceptedResponse_taken {status : String} {restoreId : Text} {planHash : JsString}
    {httpStatus : Nat} (hstatus : ["accepted", "already_started"].any (status == ·) = true)
    (hhash : isSha256Hex planHash = true) :
    Client.validateRestoreAcceptedResponse (acceptedResponse status restoreId planHash httpStatus).body
      restoreId.val planHash = .ok () := by
  unfold Client.validateRestoreAcceptedResponse acceptedResponse json
  refine Client.passes (show Client.asObject _ _ = .ok _ from rfl) ?_
  refine Client.passes (Client.exact_object rfl) ?_
  simp only [get_object]
  refine Client.passes (a := ()) ?_ ?_
  · show Client.invalidIf (!true || !isOneOf (some (.str (utf16 status))) _) _ = _
    rw [isOneOf_utf16, hstatus]
    rfl
  refine Client.passes (Client.string_ok restoreId.property) ?_
  refine Client.passes (Client.hash_ok hhash) ?_
  rw [bne_self_eq_false, bne_self_eq_false]
  rfl

/-- an error is no success -/
theorem restoreResponse_refused (v : Violation) : (restoreResponse v).ok = false := by
  show (decide (200 ≤ restoreErrorHttpStatus v.code)
    && decide (restoreErrorHttpStatus v.code < 300)) = false
  cases v.code <;> decide

end
end FleetRestore
