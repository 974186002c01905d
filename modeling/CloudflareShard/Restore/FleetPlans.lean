import CloudflareShard.Restore.FleetClient

/-!
# Plans that passed the contract

The contract checks the body of a plan before it is hashed, the client the plan that it receives.

* `Passes`, `Passes.bind`, `Passes.skip`   one check passes whenever another one does;
* `string_passes`, `timestamp_passes` and the others   the checks that plans are made of;
* `validateRestorePlan_of_body`   **the client takes every plan that passed the contract**.
-/

namespace FleetRestore.Client
open Json Wire

theorem bind_ok {ε α β : Type} {x : Except ε α} {f : α → Except ε β} {b : β}
    (h : x >>= f = .ok b) : ∃ a, x = .ok a ∧ f a = .ok b := by
  cases x with
  | error e => cases h
  | ok a => exact ⟨a, rfl, h⟩

theorem ok_bind {ε α β : Type} {x : Except ε α} {f : α → Except ε β} {a : α} (h : x = .ok a) :
    x >>= f = f a := by
  rw [h]
  rfl

/-- `y` passes whenever `x` does, and what they hand on is related by `R` -/
def Passes {α β : Type} (R : α → β → Prop) (x : Try α) (y : Checked β) : Prop :=
  ∀ a, x = .ok a → ∃ b, y = .ok b ∧ R a b

namespace Passes
variable {α β γ δ : Type} {R : α → β → Prop} {S : γ → δ → Prop} {x : Try α} {y : Checked β}

theorem pure {a : α} {b : β} (h : R a b) : Passes R (.ok a) (.ok b) := by
  intro a' ha
  cases ha
  exact ⟨b, rfl, h⟩

theorem bind {f : α → Try γ} {g : β → Checked δ} (h : Passes R x y)
    (hfg : ∀ a b, x = .ok a → R a b → Passes S (f a) (g b)) : Passes S (x >>= f) (y >>= g) := by
  intro c hc
  cases hx : x with
  | error e =>
    rw [hx] at hc
    cases hc
  | ok a =>
    obtain ⟨b, hb, hab⟩ := h a hx
    rw [hb]
    rw [hx] at hc
    exact hfg a b hx hab c hc

/-- a check that only the client makes -/
theorem skip {b : β} {g : β → Checked δ} {z : Try γ} (hy : y = .ok b) (h : Passes S z (g b)) :
    Passes S z (y >>= g) := by
  rw [hy]
  exact h

/-- the client hands on more than the contract does -/
theorem last {g : β → Checked δ} {T : α → δ → Prop} (h : Passes R x y)
    (hg : ∀ a b, R a b → ∃ c, g b = .ok c ∧ T a c) : Passes T x (y >>= g) := by
  intro a ha
  obtain ⟨b, hb, hab⟩ := h a ha
  obtain ⟨c, hc, hac⟩ := hg a b hab
  exact ⟨c, (ok_bind hb).trans hc, hac⟩

theorem fail {v : Thrown} : Passes R (.error v) y := nofun

end Passes

section
variable {value : Field} {field field' : String} {es : Entries} {D : DateLib}

theorem asObject_passes :
    Passes (· = ·) (assertPlainObject value field) (asObject value field') := by
  unfold assertPlainObject asObject
  split
  · exact .pure rfl
  · exact .fail

theorem exact_passes {keys : List String} :
    Passes (fun _ _ => True) (assertExactKeys es field keys) (exact es field' keys) := by
  intro _ hok
  unfold assertExactKeys at hok
  split at hok
  · cases hok
  rename_i hunknown
  split at hok
  · cases hok
  rename_i hmissing
  have hknown : (es.any fun e => !keys.any fun key => e.1 == utf16 key) = false := by
    rw [List.any_eq_false]
    intro e he hno
    have hmem : e.1 ∈ unknownKeys es keys :=
      List.mem_filter.mpr ⟨List.mem_map_of_mem he, hno⟩
    rw [not_not.mp hunknown] at hmem
    cases hmem
  have hthere : (keys.any fun key => !has es key) = false := by
    rw [List.any_eq_false]
    intro key hkey hno
    have hmem : key ∈ missingKeys es keys := List.mem_filter.mpr ⟨hkey, hno⟩
    rw [not_not.mp hmissing] at hmem
    cases hmem
  refine ⟨(), ?_, trivial⟩
  unfold exact
  rw [hknown, hthere]
  rfl

theorem version_passes {message : String} : Passes (fun _ _ => True)
    (assertVersion es restorePlanFormatVersion field)
    (invalidIf (!(isNumber (Wire.get es "protocol_version") 1
      && isNumber (Wire.get es "format_version") 1)) message) := by
  unfold assertVersion restorePlanFormatVersion restoreProtocolVersion invalidIf
  split
  · rename_i h
    rw [h]
    exact .pure trivial
  · intro _ hok
    obtain ⟨_, -, hok⟩ := bind_ok hok
    obtain ⟨_, -, hok⟩ := bind_ok hok
    cases hok

theorem string_passes :
    Passes (fun text s => text.val = s) (assertString value field) (string value field') := by
  unfold assertString string
  cases textOfField value with
  | some s => exact .pure rfl
  | none => exact .fail

theorem hash_passes : Passes (· = ·) (assertHash value field) (hash value field') := by
  unfold assertHash hash
  cases digestOf value with
  | some s => exact .pure rfl
  | none => exact .fail

theorem integer_passes {minimum : Nat} :
    Passes (· = ·) (assertInteger value field minimum) (integer value field' minimum) := by
  unfold assertInteger integer
  cases (safeValue value).filter fun n => decide ((minimum : Int) ≤ n) with
  | some n => exact .pure rfl
  | none => exact .fail

theorem asArray_passes {message : Text} {message' : String} :
    Passes (· = ·) (assertArray value message) (asArray value message') := by
  unfold assertArray asArray
  split
  · exact .pure rfl
  · exact .fail

theorem invalidIf_passes {condition condition' : Bool} {message : Text} {message' : String}
    (h : condition = false → condition' = false) :
    Passes (fun _ _ => True) (FleetRestore.invalidIf condition message)
      (invalidIf condition' message') := by
  unfold FleetRestore.invalidIf invalidIf
  cases condition with
  | true => exact .fail
  | false =>
    rw [h rfl]
    exact .pure trivial

/-- a time and its text -/
def Dated (D : DateLib) (ms : Int) (text : JsString) : Prop := D.parse text = some ms ∧ D.iso ms = text

theorem canonicalTime_dated {text : JsString} {ms : Int} (h : canonicalTime D text = some ms) :
    Dated D ms text := by
  unfold canonicalTime at h
  split at h
  · rename_i ms' hparse
    split at h
    · rename_i hiso
      cases h
      exact ⟨hparse, hiso⟩
    · cases h
  · cases h

theorem timestamp_passes :
    Passes (Dated D) (parseTimestamp D value field) (timestamp D value field') := by
  unfold parseTimestamp timestamp
  refine string_passes.bind fun text s _ hs => ?_
  subst hs
  cases h : canonicalTime D text.val with
  | none => exact .fail
  | some ms => exact .pure (canonicalTime_dated h)

theorem later_dated {a b : Int} {s t : JsString} (hs : Dated D a s) (ht : Dated D b t) :
    later D s t = decide (b < a) := by
  unfold later
  rw [hs.1, ht.1]

theorem notBefore_dated {a b : Int} {s t : JsString} (hs : Dated D a s) (ht : Dated D b t) :
    notBefore D s t = decide (b ≤ a) := by
  unfold notBefore
  rw [hs.1, ht.1]

theorem foldlM_passes {f : JsString → JsonValue → Try JsString}
    {g : JsString → JsonValue → Checked JsString} (h : ∀ s v, Passes (· = ·) (f s v) (g s v)) :
    ∀ (values : List JsonValue) (s : JsString),
      Passes (· = ·) (values.foldlM f s) (values.foldlM g s)
  | [], _ => .pure rfl
  | v :: values, s => by
    rw [List.foldlM_cons, List.foldlM_cons]
    refine (h s v).bind fun a b _ hab => ?_
    subst hab
    exact foldlM_passes h values a

theorem planParticipant_passes (previous : JsString) (v : JsonValue) :
    Passes (· = ·) (validateParticipant previous v) (planParticipant previous v) := by
  unfold validateParticipant planParticipant
  refine asObject_passes.bind fun es es' _ he => ?_
  subst he
  refine exact_passes.bind fun _ _ _ _ => ?_
  refine string_passes.bind fun participantId _ _ hid => ?_
  subst hid
  refine (invalidIf_passes id).bind fun _ _ _ _ => ?_
  refine string_passes.bind fun _ _ _ _ => ?_
  exact string_passes.bind fun _ _ _ _ => .pure rfl

theorem planLimitation_passes (previous : JsString) (v : JsonValue) :
    Passes (· = ·) (validateLimitation previous v) (planLimitation previous v) := by
  unfold validateLimitation planLimitation
  refine string_passes.bind fun limitation _ _ hl => ?_
  subst hl
  exact (invalidIf_passes id).bind fun _ _ _ _ => .pure rfl

theorem planTopology_passes :
    Passes (fun _ _ => True) (validateTopology value) (planTopology value) := by
  unfold validateTopology planTopology
  refine asObject_passes.bind fun es es' _ he => ?_
  subst he
  refine exact_passes.bind fun _ _ _ _ => ?_
  refine integer_passes.bind fun _ _ _ _ => ?_
  exact hash_passes.bind fun _ _ _ _ => .pure trivial

theorem planManifest_passes {cutoff : Int} {text : JsString} (hcutoff : Dated D cutoff text) :
    Passes (· = ·) (validateManifest D value cutoff) (planManifest D value text) := by
  unfold validateManifest planManifest
  refine asObject_passes.bind fun es es' _ he => ?_
  subst he
  refine exact_passes.bind fun _ _ _ _ => ?_
  refine timestamp_passes.bind fun start start' _ hstart => ?_
  refine (invalidIf_passes fun h => (later_dated hstart hcutoff).trans h).bind fun _ _ _ _ => ?_
  refine hash_passes.bind fun _ _ _ _ => ?_
  refine integer_passes.bind fun _ _ _ _ => ?_
  refine hash_passes.bind fun _ _ _ _ => ?_
  refine hash_passes.bind fun _ _ _ _ => ?_
  refine hash_passes.bind fun _ _ _ _ => ?_
  exact integer_passes

theorem planParticipants_passes :
    Passes (· = ·) (validateParticipants value) (planParticipants value) := by
  unfold validateParticipants planParticipants
  refine asArray_passes.bind fun values values' _ hv => ?_
  subst hv
  refine (invalidIf_passes id).bind fun _ _ _ _ => ?_
  exact (foldlM_passes planParticipant_passes values []).bind fun _ _ _ _ => .pure rfl

theorem strictEq_str {s : JsString} (h : strictEq value (some (.str s)) = true) :
    value = some (.str s) := by
  cases value with
  | none => cases h
  | some v =>
    cases v with
    | str t =>
      have heq : (t == s) = true := h
      rw [beq_iff_eq.mp heq]
    | num n => cases n <;> cases h
    | _ => cases h

theorem timestamp_str {text : JsString} {s : JsString} (h : timestamp D value field = .ok text)
    (hv : value = some (.str s)) : text = s := by
  subst hv
  unfold timestamp string textOfField at h
  dsimp only at h
  split at h
  · rename_i t ht
    split at ht
    · cases ht
      cases hc : canonicalTime D s with
      | none =>
        simp only [bind, Except.bind, invalidIf, hc, Option.isNone_none, if_true, invalid] at h
        cases h
      | some ms =>
        simp only [bind, Except.bind, invalidIf, hc, Option.isNone_some] at h
        exact (Except.ok.inj h).symm
    · cases ht
  · cases h

theorem invalidIf_ok {condition : Bool} {message : Text} {u : Unit}
    (h : FleetRestore.invalidIf condition message = .ok u) : condition = false := by
  cases condition with
  | false => rfl
  | true => cases h

theorem planImpact_passes {participantCount : Nat} {recordCount cutoff executeBefore : Int}
    {cutoffText beforeText : JsString} (hcutoff : Dated D cutoff cutoffText)
    (hbefore : Dated D executeBefore beforeText) :
    Passes (fun _ _ => True)
      (validateImpact D value participantCount recordCount cutoff (some (.str (D.iso executeBefore))))
      (planImpact D value participantCount recordCount cutoffText beforeText) := by
  intro _ hok
  -- the contract compares at the end, the client next to each field
  obtain ⟨es, hes, hok⟩ := bind_ok hok
  obtain ⟨_, hkeys, hok⟩ := bind_ok hok
  obtain ⟨participants, hparticipants, hok⟩ := bind_ok hok
  obtain ⟨transactions, htransactions, hok⟩ := bind_ok hok
  obtain ⟨lossFrom, hfrom, hok⟩ := bind_ok hok
  obtain ⟨through, hthrough, hok⟩ := bind_ok hok
  obtain ⟨_, hcounts, hbounds⟩ := bind_ok hok
  obtain ⟨hpcount, htcount⟩ := Bool.or_eq_false_iff.mp (invalidIf_ok hcounts)
  obtain ⟨hcovers, hends⟩ := Bool.or_eq_false_iff.mp (invalidIf_ok hbounds)
  obtain ⟨_, hes', rfl⟩ := (asObject_passes : Passes _ _ (asObject value "plan.impact")) es hes
  obtain ⟨_, hkeys', -⟩ := (exact_passes : Passes _ _ (exact es "plan.impact" _)) _ hkeys
  obtain ⟨_, hparticipants', rfl⟩ :=
    (integer_passes : Passes _ _ (integer _ "plan.impact.participant_count" 1)) _ hparticipants
  obtain ⟨_, htransactions', rfl⟩ :=
    (integer_passes : Passes _ _ (integer _ "plan.impact.transaction_count")) _ htransactions
  obtain ⟨fromText, hfrom', hdated⟩ :=
    (timestamp_passes : Passes _ _ (timestamp D _ "plan.impact.intentional_loss_from")) _ hfrom
  obtain ⟨throughText, hthrough', -⟩ :=
    (timestamp_passes : Passes _ _ (timestamp D _ "plan.impact.intentional_loss_through")) _ hthrough
  have hlater : later D fromText cutoffText = false := (later_dated hdated hcutoff).trans hcovers
  have hsame : throughText = beforeText := by
    have hvalue := strictEq_str (Bool.not_eq_eq_eq_not.mp hends)
    rw [timestamp_str hthrough' hvalue, hbefore.2]
  refine ⟨(), ?_, trivial⟩
  unfold planImpact
  rw [ok_bind hes', ok_bind hkeys', ok_bind hparticipants', hpcount]
  show (integer _ _ >>= _) = _
  rw [ok_bind htransactions', htcount]
  show (timestamp D _ _ >>= _) = _
  rw [ok_bind hfrom', hlater]
  show (timestamp D _ _ >>= _) = _
  rw [ok_bind hthrough', hsame, bne_self_eq_false]
  rfl

theorem planRollback_passes :
    Passes (fun _ _ => True) (validateRollback D value) (planRollback D value) := by
  unfold validateRollback planRollback
  refine asObject_passes.bind fun es es' _ he => ?_
  subst he
  refine exact_passes.bind fun _ _ _ _ => ?_
  refine (invalidIf_passes id).bind fun _ _ _ _ => ?_
  have hexpires : Passes (fun _ _ => True)
      (assertNullableTimestamp D (Wire.get es "undo_expires_at") "undo_expires_at")
      (nullableTimestamp D (Wire.get es "undo_expires_at") "plan.rollback.undo_expires_at") := by
    unfold assertNullableTimestamp nullableTimestamp
    split
    · exact .pure trivial
    · exact timestamp_passes.bind fun _ _ _ _ => .pure trivial
  refine hexpires.bind fun _ _ _ _ => ?_
  refine asArray_passes.bind fun values values' _ hv => ?_
  subst hv
  exact (foldlM_passes planLimitation_passes values []).bind fun _ _ _ _ => .pure trivial

/-- a property that is not the one added -/
theorem get_append {name added : String} {v : JsonValue} (h : name ≠ added) :
    Wire.get (es ++ [(utf16 added, v)]) name = Wire.get es name := by
  unfold Wire.get
  rw [List.find?_append, List.find?_singleton, utf16_beq, beq_false_of_ne (Ne.symm h)]
  rw [if_neg (by simp), Option.or_none]

theorem get_added {added : String} {v : JsonValue} (h : has es added = false) :
    Wire.get (es ++ [(utf16 added, v)]) added = some v := by
  have hnone : es.find? (fun e => e.1 == utf16 added) = none :=
    List.find?_eq_none.mpr (List.any_eq_false.mp h)
  unfold Wire.get
  rw [List.find?_append, hnone, Option.none_or, List.find?_singleton, beq_self_eq_true, if_pos rfl]
  rfl

/-- the keys of the plan, once the body has its own -/
theorem exact_plan {u : Unit} {digest : JsonValue}
    (h : assertExactKeys es field planBodyKeys = .ok u) :
    has es "plan_hash" = false ∧
      exact (es ++ [(utf16 "plan_hash", digest)]) field' planKeys = .ok () := by
  obtain ⟨_, hexact, -⟩ := (exact_passes : Passes _ _ (exact es field' planBodyKeys)) _ h
  unfold exact invalidIf at hexact
  split at hexact
  · cases hexact
  rename_i hkeys
  obtain ⟨hknown, hthere⟩ := Bool.or_eq_false_iff.mp (Bool.eq_false_iff.mpr hkeys)
  have hnone : has es "plan_hash" = false := by
    rw [has, List.any_eq_false]
    intro e he hname
    have hno := List.any_eq_false.mp hknown e he
    rw [beq_iff_eq.mp hname] at hno
    have : (!planBodyKeys.any fun key => utf16 "plan_hash" == utf16 key) = true := by
      decide +kernel
    exact hno this
  refine ⟨hnone, ?_⟩
  have hknown' : ((es ++ [(utf16 "plan_hash", digest)]).any fun e =>
      !planKeys.any fun key => e.1 == utf16 key) = false := by
    rw [List.any_append, Bool.or_eq_false_iff]
    refine ⟨?_, ?_⟩
    · rw [List.any_eq_false]
      intro e he
      have hno := List.any_eq_false.mp hknown e he
      unfold planKeys
      rw [List.any_append]
      simp only [Bool.not_eq_true', Bool.not_eq_false] at hno ⊢
      rw [hno, Bool.true_or]
    · rw [List.any_cons, List.any_nil, Bool.or_false]
      show (!planKeys.any fun key => utf16 "plan_hash" == utf16 key) = false
      decide +kernel
  have hthere' : (planKeys.any fun key => !has (es ++ [(utf16 "plan_hash", digest)]) key) = false := by
    rw [List.any_eq_false]
    intro key hkey
    have happend : has (es ++ [(utf16 "plan_hash", digest)]) key =
        (has es key || utf16 "plan_hash" == utf16 key) := by
      unfold has
      rw [List.any_append, List.any_cons, List.any_nil, Bool.or_false]
    rw [happend]
    rcases List.mem_append.mp hkey with hkey | hkey
    · have := List.any_eq_false.mp hthere key hkey
      simp only [Bool.not_eq_true', Bool.not_eq_false] at this ⊢
      rw [this, Bool.true_or]
    · rw [List.mem_singleton.mp hkey, beq_self_eq_true, Bool.or_true]
      decide
  unfold exact
  rw [hknown', hthere']
  rfl

/-- **the client takes every plan that passed the contract** -/
theorem validateRestorePlan_of_body {u : Unit} {digest : JsString}
    (h : validateRestorePlanBody D (.obj es) = .ok u) (hdigest : isSha256Hex digest = true) :
    validateRestorePlan D (some (.obj (es ++ [(utf16 "plan_hash", .str digest)]))) =
      .ok (es ++ [(utf16 "plan_hash", .str digest)]) := by
  obtain ⟨es', hes, h⟩ := bind_ok h
  cases hes
  obtain ⟨_, hkeys, h⟩ := bind_ok h
  obtain ⟨hfresh, hexact⟩ : _ ∧ exact (es ++ [(utf16 "plan_hash", .str digest)]) "plan" planKeys =
    .ok () := exact_plan hkeys
  have hhash : hash (Wire.get (es ++ [(utf16 "plan_hash", .str digest)]) "plan_hash")
      "plan.plan_hash" = .ok digest := by
    have hread : digestOf (some (.str digest)) = some digest := if_pos hdigest
    rw [get_added hfresh]
    unfold hash
    rw [hread]
  have hget : ∀ name, name ≠ "plan_hash" →
      Wire.get (es ++ [(utf16 "plan_hash", .str digest)]) name = Wire.get es name :=
    fun _ hne => get_append hne
  suffices hplan : ∃ fs, validateRestorePlan D
      (some (.obj (es ++ [(utf16 "plan_hash", .str digest)]))) = .ok fs ∧
        fs = es ++ [(utf16 "plan_hash", .str digest)] by
    obtain ⟨_, hok, rfl⟩ := hplan
    exact hok
  unfold validateRestorePlan
  rw [ok_bind (show asObject _ "plan" = .ok _ from rfl), ok_bind hexact]
  rw [hget "protocol_version" (by decide), hget "format_version" (by decide),
    hget "restore_id" (by decide), hget "fleet_id" (by decide), hget "cutoff" (by decide),
    hget "previewed_at" (by decide), hget "execute_before" (by decide),
    hget "parameter_hash" (by decide), hget "topology" (by decide), hget "manifest" (by decide),
    hget "participants" (by decide), hget "impact" (by decide), hget "rollback" (by decide)]
  refine (?_ : Passes (fun _ fs => fs = es ++ [(utf16 "plan_hash", .str digest)]) _ _) _ h
  refine version_passes.bind fun _ _ _ _ => ?_
  refine string_passes.bind fun _ _ _ _ => ?_
  refine string_passes.bind fun _ _ _ _ => ?_
  refine timestamp_passes.bind fun cutoff cutoffText _ hcutoff => ?_
  refine timestamp_passes.bind fun previewedAt previewedText _ hpreviewed => ?_
  refine timestamp_passes.bind fun executeBefore beforeText _ hbefore => ?_
  refine (invalidIf_passes fun hno => ?_).bind fun _ _ _ _ => ?_
  · rw [later_dated hcutoff hpreviewed, notBefore_dated hpreviewed hbefore, hno]
  refine hash_passes.bind fun _ _ _ _ => ?_
  refine Passes.skip hhash ?_
  refine planTopology_passes.bind fun _ _ _ _ => ?_
  refine (planManifest_passes hcutoff).bind fun recordCount _ _ hrecords => ?_
  subst hrecords
  refine planParticipants_passes.bind fun participantCount _ _ hparticipants => ?_
  subst hparticipants
  refine (planImpact_passes hcutoff hbefore).bind fun _ _ _ _ => ?_
  exact planRollback_passes.last fun _ _ _ => ⟨_, rfl, rfl⟩

end

end FleetRestore.Client
