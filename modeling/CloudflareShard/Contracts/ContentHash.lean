import CloudflareShard.Contracts.Rejected

/-!
# Content hashes

What equal hashes say about the values that were hashed.

* `Collision`           two texts whose bytes SHA-256 does not tell apart;
* `same_get`            values that are the same have the same properties;
* `addressed`           the part of an envelope that its hash is taken of;
* `content_addressed`   **equal hashes mean equal content, or a collision**.
-/

namespace Wire
open Contracts Json

/-! ## properties of values that are the same -/

/-- a property of an object without a key twice -/
theorem get_eq_some {es : Entries} (hkeys : (es.map Prod.fst).Nodup) {name : String} {v : JsonValue} :
    get es name = some v ↔ (utf16 name, v) ∈ es := by
  induction es with
  | nil => simp [get]
  | cons e es ih =>
    rw [List.map_cons, List.nodup_cons] at hkeys
    by_cases hname : e.1 = utf16 name
    · have hget : get (e :: es) name = some e.2 := by simp [get, hname]
      rw [hget]
      constructor
      · intro h
        cases h
        rw [← hname]
        exact List.mem_cons_self
      · intro h
        cases List.mem_cons.mp h with
        | inl heq => rw [← heq]
        | inr hmem =>
          have hagain : e.1 ∈ es.map Prod.fst := by
            rw [hname]
            exact List.mem_map.mpr ⟨_, hmem, rfl⟩
          exact absurd hagain hkeys.1
    · have hget : get (e :: es) name = get es name := by simp [get, hname]
      rw [hget, ih hkeys.2, List.mem_cons]
      constructor
      · exact Or.inr
      · intro h
        refine h.resolve_left fun heq => hname ?_
        rw [← heq]

theorem sameEntries_mem {es fs : Entries} (h : SameEntries es fs) {name : JsString} :
    (∀ v, (name, v) ∈ es → ∃ w, (name, w) ∈ fs ∧ Same v w) ∧
      (∀ w, (name, w) ∈ fs → ∃ v, (name, v) ∈ es ∧ Same v w) := by
  induction es generalizing fs with
  | nil =>
    cases h
    exact ⟨fun v hv => absurd hv (by simp), fun w hw => absurd hw (by simp)⟩
  | cons e es ih =>
    cases h with
    | cons _ hsame hrest =>
      obtain ⟨hleft, hright⟩ := ih hrest
      constructor
      · intro v hv
        cases List.mem_cons.mp hv with
        | inl heq =>
          cases heq
          exact ⟨_, List.mem_cons_self, hsame⟩
        | inr hmem =>
          obtain ⟨w, hw, hvw⟩ := hleft v hmem
          exact ⟨w, List.mem_cons_of_mem _ hw, hvw⟩
      · intro w hw
        cases List.mem_cons.mp hw with
        | inl heq =>
          cases heq
          exact ⟨_, List.mem_cons_self, hsame⟩
        | inr hmem =>
          obtain ⟨v, hv, hvw⟩ := hright w hmem
          exact ⟨v, List.mem_cons_of_mem _ hv, hvw⟩

/-- a property of one is a property of the other -/
theorem same_get {es fs : Entries} (he : (es.map Prod.fst).Nodup) (hf : (fs.map Prod.fst).Nodup)
    (h : Same (.obj es) (.obj fs)) {name : String} :
    (∀ v, get es name = some v → ∃ w, get fs name = some w ∧ Same v w) ∧
      (∀ w, get fs name = some w → ∃ v, get es name = some v ∧ Same v w) := by
  cases h with
  | obj hes hfs hs =>
    obtain ⟨hleft, hright⟩ := @sameEntries_mem _ _ hs (utf16 name)
    simp only [get_eq_some he, get_eq_some hf, hes.mem_iff, hfs.mem_iff]
    exact ⟨hleft, hright⟩

theorem same_str {s t : JsString} (h : Same (.str s) (.str t)) : s = t := by
  cases h
  rfl

theorem isNumber_same {es fs : Entries} (he : (es.map Prod.fst).Nodup) (hf : (fs.map Prod.fst).Nodup)
    (h : Same (.obj es) (.obj fs)) (name : String) (n : Nat) :
    isNumber (get es name) n = isNumber (get fs name) n := by
  have hnum : ∀ {v w : JsonValue}, Same v w → isNumber (some v) n = isNumber (some w) n := by
    intro v w hvw
    cases hvw with
    | null | bool b | num m | str s => rfl
    | arr _ => rfl
    | obj _ _ _ => rfl
  cases hget : get es name with
  | some v =>
    obtain ⟨w, hw, hvw⟩ := (same_get he hf h).1 v hget
    rw [hw, hnum hvw]
  | none =>
    cases hget' : get fs name with
    | none => rfl
    | some w =>
      obtain ⟨v, hv, _⟩ := (same_get he hf h).2 w hget'
      rw [hget] at hv
      exact absurd hv (by simp)

/-! ## equal hashes -/

section
variable {sha256 : ByteArray → List UInt8}

/-- different bytes with one digest -/
def Collision (sha256 : ByteArray → List UInt8) (v w : JsonValue) : Prop :=
  encode (canonicalJson v) ≠ encode (canonicalJson w) ∧
    sha256 (encode (canonicalJson v)) = sha256 (encode (canonicalJson w))

theorem hash_eq_iff {v w : JsonValue} (hv : Proper v) (hw : Proper w) :
    hashCanonicalJson sha256 v = hashCanonicalJson sha256 w ↔ Same v w ∨ Collision sha256 v w := by
  constructor
  · intro h
    have hdigest := hexText_injective h
    by_cases hbytes : encode (canonicalJson v) = encode (canonicalJson w)
    · have htext := encode_inj (canonical_wellFormed v) (canonical_wellFormed w) hbytes
      exact Or.inl ((canonical_iff hv hw).mp htext)
    · exact Or.inr ⟨hbytes, hdigest⟩
  · intro h
    unfold hashCanonicalJson sha256Hex
    cases h with
    | inl hsame => rw [(canonical_iff hv hw).mpr hsame]
    | inr hcollision => rw [hcollision.2]

theorem Checked.bind_ok {α β : Type} {x : Checked α} {f : α → Checked β} {b : β}
    (h : x >>= f = .ok b) : ∃ a, x = .ok a ∧ f a = .ok b := by
  cases x with
  | ok a => exact ⟨a, rfl, h⟩
  | error e => exact absurd h (by nofun)

/-! ## operations -/

theorem proper_get {es : Entries} (h : Proper (.obj es)) {name : String} {v : JsonValue}
    (hv : get es name = some v) : Proper v := by
  cases h with
  | obj hkeys hvalues => exact hvalues _ ((get_eq_some hkeys).mp hv)

theorem defined_ok {value : Field} {v : JsonValue} (h : defined value = .ok v) : value = some v := by
  unfold defined at h
  split at h
  · cases h
    rfl
  · exact absurd h (by simp [fail])

theorem operationOf_proper {participant : Entries} (h : Proper (.obj participant)) {op : JsonValue}
    (hop : operationOf participant = .ok op) : Proper op := by
  obtain ⟨id, hid, hop⟩ := Checked.bind_ok hop
  obtain ⟨epoch, hepoch, hop⟩ := Checked.bind_ok hop
  obtain ⟨intents, hintents, hop⟩ := Checked.bind_ok hop
  cases hop
  have hkeys : [utf16 "participant_id", utf16 "epoch", utf16 "intents"].Nodup := by decide +kernel
  refine .obj hkeys fun e he => ?_
  simp only [List.mem_cons, List.not_mem_nil, or_false] at he
  obtain rfl | rfl | rfl := he
  · exact proper_get h (defined_ok hid)
  · exact proper_get h (defined_ok hepoch)
  · exact proper_get h (defined_ok hintents)

theorem operationsOf_proper {participants : List Entries} (h : ∀ p ∈ participants, Proper (.obj p))
    {ops : List JsonValue} (hops : operationsOf participants = .ok ops) : Proper (.arr ops) := by
  induction participants generalizing ops with
  | nil =>
    cases hops
    exact .arr fun v hv => absurd hv (by simp)
  | cons p participants ih =>
    obtain ⟨op, hop, hops⟩ := Checked.bind_ok hops
    obtain ⟨rest, hrest, hops⟩ := Checked.bind_ok hops
    cases hops
    have hproper := ih (fun q hq => h q (List.mem_cons_of_mem _ hq)) hrest
    cases hproper with
    | arr hvalues =>
      refine .arr fun v hv => ?_
      cases List.mem_cons.mp hv with
      | inl heq =>
        rw [heq]
        exact operationOf_proper (h p List.mem_cons_self) hop
      | inr hmem => exact hvalues v hmem

/-! ## envelopes -/

def isV2 (es : Entries) : Bool := isNumber (get es "format_version") redoEnvelopeV2FormatVersion

/-- the service assigns two fields of V2, and the record of the manifest has them -/
def addressed (es : Entries) : Entries := if isV2 es then envelopeIntent es else es

theorem hashRedoEnvelope_eq (es : Entries) :
    hashRedoEnvelope sha256 es = hashCanonicalJson sha256 (.obj (addressed es)) := by
  unfold hashRedoEnvelope addressed isV2
  split
  · rfl
  · rfl

theorem keys_addressed {es : Entries} (hkeys : (es.map Prod.fst).Nodup) :
    ((addressed es).map Prod.fst).Nodup := by
  unfold addressed
  split
  · exact hkeys.sublist (List.filter_sublist.map _)
  · exact hkeys

theorem proper_addressed {es : Entries} (h : Proper (.obj es)) : Proper (.obj (addressed es)) := by
  unfold addressed
  split
  · cases h with
    | obj hkeys hvalues =>
      exact .obj (hkeys.sublist (List.filter_sublist.map _))
        fun e he => hvalues e (List.mem_of_mem_filter he)
  · exact h

theorem get_addressed {es : Entries} (hkeys : (es.map Prod.fst).Nodup) :
    get (addressed es) "format_version" = get es "format_version" := by
  unfold addressed
  split
  · have hfiltered : ((envelopeIntent es).map Prod.fst).Nodup :=
      hkeys.sublist (List.filter_sublist.map _)
    apply Option.ext
    intro v
    rw [get_eq_some hfiltered, get_eq_some hkeys, envelopeIntent, List.mem_filter]
    have hname : ((utf16 "format_version" : JsString) != utf16 "commit_decided_at"
        && utf16 "format_version" != utf16 "retention_deadline") = true := by decide +kernel
    exact ⟨fun h => h.1, fun h => ⟨h, hname⟩⟩
  · rfl

theorem isV2_same {es fs : Entries} (he : Proper (.obj es)) (hf : Proper (.obj fs))
    (h : Same (.obj (addressed es)) (.obj (addressed fs))) : isV2 es = isV2 fs := by
  cases he with
  | obj hes _ =>
    cases hf with
    | obj hfs _ =>
      have hnumber := isNumber_same (keys_addressed hes) (keys_addressed hfs) h "format_version"
        redoEnvelopeV2FormatVersion
      rw [get_addressed hes, get_addressed hfs] at hnumber
      exact hnumber

/-! ## reservations, intents and records -/

theorem routeHeader_ok {D : DateLib} {value : Field} {field : String} {keys : List String}
    {expectedFormat : Nat} {es : Entries} (h : routeHeader D value field keys expectedFormat = .ok es) :
    value = some (.obj es) := by
  obtain ⟨es', hes, h⟩ := Checked.bind_ok h
  obtain ⟨fleet, _, h⟩ := Checked.bind_ok h
  obtain ⟨route, _, h⟩ := Checked.bind_ok h
  cases h
  exact (header_ok.mp hes).1

/-- checks that hand on the object they look at -/
def HandsOn (es : Entries) (x : Checked Entries) : Prop := ∀ fs, x = .ok fs → fs = es

theorem HandsOn.eq {es fs : Entries} {x : Checked Entries} (h : x = .ok fs) (hx : HandsOn es x) :
    fs = es := hx fs h

theorem HandsOn.pure (es : Entries) : HandsOn es (pure es) := by
  intro fs h
  cases h
  rfl

theorem HandsOn.bind {α : Type} {es : Entries} {x : Checked α} {f : α → Checked Entries}
    (hf : ∀ a, HandsOn es (f a)) : HandsOn es (x >>= f) := by
  intro fs h
  obtain ⟨a, _, ha⟩ := Checked.bind_ok h
  exact hf a fs ha

theorem reservation_ok {D : DateLib} {value : Field} {es : Entries}
    (h : validateManifestReservation D value = .ok es) : value = some (.obj es) := by
  obtain ⟨es', hes, h⟩ := Checked.bind_ok h
  have hsame := HandsOn.eq h <| .bind fun _ => .bind fun _ => .bind fun _ => .bind fun _ =>
    .bind fun _ => .bind fun _ => .pure es'
  rw [hsame]
  exact routeHeader_ok hes

theorem finalizeIntent_ok {value : Field} {es : Entries}
    (h : validateManifestFinalizeIntent value = .ok es) : value = some (.obj es) := by
  obtain ⟨es', hes, h⟩ := Checked.bind_ok h
  have hsame := HandsOn.eq h <| .bind fun _ => .bind fun _ => .bind fun _ => .bind fun _ =>
    .bind fun _ => .bind fun _ => .pure es'
  rw [hsame]
  exact (header_ok.mp hes).1

theorem recordV2_ok {D : DateLib} {value : Field} {es : Entries}
    (h : validateManifestRecordV2 D value = .ok es) : value = some (.obj es) := by
  obtain ⟨es', hes, h⟩ := Checked.bind_ok h
  have hsame := HandsOn.eq h <| .bind fun _ => .bind fun _ => .bind fun _ => .bind fun _ =>
    .bind fun _ => .bind fun _ => .bind fun _ => .bind fun _ => .bind fun _ => .bind fun _ =>
    .bind fun _ => .bind fun _ => .bind fun _ => .pure es'
  rw [hsame]
  exact routeHeader_ok hes

theorem hashManifestReservation_ok {D : DateLib} {v : JsonValue} {digest : JsString}
    (h : hashManifestReservation D sha256 (some v) = .ok digest) :
    digest = hashCanonicalJson sha256 v := by
  obtain ⟨es, hes, h⟩ := Checked.bind_ok h
  obtain ⟨route, _, h⟩ := Checked.bind_ok h
  obtain ⟨_, _, h⟩ := Checked.bind_ok h
  cases h
  rw [Option.some.inj (reservation_ok hes)]

theorem hashManifestFinalizeIntent_ok {v : JsonValue} {digest : JsString}
    (h : hashManifestFinalizeIntent sha256 (some v) = .ok digest) :
    digest = hashCanonicalJson sha256 v := by
  obtain ⟨es, hes, h⟩ := Checked.bind_ok h
  cases h
  rw [Option.some.inj (finalizeIntent_ok hes)]

theorem hashManifestRecordV2_ok {D : DateLib} {v : JsonValue} {digest : JsString}
    (h : hashManifestRecordV2 D sha256 (some v) = .ok digest) :
    digest = hashCanonicalJson sha256 v := by
  obtain ⟨es, hes, h⟩ := Checked.bind_ok h
  obtain ⟨_, _, h⟩ := Checked.bind_ok h
  obtain ⟨_, _, h⟩ := Checked.bind_ok h
  cases h
  rw [Option.some.inj (recordV2_ok hes)]

end

/-! ## content -/

/-- **what one text, one parse and one hash say about two values** -/
structure ContentAddressed (D : DateLib) (sha256 : ByteArray → List UInt8) : Prop where
  text : ∀ v w, Proper v → Proper w → (canonicalJson v = canonicalJson w ↔ Same v w)
  parsed : ∀ v, Proper v → ∃ u, parse (canonicalJson v) = some u ∧ Same v u
  hash : ∀ v w, Proper v → Proper w →
    (hashCanonicalJson sha256 v = hashCanonicalJson sha256 w ↔ Same v w ∨ Collision sha256 v w)
  operations : ∀ ps qs digest, (∀ p ∈ ps, Proper (.obj p)) → (∀ q ∈ qs, Proper (.obj q)) →
    hashParticipantOperations sha256 ps = .ok digest →
    hashParticipantOperations sha256 qs = .ok digest →
      ∃ ops ops', operationsOf ps = .ok ops ∧ operationsOf qs = .ok ops' ∧
        (Same (.arr ops) (.arr ops') ∨ Collision sha256 (.arr ops) (.arr ops'))
  envelope : ∀ es fs, Proper (.obj es) → Proper (.obj fs) →
    hashRedoEnvelope sha256 es = hashRedoEnvelope sha256 fs →
      (isV2 es = isV2 fs ∧ Same (.obj (addressed es)) (.obj (addressed fs))) ∨
        Collision sha256 (.obj (addressed es)) (.obj (addressed fs))
  reservation : ∀ v w digest, Proper v → Proper w →
    hashManifestReservation D sha256 (some v) = .ok digest →
    hashManifestReservation D sha256 (some w) = .ok digest → Same v w ∨ Collision sha256 v w
  finalizeIntent : ∀ v w digest, Proper v → Proper w →
    hashManifestFinalizeIntent sha256 (some v) = .ok digest →
    hashManifestFinalizeIntent sha256 (some w) = .ok digest → Same v w ∨ Collision sha256 v w
  record : ∀ v w digest, Proper v → Proper w →
    hashManifestRecordV2 D sha256 (some v) = .ok digest →
    hashManifestRecordV2 D sha256 (some w) = .ok digest → Same v w ∨ Collision sha256 v w

theorem content_addressed (D : DateLib) (sha256 : ByteArray → List UInt8) :
    ContentAddressed D sha256 where
  text _ _ hv hw := canonical_iff hv hw
  parsed _ hv := parse_canonical_same hv
  hash _ _ hv hw := hash_eq_iff hv hw
  operations ps qs digest hps hqs hp hq := by
    obtain ⟨ops, hops, hp⟩ := Checked.bind_ok hp
    obtain ⟨ops', hops', hq⟩ := Checked.bind_ok hq
    have hdigest := Except.ok.inj (hp.trans hq.symm)
    exact ⟨ops, ops', hops, hops',
      (hash_eq_iff (operationsOf_proper hps hops) (operationsOf_proper hqs hops')).mp hdigest⟩
  envelope es fs he hf h := by
    rw [hashRedoEnvelope_eq, hashRedoEnvelope_eq] at h
    cases (hash_eq_iff (proper_addressed he) (proper_addressed hf)).mp h with
    | inl hsame => exact Or.inl ⟨isV2_same he hf hsame, hsame⟩
    | inr hcollision => exact Or.inr hcollision
  reservation v w digest hv hw h h' := by
    rw [hashManifestReservation_ok h] at h'
    exact (hash_eq_iff hv hw).mp (hashManifestReservation_ok h')
  finalizeIntent v w digest hv hw h h' := by
    rw [hashManifestFinalizeIntent_ok h] at h'
    exact (hash_eq_iff hv hw).mp (hashManifestFinalizeIntent_ok h')
  record v w digest hv hw h h' := by
    rw [hashManifestRecordV2_ok h] at h'
    exact (hash_eq_iff hv hw).mp (hashManifestRecordV2_ok h')

/-! ## two envelopes with one address -/

/-- an envelope of V2 with one participant and one statement -/
def envelopeDecidedAt (decidedAt deadline : String) : Entries :=
  [(utf16 "protocol_version", wireNumber 1), (utf16 "format_version", wireNumber 2),
    (utf16 "tx_id", .str (utf16 "tx")), (utf16 "fleet_id", .str (utf16 "fleet")),
    (utf16 "coordinator_id", .str (utf16 "coordinator")),
    (utf16 "decision", .str (utf16 "commit")), (utf16 "decision_epoch", wireNumber 1),
    (utf16 "operation_hash", someDigest), (utf16 "commit_decided_at", .str (utf16 decidedAt)),
    (utf16 "retention_deadline", .str (utf16 deadline)),
    (utf16 "participants", .arr
      [.obj
        [(utf16 "participant_id", .str (utf16 "shard")),
          (utf16 "prepare_bookmark", .str (utf16 "b")), (utf16 "epoch", wireNumber 1),
          (utf16 "intents", .arr
            [.obj
              [(utf16 "intent_seq", wireNumber 0), (utf16 "sql", .str (utf16 "DELETE FROM t")),
                (utf16 "params", .arr []), (utf16 "tenant_id", .str (utf16 "tenant")),
                (utf16 "table_name", .str (utf16 "t")), (utf16 "partition_key", .str (utf16 "k")),
                (utf16 "vbucket", .null), (utf16 "operation", .str (utf16 "delete")),
                (utf16 "mirror_target_participant_id", .null)]])]])]

def atNewYear : Entries := envelopeDecidedAt "2024-01-01T00:00:00.000Z" "2024-03-01T00:00:00.000Z"

def aDayLater : Entries := envelopeDecidedAt "2024-01-02T00:00:00.000Z" "2024-03-01T00:00:00.000Z"

/-- a hash without collisions -/
def plainBytes (bytes : ByteArray) : List UInt8 := bytes.data.toList

theorem plainBytes_injective : Function.Injective plainBytes := by
  intro a b h
  exact ByteArray.ext (Array.toList_inj.mp h)

/-- two envelopes that differ in what the service assigns -/
theorem timestamps_not_addressed :
    Function.Injective plainBytes ∧
      (validateRedoEnvelopeStructure isoDates (some (.obj atNewYear))).isOk = true ∧
      (validateRedoEnvelopeStructure isoDates (some (.obj aDayLater))).isOk = true ∧
      hashRedoEnvelope plainBytes atNewYear = hashRedoEnvelope plainBytes aDayLater ∧
      ¬ Same (.obj atNewYear) (.obj aDayLater) := by
  have hkeys : (atNewYear.map Prod.fst).Nodup := by decide +kernel
  have hkeys' : (aDayLater.map Prod.fst).Nodup := by decide +kernel
  refine ⟨plainBytes_injective, by decide +kernel, by decide +kernel, ?_, fun h => ?_⟩
  · have htext : canonicalJson (.obj (addressed atNewYear))
        = canonicalJson (.obj (addressed aDayLater)) := by decide +kernel
    rw [hashRedoEnvelope_eq, hashRedoEnvelope_eq, hashCanonicalJson, htext, hashCanonicalJson]
  · have hfirst : get atNewYear "commit_decided_at"
        = some (.str (utf16 "2024-01-01T00:00:00.000Z")) :=
      (get_eq_some hkeys).mpr (by simp [atNewYear, envelopeDecidedAt])
    have hsecond : get aDayLater "commit_decided_at"
        = some (.str (utf16 "2024-01-02T00:00:00.000Z")) :=
      (get_eq_some hkeys').mpr (by simp [aDayLater, envelopeDecidedAt])
    obtain ⟨w, hw, hsame⟩ := (same_get hkeys hkeys' h).1 _ hfirst
    rw [hsecond] at hw
    rw [← Option.some.inj hw] at hsame
    have hday : ¬ utf16 "2024-01-01T00:00:00.000Z" = utf16 "2024-01-02T00:00:00.000Z" := by
      decide +kernel
    exact hday (same_str hsame)

end Wire
