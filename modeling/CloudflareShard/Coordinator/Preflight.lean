import CloudflareShard.Contracts.Collation

/-!
# The envelope before and after prepare

`/begin` validates the envelope of version 1 before any participant is asked to prepare; the decision
validates the envelope of version 2, which holds the bookmarks that the participants returned.

* `preflight`, `validateCommitDeciding`   the two validations;
* `commit_deciding_accepts_iff`           **when the second one accepts what the first accepted**.
-/

namespace Redo
open Contracts Json

section
variable (C : Collator) (sha256Hex : JsString → Hash)

structure BeginPayload where
  txId : JsString
  fleetId : Option JsString
  coordinatorId : Option JsString
  participants : List BeginParticipant

/-- `value || fallback` -/
def orElse (value : Option JsString) (fallback : JsString) : JsString :=
  match value with
  | some (c :: s) => c :: s
  | _ => fallback

/-- a row of `transactions`; `participants` are the rows of `transaction_participants` -/
structure TxRow where
  txId : JsString
  fleetId : JsString
  coordinatorId : JsString
  epoch : Nat
  operationHash : Hash
  operationJson : List BeginParticipant
  participants : List (JsString × Option JsString)

/-- `handleBegin`: the preflight, and the row that is inserted when it goes through -/
def preflight (body : BeginPayload) (preflightAt : Nat) : Except TransactionProtocolError TxRow := do
  let participants := sortParticipants C body.participants
  let fleetId := orElse body.fleetId (utf16 "default")
  let coordinatorId := orElse body.coordinatorId body.txId
  let envelope ← envelopeFor sha256Hex C body.txId fleetId coordinatorId participants 1 preflightAt
  validateRedoEnvelopeStructure envelope
  return { txId := body.txId, fleetId, coordinatorId, epoch := 1
           operationHash := envelope.operationHash, operationJson := participants
           participants := participants.map fun participant => (participant.shardId, none) }

/-- every participant has answered its prepare with a bookmark -/
def TxRow.prepared (bookmark : JsString → JsString) (row : TxRow) : TxRow :=
  { row with
    participants := row.participants.map fun participant =>
      (participant.1, some (bookmark participant.1)) }

def hasExactPrepareBookmarks (row : TxRow) : Bool :=
  let exactRows := row.participants.filter fun participant => participant.2.any (· ≠ [])
  row.participants.length == row.operationJson.length
    && exactRows.length == row.operationJson.length

def redoParticipantsV2 (row : TxRow) : Except TransactionProtocolError (List RedoParticipant) :=
  (redoParticipants C row.operationJson row.epoch).mapM fun participant =>
    match (row.participants.find? (·.1 == participant.participantId)).bind (·.2) with
    | some (c :: bookmark) => .ok { participant with prepareBookmark := some (c :: bookmark) }
    | _ => fail .txEnvelopeInvalid ("Participant " ++ textOf participant.participantId
        ++ " is missing its exact post-prepare bookmark.")

def coordinatorIdOf (row : TxRow) : JsString :=
  if row.coordinatorId = [] then row.txId else row.coordinatorId

/-- the envelope that a decision at `now` validates -/
def commitDecidingEnvelope (row : TxRow) (participants : List RedoParticipant) (now : Nat) :
    RedoEnvelope :=
  { protocolVersion := currentProtocolVersion
    formatVersion := currentRedoEnvelopeFormatVersion, txId := row.txId, fleetId := row.fleetId
    coordinatorId := coordinatorIdOf row, decisionEpoch := row.epoch, commitDecidedAt := now
    retentionDeadline := retentionDeadline now, operationHash := row.operationHash, participants }

/-- `persistCommitDeciding` up to its validation -/
def validateCommitDeciding (row : TxRow) (now : Nat) : Except TransactionProtocolError Unit :=
  if hasExactPrepareBookmarks row then do
    let participants ← redoParticipantsV2 C row
    validateWritableRedoEnvelopeStructure (commitDecidingEnvelope row participants now)
  else .ok ()

end

section
variable {C : Collator} {sha256Hex : JsString → Hash} {ps : List BeginParticipant}

/-! ## the decision -/

theorem mapM_ok {ε α β : Type} {f : α → Except ε β} {g : α → β} :
    ∀ {l : List α}, (∀ a ∈ l, f a = .ok (g a)) → l.mapM f = .ok (l.map g)
  | [], _ => rfl
  | a :: l, h => by
    rw [List.mapM_cons, h a (List.mem_cons_self ..),
      mapM_ok fun b hb => h b (List.mem_cons_of_mem _ hb)]
    rfl

/-- what a preflight has checked, and the row it leaves -/
theorem preflight_ok {body : BeginPayload} {preflightAt : Nat} {row : TxRow}
    (h : preflight C sha256Hex body preflightAt = .ok row) :
    ∃ envelope, envelope = envelopeOf sha256Hex C row.txId row.fleetId row.coordinatorId
        row.operationJson 1 preflightAt ∧
      validateRedoEnvelopeStructure envelope = .ok () ∧ row.operationHash = envelope.operationHash ∧
      row.epoch = 1 ∧ sortParticipants C row.operationJson = row.operationJson ∧
      row.participants = row.operationJson.map fun p => (p.shardId, none) := by
  unfold preflight envelopeFor at h
  dsimp only at h
  cases hv : validateRedoEnvelope sha256Hex (envelopeOf sha256Hex C body.txId
      (orElse body.fleetId (utf16 "default")) (orElse body.coordinatorId body.txId)
      (sortParticipants C body.participants) 1 preflightAt) with
  | error e => simp [hv, bind, Except.bind] at h
  | ok u =>
    rw [hv] at h
    have hs := (seq_ok.mp (show _ = Except.ok () from hv)).1
    have hrow : _ = row := Except.ok.inj (seq_ok.mp h).2
    subst hrow
    exact ⟨_, rfl, hs, rfl, rfl, sort_sort C _, rfl⟩

/-- the deadline of a decision is always far enough behind it -/
theorem retentionWindow_ok (decidedAt : Nat) :
    assertRetentionWindow decidedAt (retentionDeadline decidedAt) coordinatorRetentionDays = .ok () := by
  unfold assertRetentionWindow retentionDeadline
  rw [if_neg (lt_irrefl _)]

/-- the participants of the decision, with their bookmarks -/
def bookmarked (bookmark : JsString → JsString) (participants : List RedoParticipant) :
    List RedoParticipant :=
  participants.map fun p => { p with prepareBookmark := some (bookmark p.participantId) }

theorem redoParticipantsV2_prepared {row : TxRow} {bookmark : JsString → JsString}
    (hrows : row.participants = row.operationJson.map fun p => (p.shardId, none))
    (hb : ∀ p ∈ row.operationJson, bookmark p.shardId ≠ []) :
    redoParticipantsV2 C (row.prepared bookmark) =
      .ok (bookmarked bookmark (redoParticipants C row.operationJson row.epoch)) := by
  refine mapM_ok fun p hp => ?_
  obtain ⟨q, hq, rfl⟩ := List.mem_map.mp hp
  have hmem : q ∈ row.operationJson := (sort_perm C _).mem_iff.mp hq
  have hfind : ((row.prepared bookmark).participants.find? (·.1 == q.shardId)).bind (·.2) =
      some (bookmark q.shardId) := by
    cases hf : (row.prepared bookmark).participants.find? (·.1 == q.shardId) with
    | none =>
      have hin : (q.shardId, some (bookmark q.shardId)) ∈ (row.prepared bookmark).participants := by
        simp only [TxRow.prepared, hrows, List.map_map]
        exact List.mem_map.mpr ⟨q, hmem, rfl⟩
      have := List.find?_eq_none.mp hf _ hin
      simp at this
    | some found =>
      have hid : found.1 = q.shardId := by simpa using List.find?_some hf
      have hin := List.mem_of_find?_eq_some hf
      simp only [TxRow.prepared, hrows, List.map_map] at hin
      obtain ⟨r, -, rfl⟩ := List.mem_map.mp hin
      have hr : r.shardId = q.shardId := hid
      simp [hr]
  show (match ((row.prepared bookmark).participants.find? (·.1 == q.shardId)).bind (·.2) with
    | some (c :: b) => _
    | _ => _) = _
  rw [hfind]
  cases hbq : bookmark q.shardId with
  | nil => exact absurd hbq (hb q hmem)
  | cons c b => simp only [redoParticipant, hbq]

theorem hasExact_prepared {row : TxRow} {bookmark : JsString → JsString}
    (hrows : row.participants = row.operationJson.map fun p => (p.shardId, none))
    (hb : ∀ p ∈ row.operationJson, bookmark p.shardId ≠ []) :
    hasExactPrepareBookmarks (row.prepared bookmark) = true := by
  have hall : (row.prepared bookmark).participants.filter (fun p => p.2.any (· ≠ [])) =
      (row.prepared bookmark).participants := by
    refine List.filter_eq_self.mpr fun p hp => ?_
    simp only [TxRow.prepared, hrows, List.map_map] at hp
    obtain ⟨q, hq, rfl⟩ := List.mem_map.mp hp
    simpa using hb q hq
  unfold hasExactPrepareBookmarks
  dsimp only
  rw [hall]
  simp [TxRow.prepared, hrows]

/-- a participant without a bookmark is as good as one with a bookmark in version 2 -/
theorem participantOk_bookmarked {epoch : Nat} {p : BeginParticipant} {bookmark : JsString}
    (h : ParticipantOk redoEnvelopeV1FormatVersion epoch (redoParticipant epoch p))
    (hb : bookmark ≠ []) :
    ParticipantOk currentRedoEnvelopeFormatVersion epoch
      { redoParticipant epoch p with prepareBookmark := some bookmark } :=
  { named := h.named
    bookmark := by
      show assertNonEmptyString bookmark "prepare_bookmark" = .ok ()
      exact assertNonEmptyString_ok.mpr hb
    epoch := h.epoch
    decided := h.decided
    intents := h.intents
    valid := h.valid }

theorem bookmarked_bytes (bookmark : JsString → JsString) (epoch : Nat) (ps : List BeginParticipant) :
    ((bookmarked bookmark (ps.map (redoParticipant epoch))).map
      fun p => 1 + canonicalByteLength p.toValue).sum =
    ((ps.map (redoParticipant epoch)).map fun p => 1 + canonicalByteLength p.toValue).sum +
      (ps.map fun p => 20 + utf8Length (quote16 (bookmark p.shardId))).sum := by
  induction ps with
  | nil => rfl
  | cons p ps ih =>
    have hp := participant_bytes (redoParticipant epoch p) (bookmark p.shardId)
    have hsame : ({ redoParticipant epoch p with prepareBookmark := none } : RedoParticipant) =
        redoParticipant epoch p := rfl
    rw [hsame] at hp
    simp only [bookmarked, List.map_cons, List.sum_cons] at ih ⊢
    have hid : (redoParticipant epoch p).participantId = p.shardId := rfl
    simp only [hid] at hp ⊢
    rw [ih, hp]
    omega

/-- what a decision at `now` validates is the envelope of the preflight and the bookmarks -/
def fits (C : Collator) (sha256Hex : JsString → Hash) (row : TxRow) (bookmark : JsString → JsString)
    (now : Nat) : Prop :=
  canonicalByteLength (envelopeOf sha256Hex C row.txId row.fleetId row.coordinatorId
      row.operationJson 1 now).toValue
    + (row.operationJson.map fun p => 20 + utf8Length (quote16 (bookmark p.shardId))).sum
    ≤ maxRedoEnvelopeBytes

theorem validateCommitDeciding_prepared {body : BeginPayload} {preflightAt now : Nat} {row : TxRow}
    (hbegin : preflight C sha256Hex body preflightAt = .ok row) {bookmark : JsString → JsString}
    (hb : ∀ p ∈ row.operationJson, bookmark p.shardId ≠ []) :
    validateCommitDeciding C (row.prepared bookmark) now = .ok () ↔
      fits C sha256Hex row bookmark now := by
  obtain ⟨_, rfl, hvalid, hhash, hepoch, hsort, hrows⟩ := preflight_ok hbegin
  obtain ⟨hheader, hparticipants, hids, -⟩ := validate_ok_iff.mp hvalid
  obtain ⟨h₁, -, h₃, h₄, h₅, h₆, h₇, -, h₉, h₁₀⟩ := validateHeader_ok.mp hheader
  have hps : redoParticipants C row.operationJson 1 = row.operationJson.map (redoParticipant 1) := by
    rw [redoParticipants, hsort]
  set e₁ := envelopeOf sha256Hex C row.txId row.fleetId row.coordinatorId row.operationJson 1 now
    with he₁
  set e₂ := commitDecidingEnvelope (row.prepared bookmark)
    (bookmarked bookmark (row.operationJson.map (redoParticipant 1))) now with he₂
  have hcoordinator : coordinatorIdOf (row.prepared bookmark) = row.coordinatorId := if_neg h₅
  have hne : row.operationJson ≠ [] := by
    intro hnil
    have hlen : 1 ≤ (redoParticipants C row.operationJson 1).length := h₉
    rw [hps, hnil] at hlen
    simp at hlen
  -- all that differs between the two envelopes are the version and the bookmarks
  have hbytes : canonicalByteLength e₂.toValue = canonicalByteLength e₁.toValue +
      (row.operationJson.map fun p => 20 + utf8Length (quote16 (bookmark p.shardId))).sum := by
    have hb₁ := envelope_bytes (e := e₁) (by simpa [he₁, envelopeOf, hps] using hne)
    have hb₂ := envelope_bytes (e := e₂) (by simpa [he₂, commitDecidingEnvelope, bookmarked] using hne)
    have hempty : canonicalByteLength { e₂ with participants := [] }.toValue =
        canonicalByteLength { e₁ with participants := [] }.toValue := by
      have hv := envelope_bytes_version { e₁ with participants := [] } (n := 2) (m := 1) (by decide)
        (by decide)
      have hsame : ({ e₁ with participants := [], formatVersion := 2 } : RedoEnvelope) =
          { e₂ with participants := [] } := by
        simp only [he₁, he₂, envelopeOf, commitDecidingEnvelope, hcoordinator]
        simp only [TxRow.prepared, hhash, hepoch]
        rfl
      rw [← hsame]
      exact hv
    have hsum := bookmarked_bytes bookmark 1 row.operationJson
    have hpart₁ : e₁.participants = row.operationJson.map (redoParticipant 1) := hps
    have hpart₂ : e₂.participants = bookmarked bookmark (row.operationJson.map (redoParticipant 1)) := rfl
    rw [hpart₁] at hb₁
    rw [hpart₂, hempty, hsum] at hb₂
    omega
  have hheader₂ : validateHeader e₂ = .ok () := by
    refine validateHeader_ok.mpr ⟨h₁, .inr rfl, h₃, h₄, ?_, ?_, ?_, retentionWindow_ok now, ?_, ?_⟩
    · show coordinatorIdOf (row.prepared bookmark) ≠ []
      rw [hcoordinator]
      exact h₅
    · show assertEpoch row.epoch "decision_epoch" = .ok ()
      rw [hepoch]
      exact h₆
    · show assertSha256Hex row.operationHash "operation_hash" = .ok ()
      rw [hhash]
      exact h₇
    · have : e₂.participants.length = row.operationJson.length := by
        simp [he₂, commitDecidingEnvelope, bookmarked]
      simp only [envelopeOf, hps, List.length_map] at h₉
      omega
    · have : e₂.participants.length = row.operationJson.length := by
        simp [he₂, commitDecidingEnvelope, bookmarked]
      simp only [envelopeOf, hps, List.length_map] at h₁₀
      omega
  have hall₂ : ∀ p ∈ e₂.participants, ParticipantOk e₂.formatVersion e₂.decisionEpoch p := by
    intro p hp
    obtain ⟨q, hq, rfl⟩ := List.mem_map.mp hp
    obtain ⟨r, hr, rfl⟩ := List.mem_map.mp hq
    have hok := hparticipants (redoParticipant 1 r) (by
      show _ ∈ redoParticipants C row.operationJson 1
      rw [hps]
      exact List.mem_map.mpr ⟨r, hr, rfl⟩)
    have hdec : e₂.decisionEpoch = 1 := hepoch
    rw [hdec]
    exact participantOk_bookmarked hok (hb r hr)
  have hids₂ : (e₂.participants.map (·.participantId)).Pairwise (codeUnitLt · ·) := by
    have hsame : e₂.participants.map (·.participantId) =
        (redoParticipants C row.operationJson 1).map (·.participantId) := by
      rw [hps]
      simp [he₂, commitDecidingEnvelope, bookmarked]
    rw [hsame]
    exact hids
  have hprepared : redoParticipantsV2 C (row.prepared bookmark) =
      .ok (bookmarked bookmark (row.operationJson.map (redoParticipant 1))) := by
    rw [redoParticipantsV2_prepared hrows hb, hepoch, hps]
  have hrun : validateCommitDeciding C (row.prepared bookmark) now =
      validateWritableRedoEnvelopeStructure e₂ := by
    unfold validateCommitDeciding
    rw [if_pos (hasExact_prepared hrows hb), hprepared]
    rfl
  rw [hrun, validateWritableRedoEnvelopeStructure, seq_ok, validate_ok_iff, ite_fail_ok, hbytes]
  exact ⟨fun h => h.1.2.2.2, fun h => ⟨⟨hheader₂, hall₂, hids₂, h⟩, by simp [he₂, commitDecidingEnvelope], rfl⟩⟩

/-- **the two validations**: whatever a preflight accepted, the decision accepts if, and only if,
the envelope of the preflight has room for one bookmark of each participant -/
theorem commit_deciding_accepts_iff {body : BeginPayload} {preflightAt now : Nat} {row : TxRow}
    (hbegin : preflight C sha256Hex body preflightAt = .ok row) {bookmark : JsString → JsString}
    (hb : ∀ p ∈ row.operationJson, bookmark p.shardId ≠ []) :
    validateCommitDeciding C (row.prepared bookmark) now = .ok () ↔
      canonicalByteLength (envelopeOf sha256Hex C row.txId row.fleetId row.coordinatorId
          row.operationJson 1 now).toValue
        + (row.operationJson.map fun p => 20 + utf8Length (quote16 (bookmark p.shardId))).sum
        ≤ maxRedoEnvelopeBytes :=
  validateCommitDeciding_prepared hbegin hb

end

/-! ## a request at the ceiling -/

theorem intent_bytes (i : RedoIntent) (params params' : List JsonValue) :
    canonicalByteLength { i with params }.toValue + canonicalByteLength (.arr params') =
      canonicalByteLength { i with params := params' }.toValue + canonicalByteLength (.arr params) := by
  have htext : ∀ l : List JsonValue, canonicalJson { i with params := l }.toValue =
      objectText ([(utf16 "intent_seq", canonicalJson (numberOf i.intentSeq)),
        (utf16 "mirror_target_participant_id",
          canonicalJson (nullable .str i.mirrorTargetParticipantId)),
        (utf16 "operation", canonicalJson (nullable .str i.operation))] ++
        (utf16 "params", canonicalJson (.arr l)) ::
        [(utf16 "partition_key", canonicalJson (.str i.partitionKey)),
          (utf16 "sql", canonicalJson (.str i.sql)),
          (utf16 "table_name", canonicalJson (.str i.tableName)),
          (utf16 "tenant_id", canonicalJson (.str i.tenantId)),
          (utf16 "vbucket", canonicalJson (nullable .num i.vbucket))]) := by
    intro l
    rw [RedoIntent.toValue, canonicalJson_obj]
    rfl
  simp only [canonicalByteLength, htext]
  exact length_object_set ..

theorem participant_intents_bytes (p : RedoParticipant) (hp : p.prepareBookmark = none)
    (intents intents' : List RedoIntent) :
    canonicalByteLength { p with intents }.toValue
        + canonicalByteLength (.arr (intents'.map RedoIntent.toValue)) =
      canonicalByteLength { p with intents := intents' }.toValue
        + canonicalByteLength (.arr (intents.map RedoIntent.toValue)) := by
  have htext : ∀ l : List RedoIntent, canonicalJson { p with intents := l }.toValue =
      objectText ([(utf16 "epoch", canonicalJson (numberOf p.epoch))] ++
        (utf16 "intents", canonicalJson (.arr (l.map RedoIntent.toValue))) ::
        [(utf16 "participant_id", canonicalJson (.str p.participantId))]) := by
    intro l
    rw [RedoParticipant.toValue, canonicalJson_obj]
    simp only [hp]
    rfl
  simp only [canonicalByteLength, htext]
  exact length_object_set ..

/-- letters are not escaped -/
theorem escapeUnits_letters : ∀ n, escapeUnits (List.replicate n 97) = List.replicate n 97
  | 0 => rfl
  | 1 => by decide
  | n + 2 => by
    have hcons : escapeUnits (97 :: List.replicate (n + 1) 97) =
        97 :: escapeUnits (List.replicate (n + 1) 97) := rfl
    exact hcons.trans (by rw [escapeUnits_letters (n + 1)]; rfl)

theorem quoted_letters (n : Nat) : canonicalByteLength (.str (List.replicate n 97)) = n + 2 := by
  have hletters : ∀ m, utf8Length (List.replicate m 97 ++ [34]) = m + 1 := by
    intro m
    induction m with
    | zero => rfl
    | succ m ih =>
      show utf8Length (97 :: (List.replicate m 97 ++ [34])) = _
      rw [utf8Length_ascii (by decide), ih]
      omega
  show utf8Length (34 :: (escapeUnits (List.replicate n 97) ++ [34])) = _
  rw [escapeUnits_letters, utf8Length_ascii (by decide), hletters]
  omega

/-- one row whose value is a text of `n` letters -/
def upload (n : Nat) : BeginPayload :=
  { txId := utf16 "tx", fleetId := none, coordinatorId := none
    participants := [{ shardId := utf16 "shard-0"
                       intents := [{ insertion with
                         sql := utf16 "INSERT INTO t VALUES (1, ?)"
                         params := some [.str (List.replicate n 97)] }] }] }

def uploadRow (n : Nat) : TxRow :=
  { txId := utf16 "tx", fleetId := utf16 "default", coordinatorId := utf16 "tx", epoch := 1
    operationHash := zeroHash [], operationJson := (upload n).participants
    participants := [(utf16 "shard-0", none)] }

def uploadEnvelope (n : Nat) : RedoEnvelope :=
  envelopeOf zeroHash rootCollator (utf16 "tx") (utf16 "default") (utf16 "tx") (upload n).participants
    1 0

def uploadIntent (n : Nat) : RedoIntent :=
  redoIntent 0 { insertion with
    sql := utf16 "INSERT INTO t VALUES (1, ?)", params := some [.str (List.replicate n 97)] }

theorem upload_participants (n : Nat) : (uploadEnvelope n).participants =
    [{ participantId := utf16 "shard-0", epoch := 1, intents := [uploadIntent n]
       prepareBookmark := none }] := by
  show redoParticipants rootCollator (upload n).participants 1 = _
  rw [redoParticipants, sortParticipants, upload, List.mergeSort_singleton]
  rfl

theorem length_single (v : JsonValue) : canonicalByteLength (.arr [v]) = canonicalByteLength v + 2 := by
  rw [length_array (by simp)]
  simp only [List.map_cons, List.map_nil, List.sum_cons, List.sum_nil]
  omega

/-- a letter more is a byte more -/
theorem upload_bytes (n : Nat) : canonicalByteLength (uploadEnvelope n).toValue = 576 + n := by
  have hbase : canonicalByteLength (uploadEnvelope 0).toValue = 576 := by decide +kernel
  have hi : canonicalByteLength (uploadIntent n).toValue =
      canonicalByteLength (uploadIntent 0).toValue + n := by
    have h : canonicalByteLength (uploadIntent n).toValue
          + canonicalByteLength (.arr [.str (List.replicate 0 97)]) =
        canonicalByteLength (uploadIntent 0).toValue
          + canonicalByteLength (.arr [.str (List.replicate n 97)]) :=
      intent_bytes (uploadIntent 0) [.str (List.replicate n 97)] [.str (List.replicate 0 97)]
    rw [length_single, length_single, quoted_letters, quoted_letters] at h
    omega
  have hp := participant_intents_bytes
    { participantId := utf16 "shard-0", epoch := 1, intents := [], prepareBookmark := none } rfl
    [uploadIntent n] [uploadIntent 0]
  simp only [List.map_cons, List.map_nil, length_single, hi] at hp
  have he := envelope_bytes (e := uploadEnvelope n) (by rw [upload_participants]; simp)
  have he₀ := envelope_bytes (e := uploadEnvelope 0) (by rw [upload_participants]; simp)
  have hempty : ({ uploadEnvelope n with participants := [] } : RedoEnvelope) =
      { uploadEnvelope 0 with participants := [] } := rfl
  rw [upload_participants, hempty] at he
  rw [upload_participants, hbase] at he₀
  simp only [List.map_cons, List.map_nil, List.sum_cons, List.sum_nil] at he he₀
  omega

theorem upload_header (n : Nat) : validateHeader (uploadEnvelope n) = .ok () := by
  have h : validateHeader (uploadEnvelope n) = validateHeader (uploadEnvelope 0) := by
    unfold validateHeader
    rw [upload_participants, upload_participants]
    rfl
  rw [h]
  exact ok_of_isOk (by decide +kernel)

/-- what the ceiling leaves is accepted -/
theorem upload_preflight {n : Nat} (h : 576 + n ≤ maxRedoEnvelopeBytes) :
    preflight rootCollator zeroHash (upload n) 0 = .ok (uploadRow n) := by
  have hone : ParticipantOk 1 1
      { participantId := utf16 "shard-0", epoch := 1, intents := [uploadIntent n]
        prepareBookmark := none } :=
    { named := nofun
      bookmark := rfl
      epoch := rfl
      decided := rfl
      intents := rfl
      valid := by
        show validateIntents 0 [uploadIntent 0] = .ok ()
        exact ok_of_isOk (by decide +kernel) }
  have hvalid : validateRedoEnvelopeStructure (uploadEnvelope n) = .ok () := by
    rw [validate_ok_iff, upload_bytes, upload_participants]
    refine ⟨upload_header n, fun p hp => ?_, by simp, h⟩
    rw [List.mem_singleton.mp hp]
    exact hone
  have hsort : sortParticipants rootCollator (upload n).participants = (upload n).participants :=
    List.mergeSort_singleton ..
  have hrun : validateRedoEnvelope zeroHash (uploadEnvelope n) = .ok () :=
    seq_ok.mpr ⟨hvalid, if_neg (not_not.mpr rfl)⟩
  have hfor : envelopeFor zeroHash rootCollator (utf16 "tx") (utf16 "default") (utf16 "tx")
      (upload n).participants 1 0 = .ok (uploadEnvelope n) := seq_ok.mpr ⟨hrun, rfl⟩
  unfold preflight
  rw [hsort]
  show (envelopeFor zeroHash rootCollator (utf16 "tx") (utf16 "default") (utf16 "tx")
    (upload n).participants 1 0 >>= _) = _
  rw [hfor]
  exact seq_ok.mpr ⟨hvalid, rfl⟩

/-- a bookmark as a shard returns it -/
def exampleBookmark : JsString := utf16 "0000007b-0000b26e-00001538-0c3e87bb37b3db5cc52eedb93cd3b96b"

theorem commit_deciding_accepts_upload :
    validateCommitDeciding rootCollator ((uploadRow 1).prepared fun _ => exampleBookmark) 0 = .ok () :=
  (commit_deciding_accepts_iff (upload_preflight (n := 1) (by decide)) (by decide +kernel)).mpr (by
    decide +kernel)

/-- the envelope of the preflight is as large as an envelope may be -/
theorem commit_deciding_too_large : ¬ ∀ (body : BeginPayload) (row : TxRow)
    (bookmark : JsString → JsString), preflight rootCollator zeroHash body 0 = .ok row →
      (∀ p ∈ row.operationJson, bookmark p.shardId ≠ []) →
      validateCommitDeciding rootCollator (row.prepared bookmark) 0 = .ok () := by
  intro h
  have hbegin := upload_preflight (n := 261568) (by decide)
  have hne : exampleBookmark ≠ [] := by decide +kernel
  have hb : ∀ p ∈ (uploadRow 261568).operationJson, exampleBookmark ≠ [] := fun _ _ => hne
  have hfits : fits rootCollator zeroHash (uploadRow 261568) (fun _ => exampleBookmark) 0 :=
    (validateCommitDeciding_prepared hbegin hb).mp (h _ _ _ hbegin hb)
  unfold fits at hfits
  have hbytes : canonicalByteLength (envelopeOf zeroHash rootCollator (uploadRow 261568).txId
      (uploadRow 261568).fleetId (uploadRow 261568).coordinatorId (uploadRow 261568).operationJson
      1 0).toValue = maxRedoEnvelopeBytes := upload_bytes 261568
  rw [hbytes] at hfits
  simp only [uploadRow, upload, List.map_cons, List.map_nil, List.sum_cons, List.sum_nil] at hfits
  omega

end Redo
