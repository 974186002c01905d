import CloudflareShard.Shard.Moves

/-!
# A direct write in one section

Behind its awaits `/execute` looks the request up, checks fences and lock, and runs the statement,
all in one section.  A mirror comes in the same way.

* `Store.execute`              that section: the response and the store;
* `execute_advance`            **it is what the handler does behind its last await**;
* `Recorded`, `Uniform`        a request in `applied_requests`, and that its entries are of one hash;
* `Executed`                   what a write that was run leaves behind;
* `execute_cases`              the outcomes of the section.
-/

namespace Shard
open Async Contracts

variable {D : Type} (E : Engine D) (H : Digests)

/-- what a refused repetition is answered -/
def mismatchResponse : Response :=
  json (.message
    ("requestId was already used with different sql/params — refusing to replay a "
      ++ "mismatched result.")) 409

def failedResponse : Response := json (.message "SQL execution failed.") 400

/-- the statement was run for this request -/
def Response.executed (r : Response) : Bool :=
  match r.body with
  | .mutation false _ => true
  | _ => false

def Response.duplicated (r : Response) : Bool :=
  match r.body with
  | .mutation true _ => true
  | _ => false

/-- `res.ok` -/
def Response.ok (r : Response) : Bool := 200 ≤ r.status && r.status < 300

/-- `/execute` of a mutation, from the lookup of the request on -/
def Store.execute (payload : ExecutePayload) (execStart : Nat) (s : Store D) : Response × Store D :=
  let incomingHash := H.requestHash payload.sql payload.params
  let writeHash := H.hashCanonicalJson (.directWrite payload.requestId incomingHash
    (directWriteKind payload) payload.tenantId payload.table payload.partitionKey payload.vbucket)
  match s.appliedRequests.find? (·.requestId == payload.requestId) with
  | some prior =>
    if prior.requestHash ≠ incomingHash then (mismatchResponse, s)
    else (json (.mutation true prior.result), s)
  | none =>
    match refusedWrite payload s with
    | some response => (response, s)
    | none =>
      match executeSync E payload incomingHash writeHash execStart s with
      | .ok (result, s') => (json (.mutation false result.1), { s' with mutations := s'.mutations + 1 })
      | .error _ => (failedResponse, s)

/-- the handler behind its last await -/
def executeTail (payload : ExecutePayload) (execStart : Nat) : Sh D Response := do
  let incomingHash := H.requestHash payload.sql payload.params
  let writeHash := H.hashCanonicalJson (.directWrite payload.requestId incomingHash
    (directWriteKind payload) payload.tenantId payload.table payload.partitionKey payload.vbucket)
  let s ← .read
  match s.appliedRequests.find? (·.requestId == payload.requestId) with
  | some prior =>
    if prior.requestHash ≠ incomingHash then return mismatchResponse
    else return json (.mutation true prior.result)
  | none =>
    match refusedWrite payload s with
    | some response => return response
    | none =>
      let (result, enqueuedMirror) ←
        mutation (executeSync E payload incomingHash writeHash execStart)
      mirrorSoon enqueuedMirror
      return json (.mutation false result)

theorem executeMutation_eq (payload : ExecutePayload) (execStart : Nat) :
    executeMutation E H payload execStart =
      Prog.pause.bind fun _ => (Prog.ask .writeHash).bind fun _ => executeTail E H payload execStart := rfl

/-- **the section leaves the store that the handler leaves at its next await, or at its end** -/
theorem execute_advance (payload : ExecutePayload) (execStart : Nat) (s : Store D) :
    ((executeTail E H payload execStart).advance s).1 = (s.execute E H payload execStart).2 := by
  have hread : ∀ f : Store D → Sh D Response, (Prog.read.bind f).advance s = (f s).advance s :=
    fun _ => rfl
  unfold executeTail Store.execute
  dsimp only
  rw [Prog.bind_eq, hread]
  split
  · split <;> rfl
  · split
    · rfl
    · cases h : executeSync E payload (H.requestHash payload.sql payload.params)
        (H.hashCanonicalJson (.directWrite payload.requestId
          (H.requestHash payload.sql payload.params) (directWriteKind payload) payload.tenantId
          payload.table payload.partitionKey payload.vbucket)) execStart s with
      | error e => simp [mutation, Prog.transact, Prog.bind, Prog.advance, h, Except.map]
      | ok r =>
        obtain ⟨⟨result, enqueuedMirror⟩, s'⟩ := r
        cases enqueuedMirror <;>
          simp [mutation, Prog.transact, Prog.bind, Prog.advance, h, Except.map, mirrorSoon,
            scheduleMirrorAlarmSoon, setAlarmNoLater, dateNow, gets, Prog.pause]

/-! ## recorded requests -/

/-- `applied_requests` has the request -/
def Recorded (s : Store D) (requestId : String) : Prop :=
  ∃ e ∈ s.appliedRequests, e.requestId = requestId

/-- its entries are of one hash -/
def Uniform (s : Store D) (requestId : String) (hash : Hash) : Prop :=
  ∀ e ∈ s.appliedRequests, e.requestId = requestId → e.requestHash = hash

variable {E H} {payload : ExecutePayload} {hash writeHash : Hash} {execStart n : Nat} {s s' : Store D}

theorem find_recorded {requestId : String} (h : Recorded s requestId) :
    ∃ e, s.appliedRequests.find? (·.requestId == requestId) = some e ∧ e ∈ s.appliedRequests ∧
      e.requestId = requestId := by
  obtain ⟨e, he, hid⟩ := h
  cases hfind : s.appliedRequests.find? (·.requestId == requestId) with
  | none =>
    have hne := List.find?_eq_none.mp hfind e he
    simp [hid] at hne
  | some e' => exact ⟨e', rfl, List.mem_of_find?_eq_some hfind, by simpa using List.find?_some hfind⟩

/-- what a write adds to `applied_requests` is of its hash, and under its id or its client's -/
structure Adds (payload : ExecutePayload) (hash : Hash) (s s' : Store D) (added : List AppliedRequest) :
    Prop where
  requests : s'.appliedRequests = s.appliedRequests ++ added
  hashes : ∀ e ∈ added, e.requestHash = hash
  ids : ∀ e ∈ added, e.requestId = payload.requestId ∨
    payload.isMirror = true ∧ payload.clientRequestId = some e.requestId
  own : ∃ e ∈ added, e.requestId = payload.requestId

/-- the mirror job of a direct write -/
def mirrorJob (payload : ExecutePayload) (tenantId table partitionKey : String) (vbucket : Nat)
    (target : ShardId) (s : Store D) : MirrorJob where
  jobId := s.nextJobId
  targetShardId := target
  sql := payload.sql
  params := payload.params
  requestId := mirrorRequestId tenantId table partitionKey payload.requestId
  vbucket := vbucket
  tenantId := tenantId
  tableName := table
  partitionKey := partitionKey
  clientRequestId := some payload.requestId
  nextAttemptAt := s.now
  attemptCount := 0

/-- whether a write is mirrored, and with which job -/
def mirrorOf (payload : ExecutePayload) (n : Nat) (s : Store D) : Option MirrorJob :=
  match rowOf payload, payload.vbucket, payload.mirrorTargetShardId with
  | some (tenantId, table, partitionKey), some vbucket, some target =>
    if n = 0 ∨ target = "" ∨ payload.isMirror = true then none
    else some (mirrorJob payload tenantId table partitionKey vbucket target s)
  | _, _, _ => none

theorem recordDirectWrite_mirrors (E : Engine D) (payload : ExecutePayload) (n : Nat) (s : Store D) :
    (recordDirectWrite E payload n s).1.mirrors =
    s.mirrors ++ (mirrorOf payload n s).toList ∧
      (recordDirectWrite E payload n s).1.appliedRequests = s.appliedRequests ∧
      (recordDirectWrite E payload n s).1.fencedVbuckets = s.fencedVbuckets := by
  unfold recordDirectWrite mirrorOf
  cases hrow : rowOf payload with
  | none => simp
  | some row =>
    obtain ⟨tenantId, table, partitionKey⟩ := row
    cases hv : payload.vbucket with
    | none => simp
    | some vbucket =>
      cases ht : payload.mirrorTargetShardId with
      | none => by_cases hn : n = 0 <;> simp [hn, writeOrDeleteProvenance]
      | some target =>
        by_cases hn : n = 0
        · simp [hn]
        · by_cases hskip : target = "" ∨ payload.isMirror = true
          · simp [hn, hskip, writeOrDeleteProvenance]
          · simp [hn, hskip, writeOrDeleteProvenance, enqueueMirrorJob, mirrorJob]

theorem recordClientRequest_adds (payload : ExecutePayload) (hash : Hash) (s : Store D)
    (result : MutationResult) :
    ∃ added, (recordClientRequest payload hash result s).appliedRequests = s.appliedRequests ++ added ∧
      (∀ e ∈ added, e.requestHash = hash ∧ payload.isMirror = true ∧
        payload.clientRequestId = some e.requestId) ∧
      (recordClientRequest payload hash result s).mirrors = s.mirrors ∧
      (recordClientRequest payload hash result s).nextJobId = s.nextJobId ∧
      (recordClientRequest payload hash result s).now = s.now ∧
      (recordClientRequest payload hash result s).fencedVbuckets = s.fencedVbuckets := by
  unfold recordClientRequest
  split
  · rename_i clientRequestId hclient
    split
    · exact ⟨[], by simp⟩
    · rename_i hskip
      have hmirror : payload.isMirror = true := by
        by_contra hne
        exact hskip (.inl (by simpa using hne))
      refine ⟨[_], rfl, ?_, rfl, rfl, rfl, rfl⟩
      intro e he
      rw [List.mem_singleton.mp he]
      exact ⟨rfl, hmirror, hclient⟩
  · exact ⟨[], by simp⟩

theorem recordClientRequest_recorded {clientRequestId : String} (hash : Hash) (s : Store D)
    (result : MutationResult)
    (hmirror : payload.isMirror = true) (hclient : payload.clientRequestId = some clientRequestId)
    (hne : clientRequestId ≠ "") :
    Recorded (recordClientRequest payload hash result s) clientRequestId := by
  unfold recordClientRequest
  rw [hclient]
  dsimp only
  split
  · rename_i hskip
    have hany : s.appliedRequests.any (·.requestId == clientRequestId) = true := by
      simpa [hmirror, hne] using hskip
    obtain ⟨e, he, hid⟩ := List.any_eq_true.mp hany
    exact ⟨e, he, by simpa using hid⟩
  · exact ⟨_, List.mem_append_right _ (List.mem_singleton_self _), rfl⟩

/-- a write that was run, with what it leaves -/
structure Executed (E : Engine D) (H : Digests) (payload : ExecutePayload) (s s' : Store D) : Prop where
  fresh : ¬ Recorded s payload.requestId
  allowed : refusedWrite payload s = none
  run : ∃ n, E.exec payload.sql payload.params s.data = .ok (s'.data, n) ∧
    s'.mirrors = s.mirrors ++ (mirrorOf payload n s).toList
  adds : ∃ added, Adds payload (H.requestHash payload.sql payload.params) s s' added
  client : payload.isMirror = true → ∀ c, payload.clientRequestId = some c → c ≠ "" → Recorded s' c
  fenced : s'.fencedVbuckets = s.fencedVbuckets

namespace Executed

theorem recorded (h : Executed E H payload s s') : Recorded s' payload.requestId := by
  obtain ⟨added, ha⟩ := h.adds
  obtain ⟨e, he, hid⟩ := ha.own
  exact ⟨e, ha.requests ▸ List.mem_append_right _ he, hid⟩

theorem keeps (h : Executed E H payload s s') {id : String} (hr : Recorded s id) : Recorded s' id := by
  obtain ⟨added, ha⟩ := h.adds
  obtain ⟨e, he, hid⟩ := hr
  exact ⟨e, ha.requests ▸ List.mem_append_left _ he, hid⟩

theorem only (h : Executed E H payload s s') {id : String} (hr : Recorded s' id) : Recorded s id ∨
    id = payload.requestId ∨ payload.isMirror = true ∧ payload.clientRequestId = some id := by
  obtain ⟨added, ha⟩ := h.adds
  obtain ⟨e, he, rfl⟩ := hr
  rw [ha.requests] at he
  rcases List.mem_append.mp he with he | he
  · exact .inl ⟨e, he, rfl⟩
  · exact .inr (ha.ids e he)

theorem uniform (h : Executed E H payload s s') {id : String}
    (hu : Uniform s id (H.requestHash payload.sql payload.params)) :
    Uniform s' id (H.requestHash payload.sql payload.params) := by
  obtain ⟨added, ha⟩ := h.adds
  intro e he hid
  rw [ha.requests] at he
  rcases List.mem_append.mp he with he | he
  · exact hu e he hid
  · exact ha.hashes e he

end Executed

theorem executeSync_spec {result : MutationResult × Bool}
    (h : executeSync E payload hash writeHash execStart s = .ok (result, s')) :
    (∃ n, E.exec payload.sql payload.params s.data = .ok (s'.data, n) ∧
      s'.mirrors = s.mirrors ++ (mirrorOf payload n s).toList) ∧
    (∃ added, Adds payload hash s s' added) ∧
    (payload.isMirror = true → ∀ c, payload.clientRequestId = some c → c ≠ "" → Recorded s' c) ∧
    s'.fencedVbuckets = s.fencedVbuckets := by
  obtain ⟨t, requests, n, hexec, hs'⟩ := executeSync_ok h
  unfold executeSync at h
  rw [hexec] at h
  dsimp only at h
  split at h
  · cases h
  · set entry : AppliedRequest := { requestId := payload.requestId, requestHash := hash, result := ⟨n, s.now - execStart⟩, appliedAt := s.now }
    set s₁ : Store D := { s with data := t.data, appliedRequests := s.appliedRequests ++ [entry] }
    obtain ⟨added, hadded, hall, hmirrors, hjob, hnow, hfenced⟩ :=
      recordClientRequest_adds payload hash s₁ ⟨n, s.now - execStart⟩
    set s₂ := recordClientRequest payload hash ⟨n, s.now - execStart⟩ s₁ with hs₂
    obtain ⟨hm, hr, hf⟩ := recordDirectWrite_mirrors E payload n s₂
    have hstore : s' = journalWrite payload hash writeHash (recordDirectWrite E payload n s₂).1 := by
      injection h with h
      exact (Prod.mk.inj h).2.symm
    have hof : mirrorOf payload n s₂ = mirrorOf payload n s := by
      unfold mirrorOf mirrorJob
      rw [hjob, hnow]
    have hdata : s'.data = t.data := by rw [hs']; rfl
    refine ⟨⟨n, hdata ▸ hexec, ?_⟩, ⟨entry :: added, ?_, ?_, ?_, ?_⟩, ?_, ?_⟩
    · rw [hstore]
      show (recordDirectWrite E payload n s₂).1.mirrors = _
      rw [hm, hof, hmirrors]
    · rw [hstore]
      show (recordDirectWrite E payload n s₂).1.appliedRequests = _
      rw [hr, hadded]
      simp [s₁]
    · intro e he
      rcases List.mem_cons.mp he with rfl | he
      · rfl
      · exact (hall e he).1
    · intro e he
      rcases List.mem_cons.mp he with rfl | he
      · exact .inl rfl
      · exact .inr (hall e he).2
    · exact ⟨entry, List.mem_cons_self .., rfl⟩
    · intro hmirror c hc hne
      obtain ⟨e, he, hid⟩ := recordClientRequest_recorded hash s₁
        ⟨n, s.now - execStart⟩ hmirror hc hne
      refine ⟨e, ?_, hid⟩
      rw [hstore]
      show e ∈ (recordDirectWrite E payload n s₂).1.appliedRequests
      rw [hr]
      exact he
    · rw [hstore]
      show (recordDirectWrite E payload n s₂).1.fencedVbuckets = _
      rw [hf, hfenced]

theorem refused_executed {response : Response} (h : refusedWrite payload s = some response) :
    response.executed = false := by
  unfold refusedWrite at h
  split at h
  · cases h
    rfl
  · split at h
    · cases h
      rfl
    · split at h
      · split at h
        · cases h
          rfl
        · cases h
      · cases h

/-- a repetition is answered from the record, a refused or failing write leaves the store as it is -/
theorem execute_cases (E : Engine D) (H : Digests) (payload : ExecutePayload) (execStart : Nat)
    (s : Store D) :
    (Recorded s payload.requestId ∧ (s.execute E H payload execStart).2 = s ∧
      (s.execute E H payload execStart).1.executed = false ∧
      (Uniform s payload.requestId (H.requestHash payload.sql payload.params) →
        ∃ result, (s.execute E H payload execStart).1 = json (.mutation true result))) ∨
    (¬ Recorded s payload.requestId ∧ (s.execute E H payload execStart).2 = s ∧
      (s.execute E H payload execStart).1.executed = false ∧
      (refusedWrite payload s ≠ none ∨ (s.execute E H payload execStart).1 = failedResponse)) ∨
    ((∃ result, (s.execute E H payload execStart).1 = json (.mutation false result)) ∧
      Executed E H payload s (s.execute E H payload execStart).2) := by
  cases hfind : s.appliedRequests.find? (·.requestId == payload.requestId) with
  | some prior =>
    left
    have hmem := List.mem_of_find?_eq_some hfind
    have hid : prior.requestId = payload.requestId := by simpa using List.find?_some hfind
    refine ⟨⟨prior, hmem, hid⟩, ?_, ?_, fun hu => ⟨prior.result, ?_⟩⟩
    · simp only [Store.execute, hfind]
      split <;> rfl
    · simp only [Store.execute, hfind]
      split <;> rfl
    · simp only [Store.execute, hfind]
      rw [if_neg (by simpa using hu prior hmem hid)]
  | none =>
    right
    have hfresh : ¬ Recorded s payload.requestId := by
      intro hr
      obtain ⟨e, he, -⟩ := find_recorded hr
      rw [hfind] at he
      cases he
    cases hrefused : refusedWrite payload s with
    | some response =>
      refine .inl ⟨hfresh, by simp only [Store.execute, hfind, hrefused], ?_, .inl (by simp)⟩
      simp only [Store.execute, hfind, hrefused]
      exact refused_executed hrefused
    | none =>
      cases hsync : executeSync E payload (H.requestHash payload.sql payload.params)
          (H.hashCanonicalJson (.directWrite payload.requestId
            (H.requestHash payload.sql payload.params) (directWriteKind payload) payload.tenantId
            payload.table payload.partitionKey payload.vbucket)) execStart s with
      | error e =>
        refine .inl ⟨hfresh, ?_, ?_, .inr ?_⟩ <;> simp only [Store.execute, hfind, hrefused, hsync]
        rfl
      | ok r =>
        obtain ⟨result, s'⟩ := r
        obtain ⟨hrun, hadds, hclient, hfenced⟩ := executeSync_spec hsync
        obtain ⟨added, hadds⟩ := hadds
        have hstore : (s.execute E H payload execStart).2 = { s' with mutations := s'.mutations + 1 } := by
          simp only [Store.execute, hfind, hrefused, hsync]
        refine .inr ⟨⟨result.1, by simp only [Store.execute, hfind, hrefused, hsync]⟩, ?_⟩
        rw [hstore]
        exact ⟨hfresh, hrefused, hrun, ⟨added, ⟨hadds.requests, hadds.hashes, hadds.ids, hadds.own⟩⟩,
          hclient, hfenced⟩

end Shard
