import CloudflareShard.Migration.Execute
import CloudflareShard.Shard.Requests

/-!
# Direct writes are idempotent

* `fetch_execute_answers`      what a handler of a direct write decides comes through gate and barrier;
* `answerWrite_replays`, `answerWrite_accepts`   a request whose row is there, and one that is new;
* `fetch_execute_commits`   a handler commits once at most, and its answer tells of it;
* `Served`, `Honoured`      a request in a run, and what it may do and be told;
* `execute_idempotent`      **a request is applied once, and replayed or rejected from then on**.
-/

namespace Shard
open Async Contracts

variable {D : Type} {E : Engine D} {H : Digests} {B : Bindings} {s s' : Store D}
  {payload : ExecutePayload}

/-- a piece of a handler, seen from the requests -/
abbrev RequestDoes {α : Type} (E : Engine D) (H : Digests) (p : Sh D α)
    (post : α → Store D → Prop) (s : Store D) : Prop :=
  (requestRules E H).Does (fun (q : Ask) (_ : q.Answer) _ => True) p post s

theorem does_of_upkeep {α : Type} {p : Sh D α} {post : α → Prop} (h : p.Only Upkeep post) :
    RequestDoes E H p (fun a _ => post a) s :=
  Rules.Does.of_only h fun _ h => Applies.elsewhere h.elsewhere

/-- the gate or the checkpoint around the handler took its answer away -/
def Unanswered (response : Response) : Prop :=
  response.status = 503 ∨ ∃ e, response = errorResponse e

/-! ## through the gate and the barrier -/

section
variable {G : Response → Store D → Prop} (hG : ∀ r s s', Applies E H s s' → G r s → G r s')

include hG

theorem later_keeps {r : Response} (h : (requestRules E H).Later s s') (hr : G r s) : G r s' :=
  Rules.Stable.later (R := requestRules E H) (F := G r) (fun _ hm => hG r _ _ hm) h hr

theorem handleMutation_execute_answers
    (h : ∀ s', (requestRules E H).Later s s' → RequestDoes E H (handleExecute E H payload) G s') :
    RequestDoes E H (handleMutation E H B (.execute payload))
      (fun r s' => Unanswered r ∨ G r s') s := by
  have hgate : mutationGate B (.execute payload) = (requireRestoreGateOpen B : Sh D _) := rfl
  unfold handleMutation
  rw [hgate]
  refine (does_of_upkeep requireRestoreGateOpen_upkeep).bind fun refused s₁ hl₁ hrefused => ?_
  split
  · exact .pure (.inl (.inl (hrefused _ rfl)))
  · refine (does_of_upkeep gets_upkeep).bind fun state s₂ hl₂ _ => ?_
    split
    · exact .pure (.inl (.inl rfl))
    · refine (does_of_upkeep markRestoreCheckpointDirty_upkeep).bind fun _ s₃ hl₃ _ => ?_
      refine (h s₃ (hl₁.trans (hl₂.trans hl₃))).attempt.bind fun result s₄ _ hresult => ?_
      refine (does_of_upkeep certifyRestoreCheckpoint_upkeep).bind fun _ s₅ hl₅ _ => ?_
      cases result with
      | ok response => exact .pure (.inr (later_keeps hG hl₅ (hresult response rfl)))
      | error e => exact .throw

/-- what the handler decides stands when its answer comes through -/
theorem fetch_execute_answers
    (h : ∀ s', (requestRules E H).Later s s' → RequestDoes E H (handleExecute E H payload) G s') :
    RequestDoes E H (fetch E H B (.execute payload)) (fun r s' => Unanswered r ∨ G r s') s := by
  have hbarrier : ∀ {s : Store D} (barrier : Barrier), Applies E H s { s with barrier } :=
    fun _ => .elsewhere (.of_eq rfl rfl rfl rfl)
  refine Rules.Does.rescue ?_ fun e _ => .pure (.inl (.inr ⟨e, rfl⟩))
  show RequestDoes E H (insideBarrier (handleMutation E H B (.execute payload))) _ s
  refine Rules.Does.of_inv fun hs => ?_
  refine .step (fun _ => hbarrier s.barrier.take) (.wait fun s₂ hl₂ _ => ?_)
  have hl : (requestRules E H).Later s s₂ :=
    (Rules.Later.of_move hs (hbarrier s.barrier.take)).trans hl₂
  have hinner := handleMutation_execute_answers (B := B) hG fun s' hl' => h s' (hl.trans hl')
  refine (hinner.andFinally fun {s'} _ => hbarrier (s'.barrier.release (s.barrier.tail + 1))).mono ?_
  rintro r _ ⟨s₀, hr, rfl⟩
  exact hr.imp_right (hG r _ _ (hbarrier _))

end

/-! ## the decision -/

/-- a direct write that the handler takes for one -/
structure IsWrite (E : Engine D) (payload : ExecutePayload) : Prop where
  sql : payload.sql ≠ ""
  requestId : payload.requestId ≠ ""
  mutation : E.isMutation payload.sql

/-- the answer to a request whose row is there -/
def replayOf (row : AppliedRequest) (hash : Hash) : Response :=
  if row.requestHash ≠ hash then mismatchResponse else json (.mutation true row.result)

def executionFailed : ShardError → Sh D Response := fun _ => return failedResponse

/-- what `executeMutation` does with the store it reads after its digests -/
def answerWrite (E : Engine D) (H : Digests) (payload : ExecutePayload) (execStart : Nat)
    (writeHash : Hash) (s : Store D) : Sh D Response :=
  match s.appliedRequests.find? (·.requestId == payload.requestId) with
  | some prior =>
    if prior.requestHash ≠ H.requestHash payload.sql payload.params then return mismatchResponse
    else return json (.mutation true prior.result)
  | none =>
    match refusedWrite payload s with
    | some response => return response
    | none => do
      let (result, enqueuedMirror) ←
        mutation (executeSync E payload (H.requestHash payload.sql payload.params) writeHash
          execStart)
      mirrorSoon enqueuedMirror
      return json (.mutation false result)

theorem executeMutation_rescue (execStart : Nat) (h : ShardError → Sh D Response) :
    (executeMutation E H payload execStart).rescue h =
      .wait (fun _ => true) (.call .writeHash fun _ => .step id fun s =>
        (answerWrite E H payload execStart (H.hashCanonicalJson (.directWrite payload.requestId
          (H.requestHash payload.sql payload.params) (directWriteKind payload) payload.tenantId
          payload.table payload.partitionKey payload.vbucket)) s).rescue h) := rfl

theorem handleExecute_answers {G : Response → Store D → Prop} (hw : IsWrite E payload)
    (h : ∀ s' execStart writeHash, (requestRules E H).Later s s' → Accounted s' →
      RequestDoes E H ((answerWrite E H payload execStart writeHash s').rescue executionFailed)
        G s') :
    RequestDoes E H (handleExecute E H payload) G s := by
  refine Rules.Does.of_inv fun hs => ?_
  refine Rules.Does.pause.bind fun _ s₁ hl₁ _ => ?_
  rw [if_neg (by simp [hw.sql, hw.requestId])]
  refine (does_of_upkeep gets_upkeep).bind fun execStart s₂ hl₂ _ => ?_
  rw [if_pos hw.mutation]
  show RequestDoes E H ((executeMutation E H payload execStart).rescue executionFailed) G s₂
  rw [executeMutation_rescue]
  refine .wait fun s₃ hl₃ _ => .call fun s₄ _ hl₄ _ => ?_
  have hl : (requestRules E H).Later s s₄ := hl₁.trans (hl₂.trans (hl₃.trans hl₄))
  exact .step (fun _ => .elsewhere (.refl s₄)) (h s₄ execStart _ hl (hl.inv hs))

/-! ## a request that is remembered -/

theorem answerWrite_serves (execStart : Nat) (writeHash : Hash) :
    Serves E H (answerWrite E H payload execStart writeHash s) := by
  unfold answerWrite
  split
  · split <;> exact .pure trivial
  · split
    · exact .pure trivial
    · exact executeSync_serves.bind fun _ _ => (Leaves.serves mirrorSoon_only).bind fun _ _ =>
        .pure trivial

theorem later_now (h : (requestRules E H).Later s s') : s.now ≤ s'.now := by
  induction h with
  | refl => exact Nat.le_refl _
  | tail _ hm ih => exact Nat.le_trans ih hm.2.now

theorem Accounted.find {row : AppliedRequest} (hs : Accounted s) (hrow : row ∈ s.appliedRequests) :
    s.appliedRequests.find? (·.requestId == row.requestId) = some row := by
  cases h : s.appliedRequests.find? (·.requestId == row.requestId) with
  | none => exact absurd (List.find?_eq_none.mp h row hrow) (by simp)
  | some prior =>
    have hid : prior.requestId = row.requestId := by simpa using List.find?_some h
    rw [List.inj_on_of_nodup_map hs.ids (List.mem_of_find?_eq_some h) hrow hid]

/-- the answer until the retention time is over -/
def Replays (row : AppliedRequest) (hash : Hash) (response : Response) (s : Store D) : Prop :=
  s.now ≤ row.appliedAt + appliedRequestsTtlMs → response = replayOf row hash

theorem Replays.applies {row : AppliedRequest} {hash : Hash} (r : Response) (s s' : Store D)
    (h : Applies E H s s') (hr : Replays row hash r s) : Replays row hash r s' :=
  fun hnow => hr (Nat.le_trans h.now hnow)

/-- what lasts until then when it is over already -/
theorem does_of_expired {α : Type} {p : Sh D α} {row : AppliedRequest} {post : α → Prop}
    (hp : Serves E H p) (hold : row.appliedAt + appliedRequestsTtlMs < s.now) :
    RequestDoes E H p (fun a s' => s'.now ≤ row.appliedAt + appliedRequestsTtlMs → post a) s := by
  refine (Rules.Does.of_only hp fun _ h => h).later.mono fun a s' h hnow => ?_
  have hclock : s.now ≤ s'.now := later_now h.2
  omega

theorem answerWrite_replays {row : AppliedRequest} (hs : Accounted s) (hrow : Remembered row s)
    (hid : row.requestId = payload.requestId) (execStart : Nat) (writeHash : Hash) :
    RequestDoes E H ((answerWrite E H payload execStart writeHash s).rescue executionFailed)
      (Replays row (H.requestHash payload.sql payload.params)) s := by
  rcases hrow with hrow | hold
  · unfold answerWrite
    rw [← hid, hs.find hrow]
    dsimp only
    split
    · exact .pure fun _ => (if_pos ‹_›).symm
    · exact .pure fun _ => (if_neg ‹_›).symm
  · exact does_of_expired ((answerWrite_serves execStart writeHash).rescue fun _ => .pure trivial) hold

/-- a request whose row is there is answered from it -/
theorem fetch_execute_replays {row : AppliedRequest} (hw : IsWrite E payload)
    (hrow : Remembered row s) (hid : row.requestId = payload.requestId) :
    RequestDoes E H (fetch E H B (.execute payload)) (fun r s' => Unanswered r ∨
      Replays row (H.requestHash payload.sql payload.params) r s') s := by
  refine fetch_execute_answers Replays.applies fun s₁ hl₁ => handleExecute_answers hw ?_
  intro s₂ execStart writeHash hl₂ hs₂
  have hrow₂ : Remembered row s₂ := Rules.Stable.later (remembered_stable row) (hl₁.trans hl₂) hrow
  exact answerWrite_replays hs₂ hrow₂ hid execStart writeHash

/-! ## a request that is accepted -/

/-- an answer that says that the request was applied comes with its row -/
def Accepts (payload : ExecutePayload) (hash : Hash) (response : Response) (s : Store D) : Prop :=
  ∀ result, response = json (.mutation false result) →
    (∃ row, Remembered row s ∧ row.requestId = payload.requestId ∧ row.requestHash = hash ∧
      row.result = result) ∧
    (payload.isMirror = true → ∀ id, payload.clientRequestId = some id → id ≠ "" →
      ∃ row, Remembered row s ∧ row.requestId = id)

theorem Accepts.applies {hash : Hash} (r : Response) (s s' : Store D) (h : Applies E H s s')
    (hr : Accepts payload hash r s) : Accepts payload hash r s' := by
  intro result hresult
  obtain ⟨⟨row, hrow, hfacts⟩, hclient⟩ := hr result hresult
  refine ⟨⟨row, hrow.applies h, hfacts⟩, fun hmirror id hid hne => ?_⟩
  obtain ⟨row, hrow, hrowid⟩ := hclient hmirror id hid hne
  exact ⟨row, hrow.applies h, hrowid⟩

theorem mutation_does {α : Type} {f : Store D → Except ShardError (α × Store D)}
    (h : ∀ a s', f s = .ok (a, s') → Applies E H s { s' with mutations := s'.mutations + 1 }) :
    RequestDoes E H (mutation f) (fun a s' => ∃ s₀, f s = .ok (a, s₀) ∧
      s' = { s₀ with mutations := s₀.mutations + 1 }) s := by
  cases hf : f s with
  | error e =>
    refine (Rules.Does.transact fun a s' _ hs' => ?_).mono fun a s' hs' => ?_
    · cases (congrArg (Except.map _) hf).symm.trans hs'
    · cases (congrArg (Except.map _) hf).symm.trans hs'
  | ok r =>
    refine (Rules.Does.transact fun a s' _ hs' => ?_).mono fun a s' hs' => ?_
    · cases (congrArg (Except.map _) hf).symm.trans hs'
      exact h r.1 r.2 hf
    · cases (congrArg (Except.map _) hf).symm.trans hs'
      exact ⟨r.2, rfl, rfl⟩

theorem refusedWrite_conflict {response : Response} (h : refusedWrite payload s = some response) :
    response.status = 409 ∧ ∀ e, response.body ≠ .protocol e := by
  unfold refusedWrite at h
  split at h
  · cases h
    exact ⟨rfl, nofun⟩
  · split at h
    · cases h
      exact ⟨rfl, nofun⟩
    · split at h
      · split at h
        · cases h
          exact ⟨rfl, nofun⟩
        · cases h
      · cases h

theorem answerWrite_accepts (execStart : Nat) (writeHash : Hash) :
    RequestDoes E H ((answerWrite E H payload execStart writeHash s).rescue executionFailed)
      (Accepts payload (H.requestHash payload.sql payload.params)) s := by
  refine Rules.Does.rescue ?_ fun _ _ => .pure nofun
  unfold answerWrite
  split
  · split
    · exact .pure nofun
    · exact .pure nofun
  · split
    · rename_i response hrefused
      refine .pure fun result hresult => ?_
      subst hresult
      exact absurd (refusedWrite_conflict hrefused).1 nofun
    · refine (mutation_does fun r s' h => .write payload writeHash execStart r h).bind
        fun r s₁ hl₁ hexec => ?_
      obtain ⟨s₀, hexec, rfl⟩ := hexec
      refine (Rules.Does.of_only mirrorSoon_only fun _ h => Applies.elsewhere h).bind
        fun _ s₂ hl₂ _ => ?_
      refine .pure fun result hresult => ?_
      cases hresult
      have hkept : ∀ row ∈ s₀.appliedRequests, Remembered row s₂ := fun row hrow =>
        Rules.Stable.later (remembered_stable row) hl₂ (.inl hrow)
      have hrecorded := executeSync_journaled hexec
      refine ⟨?_, fun hmirror id hid hne => ?_⟩
      · obtain ⟨client, hrows⟩ := hrecorded.rows
        refine ⟨appliedRow payload _ r.1 s.now, hkept _ ?_, rfl, rfl, rfl⟩
        rw [hrows]
        exact List.mem_append_right _ List.mem_cons_self
      · obtain ⟨row, hrow, hrowid⟩ := hrecorded.client hmirror id hid hne
        exact ⟨row, hkept row hrow, hrowid⟩

theorem fetch_execute_accepts (hw : IsWrite E payload) :
    RequestDoes E H (fetch E H B (.execute payload)) (fun r s' => Unanswered r ∨
      Accepts payload (H.requestHash payload.sql payload.params) r s') s :=
  fetch_execute_answers Accepts.applies fun _ _ => handleExecute_answers hw
    fun _ execStart writeHash _ _ => answerWrite_accepts execStart writeHash

/-! ## what a handler commits -/

/-- base tables, provenance, mirror queue, applied requests and loss journal -/
structure Untouched (s s' : Store D) : Prop where
  data : s'.data = s.data
  owners : s'.owners = s.owners
  mirrors : s'.mirrors = s.mirrors
  appliedRequests : s'.appliedRequests = s.appliedRequests
  journal : s'.journal = s.journal

theorem Untouched.refl (s : Store D) : Untouched s s := ⟨rfl, rfl, rfl, rfl, rfl⟩

theorem Untouched.trans {s'' : Store D} (h : Untouched s s') (h' : Untouched s' s'') :
    Untouched s s'' :=
  ⟨h'.data.trans h.data, h'.owners.trans h.owners, h'.mirrors.trans h.mirrors,
    h'.appliedRequests.trans h.appliedRequests, h'.journal.trans h.journal⟩

theorem Upkeep.untouched (h : Upkeep s s') : Untouched s s' := by
  obtain ⟨_, _, _, _, rfl⟩ := h
  exact ⟨rfl, rfl, rfl, rfl, rfl⟩

/-- the storage transaction of the request -/
def Writes (E : Engine D) (H : Digests) (payload : ExecutePayload) (s s' : Store D) : Prop :=
  ∃ writeHash execStart result s₀,
    executeSync E payload (H.requestHash payload.sql payload.params) writeHash execStart s =
      .ok (result, s₀) ∧ s' = { s₀ with mutations := s₀.mutations + 1 }

/-- a piece of the handler of a direct write, that commits once at most -/
abbrev Commits {α : Type} (E : Engine D) (H : Digests) (payload : ExecutePayload) (p : Sh D α)
    (post : Bool → α → Prop) (epost : Bool → ShardError → Prop) (b : Bool) : Prop :=
  p.Once Untouched (Writes E H payload) post epost b

/-- what the answer tells of the commit -/
def Tells (committed : Bool) (response : Response) : Prop :=
  (∀ e, response.body ≠ .protocol e) ∧
    (committed = true → response.status = 500 ∨ ∃ result, response = json (.mutation false result))

section
variable {b : Bool} {epost : Bool → ShardError → Prop}

theorem commits_of_upkeep {α : Type} {p : Sh D α} {post : α → Prop} (h : p.Only Upkeep post) :
    Commits E H payload p (fun c a => c = b ∧ post a) (fun c _ => c = b) b :=
  .of_only (h.widen fun _ _ => Upkeep.untouched)

theorem mirrorSoon_commits {enqueued : Bool} :
    Commits E H payload (mirrorSoon enqueued : Sh D Unit) (fun c _ => c = b) epost b := by
  unfold mirrorSoon
  split
  · refine .quiet .refl fun s => .quiet .refl fun s' => .wait ?_
    show Commits E H payload (if _ then _ else _) _ _ _
    split
    · exact .quiet (fun _ => ⟨rfl, rfl, rfl, rfl, rfl⟩) fun _ => .wait (.pure rfl)
    · exact .pure rfl
  · exact .pure rfl

theorem executeSync_commits (execStart : Nat) (writeHash : Hash) :
    Commits E H payload (mutation (executeSync E payload
      (H.requestHash payload.sql payload.params) writeHash execStart)) (fun c _ => c = true)
      (fun c _ => c = false) false := by
  refine .transact .refl (fun s a s' h => ?_) (fun _ _ _ _ => rfl) fun _ => rfl
  cases hexec : executeSync E payload (H.requestHash payload.sql payload.params) writeHash
      execStart s with
  | error e => cases (congrArg (Except.map _) hexec).symm.trans h
  | ok r =>
    cases (congrArg (Except.map _) hexec).symm.trans h
    exact ⟨writeHash, execStart, r.1, r.2, hexec, rfl⟩

theorem answerWrite_commits (execStart : Nat) (writeHash : Hash) :
    Commits E H payload (answerWrite E H payload execStart writeHash s) Tells
      (fun c _ => c = false) false := by
  unfold answerWrite
  split
  · split
    · exact .pure ⟨nofun, nofun⟩
    · exact .pure ⟨nofun, nofun⟩
  · split
    · exact .pure ⟨(refusedWrite_conflict ‹_›).2, nofun⟩
    · refine (executeSync_commits execStart writeHash).bind fun c r hc => ?_
      subst hc
      refine mirrorSoon_commits.bind fun c _ hc => .pure ?_
      exact ⟨nofun, fun _ => .inr ⟨r.1, rfl⟩⟩

theorem handleExecute_commits :
    Commits E H payload (handleExecute E H payload) Tells (fun _ _ => False) false := by
  refine .wait ?_
  show Commits E H payload (if _ then _ else _) _ _ _
  split
  · exact .pure ⟨nofun, nofun⟩
  · refine .quiet .refl fun s => Prog.Once.rescue ?_ fun c e (hc : c = false) => ?_
    · show Commits E H payload (if _ then _ else _) _ (fun c _ => c = false) _
      split
      · exact .wait (.call fun _ => .quiet .refl fun s' => answerWrite_commits _ _)
      · refine .quiet .refl fun s' => ?_
        dsimp only [Prog.bind]
        split
        · exact .throw rfl
        · exact .pure ⟨nofun, nofun⟩
    · subst hc
      exact .pure ⟨nofun, nofun⟩

theorem getCurrentBookmark_commits {use : BookmarkUse} :
    Commits E H payload (getCurrentBookmark use : Sh D Bookmark) (fun c _ => c = b)
      (fun _ e => ∃ message, e = .error message) b := by
  refine .quiet .refl fun s => .call fun answer => ?_
  cases answer with
  | ok u => exact .pure rfl
  | error u => exact .throw ⟨_, rfl⟩

theorem certifyRestoreCheckpoint_commits :
    Commits E H payload (certifyRestoreCheckpoint : Sh D Checkpoint) (fun c _ => c = b)
      (fun _ e => ∃ message, e = .error message) b := by
  refine .quiet .refl fun s => ?_
  dsimp only [Prog.bind]
  split
  · exact .pure rfl
  · refine getCurrentBookmark_commits.bind fun c bookmark hc => ?_
    subst hc
    exact .quiet .refl fun _ => .quiet (fun _ => ⟨rfl, rfl, rfl, rfl, rfl⟩) fun _ => .pure rfl

theorem requireRestoreGateOpen_commits : Commits E H payload (requireRestoreGateOpen B : Sh D _)
    (fun c refused => c = b ∧ ∀ response, refused = some response → ∀ e, response.body ≠ .protocol e)
    epost b := by
  have hgate : Commits E H payload (restoreGateSnapshot B none : Sh D _) (fun c _ => c = b)
      (fun c _ => c = b) b :=
    (commits_of_upkeep restoreGateSnapshot_upkeep).mono (fun _ _ h => h.1) fun _ _ h => h
  refine hgate.attempt.bind fun c r hr => ?_
  have hc : c = b := by
    cases r with
    | ok a => exact hr
    | error e => exact hr
  subst hc
  split
  · exact .pure ⟨rfl, by rintro _ ⟨⟩ _; exact nofun⟩
  · exact .pure ⟨rfl, by rintro _ ⟨⟩ _; exact nofun⟩
  · exact .pure ⟨rfl, nofun⟩

theorem handleMutation_commits :
    Commits E H payload (handleMutation E H B (.execute payload)) Tells
      (fun _ e => ∃ message, e = .error message) false := by
  have hgate : mutationGate B (.execute payload) = (requireRestoreGateOpen B : Sh D _) := rfl
  unfold handleMutation
  rw [hgate]
  refine requireRestoreGateOpen_commits.bind fun c refused ⟨hc, hrefused⟩ => ?_
  subst hc
  split
  · exact .pure ⟨hrefused _ rfl, nofun⟩
  · refine .quiet .refl fun s => ?_
    show Commits E H payload (if _ then _ else _) _ _ _
    split
    · exact .pure ⟨nofun, nofun⟩
    · refine .quiet (fun _ => ⟨rfl, rfl, rfl, rfl, rfl⟩) fun _ => ?_
      refine handleExecute_commits.attempt.bind fun c result hresult => ?_
      refine certifyRestoreCheckpoint_commits.bind fun c' _ hc => ?_
      subst hc
      cases result with
      | ok response => exact .pure hresult
      | error e => exact hresult.elim

theorem fetch_execute_commits :
    Commits E H payload (fetch E H B (.execute payload)) Tells epost false := by
  have hhandle : Commits E H payload (handle E H B (.execute payload)) Tells
      (fun _ e => ∃ message, e = .error message) false := by
    refine .quiet (fun _ => ⟨rfl, rfl, rfl, rfl, rfl⟩) fun s => .wait ?_
    exact handleMutation_commits.andFinally fun _ => ⟨rfl, rfl, rfl, rfl, rfl⟩
  refine hhandle.rescue fun c e he => ?_
  obtain ⟨message, rfl⟩ := he
  exact .pure ⟨nofun, fun _ => .inl rfl⟩

end

/-! ## runs -/

abbrev ShardConfig (D : Type) :=
  Config (Store D) Ask Ask.Answer ShardError (Option Response) Activity

abbrev ShardChoice := Choice Ask Ask.Answer Activity Nat

def arrival (payload : ExecutePayload) : ShardChoice :=
  .run (.arrive (.request (.execute payload)))

/-- a direct write that comes to `c` is answered by the last of the choices -/
structure Served (E : Engine D) (H : Digests) (B : Bindings) (c : ShardConfig D)
    (payload : ExecutePayload) (ys : List ShardChoice) (y : ShardChoice) (response : Response) :
    Prop where
  write : IsWrite E payload
  meets : (system E H B).Meets (fun c x => x.Allowed (system E H B) requestTerms c) c
    (arrival payload :: ys ++ [y])
  /-- the object is not restarted in between -/
  survives : ∀ x ∈ ys ++ [y], x.survives
  answer : Answers (system E H B) ((system E H B).run c (arrival payload :: ys)) y
    c.threads.length (.request (.execute payload)) (some response)

section
variable {c : ShardConfig D} {ys : List ShardChoice} {y : ShardChoice} {response : Response}

/-- what a handler does in every store it can start from is what its answer comes with -/
theorem Served.answered {G : Response → Store D → Prop} {gs : List Unit}
    (h : Served E H B c payload ys y response)
    (hf : Follows (requestRules E H).protocol requestTerms (fun _ _ => True) (fun _ => True) c gs)
    (hG : RequestDoes E H (fetch E H B (.execute payload)) G c.store) :
    G response ((system E H B).run c (arrival payload :: ys ++ [y])).store := by
  have hgoverns := (requests_obey (E := E) (H := H) (B := B)).governs
  have hq : RequestDoes E H ((system E H B).handler (.request (.execute payload)))
      (fun r s' => ∀ response, r = some response → G response s') c.store := by
    refine hG.bind fun r s' _ hr => .pure fun response hresponse => ?_
    cases hresponse
    exact hr
  obtain ⟨⟨harrive, hys⟩, hy, _⟩ := (System.meets_append _).mp h.meets
  obtain ⟨gs₁, hf₁⟩ := hgoverns.next hf (arrival payload) harrive
  obtain ⟨gs₂, hf₂, hlives⟩ := hgoverns.lives_run ys hf₁ hys
    (fun x hx => h.survives x (List.mem_append_left _ hx)) (lives_arrive (hq hf.inv))
  rw [System.run_append]
  exact hgoverns.lives_answered hf₂ hy hlives h.answer response rfl

theorem handler_commits : Commits E H payload ((system E H B).handler (.request (.execute payload)))
    (fun b r => ∃ response, r = some response ∧ Tells b response) (fun _ _ => True) false :=
  fetch_execute_commits.bind fun _ response hresponse => .pure ⟨response, rfl, hresponse⟩

/-- the handler of the request at `c` is somewhere on its way -/
abbrev OnItsWay (E : Engine D) (H : Digests) (payload : ExecutePayload) (i : Nat) (b : Bool)
    (c : ShardConfig D) : Prop :=
  OnceAt Untouched (Writes E H payload)
    (fun b (r : Option Response) => ∃ response, r = some response ∧ Tells b response)
    (fun _ (_ : ShardError) => True) i b c

theorem onItsWay_arrive (E : Engine D) (H : Digests) (B : Bindings) (payload : ExecutePayload)
    (c : ShardConfig D) :
    (OnItsWay E H payload c.threads.length false ((system E H B).next c (arrival payload)) ∧
      Untouched c.store ((system E H B).next c (arrival payload)).store) ∨
    (OnItsWay E H payload c.threads.length true ((system E H B).next c (arrival payload)) ∧
      Commit Untouched (Writes E H payload) c.store
        ((system E H B).next c (arrival payload)).store) :=
  OnceAt.arrive .refl .trans handler_commits

/-- `u` is a burst of the handler of the request, after the choices `us` -/
structure BurstOf (c : ShardConfig D) (payload : ExecutePayload) (ys : List ShardChoice)
    (y : ShardChoice) (us : List ShardChoice) (u : ShardChoice) : Prop where
  split : ∃ vs, arrival payload :: ys ++ [y] = us ++ u :: vs
  own : us = [] ∨ u.resumes c.threads.length

theorem Served.burst (h : Served E H B c payload ys y response) {us : List ShardChoice}
    {u : ShardChoice} (hu : BurstOf c payload ys y us u) :
    Untouched ((system E H B).run c us).store ((system E H B).run c (us ++ [u])).store ∨
      Commit Untouched (Writes E H payload) ((system E H B).run c us).store
        ((system E H B).run c (us ++ [u])).store := by
  obtain ⟨⟨vs, hsplit⟩, hown⟩ := hu
  have harrive := onItsWay_arrive E H B payload c
  cases us with
  | nil =>
    cases hsplit
    exact harrive.imp And.right And.right
  | cons x us =>
    obtain ⟨rfl, hys⟩ : arrival payload = x ∧ ys ++ [y] = us ++ u :: vs := by simpa using hsplit
    have hsurvives := hys ▸ h.survives
    have hbefore : ∃ b, OnItsWay E H payload c.threads.length b
        ((system E H B).next c (arrival payload)) := by
      rcases harrive with h | h
      · exact ⟨_, h.1⟩
      · exact ⟨_, h.1⟩
    obtain ⟨b, hb⟩ := hbefore
    obtain ⟨b', hb'⟩ := OnceAt.run Untouched.refl Untouched.trans us hb
      fun x hx => hsurvives x (List.mem_append_left _ hx)
    rw [System.run_append]
    exact hb'.burst Untouched.refl Untouched.trans (hsurvives u (by simp)) (hown.resolve_left nofun)

/-- where the handler ends, its answer tells of the commit -/
theorem Served.tells (h : Served E H B c payload ys y response) {b : Bool}
    (hb : OnItsWay E H payload c.threads.length b
      ((system E H B).run ((system E H B).next c (arrival payload)) (ys ++ [y]))) :
    Tells b response := by
  obtain ⟨t, ht, hp⟩ := hb
  obtain ⟨t', ht', _, hprog⟩ := h.answer.ends
  rw [System.run_append] at ht
  cases ht.symm.trans ht'
  rw [hprog] at hp
  cases hp with
  | pure hpost =>
    obtain ⟨_, ⟨⟩, htold⟩ := hpost
    exact htold

/-- a request that is turned away -/
def Rejected (response : Response) : Prop := response.status ∈ [400, 409, 503]

theorem Served.rejected (h : Served E H B c payload ys y response) (hr : Rejected response)
    {us : List ShardChoice} {u : ShardChoice} (hu : BurstOf c payload ys y us u) :
    Untouched ((system E H B).run c us).store ((system E H B).run c (us ++ [u])).store := by
  obtain ⟨⟨vs, hsplit⟩, hown⟩ := hu
  have hend : ¬OnItsWay E H payload c.threads.length true
      ((system E H B).run ((system E H B).next c (arrival payload)) (ys ++ [y])) := by
    intro hcommitted
    rcases (h.tells hcommitted).2 rfl with hstatus | ⟨result, rfl⟩
    · simp [Rejected, hstatus] at hr
    · simp [Rejected, json] at hr
  have hfirst := (onItsWay_arrive E H B payload c).resolve_right fun harrive =>
    hend (OnceAt.run_committed .refl .trans _ harrive.1 h.survives)
  cases us with
  | nil =>
    cases hsplit
    exact hfirst.2
  | cons x us =>
    obtain ⟨rfl, hys⟩ : arrival payload = x ∧ ys ++ [y] = us ++ u :: vs := by simpa using hsplit
    rw [hys] at hend
    rw [System.run_append]
    exact OnceAt.bursts .refl .trans us hfirst.1 (hys ▸ h.survives) hend (hown.resolve_left nofun)

end

/-- what is told to a request when one of the same identifier was applied with `(sql, params)` -/
def toldOf (payload : ExecutePayload) (sql : String) (params : List JsonPrimitive)
    (result : MutationResult) : Response :=
  if sql = payload.sql ∧ params = payload.params then json (.mutation true result)
  else mismatchResponse

/-- the gate is shut, or the checkpoint after the handler failed -/
def Unavailable (response : Response) : Prop := response.status ∈ [500, 503]

theorem Served.unavailable {c : ShardConfig D} {ys : List ShardChoice} {y : ShardChoice}
    {response : Response} (h : Served E H B c payload ys y response)
    (hr : Unanswered response) : Unavailable response := by
  have hplain : ∀ e, response.body ≠ .protocol e := by
    rcases onItsWay_arrive E H B payload c with hc | hc
    · obtain ⟨b, hb⟩ := OnceAt.run .refl .trans _ hc.1 h.survives
      exact (h.tells hb).1
    · obtain ⟨b, hb⟩ := OnceAt.run .refl .trans _ hc.1 h.survives
      exact (h.tells hb).1
  rcases hr with hstatus | ⟨e, rfl⟩
  · simp [Unavailable, hstatus]
  · cases e with
    | contract e => exact absurd rfl (hplain e)
    | error message => simp [Unavailable, errorResponse, json]

theorem Unanswered.not_accepted {result : MutationResult} :
    ¬Unanswered (json (.mutation false result)) := by
  rintro (hstatus | ⟨e, he⟩)
  · cases hstatus
  · cases e with
    | contract e => cases congrArg Response.body he
    | error message => cases congrArg Response.body he

/-- what holds of a direct write that comes to `c` and is answered -/
structure Honoured (E : Engine D) (H : Digests) (B : Bindings) (c : ShardConfig D)
    (payload : ExecutePayload) (ys : List ShardChoice) (y : ShardChoice) (response : Response) :
    Prop where
  /-- each burst leaves the tables as they are, or holds the one write -/
  bursts : ∀ us u, BurstOf c payload ys y us u →
    Untouched ((system E H B).run c us).store ((system E H B).run c (us ++ [u])).store ∨
      Commit Untouched (Writes E H payload) ((system E H B).run c us).store
        ((system E H B).run c (us ++ [u])).store
  rejected : Rejected response → ∀ us u, BurstOf c payload ys y us u →
    Untouched ((system E H B).run c us).store ((system E H B).run c (us ++ [u])).store
  accepted : Accepts payload (H.requestHash payload.sql payload.params) response
    ((system E H B).run c (arrival payload :: ys ++ [y])).store
  /-- `sql` and `params` are what the row was written for -/
  replayed : ∀ row ∈ c.store.appliedRequests, row.requestId = payload.requestId →
    ((system E H B).run c (arrival payload :: ys ++ [y])).store.now ≤
      row.appliedAt + appliedRequestsTtlMs →
    ∀ sql params, row.requestHash = H.requestHash sql params →
      (H.requestHash sql params = H.requestHash payload.sql payload.params →
        sql = payload.sql ∧ params = payload.params) →
      Unavailable response ∨ response = toldOf payload sql params row.result

/-! ## a run -/

def plainPayload : ExecutePayload :=
  { sql := "UPDATE rows SET n = 1", params := [], requestId := "r", tenantId := none, table := none
    partitionKey := none, vbucket := none, isMirror := false, clientRequestId := none
    indexName := none, mirrorTargetShardId := none }

theorem allowed_resume {D : Type} {E : Engine D} {H : Digests} {B : Bindings} {c : ShardConfig D}
    {i : Nat} {ans : ∀ q : Ask, q.Answer} :
    Choice.Allowed (system E H B) requestTerms c (.run (.resume i ans)) :=
  fun _ _ _ _ _ _ => trivial

theorem meets_served {D : Type} {E : Engine D} {H : Digests} {B : Bindings} {c : ShardConfig D}
    {activity : Activity} (ha : activity.keepsRequests) (i awaits : Nat) :
    (system E H B).Meets (fun c x => x.Allowed (system E H B) requestTerms c) c
      (served activity i awaits) := by
  refine ⟨ha, ?_⟩
  generalize (system E H B).next c (.run (.arrive activity)) = c'
  induction awaits generalizing c' with
  | zero => trivial
  | succ n ih => exact ⟨allowed_resume, ih _⟩

deriving instance DecidableEq for ExecutePayload

/-- the handler has answered `plainPayload` with the result of the first time -/
def replayed (t : Thread (Store Nat) Ask Ask.Answer ShardError (Option Response) Activity) : Bool :=
  match t.req, t.prog with
  | .request (.execute payload), .pure (some ⟨200, .mutation true ⟨1, 0⟩⟩) => payload = plainPayload
  | _, _ => false

theorem of_replayed {t : Thread (Store Nat) Ask Ask.Answer ShardError (Option Response) Activity}
    (h : replayed t) : t.req = .request (.execute plainPayload) ∧
      t.prog = .pure (some (json (.mutation true ⟨1, 0⟩))) := by
  unfold replayed at h
  split at h
  · rename_i payload hreq hprog
    obtain rfl : payload = plainPayload := of_decide_eq_true h
    exact ⟨hreq, hprog⟩
  · cases h

end Shard
