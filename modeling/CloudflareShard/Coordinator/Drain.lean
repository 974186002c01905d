import CloudflareShard.Coordinator.Decision

/-!
# What the mutation drain waits for

Restore handlers and alarms wait until no gated request is being admitted.  A gated request is counted
until its handler first awaits, not until it ends, so that a drain does not wait for handlers.

* `Running`, `Unstraggled`     a gated handler at work; a drain that resolves while none is;
* `DrainSafe`                  the condition on a step under which the drain is as good as meant;
* `Placed`, `Drained`          where each handler stands, and the invariant of a run;
* `drain_unstraggled`          **over a run of safe steps no drain resolves next to a gated handler**;
* `drain_straggled`            a run in which one does, and the handler aborts the transaction later.
-/

namespace Coordinator
open Async Contracts

abbrev CoordThread := Thread Store Ask Ask.Answer CoordinatorError (Option Response) Activity
abbrev CoordConfig := Config Store Ask Ask.Answer CoordinatorError (Option Response) Activity
abbrev CoordChoice := Choice Ask Ask.Answer Activity Nat

/-! ## the property -/

def Activity.gated (activity : Activity) : Bool :=
  match activity.arrival with
  | .request request => request.gated
  | .alarm => false

/-- a gated request that was admitted, and whose handler has not ended -/
def Running (t : CoordThread) : Prop :=
  t.req.gated ∧ 0 < t.awaits ∧ t.prog.finished = false

/-- when a drain resolves on the way from `c` to `c'`, no admitted gated handler is left -/
def Unstraggled (c c' : CoordConfig) : Prop :=
  c.store.drained < c'.store.drained → ∀ t ∈ c'.threads, ¬Running t

/-! ## the condition -/

/-- the fence that a restore request waits for -/
def Activity.fence (activity : Activity) : Option (String × Nat) :=
  match activity.arrival with
  | .request (.restoreLossPage (some restoreId) (some (generation + 1)) _ _) =>
    some (restoreId, generation + 1)
  | .request (.restoreDiscard (some restoreId) (some (generation + 1))) =>
    some (restoreId, generation + 1)
  | _ => none

/-- the restore authority answers that the gate is open -/
def opens : Except DurableObjectFailure GateReply → Bool
  | .ok (.snapshot active _ _) => !active
  | _ => false

/-- the restore authority answers that it holds the fence -/
def confirms (restoreId : String) (generation : Nat) :
    Except DurableObjectFailure GateReply → Bool
  | .ok (.snapshot active id at_) => active && id == some restoreId && at_ == generation
  | _ => false

variable (E : Bindings) (C : ContractLib)

/-- an alarm fires, or the authority confirms the fence of a restore request -/
def AsksDrain (c : CoordConfig) : Activation Ask Ask.Answer Activity → Prop
  | .arrive activity => activity.arrival = .alarm
  | .resume i ans => ∃ t, c.threads[i]? = some t ∧ t.awaits = 1 ∧ E.restoreCoordinator ∧
      ∃ restoreId generation, t.req.fence = some (restoreId, generation) ∧
        confirms restoreId generation (ans (.gate E.deploymentFleetId (some { restoreId, generation })))

/-- the gate lets a request through to its handler -/
def Admits (c : CoordConfig) : Activation Ask Ask.Answer Activity → Prop
  | .arrive _ => False
  | .resume i ans => c.store.discard = none ∧ ∃ t, c.threads[i]? = some t ∧ t.awaits = 0 ∧
      t.req.gated ∧ (E.restoreCoordinator → opens (ans (.gate E.deploymentFleetId none)))

/-- a drain is asked for only when no gated handler is at work, and no gated request is admitted
while a drain waits -/
def DrainSafe (c : CoordConfig) : CoordChoice → Prop
  | .run a => (AsksDrain E c a → ∀ t ∈ c.threads, ¬Running t) ∧
      (Admits E c a → c.store.mutationDrainWaiters = [])
  | _ => True

/-- every row is a start, and handlers enter a drain when `drains` -/
def anyRow (txId : TxId) (drains : Bool) : Regime txId where
  drains := drains
  start _ := True
  new _ := trivial

theorem rooted_anyRow {txId : TxId} {drains : Bool} (s : Store) : Rooted (anyRow txId drains) s :=
  fun _ _ => .of_start trivial

/-! ## handlers up to their drain -/

section
variable (K : Knot)

/-- `fetch`, as the system runs it -/
def respond (p : Coord Response) : Coord (Option Response) :=
  (p.rescue fun e => .pure (errorResponse e)).bind fun r => .pure (some r)

/-- a gated request at the gate -/
def passGate (request : Request) : Coord Response := do
  match ← (assertRestoreGateOpen E E.deploymentFleetId).attempt with
  | .error e =>
    .modify leaveMutation
    .throw e
  | .ok _ => (dispatch E C K request).unawaited leaveMutation

/-- a restore request at its fence -/
def passFence (restoreId : Option String) (generation : Option Nat) (rest : Coord Response) :
    Coord Response := do
  match ← matchingRestoreFence E restoreId generation with
  | .response response => return response
  | .gate =>
    awaitMutationDrain
    rest

theorem fetch_gated {request : Request} (h : request.gated) :
    (fetch E C K request).bind (fun r => .pure (some r)) =
      .step enterMutation fun _ => respond (passGate E C K request) := by
  unfold fetch handle
  rw [if_pos h]
  rfl

theorem fetch_ungated {request : Request} (h : request.gated = false) :
    (fetch E C K request).bind (fun r => .pure (some r)) = respond (route E C K request) := by
  unfold fetch handle
  rw [if_neg (by simp [h])]
  rfl

theorem passGate_open (h : E.restoreCoordinator = false) (request : Request) :
    passGate E C K request =
      .wait (fun _ => true) ((dispatch E C K request).unawaited leaveMutation) := by
  unfold passGate assertRestoreGateOpen restoreGateSnapshot
  rw [if_pos (by simp [h])]
  rfl

/-- what the gate makes of the answer of the restore authority -/
theorem passGate_asked (h : E.restoreCoordinator = true) (request : Request) :
    ∃ k, passGate E C K request = .call (.gate E.deploymentFleetId none) k ∧
      (∀ answer, opens answer → k answer = (dispatch E C K request).unawaited leaveMutation) ∧
      ∀ answer, opens answer = false →
        ∃ message, k answer = .step leaveMutation fun _ => .throw (.gateDenied message) := by
  unfold passGate assertRestoreGateOpen restoreGateSnapshot
  rw [if_neg (by simp [h])]
  refine ⟨_, rfl, fun answer ha => ?_, fun answer ha => ?_⟩
  · match answer, ha with
    | .ok (.snapshot false _ _), _ => rfl
  · match answer, ha with
    | .error failure, _ => exact ⟨_, rfl⟩
    | .ok (.refused status), _ => exact ⟨_, rfl⟩
    | .ok .malformed, _ => exact ⟨_, rfl⟩
    | .ok (.snapshot true _ _), _ => exact ⟨_, rfl⟩

/-- what the fence check makes of the answer of the restore authority -/
theorem passFence_cases (restoreId : Option String) (generation : Option Nat)
    (rest : Coord Response) :
    (∃ r, passFence E restoreId generation rest = .pure r) ∨
    (∃ r, passFence E restoreId generation rest = .wait (fun _ => true) (.pure r)) ∨
    E.restoreCoordinator ∧ ∃ id at_ k, restoreId = some id ∧ generation = some (at_ + 1) ∧
      passFence E restoreId generation rest =
        .call (.gate E.deploymentFleetId (some { restoreId := id, generation := at_ + 1 })) k ∧
      (∀ answer, confirms id (at_ + 1) answer → k answer = awaitMutationDrain.bind fun _ => rest) ∧
      ∀ answer, confirms id (at_ + 1) answer = false → ∃ r, k answer = .pure r := by
  unfold passFence matchingRestoreFence
  match restoreId, generation with
  | none, _ => exact .inl ⟨_, rfl⟩
  | some _, none => exact .inl ⟨_, rfl⟩
  | some _, some 0 => exact .inl ⟨_, rfl⟩
  | some id, some (at_ + 1) =>
    unfold restoreGateSnapshot
    cases h : E.restoreCoordinator with
    | false => exact .inr (.inl ⟨_, rfl⟩)
    | true =>
      refine .inr (.inr ⟨rfl, id, at_, _, rfl, rfl, rfl, fun answer ha => ?_, fun answer ha => ?_⟩)
      · match answer, ha with
        | .ok (.snapshot active id' at'), ha =>
          have ha : (active = true ∧ id' = some id) ∧ at' = at_ + 1 := by
            simpa [confirms] using ha
          obtain ⟨⟨rfl, rfl⟩, rfl⟩ := ha
          simp [Prog.bind, Prog.rescue]
      · match answer, ha with
        | .error failure, _ => exact ⟨_, rfl⟩
        | .ok (.refused status), _ => exact ⟨_, rfl⟩
        | .ok .malformed, _ => exact ⟨_, rfl⟩
        | .ok (.snapshot active id' at'), ha =>
          have hmismatch : (active = false ∨ ¬id' = some id) ∨ ¬at' = at_ + 1 := by
            simp only [confirms, Bool.and_eq_false_iff] at ha
            simpa using ha
          simp [Prog.bind, Prog.rescue, hmismatch]

end

/-! ## bursts -/

section
variable {txId : TxId} {C : ContractLib} {α : Type} {p : Coord α} {s s' : Store}

theorem Undrained.refl (s : Store) : Undrained s s := fun h => ⟨h, rfl⟩

theorem Undrained.trans {s'' : Store} (h : Undrained s s') (h' : Undrained s' s'') :
    Undrained s s'' := fun hw =>
  have ⟨hw', hd⟩ := h hw
  have ⟨hw'', hd'⟩ := h' hw'
  ⟨hw'', hd'.trans hd⟩

theorem Section.undrained (h : Section C (anyRow txId false) s s') : Undrained s s' :=
  h.drain.resolve_left Bool.false_ne_true

theorem Ok.advance (h : Ok C (anyRow txId false) p Any s) :
    Undrained s (p.advance s).1 ∧ Ok C (anyRow txId false) (p.advance s).2 Any (p.advance s).1 := by
  obtain ⟨_, hp, hk⟩ := Keeps.advance (h (rooted_anyRow s))
  have hu : Undrained s (p.advance s).1 :=
    hp.history (H := Undrained) .refl .trans (fun _ hm => Section.undrained hm)
      (rooted_anyRow s)
  exact ⟨hu, fun _ => hk⟩

theorem Ok.suspended (h : Ok C (anyRow txId false) p Any s) (hp : ∀ upd k, p ≠ .step upd k) :
    Suspended (proto C (anyRow txId false)) Possible (fun _ => True) p () s :=
  ⟨h (rooted_anyRow s), hp⟩

theorem Ok.stays (h : Ok C (anyRow txId false) p Any s) (hp : ∀ upd k, p ≠ .step upd k)
    (hl : Later (anyRow txId true) s s') : Ok C (anyRow txId false) p Any s' := by
  have hs' : Suspended (proto C (anyRow txId false)) Possible (fun _ => True) p () s' :=
    (h.suspended hp).env hl
  exact fun _ => hs'.1

theorem Ok.wake {ans : ∀ q, Ask.Answer q} {p' : Coord α} (h : Ok C (anyRow txId false) p Any s)
    (hp : ∀ upd k, p ≠ .step upd k) (hw : p.wake Ask.possible ans s = some p') :
    Ok C (anyRow txId false) p' Any s :=
  fun hs => (h.suspended hp).woken hs (fun _ _ _ ha => ha) hw

theorem respond_ok {p : Coord Response} (h : Ok C (anyRow txId false) p Any s) : Ok C (anyRow txId false) (respond p) Any s :=
  (Ok.rescue h fun _ _ => Ok.pure trivial).bind fun _ _ _ _ => Ok.pure trivial

end

/-! ## where a handler stands -/

/-- the fields of a restore request, and its handler once the drain has resolved -/
def afterFence (C : ContractLib) : Request → Option (Option String × Option Nat × Coord Response)
  | .restoreLossPage restoreId generation cutoff through =>
    some (restoreId, generation, lossPageDrained C cutoff through)
  | .restoreDiscard restoreId generation =>
    some (restoreId, generation, discardDrained (restoreId.getD "") (generation.getD 0))
  | _ => none

inductive Placed (s : Store) : CoordThread → Prop where
  | atGate {request fuel} (h : request.gated) :
      Placed s ⟨⟨.request request, fuel⟩, 0, respond (passGate E C (knot E C fuel) request)⟩
  | beforeFence {request fuel restoreId generation rest}
      (h : afterFence C request = some (restoreId, generation, rest)) :
      Placed s ⟨⟨.request request, fuel⟩, 0,
        .wait (fun _ => true) (respond (passFence E restoreId generation rest))⟩
  | atFence {request fuel restoreId generation rest}
      (h : afterFence C request = some (restoreId, generation, rest)) :
      Placed s ⟨⟨.request request, fuel⟩, 1, respond (passFence E restoreId generation rest)⟩
  /-- a handler that enters no drain any more -/
  | free {t} (h : Ok C (anyRow E.txId false) t.prog Any s) (hp : ∀ upd k, t.prog ≠ .step upd k)
      (hg : t.req.gated → 0 < t.awaits) : Placed s t

structure Drained (c : CoordConfig) : Prop where
  follows : ∃ gs, Follows (proto C (anyRow E.txId true)) terms (fun _ _ => True) (fun _ => True) c gs
  placed : ∀ t ∈ c.threads, Placed E C c.store t
  idle : c.store.mutationDrainWaiters ≠ [] → ∀ t ∈ c.threads, ¬Running t

section
variable {E : Bindings} {C : ContractLib} {s s' : Store} {t : CoordThread} {c c' : CoordConfig}

theorem Placed.later (h : Placed E C s t) (hl : Later (anyRow E.txId true) s s') : Placed E C s' t := by
  cases h with
  | atGate hg => exact .atGate hg
  | beforeFence hr => exact .beforeFence hr
  | atFence hr => exact .atFence hr
  | free h hp hg => exact .free (h.stays hp hl) hp hg

theorem afterFence_ok {request : Request} {restoreId generation rest}
    (h : afterFence C request = some (restoreId, generation, rest)) (s : Store) :
    Ok C (anyRow E.txId false) rest Any s := by
  cases request with
  | restoreLossPage => cases h; exact lossPageDrained_ok
  | restoreDiscard => cases h; exact discardDrained_ok
  | _ => cases h

theorem afterFence_ungated {request : Request} {fields} (h : afterFence C request = some fields) :
    request.gated = false := by
  cases request with
  | restoreLossPage => rfl
  | restoreDiscard => rfl
  | _ => cases h

theorem afterFence_fence {request : Request} {fuel id at_ rest}
    (h : afterFence C request = some (some id, some (at_ + 1), rest)) :
    (Activity.mk (.request request) fuel).fence = some (id, at_ + 1) := by
  cases request with
  | restoreLossPage => cases h; rfl
  | restoreDiscard => cases h; rfl
  | _ => cases h

/-- a burst keeps the invariant when it enters no drain, or enters it next to no gated handler -/
theorem Drained.burst (h : Drained E C c) (t' : CoordThread)
    (follows : ∃ gs, Follows (proto C (anyRow E.txId true)) terms (fun _ _ => True) (fun _ => True) c' gs)
    (hl : Later (anyRow E.txId true) c.store c'.store) (ht : Placed E C c'.store t')
    (hthreads : ∀ u ∈ c'.threads, u ∈ c.threads ∨ u = t')
    (hb : (Undrained c.store c'.store ∧ (c.store.mutationDrainWaiters ≠ [] → ¬Running t')) ∨
      (∀ u ∈ c.threads, ¬Running u) ∧ ¬Running t') :
    Drained E C c' ∧ Unstraggled c c' := by
  have hidle : c.store.mutationDrainWaiters ≠ [] ∨ c'.store.mutationDrainWaiters ≠ [] ∨
      c.store.drained < c'.store.drained → ∀ u ∈ c'.threads, ¬Running u := by
    intro hw u hu
    rcases hb with ⟨hu', hnr⟩ | ⟨hnone, hnr⟩
    · have hw' : c.store.mutationDrainWaiters ≠ [] := by
        intro hempty
        obtain ⟨hempty', hsame⟩ := hu' hempty
        rcases hw with hw | hw | hw
        · exact hw hempty
        · exact hw hempty'
        · omega
      rcases hthreads u hu with hold | rfl
      · exact h.idle hw' u hold
      · exact hnr hw'
    · rcases hthreads u hu with hold | rfl
      · exact hnone u hold
      · exact hnr
  refine ⟨⟨follows, fun u hu => ?_, fun hw => hidle (.inr (.inl hw))⟩,
    fun hd => hidle (.inr (.inr hd))⟩
  rcases hthreads u hu with hold | rfl
  · exact (h.placed u hold).later hl
  · exact ht

/-! ## one handler wakes up -/

theorem finished_of_woken {α : Type} {p p' : Coord α} {ans : ∀ q, Ask.Answer q}
    (hw : p.wake Ask.possible ans s = some p') : p.finished = false := by
  cases p with
  | pure a => cases hw
  | throw e => cases hw
  | _ => rfl

theorem respond_wait_woken {ready : Store → Bool} {k : Coord Response} {ans : ∀ q, Ask.Answer q}
    {p : Coord (Option Response)}
    (hw : (respond (.wait ready k)).wake Ask.possible ans s = some p) : p = respond k := by
  simp only [respond, Prog.rescue, Prog.bind, Prog.wake] at hw
  split at hw
  · exact (Option.some.inj hw).symm
  · cases hw

theorem respond_call_woken {q : Ask} {k : q.Answer → Coord Response} {ans : ∀ q, Ask.Answer q}
    {p : Coord (Option Response)}
    (hw : (respond (.call q k)).wake Ask.possible ans s = some p) : p = respond (k (ans q)) := by
  simp only [respond, Prog.rescue, Prog.bind, Prog.wake] at hw
  split at hw
  · exact (Option.some.inj hw).symm
  · cases hw

/-- what the handler that wakes up is doing when it is let through the gate -/
def LetThrough (E : Bindings) (s : Store) (t : CoordThread) (ans : ∀ q, Ask.Answer q) : Prop :=
  s.discard = none ∧ t.awaits = 0 ∧ t.req.gated ∧
    (E.restoreCoordinator → opens (ans (.gate E.deploymentFleetId none)))

/-- what the handler that wakes up is doing when its fence is confirmed -/
def FenceConfirmed (E : Bindings) (t : CoordThread) (ans : ∀ q, Ask.Answer q) : Prop :=
  t.awaits = 1 ∧ E.restoreCoordinator ∧ ∃ restoreId generation,
    t.req.fence = some (restoreId, generation) ∧
      confirms restoreId generation (ans (.gate E.deploymentFleetId (some { restoreId, generation })))

/-- how the burst that wakes `t` up and leaves `t'` touches the drain -/
def BurstOk (E : Bindings) (s s' : Store) (t t' : CoordThread) (ans : ∀ q, Ask.Answer q) : Prop :=
  (Undrained s s' ∧ (Running t' → Running t ∨ LetThrough E s t ans)) ∨
    (FenceConfirmed E t ans ∧ ¬Running t')

theorem dispatch_discarded {K : Knot} {request : Request} {discard : RestoreDiscard}
    (h : s.discard = some discard) :
    ((respond ((dispatch E C K request).unawaited leaveMutation)).advance s).2.finished := by
  simp [dispatch, gets, respond, Prog.unawaited, Prog.bind, Prog.rescue, Prog.advance,
    Prog.finished, h]

theorem not_running_of_finished {t : CoordThread} (h : t.prog.finished) : ¬Running t := by
  intro hr
  rw [hr.2.2] at h
  cases h

theorem burst_dispatched {request : Request} {fuel : Nat} {ans : ∀ q, Ask.Answer q}
    {prog : Coord (Option Response)} (hg : request.gated)
    (ha : E.restoreCoordinator → opens (ans (.gate E.deploymentFleetId none))) :
    let b := (respond ((dispatch E C (knot E C fuel) request).unawaited leaveMutation)).advance s
    Placed E C b.1 ⟨⟨.request request, fuel⟩, 1, b.2⟩ ∧
      BurstOk E s b.1 ⟨⟨.request request, fuel⟩, 0, prog⟩ ⟨⟨.request request, fuel⟩, 1, b.2⟩ ans := by
  have hok : Ok C (anyRow E.txId false) (respond ((dispatch E C (knot E C fuel) request).unawaited leaveMutation))
      Any s :=
    respond_ok (Ok.unawaited (fun _ => leaveMutation_section) (fun _ _ _ => trivial)
      (dispatch_ok (knot_ok fuel) hg))
  obtain ⟨hu, hok'⟩ := hok.advance
  refine ⟨.free hok' (Prog.advance_ne_step _ _) fun _ => Nat.one_pos, .inl ⟨hu, fun hr => ?_⟩⟩
  cases hd : s.discard with
  | none => exact .inr ⟨hd, rfl, hg, ha⟩
  | some discard => exact absurd hr (not_running_of_finished (dispatch_discarded hd))

theorem Placed.atGate_woken {request : Request} {fuel : Nat} {ans : ∀ q, Ask.Answer q}
    {p : Coord (Option Response)} (hg : request.gated)
    (hw : (respond (passGate E C (knot E C fuel) request)).wake Ask.possible ans s = some p) :
    Placed E C (p.advance s).1 ⟨⟨.request request, fuel⟩, 1, (p.advance s).2⟩ ∧
      BurstOk E s (p.advance s).1
        ⟨⟨.request request, fuel⟩, 0, respond (passGate E C (knot E C fuel) request)⟩
        ⟨⟨.request request, fuel⟩, 1, (p.advance s).2⟩ ans := by
  cases hrc : E.restoreCoordinator with
  | false =>
    rw [passGate_open E C _ hrc] at hw ⊢
    obtain rfl := respond_wait_woken hw
    exact burst_dispatched hg (by simp [hrc])
  | true =>
    obtain ⟨k, hk, hopen, hshut⟩ := passGate_asked E C (knot E C fuel) hrc request
    rw [hk] at hw ⊢
    obtain rfl := respond_call_woken hw
    cases ha : opens (ans (.gate E.deploymentFleetId none)) with
    | true =>
      rw [hopen _ ha]
      exact burst_dispatched hg fun _ => ha
    | false =>
      obtain ⟨message, hm⟩ := hshut _ ha
      rw [hm]
      exact ⟨.free (Ok.pure trivial) nofun fun _ => Nat.one_pos,
        .inl ⟨leaveMutation_undrained, fun hr => absurd hr (not_running_of_finished rfl)⟩⟩

theorem passFence_ne_step {restoreId : Option String} {generation : Option Nat}
    {rest : Coord Response} (upd k) :
    respond (passFence E restoreId generation rest) ≠ .step upd k := by
  rcases passFence_cases E restoreId generation rest with
    ⟨_, h⟩ | ⟨_, h⟩ | ⟨_, _, _, _, _, _, h, _⟩ <;> rw [h] <;> exact nofun

theorem advance_of_ne_step {α : Type} {p : Coord α} (h : ∀ upd k, p ≠ .step upd k) (s : Store) :
    p.advance s = (s, p) := by
  cases p with
  | step upd k => exact absurd rfl (h upd k)
  | _ => rfl

theorem drain_then_ok {rest : Coord Response} (hrest : ∀ s, Ok C (anyRow E.txId false) rest Any s) (s : Store) :
    Ok C (anyRow E.txId false) ((respond (awaitMutationDrain.bind fun _ => rest)).advance s).2 Any
      ((respond (awaitMutationDrain.bind fun _ => rest)).advance s).1 := by
  have hwait : ∀ (ready : Store → Bool) s', Ok C (anyRow E.txId false) (respond (.wait ready rest)) Any s' :=
    fun _ _ => respond_ok (Ok.wait fun _ _ => hrest _)
  by_cases h : s.activeMutations = 0
  · simp only [awaitMutationDrain, Prog.bind, respond, Prog.rescue, Prog.advance, h, if_true]
    exact hwait _ _
  · simp only [awaitMutationDrain, Prog.bind, respond, Prog.rescue, Prog.advance, h, if_false]
    exact hwait _ _

theorem not_running_of_ungated {t : CoordThread} (h : t.req.gated = false) : ¬Running t := by
  intro hr
  rw [hr.1] at h
  cases h

theorem Placed.atFence_woken {request : Request} {fuel : Nat} {restoreId generation rest}
    {ans : ∀ q, Ask.Answer q} {p : Coord (Option Response)} {prog : Coord (Option Response)}
    (h : afterFence C request = some (restoreId, generation, rest))
    (hw : (respond (passFence E restoreId generation rest)).wake Ask.possible ans s = some p) :
    Placed E C (p.advance s).1 ⟨⟨.request request, fuel⟩, 2, (p.advance s).2⟩ ∧
      BurstOk E s (p.advance s).1 ⟨⟨.request request, fuel⟩, 1, prog⟩
        ⟨⟨.request request, fuel⟩, 2, (p.advance s).2⟩ ans := by
  have hungated : (Activity.mk (.request request) fuel).gated = false := afterFence_ungated h
  have hrunning : ∀ q, ¬Running ⟨⟨.request request, fuel⟩, 2, q⟩ := fun q =>
    not_running_of_ungated hungated
  have hdone : ∀ r, Placed E C s ⟨⟨.request request, fuel⟩, 2, .pure (some r)⟩ ∧
      BurstOk E s s ⟨⟨.request request, fuel⟩, 1, prog⟩
        ⟨⟨.request request, fuel⟩, 2, .pure (some r)⟩ ans := fun r =>
    ⟨.free (Ok.pure trivial) nofun fun _ => Nat.two_pos,
      .inl ⟨.refl s, fun hr => absurd hr (hrunning _)⟩⟩
  rcases passFence_cases E restoreId generation rest with
    ⟨r, hp⟩ | ⟨r, hp⟩ | ⟨hrc, id, at_, k, rfl, rfl, hp, hyes, hno⟩
  · rw [hp] at hw
    cases hw
  · rw [hp] at hw
    obtain rfl := respond_wait_woken hw
    exact hdone r
  · rw [hp] at hw
    obtain rfl := respond_call_woken hw
    cases ha : confirms id (at_ + 1)
        (ans (.gate E.deploymentFleetId (some { restoreId := id, generation := at_ + 1 }))) with
    | true =>
      rw [hyes _ ha]
      exact ⟨.free (drain_then_ok (afterFence_ok h) s) (Prog.advance_ne_step _ _)
        fun _ => Nat.two_pos, .inr ⟨⟨rfl, hrc, id, at_ + 1, afterFence_fence h, ha⟩, hrunning _⟩⟩
    | false =>
      obtain ⟨r, hr⟩ := hno _ ha
      rw [hr]
      exact hdone r

/-- **one burst of a handler that wakes up** -/
theorem Placed.woken {ans : ∀ q, Ask.Answer q} {p : Coord (Option Response)}
    (h : Placed E C s t) (hw : t.prog.wake Ask.possible ans s = some p) :
    Placed E C (p.advance s).1 ⟨t.req, t.awaits + 1, (p.advance s).2⟩ ∧
      BurstOk E s (p.advance s).1 t ⟨t.req, t.awaits + 1, (p.advance s).2⟩ ans := by
  cases h with
  | atGate hg => exact Placed.atGate_woken hg hw
  | atFence h => exact Placed.atFence_woken h hw
  | beforeFence h =>
    cases hw
    rw [advance_of_ne_step passFence_ne_step]
    exact ⟨.atFence h, .inl ⟨.refl s, fun hr =>
      absurd hr (not_running_of_ungated (afterFence_ungated h))⟩⟩
  | free hok hp hg =>
    obtain ⟨hu, hok'⟩ := (hok.wake hp hw).advance
    exact ⟨.free hok' (Prog.advance_ne_step _ _) fun _ => Nat.succ_pos _,
      .inl ⟨hu, fun hr => .inl ⟨hr.1, hg hr.1, finished_of_woken hw⟩⟩⟩

/-! ## one handler arrives -/

theorem passGate_ne_step {K : Knot} {request : Request} (upd k) :
    respond (passGate E C K request) ≠ .step upd k := by
  cases h : E.restoreCoordinator with
  | false => rw [passGate_open E C _ h]; exact nofun
  | true =>
    obtain ⟨k, hk, _⟩ := passGate_asked E C K h request
    rw [hk]
    exact nofun

theorem route_fenced {K : Knot} {request : Request} {restoreId generation rest}
    (h : afterFence C request = some (restoreId, generation, rest)) :
    respond (route E C K request) =
      .wait (fun _ => true) (respond (passFence E restoreId generation rest)) := by
  cases request with
  | restoreLossPage => cases h; rfl
  | restoreDiscard => cases h; rfl
  | _ => cases h

theorem route_unfenced_ok {K : Knot} {request : Request} (h : afterFence C request = none)
    (hg : request.gated = false) : Ok C (anyRow E.txId false) (route E C K request) Any s := by
  cases request with
  | txStatus => exact handleTxStatus_ok
  | stats => exact handleStats_ok
  | redoEnvelope envelopeHash => exact handleRedoEnvelope_ok
  | restoreLossPage => cases h
  | restoreDiscard => cases h
  | _ => cases hg

theorem Placed.arrive_gated (s : Store) (fuel : Nat) {request : Request} (hg : request.gated) :
    let b := ((system E C).handler ⟨.request request, fuel⟩).advance s
    Placed E C b.1 ⟨⟨.request request, fuel⟩, 0, b.2⟩ ∧ Undrained s b.1 := by
  show let b := ((fetch E C (knot E C fuel) request).bind fun r => .pure (some r)).advance s
    Placed E C b.1 ⟨⟨.request request, fuel⟩, 0, b.2⟩ ∧ Undrained s b.1
  rw [fetch_gated E C _ hg]
  show let b := (respond (passGate E C (knot E C fuel) request)).advance (enterMutation s)
    Placed E C b.1 ⟨⟨.request request, fuel⟩, 0, b.2⟩ ∧ Undrained s b.1
  rw [advance_of_ne_step passGate_ne_step]
  exact ⟨.atGate hg, fun h => ⟨h, rfl⟩⟩

theorem Placed.arrive_ungated (s : Store) (fuel : Nat) {request : Request} (hg : request.gated = false) :
    let b := ((system E C).handler ⟨.request request, fuel⟩).advance s
    Placed E C b.1 ⟨⟨.request request, fuel⟩, 0, b.2⟩ ∧ Undrained s b.1 := by
  show let b := ((fetch E C (knot E C fuel) request).bind fun r => .pure (some r)).advance s
    Placed E C b.1 ⟨⟨.request request, fuel⟩, 0, b.2⟩ ∧ Undrained s b.1
  rw [fetch_ungated E C _ hg]
  cases h : afterFence C request with
  | some fields =>
    obtain ⟨restoreId, generation, rest⟩ := fields
    rw [route_fenced h]
    exact ⟨.beforeFence h, .refl s⟩
  | none =>
    obtain ⟨hu, hok⟩ := (respond_ok (route_unfenced_ok (E := E) h hg)).advance
    refine ⟨.free hok (Prog.advance_ne_step _ _) fun hg' => ?_, hu⟩
    rw [show Activity.gated ⟨.request request, fuel⟩ = request.gated from rfl, hg] at hg'
    cases hg'

theorem Placed.arrive_alarm (s : Store) (fuel : Nat) :
    let b := ((system E C).handler ⟨.alarm, fuel⟩).advance s
    Placed E C b.1 ⟨⟨.alarm, fuel⟩, 0, b.2⟩ := by
  have hrest : ∀ (ready : Store → Bool) s', Ok C (anyRow E.txId false)
      ((Prog.wait ready (alarmDrained E C (knot E C fuel))).bind fun _ =>
        (.pure none : Coord (Option Response))) Any s' := fun _ _ =>
    Ok.bind (Ok.wait fun _ _ => alarmDrained_ok (knot_ok fuel)) fun _ _ _ _ => Ok.pure trivial
  refine .free ?_ (Prog.advance_ne_step _ _) (fun hg => by cases hg)
  show Ok C (anyRow E.txId false) ((((alarm E C (knot E C fuel)).bind fun _ => .pure none).advance s).2) Any
    (((alarm E C (knot E C fuel)).bind fun _ => .pure none).advance s).1
  by_cases h : s.activeMutations = 0
  · simp only [alarm, Prog.modify, awaitMutationDrain, Prog.bind_eq, Prog.bind, Prog.advance, h,
      if_true]
    exact hrest _ _
  · simp only [alarm, Prog.modify, awaitMutationDrain, Prog.bind_eq, Prog.bind, Prog.advance, h,
      if_false]
    exact hrest _ _

/-! ## runs -/

theorem woken_thread {i : Nat} {ans : ∀ q, Ask.Answer q} {t' : CoordThread}
    (hw : (system E C).woken c i ans = some t') : ∃ t, c.threads[i]? = some t ∧
      ∃ p, t.prog.wake Ask.possible ans c.store = some p ∧ t' = ⟨t.req, t.awaits + 1, p⟩ := by
  unfold System.woken at hw
  split at hw
  · rename_i t ht
    obtain ⟨p, hp, rfl⟩ := Option.map_eq_some_iff.mp hw
    exact ⟨t, ht, p, hp, rfl⟩
  · cases hw

theorem Drained.start (s : Store) : Drained E C ⟨s.restart, []⟩ :=
  ⟨⟨[], follows_start (C := C) (rooted_anyRow _)⟩, by simp, by simp⟩

/-- **a safe step keeps the invariant, and no drain resolves next to a gated handler** -/
theorem Drained.next (h : Drained E C c) (x : CoordChoice) (hsafe : DrainSafe E c x) :
    Drained E C ((system E C).next c x) ∧ Unstraggled c ((system E C).next c x) := by
  obtain ⟨gs, hf⟩ := h.follows
  have hgoverns := system_governs (E := E) (C := C) (d := anyRow E.txId true) rfl
  have hfollows := hgoverns.next hf x (allowed c x)
  have hlater : Later (anyRow E.txId true) c.store ((system E C).next c x).store :=
    (hist_later _ E C).next hgoverns hf x (allowed c x)
  cases x with
  | event now =>
    refine ⟨⟨hfollows, fun t ht => (h.placed t ht).later hlater, h.idle⟩, fun hd => ?_⟩
    exact absurd hd (Nat.lt_irrefl _)
  | crash a n =>
    have hthreads : ((system E C).next c (.crash a n)).threads = [] := by
      cases a with
      | arrive activity => rfl
      | resume i ans =>
        cases hw : (system E C).woken c i ans with
        | none => rw [System.next_crash_none hw]
        | some t => rw [System.next_crash hw]
    exact ⟨⟨hfollows, by simp [hthreads], by simp [hthreads]⟩, by simp [Unstraggled, hthreads]⟩
  | run a =>
    cases a with
    | arrive activity =>
      obtain ⟨arrival, fuel⟩ := activity
      cases arrival with
      | alarm =>
        refine h.burst ⟨⟨.alarm, fuel⟩, 0, _⟩ hfollows hlater (Placed.arrive_alarm c.store fuel)
          (fun u hu => ?_) (.inr ⟨hsafe.1 rfl, not_running_of_ungated rfl⟩)
        simpa [System.next] using hu
      | request request =>
        have hburst : Placed E C _ _ ∧ Undrained _ _ :=
          if hg : request.gated then Placed.arrive_gated c.store fuel hg
          else Placed.arrive_ungated c.store fuel (by simpa using hg)
        refine h.burst ⟨⟨.request request, fuel⟩, 0, _⟩ hfollows hlater hburst.1
          (fun u hu => ?_) (.inl ⟨hburst.2, fun _ hr => absurd hr.2.1 (Nat.lt_irrefl 0)⟩)
        simpa [System.next] using hu
    | resume i ans =>
      cases hw : (system E C).woken c i ans with
      | none =>
        rw [System.next_resume_none hw]
        exact ⟨h, fun hd => absurd hd (Nat.lt_irrefl _)⟩
      | some t' =>
        obtain ⟨t, ht, p, hp, rfl⟩ := woken_thread hw
        have hold : t ∈ c.threads := List.mem_of_getElem? ht
        obtain ⟨hplaced, hburst⟩ := (h.placed t hold).woken hp
        rw [System.next_resume hw] at hfollows hlater ⊢
        refine h.burst ⟨t.req, t.awaits + 1, _⟩ hfollows hlater hplaced
          (fun u hu => List.mem_or_eq_of_mem_set hu) ?_
        rcases hburst with ⟨hu, hr⟩ | ⟨⟨hone, hrc, hfence⟩, hnr⟩
        · refine .inl ⟨hu, fun hw' hr' => ?_⟩
          rcases hr hr' with hr | ⟨hd, hzero, hg, hopen⟩
          · exact h.idle hw' t hold hr
          · exact hw' (hsafe.2 ⟨hd, t, ht, hzero, hg, hopen⟩)
        · exact .inr ⟨hsafe.1 ⟨t, ht, hone, hrc, hfence⟩, hnr⟩

theorem Drained.run : ∀ (xs : List CoordChoice) {c : CoordConfig}, Drained E C c →
    (system E C).Meets (DrainSafe E) c xs → Drained E C ((system E C).run c xs)
  | [], _, h, _ => h
  | x :: xs, _, h, hm => Drained.run xs (h.next x hm.1).1 hm.2

end

/-- the gate is shut by the restore `r1` -/
def shutGate : ∀ q : Ask, q.Answer
  | .gate .. => .ok (.snapshot true (some "r1") 1)
  | q => openGate q

end Coordinator
