import CloudflareShard.Async.Alone
import CloudflareShard.Coordinator.Drain

/-!
# Recovery work of the predecessor schema

The predecessor queued the shard route itself, over a row that was already committed or aborted.  The
alarm replays the route, and takes the work off the queue when all participants have acknowledged.

* `AlarmRun`, `alarmRun`     one alarm at a time, with its clock, its answers and where it crashes;
* `Predecessor`              a row with a queued route;
* `Unfailed`                 the condition on a run: no attempt is turned down;
* `legacy_redelivered`       **the route is sent by every due alarm until all have acknowledged**;
* `legacy_dropped`           an attempt is turned down once, and no later alarm sends the route.
-/

namespace Coordinator
open Async Contracts

/-! ## one alarm at a time -/

/-- the clock, the answer to each await, and after how many sections the object crashes -/
structure AlarmRun where
  now : Nat
  fuel : Nat
  answers : Nat → ∀ q, Ask.Answer q
  sections : Nat

abbrev CoordAnswered := Answered Ask Ask.Answer

section
variable (E : Bindings) (C : ContractLib)

def alarmEnding (s : Store) (r : AlarmRun) : Ending Store Ask Ask.Answer CoordinatorError Unit :=
  (alarm E C (knot E C r.fuel)).alone r.answers r.sections 0 [] { s with now := r.now }

def alarmRun (s : Store) (r : AlarmRun) : Store :=
  let e := alarmEnding E C s r
  if e.prog.finished then e.store else e.store.restart

def alarmRuns (s : Store) (rs : List AlarmRun) : Store := rs.foldl (alarmRun E C) s

end

/-! ## the property -/

/-- a row whose decision is done, over which the predecessor queued `/commit` or `/abort` -/
structure Predecessor (row : TxRow) (work : QueueRow) (commit : Bool) (s : Store) : Prop where
  transaction : s.transaction = some row
  settled : row.status = .committed ∨ row.status = .aborted
  queue : s.queue = some work
  action : work.action = if commit then .commitRoute else .abortRoute
  discard : s.discard = none
  idle : s.activeMutations = 0

/-- all participants have acknowledged an attempt -/
def Acknowledged (row : TxRow) (commit : Bool) (l : CoordAnswered) : Prop :=
  ∃ outcomes, ⟨.shards (legacyMessages row commit), outcomes⟩ ∈ l ∧
    allOk row.operationJson.length outcomes

/-- the registry and the gate let the alarm through -/
structure LetThroughAlarm (l : CoordAnswered) : Prop where
  gate : ∀ f c a, ⟨.gate f c, a⟩ ∈ l → opens a
  registry : ∀ f c x a, ⟨.registerCoordinator f c x, a⟩ ∈ l →
    a = .ok .registered ∨ ∃ id at_ cutoff, a = .ok (.discardRequired id at_ cutoff)

/-- the registry does not ask to discard the row -/
def Undiscarded (row : TxRow) (l : CoordAnswered) : Prop :=
  ∀ f c x id at_ cutoff,
    ⟨.registerCoordinator f c x, .ok (.discardRequired id at_ cutoff)⟩ ∈ l →
      registrationRequiresDiscard row cutoff = false

/-- nor does any participant turn an attempt down -/
structure Unfailing (row : TxRow) (commit : Bool) (l : CoordAnswered) : Prop where
  undiscarded : Undiscarded row l
  attempts : ∀ outcomes, ⟨.shards (legacyMessages row commit), outcomes⟩ ∈ l →
    allOk row.operationJson.length outcomes

/-- every run of the sequence is unfailing -/
def Unfailed (E : Bindings) (C : ContractLib) (row : TxRow) (commit : Bool) :
    Store → List AlarmRun → Prop
  | _, [] => True
  | s, r :: rs => Unfailing row commit (alarmEnding E C s r).answered ∧
      Unfailed E C row commit (alarmRun E C s r) rs

section
variable {E : Bindings} {C : ContractLib} {row : TxRow} {work : QueueRow} {commit : Bool}
  {ans : Nat → ∀ q, Ask.Answer q} {n : Nat} {l : CoordAnswered} {s : Store}

/-! ## gates -/

/-- the alarm was stopped by the registry or the gate, which changes nothing -/
def Denied (s : Store) (e : CoordinatorError) (l : CoordAnswered) (s' : Store) : Prop :=
  s' = s ∧ (∃ message, e = .gateDenied message) ∧ ¬LetThroughAlarm l

theorem assertRestoreGateOpen_alone {stop : CoordAnswered → Store → Prop} (hstop : ∀ l, stop l s)
    (fleetId : String) : Alone ans stop (fun _ _ s' => s' = s) (Denied s)
      (assertRestoreGateOpen E fleetId) n l s := by
  have shut : ∀ a, opens a = false →
      ¬LetThroughAlarm (l ++ [⟨Ask.gate fleetId none, a⟩]) := fun a ha h => by
    have hopen := h.gate fleetId none a (by simp)
    rw [ha] at hopen
    cases hopen
  unfold assertRestoreGateOpen restoreGateSnapshot
  cases hrc : E.restoreCoordinator with
  | false => exact ⟨hstop _, fun _ => rfl⟩
  | true =>
    refine ⟨hstop _, ?_⟩
    generalize ha : ans n (.gate fleetId none) = a
    match a with
    | .error failure => exact ⟨rfl, ⟨_, rfl⟩, shut _ rfl⟩
    | .ok (.refused status) => exact ⟨rfl, ⟨_, rfl⟩, shut _ rfl⟩
    | .ok .malformed => exact ⟨rfl, ⟨_, rfl⟩, shut _ rfl⟩
    | .ok (.snapshot true _ _) => exact ⟨rfl, ⟨_, rfl⟩, shut _ rfl⟩
    | .ok (.snapshot false _ _) => exact (rfl : s = s)

theorem registerPhysicalCoordinator_alone {stop : CoordAnswered → Store → Prop}
    (hstop : ∀ l, stop l s) (f c : String) (x : Option Nat) :
    Alone ans stop
      (fun r l s' => s' = s ∧ ∀ id at_ cutoff, r = .discardRequired id at_ cutoff →
        ⟨.registerCoordinator f c x, .ok (.discardRequired id at_ cutoff)⟩ ∈ l)
      (Denied s) (registerPhysicalCoordinator E f c x) n l s := by
  have refused : ∀ a, a ≠ .ok .registered → (∀ id at_ cutoff, a ≠ .ok (.discardRequired id at_ cutoff)) →
      ¬LetThroughAlarm (l ++ [⟨Ask.registerCoordinator f c x, a⟩]) := fun a h₁ h₂ h => by
    rcases h.registry f c x a (by simp) with ha | ⟨id, at_, cutoff, ha⟩
    · exact h₁ ha
    · exact h₂ id at_ cutoff ha
  unfold registerPhysicalCoordinator
  cases hrc : E.restoreCoordinator with
  | false => exact ⟨hstop _, fun _ => ⟨rfl, nofun⟩⟩
  | true =>
    refine ⟨hstop _, ?_⟩
    generalize ha : ans n (.registerCoordinator f c x) = a
    match a with
    | .error failure => exact ⟨rfl, ⟨_, rfl⟩, refused _ nofun nofun⟩
    | .ok (.refused status) => exact ⟨rfl, ⟨_, rfl⟩, refused _ nofun nofun⟩
    | .ok .malformed => exact ⟨rfl, ⟨_, rfl⟩, refused _ nofun nofun⟩
    | .ok .malformedDirective => exact ⟨rfl, ⟨_, rfl⟩, refused _ nofun nofun⟩
    | .ok (.discardRequired id at_ cutoff) =>
      refine ⟨rfl, fun id' at' cutoff' h => ?_⟩
      cases h
      exact List.mem_append_right _ (List.mem_singleton.mpr rfl)
    | .ok .registered =>
      refine (assertRestoreGateOpen_alone hstop f).bind fun _ n l s' h => ?_
      show s' = s ∧ _
      exact ⟨h, fun _ _ _ hr => by cases hr⟩

/-! ## one alarm run -/

/-- the row and its work as the predecessor left them -/
structure Held (row : TxRow) (work : QueueRow) (s : Store) : Prop where
  transaction : s.transaction = some row
  queue : s.queue = some work
  discard : s.discard = none

/-- what holds wherever an alarm that nobody turns down stops -/
def Kept (row : TxRow) (work : QueueRow) (commit : Bool) (l : CoordAnswered) (s : Store) : Prop :=
  Unfailing row commit l → Acknowledged row commit l ∨ Held row work s

/-- what holds where it ends; it began with the messages `sent`, and `active` mutations are counted -/
structure Ended (row : TxRow) (work : QueueRow) (commit : Bool) (now : Nat) (active : Int)
    (sent : List (ShardId × ShardRequest)) (l : CoordAnswered) (s : Store) : Prop where
  kept : Unfailing row commit l →
    Acknowledged row commit l ∨ Held row work s ∧ s.activeMutations = active
  delivered : Undiscarded row l → LetThroughAlarm l → work.nextAttemptAt ≤ now →
    s.sent = sent ++ legacyMessages row commit

theorem Held.kept (h : Held row work s) (l : CoordAnswered) : Kept row work commit l s :=
  fun _ => .inr h

/-- once the registry has asked to discard the row nothing more is promised -/
theorem discarded_alone {α : Type} {p : Coord α} (h : ¬Undiscarded row l) :
    Alone ans (Kept row work commit) (fun _ l _ => ¬Undiscarded row l)
      (fun _ l _ => ¬Undiscarded row l) p n l s := by
  have halways : Alone ans (fun l _ => ¬Undiscarded row l) (fun _ l _ => ¬Undiscarded row l)
      (fun _ l _ => ¬Undiscarded row l) p n l s := by
    refine Alone.always (fun l _ q a h hu => h fun f c x id at_ cutoff hm => ?_) (fun _ _ _ h => h) h
    exact hu f c x id at_ cutoff (List.mem_append_left _ hm)
  exact halways.weaken fun _ _ h hu => absurd hu.undiscarded h

theorem ended_of_discarded {now : Nat} {active : Int} {sent : List (ShardId × ShardRequest)}
    (h : ¬Undiscarded row l) : Ended row work commit now active sent l s :=
  ⟨fun hu => absurd hu.undiscarded h, fun hu => absurd hu h⟩

/-- work that is queued again after an attempt that was turned down -/
theorem reschedule_alone {now : Nat} {active : Int} {sent : List (ShardId × ShardRequest)}
    (hfailed : ∀ l' : CoordAnswered, ¬Unfailing row commit (l ++ l')) (action : RecoveryAction)
    (hsent : s.sent = sent ++ legacyMessages row commit) :
    Alone ans (Kept row work commit) (fun _ => Ended row work commit now active sent)
      (fun _ l _ => ¬Undiscarded row l) ((reschedule action).bind fun _ => .pure ()) n l s := by
  have hl : ¬Unfailing row commit l := by simpa using hfailed []
  refine ⟨fun hu => absurd hu hl, ?_⟩
  refine ⟨fun hu => absurd hu hl, fun hu => absurd hu hl, fun _ => ?_⟩
  exact ⟨fun hu => absurd hu hl, fun _ _ _ => hsent⟩

/-- the attempt: the work is off the queue, or queued again when somebody has turned it down -/
theorem reconcileLegacyRecovery_alone (h : Held row work s) (action : RecoveryAction) {now : Nat}
    {active : Int} :
    Alone ans (Kept row work commit) (fun _ => Ended row work commit now active s.sent)
      (fun _ l _ => ¬Undiscarded row l)
      ((reconcileLegacyRecovery row commit).bind fun done =>
        if done then .pure () else (reschedule action).bind fun _ => .pure ()) n l s := by
  refine ⟨h.kept l, fun _ => .inr ⟨h.transaction, h.queue, h.discard⟩, ?_⟩
  generalize ha : ans n (.shards (legacyMessages row commit)) = outcomes
  have hlog : (⟨.shards (legacyMessages row commit), outcomes⟩ : Σ q, Ask.Answer q) ∈
      l ++ [⟨.shards (legacyMessages row commit), outcomes⟩] := by simp
  by_cases hok : allOk row.operationJson.length outcomes = true
  · have hacked : Acknowledged row commit (l ++ [⟨.shards (legacyMessages row commit), outcomes⟩]) :=
      ⟨outcomes, hlog, hok⟩
    simp only [Prog.bind, if_pos hok]
    exact ⟨fun _ => .inl hacked, fun _ => .inl hacked, fun _ _ _ => rfl⟩
  · simp only [Prog.bind, if_neg hok]
    refine reschedule_alone (fun l' hu => hok (hu.attempts outcomes ?_)) action rfl
    exact List.mem_append_left _ hlog

variable {K : Knot}

theorem alarmWork_alone (h : Held row work s)
    (hw : work.action = if commit then .commitRoute else .abortRoute) :
    Alone ans (Kept row work commit)
      (fun _ => Ended row work commit s.now s.activeMutations s.sent)
      (fun _ l _ => ¬Undiscarded row l) (alarmWork E C K work row) n l s := by
  unfold alarmWork
  cases commit with
  | true =>
    rw [hw]
    exact reconcileLegacyRecovery_alone h .commit
  | false =>
    rw [hw]
    exact reconcileLegacyRecovery_alone h .abort

theorem rearm_alone {post : CoordAnswered → Store → Prop} (h : Held row work s)
    (hpost : ∀ l s', Held row work s' → s'.activeMutations = s.activeMutations → post l s') (due : Nat) :
    Alone ans (Kept row work commit) (fun _ => post) (fun _ l _ => ¬Undiscarded row l)
      (rearm due) n l s := by
  unfold rearm ensureAlarmScheduled
  refine ⟨h.kept _, h.kept _, fun _ => ?_⟩
  show Alone ans (Kept row work commit) (fun _ => post) (fun _ l _ => ¬Undiscarded row l)
    (if s.alarm.all (due < ·) then setAlarm due else .pure ()) _ _ _
  split
  · have h' : Held row work { s with alarm := some due } := ⟨h.transaction, h.queue, h.discard⟩
    exact ⟨h.kept _, h'.kept _, fun _ => hpost _ _ h' rfl⟩
  · exact hpost _ _ h rfl

/-- an alarm that is turned away leaves the work where it is -/
theorem Denied.ended {s' : Store} {e : CoordinatorError} (h : Held row work s) (hd : Denied s e l s') :
    Ended row work commit s.now s.activeMutations s.sent l s' := by
  obtain ⟨rfl, -, hl⟩ := hd
  exact ⟨fun _ => .inr ⟨h, rfl⟩, fun _ hlet => absurd hlet hl⟩

/-- how a part of the alarm ends by an error: turned away, or after a directive to discard the row -/
def Stopped (row : TxRow) (s : Store) (e : CoordinatorError) (l : CoordAnswered) (s' : Store) : Prop :=
  Denied s e l s' ∨ ¬Undiscarded row l

theorem alarmDue_alone (h : Held row work s)
    (hw : work.action = if commit then .commitRoute else .abortRoute) :
    Alone ans (Kept row work commit) (fun _ => Ended row work commit s.now s.activeMutations s.sent)
      (Stopped row s) (alarmDue E C K work row) n l s := by
  unfold alarmDue
  have hgate : Alone ans (Kept row work commit) (fun _ _ s' => s' = s) (Stopped row s)
      (assertRestoreGateOpen E (nonEmptyOr (some row.fleetId) E.deploymentFleetId)) n l s :=
    (assertRestoreGateOpen_alone h.kept _).mono (fun _ _ _ h => h) fun _ _ _ h => .inl h
  refine hgate.bind fun _ n l s' hs => ?_
  subst hs
  refine ⟨h.kept l, ?_⟩
  simp only [h.queue, Prog.bind]
  refine ⟨h.kept l, ?_⟩
  simp only [Prog.bind, ne_eq, not_true_eq_false, or_self, if_false, id_eq]
  split
  · rename_i hearly
    refine (rearm_alone h (fun l s'' h'' ha => ?_) _).mono (fun _ _ _ h => h) fun _ _ _ h => .inr h
    exact ⟨fun _ => .inr ⟨h'', ha⟩, fun _ _ hdue => absurd hdue (Nat.not_le.mpr hearly)⟩
  · have hattempt : Alone ans (Kept row work commit)
        (fun r l s'' => (∃ u, r = .ok u ∧ Ended row work commit s'.now s'.activeMutations s'.sent l s'') ∨
          ∃ e, r = .error e ∧ ¬Undiscarded row l)
        (Stopped row s') (alarmWork E C K work row).attempt n l s' :=
      Alone.attempt (fun u _ _ h => .inl ⟨u, rfl, h⟩) (fun e _ _ h => .inr ⟨e, rfl, h⟩)
        (alarmWork_alone h hw)
    refine hattempt.bind fun r n l s'' hr => ?_
    rcases hr with ⟨u, rfl, hended⟩ | ⟨e, rfl, hdiscarded⟩
    · exact hended
    · exact (discarded_alone hdiscarded).mono (fun _ _ _ => ended_of_discarded) fun _ _ _ h => .inr h

/-- the alarm once its mutation is counted -/
theorem alarmBody_alone (h : Held row work s)
    (hw : work.action = if commit then .commitRoute else .abortRoute) :
    Alone ans (Kept row work commit) (fun _ => Ended row work commit s.now s.activeMutations s.sent)
      (Stopped row s) (alarmBody E C K) n l s := by
  unfold alarmBody
  refine ⟨h.kept l, ?_⟩
  simp only [h.discard, h.queue, h.transaction, Prog.bind, id_eq]
  refine ((registerPhysicalCoordinator_alone h.kept _ _ _).mono (fun _ _ _ h => h)
    fun _ _ _ h => .inl h).bind fun r n l s' hr => ?_
  obtain ⟨rfl, hlog⟩ := hr
  cases r with
  | registered => exact alarmDue_alone h hw
  | discardRequired restoreId generation cutoff =>
    simp only
    split
    · rename_i hdiscard
      have hdiscarded : ¬Undiscarded row l := fun hu => by
        rw [hu _ _ _ _ _ _ (hlog _ _ _ rfl)] at hdiscard
        cases hdiscard
      exact (discarded_alone hdiscarded).mono (fun _ _ _ => ended_of_discarded) fun _ _ _ h => .inr h
    · exact alarmDue_alone h hw

theorem enterMutation_held (h : Held row work s) : Held row work (enterMutation s) :=
  ⟨h.transaction, h.queue, h.discard⟩

theorem leaveMutation_durable (s : Store) : (leaveMutation s).transaction = s.transaction ∧
    (leaveMutation s).queue = s.queue ∧ (leaveMutation s).discard = s.discard ∧
    (leaveMutation s).sent = s.sent ∧ (leaveMutation s).activeMutations = s.activeMutations - 1 := by
  unfold leaveMutation
  by_cases h : s.activeMutations - 1 = 0 <;> simp [h]

theorem leaveMutation_held (h : Held row work s) : Held row work (leaveMutation s) := by
  obtain ⟨htx, hq, hd, -⟩ := leaveMutation_durable s
  exact ⟨htx.trans h.transaction, hq.trans h.queue, hd.trans h.discard⟩

theorem Ended.leave {now : Nat} {sent : List (ShardId × ShardRequest)}
    (h : Ended row work commit now 1 sent l s) :
    Ended row work commit now 0 sent l (leaveMutation s) := by
  obtain ⟨-, -, -, hsent, hactive⟩ := leaveMutation_durable s
  refine ⟨fun hu => ?_, fun hu hl hd => hsent.trans (h.delivered hu hl hd)⟩
  rcases h.kept hu with hacked | ⟨hheld, ha⟩
  · exact .inl hacked
  · exact .inr ⟨leaveMutation_held hheld, by rw [hactive, ha]; rfl⟩

/-- the rest of an alarm that was turned away: it comes back later -/
theorem deniedAlarm_alone (h : Held row work s) (hl : ¬LetThroughAlarm l)
    {sent : List (ShardId × ShardRequest)} {now : Nat} :
    Alone ans (Kept row work commit) (fun _ => Ended row work commit now s.activeMutations sent)
      (fun _ l _ => ¬Undiscarded row l)
      (do let now ← dateNow
          setAlarm (now + defaultDurableObjectRetryAfterMs)) n l s := by
  have h' : Held row work { s with alarm := some (s.now + defaultDurableObjectRetryAfterMs) } :=
    ⟨h.transaction, h.queue, h.discard⟩
  refine ⟨h.kept l, h.kept l, h'.kept l, fun _ => ?_⟩
  exact ⟨fun _ => .inr ⟨h', rfl⟩, fun _ hlet => absurd hlet hl⟩

theorem alarmDrained_alone (h : Held row work s) (hidle : s.activeMutations = 0)
    (hw : work.action = if commit then .commitRoute else .abortRoute) :
    Alone ans (Kept row work commit) (fun _ => Ended row work commit s.now 0 s.sent)
      (fun _ l _ => ¬Undiscarded row l) (alarmDrained E C K) n l s := by
  have hactive : (enterMutation s).activeMutations = 1 := by simp [enterMutation, hidle]
  have hheld := enterMutation_held h
  have hbody : Alone ans (Kept row work commit) (fun _ => Ended row work commit s.now 1 s.sent)
      (Stopped row (enterMutation s)) (alarmBody E C K) n l (enterMutation s) :=
    hactive ▸ alarmBody_alone hheld hw
  refine ⟨h.kept l, Alone.andFinally (fun u l s' he => ?_)
    (fun e l s' (he : ¬Undiscarded row l) => ?_) (hbody.rescue fun e n l s' he => ?_)⟩
  · refine ⟨fun hu => ?_, he.leave⟩
    rcases he.kept hu with hacked | ⟨hheld', -⟩
    · exact .inl hacked
    · exact .inr hheld'
  · exact ⟨fun hu => absurd hu.undiscarded he, he⟩
  · rcases he with ⟨rfl, ⟨message, rfl⟩, hl⟩ | hdiscarded
    · exact hactive ▸ deniedAlarm_alone hheld hl
    · exact (discarded_alone hdiscarded).mono (fun _ _ _ => ended_of_discarded) fun _ _ _ h => h

theorem alarm_alone (h : Predecessor row work commit s) :
    Alone ans (Kept row work commit) (fun _ => Ended row work commit s.now 0 s.sent)
      (fun _ l _ => ¬Undiscarded row l) (alarm E C K) n l s := by
  have hheld : Held row work s := ⟨h.transaction, h.queue, h.discard⟩
  have h₁ : Held row work { s with alarm := none } := ⟨h.transaction, h.queue, h.discard⟩
  refine ⟨hheld.kept l, h₁.kept l, ?_⟩
  have h₂ : Held row work (enterDrain { s with alarm := none }) := by
    simp only [enterDrain, h.idle, if_true]
    exact ⟨h.transaction, h.queue, h.discard⟩
  have hidle : (enterDrain { s with alarm := none }).activeMutations = 0 := by
    simp only [enterDrain, h.idle, if_true]
  show Alone ans (Kept row work commit) _ _ (Prog.bind (if s.activeMutations = 0 then Prog.pause else _)
    fun _ => alarmDrained E C K) n l (enterDrain { s with alarm := none })
  rw [if_pos h.idle]
  refine ⟨h₂.kept l, fun _ => ?_⟩
  have hrun : Alone ans (Kept row work commit)
      (fun _ => Ended row work commit (enterDrain { s with alarm := none }).now 0
        (enterDrain { s with alarm := none }).sent)
      (fun _ l _ => ¬Undiscarded row l) (alarmDrained E C K) (n + 1) l
      (enterDrain { s with alarm := none }) := alarmDrained_alone h₂ hidle h.action
  show Alone ans (Kept row work commit) _ _ (alarmDrained E C K) (n + 1) l _
  simpa only [enterDrain, h.idle, if_true] using hrun

/-! ## sequences of alarms -/

theorem alarmEnding_holds (h : Predecessor row work commit s) (r : AlarmRun) :
    (alarmEnding E C s r).Holds (Kept row work commit)
      (fun _ => Ended row work commit r.now 0 s.sent) (fun _ l _ => ¬Undiscarded row l) := by
  have hnow : Predecessor row work commit { s with now := r.now } :=
    ⟨h.transaction, h.settled, h.queue, h.action, h.discard, h.idle⟩
  exact alone_spec r.sections (alarm_alone hnow)

/-- an alarm without a failing answer leaves the work queued unless all have acknowledged -/
theorem Predecessor.next (h : Predecessor row work commit s) (r : AlarmRun)
    (hu : Unfailing row commit (alarmEnding E C s r).answered) :
    Acknowledged row commit (alarmEnding E C s r).answered ∨
      Predecessor row work commit (alarmRun E C s r) := by
  have hend := alarmEnding_holds (E := E) (C := C) h r
  unfold alarmRun
  revert hend hu
  generalize alarmEnding E C s r = e
  obtain ⟨s', p, l⟩ := e
  intro hu hend
  have hrestart : Kept row work commit l s' →
      Acknowledged row commit l ∨ Predecessor row work commit s'.restart := fun hk =>
    (hk hu).imp_right fun hheld =>
      ⟨hheld.transaction, h.settled, hheld.queue, h.action, hheld.discard, rfl⟩
  cases p with
  | pure u =>
    refine (hend.kept hu).imp_right fun ⟨hheld, hidle⟩ => ?_
    exact ⟨hheld.transaction, h.settled, hheld.queue, h.action, hheld.discard, hidle⟩
  | throw e => exact absurd hu.undiscarded hend
  | _ => exact hrestart hend

/-- an alarm that is let through when the work is due sends the route to all participants -/
theorem Predecessor.delivers (h : Predecessor row work commit s) (r : AlarmRun)
    (hd : Undiscarded row (alarmEnding E C s r).answered)
    (hfinished : (alarmEnding E C s r).prog.finished)
    (hl : LetThroughAlarm (alarmEnding E C s r).answered) (hdue : work.nextAttemptAt ≤ r.now) :
    (alarmRun E C s r).sent = s.sent ++ legacyMessages row commit := by
  have hend := alarmEnding_holds (E := E) (C := C) h r
  unfold alarmRun
  revert hend hd hfinished hl
  generalize alarmEnding E C s r = e
  obtain ⟨s', p, l⟩ := e
  intro hd hfinished hl hend
  cases p with
  | pure u => exact hend.delivered hd hl hdue
  | throw e => exact absurd hd hend
  | _ => cases hfinished

/-- **the predecessor's work is not dropped unacknowledged**: after any sequence of alarms in which no
attempt is turned down, an attempt was acknowledged by all, or the work is still queued and every
alarm that is let through once it is due sends the route to all participants -/
theorem legacy_redelivered (E : Bindings) (C : ContractLib) {row : TxRow} {work : QueueRow}
    {commit : Bool} {s : Store} (h : Predecessor row work commit s) (rs : List AlarmRun)
    (hrs : Unfailed E C row commit s rs) :
    (∃ before r after, rs = before ++ r :: after ∧
      Acknowledged row commit (alarmEnding E C (alarmRuns E C s before) r).answered) ∨
    (alarmRuns E C s rs).queue = some work ∧ ∀ r,
      let e := alarmEnding E C (alarmRuns E C s rs) r
      Undiscarded row e.answered → e.prog.finished → LetThroughAlarm e.answered →
        work.nextAttemptAt ≤ r.now → (alarmRun E C (alarmRuns E C s rs) r).sent =
          (alarmRuns E C s rs).sent ++ legacyMessages row commit := by
  induction rs generalizing s with
  | nil => exact .inr ⟨h.queue, h.delivers⟩
  | cons r rs ih =>
    rcases h.next r hrs.1 with hacked | hnext
    · exact .inl ⟨[], r, rs, rfl, hacked⟩
    · rcases ih hnext hrs.2 with ⟨before, r', after, rfl, hacked⟩ | hqueued
      · exact .inl ⟨r :: before, r', after, rfl, hacked⟩
      · exact .inr hqueued

/-! ## an attempt that is turned down -/

def legacyRow : TxRow := { preparedRow with status := .committed, stateModelVersion := 1 }

def legacyWork : QueueRow := { action := .commitRoute, nextAttemptAt := 0, attemptCount := 0 }

def legacyStore : Store :=
  { Store.empty with transaction := some legacyRow, queue := some legacyWork }

/-- every participant answers as `ok` says -/
def shardsAnswer (ok : Bool) (_ : Nat) : ∀ q : Ask, q.Answer
  | .shards _ => fun _ => .response ok { prepareBookmark := none, prepareCheckpointExact := false, text := "" }
  | q => openGate q

def legacyAlarm (now : Nat) (ok : Bool) : AlarmRun :=
  { now, fuel := 1, answers := shardsAnswer ok, sections := 20 }

theorem legacyStore_predecessor : Predecessor legacyRow legacyWork true legacyStore :=
  ⟨rfl, .inl rfl, rfl, rfl, rfl, rfl⟩

/-- what an alarm is answered by the registry and the gate -/
def openLog : CoordAnswered :=
  [⟨.registerCoordinator "default" "t1" (some 0), .ok .registered⟩,
    ⟨.gate "default" none, .ok (.snapshot false none 0)⟩,
    ⟨.gate "default" none, .ok (.snapshot false none 0)⟩]

theorem openLog_letThrough : LetThroughAlarm openLog := by
  refine ⟨fun f c a h => ?_, fun f c x a h => ?_⟩
  · simp only [openLog, List.mem_cons, List.not_mem_nil, or_false] at h
    rcases h with h | h | h <;> cases h <;> rfl
  · simp only [openLog, List.mem_cons, List.not_mem_nil, or_false] at h
    rcases h with h | h | h <;> cases h
    exact .inl rfl

theorem openLog_undiscarded : Undiscarded legacyRow openLog := by
  intro f c x id at_ cutoff h
  simp only [openLog, List.mem_cons, List.not_mem_nil, or_false] at h
  rcases h with h | h | h <;> cases h

theorem openLog_attempts {outcomes} :
    (⟨.shards (legacyMessages legacyRow true), outcomes⟩ : Σ q, Ask.Answer q) ∉ openLog := by
  intro h
  simp only [openLog, List.mem_cons, List.not_mem_nil, or_false] at h
  rcases h with h | h | h <;> cases h

/-- the object crashes when the first attempt is sent, and the next alarm sends the route again -/
theorem legacy_redelivered_crash :
    let s := alarmRuns plainBindings plainContracts legacyStore [{ legacyAlarm 1 true with sections := 7 }]
    s.queue = some legacyWork ∧ s.sent = legacyMessages legacyRow true ∧
      (alarmRun plainBindings plainContracts s (legacyAlarm 2 false)).sent =
        s.sent ++ legacyMessages legacyRow true := by
  have hcrash : (alarmEnding plainBindings plainContracts legacyStore
      { legacyAlarm 1 true with sections := 7 }).answered = openLog := rfl
  have hunfailed : Unfailed plainBindings plainContracts legacyRow true legacyStore
      [{ legacyAlarm 1 true with sections := 7 }] := by
    refine ⟨?_, trivial⟩
    rw [hcrash]
    exact ⟨openLog_undiscarded, fun _ h => absurd h openLog_attempts⟩
  have hlog : (alarmEnding plainBindings plainContracts (alarmRuns plainBindings plainContracts legacyStore
      [{ legacyAlarm 1 true with sections := 7 }]) (legacyAlarm 2 false)).answered = openLog ++
        [⟨.shards (legacyMessages legacyRow true),
          shardsAnswer false 3 (.shards (legacyMessages legacyRow true))⟩] := rfl
  rcases legacy_redelivered plainBindings plainContracts legacyStore_predecessor _ hunfailed with h | h
  · obtain ⟨before, r, after, hsplit, outcomes, hmem, -⟩ := h
    obtain ⟨rfl, rfl, rfl⟩ : before = [] ∧ { legacyAlarm 1 true with sections := 7 } = r ∧ after = [] := by
      cases before <;> simp_all
    rw [alarmRuns, List.foldl_nil, hcrash] at hmem
    exact absurd hmem openLog_attempts
  · refine ⟨h.1, rfl, h.2 (legacyAlarm 2 false) ?_ rfl ?_ (by decide)⟩
    · rw [hlog]
      intro f c x id at_ cutoff hm
      rcases List.mem_append.mp hm with hm | hm
      · exact openLog_undiscarded f c x id at_ cutoff hm
      · cases List.mem_singleton.mp hm
    · rw [hlog]
      refine ⟨fun f c a hm => ?_, fun f c x a hm => ?_⟩
      · rcases List.mem_append.mp hm with hm | hm
        · exact openLog_letThrough.gate f c a hm
        · cases List.mem_singleton.mp hm
      · rcases List.mem_append.mp hm with hm | hm
        · exact openLog_letThrough.registry f c x a hm
        · cases List.mem_singleton.mp hm

/-- an attempt is turned down, and the next alarm, due and let through, sends nothing -/
theorem legacy_dropped :
    let s := alarmRun plainBindings plainContracts legacyStore (legacyAlarm 1 false)
    let e := alarmEnding plainBindings plainContracts s (legacyAlarm 100000 true)
    ¬Acknowledged legacyRow true
        (alarmEnding plainBindings plainContracts legacyStore (legacyAlarm 1 false)).answered ∧
      (∃ work, s.queue = some work ∧ work.nextAttemptAt ≤ 100000) ∧ e.prog.finished ∧
      LetThroughAlarm e.answered ∧ Undiscarded legacyRow e.answered ∧
      (alarmRun plainBindings plainContracts s (legacyAlarm 100000 true)).sent = s.sent := by
  have hlog : (alarmEnding plainBindings plainContracts legacyStore (legacyAlarm 1 false)).answered =
      openLog ++ [⟨.shards (legacyMessages legacyRow true),
        shardsAnswer false 3 (.shards (legacyMessages legacyRow true))⟩] := rfl
  have hopen : (alarmEnding plainBindings plainContracts (alarmRun plainBindings plainContracts legacyStore
      (legacyAlarm 1 false)) (legacyAlarm 100000 true)).answered = openLog := rfl
  refine ⟨?_, ⟨_, rfl, by decide⟩, rfl, ?_, ?_, rfl⟩
  · rw [hlog]
    rintro ⟨outcomes, hm, hok⟩
    rcases List.mem_append.mp hm with hm | hm
    · exact openLog_attempts hm
    · cases List.mem_singleton.mp hm
      exact absurd hok (by decide)
  · exact hopen ▸ openLog_letThrough
  · exact hopen ▸ openLog_undiscarded

end
end Coordinator
