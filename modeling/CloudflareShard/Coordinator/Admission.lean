import CloudflareShard.Coordinator.Handlers

/-!
# Attempts on the admission circuit

The manifest admission circuit is one row that all overlapping attempts of a coordinator share.

* `Attempt`, `Admissions`, `Event`, `next`   attempts that begin, wait, and record what they got;
* `Meets`               what a result must not do to the probe or the cooldown of another attempt;
* `Upheld`              one probe at a time, its lease is kept, a cooldown is waited out;
* `one_probe`           a run whose steps all meet the condition upholds it;
* `breach_of_not_meets` a step that does not meet it is followed by a breach;
* `one_probe_iff`       **the condition is exact**.
-/

namespace Coordinator
namespace Admission
open Async Contracts

/-- what the reply to an attempt counts as -/
inductive Outcome where
  | success
  | failure
  | neutral
  deriving DecidableEq

def Outcome.record (now : Nat) (attempt : AdmissionAttempt) : Outcome → Circuit → Circuit
  | .success => recordAdmissionSuccess
  | .failure => recordAdmissionFailure now attempt
  | .neutral => recordAdmissionNeutral

/-! ## the two callers -/

section callers
variable (E : Bindings)

/-- an attempt as both callers make it -/
def attempting {α β : Type} (ask : Coord α) (outcome : α → Outcome) (refused : Nat → β)
    (reply : α → β) : Coord β := do
  let now ← dateNow
  match ← admissionAttempt now with
  | .opened retryAfterMs => return refused retryAfterMs
  | attempt =>
    let answer ← ask
    updateCircuit ((outcome answer).record now attempt)
    return reply answer

/-- what `checkManifestAdmission` makes of the answer or the exception -/
def admissionReply : Except DurableObjectFailure ManifestAdmissionResult → ManifestAdmissionResult
  | .ok result => result
  | .error failure => .unavailable (durableObjectUnavailableError failure .txManifestUnavailable
      "Manifest admission is unavailable before prepare.")

def admissionOutcome : ManifestAdmissionResult → Outcome
  | .ready => .success
  | .unavailable error => if error.retryable || error.overloaded then .failure else .neutral

theorem recordAdmission_eq (now : Nat) (attempt : AdmissionAttempt)
    (result : ManifestAdmissionResult) :
    recordAdmission now attempt result = (admissionOutcome result).record now attempt := by
  cases result with
  | ready => rfl
  | unavailable error =>
    simp only [recordAdmission, admissionOutcome]
    split
    · rfl
    · rfl

/-- **`checkManifestAdmission` is one attempt** -/
theorem checkManifestAdmission_attempting (request : ManifestAdmissionRequest) :
    checkManifestAdmission E request
      = attempting (askAdmission E request) (fun answer => admissionOutcome (admissionReply answer))
          (fun retryAfterMs => .unavailable (circuitOpenError retryAfterMs)) admissionReply := by
  unfold checkManifestAdmission attempting
  congr 1
  funext now
  congr 1
  funext attempt
  cases attempt with
  | opened retryAfterMs => rfl
  | closed | probe =>
    simp only
    congr 1
    funext answer
    rw [← recordAdmission_eq]
    cases answer with
    | ok result => rfl
    | error failure => rfl

def routeOutcome : Option (Except DurableObjectFailure ManifestAssignResult) → Outcome
  | none => .failure
  | some (.error _) => .failure
  | some (.ok (.refused _ error)) =>
    if error.retryable || error.overloaded then .failure else .neutral
  | some (.ok (.assigned _ _)) => .success

/-- what `/begin` goes on with after the answer of `assignManifestRoute` -/
def routeReply : Option (Except DurableObjectFailure ManifestAssignResult) →
    Except Response (ManifestReservation × Hash)
  | none => .error (protocolResponse (transactionError .txManifestUnavailable routeUnavailable))
  | some (.error failure) => .error (protocolResponse
      (durableObjectUnavailableError failure .txManifestUnavailable routeUnavailable))
  | some (.ok (.refused unavailable error)) =>
    if error.overloaded || unavailable then
      .error (protocolResponse (durableObjectUnavailableError (failureOf error)
        .txManifestUnavailable routeUnavailable))
    else .error (protocolResponse error)
  | some (.ok (.assigned reservation reservationHash)) => .ok (reservation, reservationHash)

/-- **`/begin` makes one attempt before it reserves** -/
theorem assignRoute_attempting (request : ManifestRouteAssignmentRequest) :
    assignRoute E request
      = attempting (askRoute E request) routeOutcome
          (fun retryAfterMs => .error (protocolResponse (circuitOpenError retryAfterMs)))
          routeReply := by
  unfold assignRoute attempting
  congr 1
  funext now
  congr 1
  funext attempt
  cases attempt with
  | opened retryAfterMs => rfl
  | closed | probe =>
    simp only
    congr 1
    funext answer
    match answer with
    | none => rfl
    | some (.error failure) => rfl
    | some (.ok (.assigned reservation reservationHash)) => rfl
    | some (.ok (.refused unavailable error)) =>
      have hrecord (now : Nat) (attempt : AdmissionAttempt) :
          (if error.retryable || error.overloaded then recordAdmissionFailure now attempt
            else recordAdmissionNeutral)
            = (routeOutcome (some (.ok (.refused unavailable error)))).record now attempt := by
        simp only [routeOutcome]
        split
        · rfl
        · rfl
      simp only [hrecord, routeReply]
      congr 1
      funext _
      split
      · rfl
      · rfl

end callers

/-! ## overlapping attempts -/

/-- an attempt that was let in, when it asked the circuit -/
structure Attempt where
  startedAtMs : Nat
  state : AdmissionAttempt
  recorded : Bool

def Attempt.leaseEnd (q : Attempt) : Nat := q.startedAtMs + circuitFailureWindowMs

/-- the row, the clock and the attempts let in so far; `successes` counts the recorded successes -/
structure Admissions where
  nowMs : Nat
  circuit : Circuit
  attempts : List Attempt
  successes : Nat

/-- a coordinator that has made no attempt yet -/
def Admissions.fresh (nowMs : Nat) : Admissions := ⟨nowMs, .closed, [], 0⟩

inductive Event where
  | tick (ms : Nat)
  | attempt
  /-- the reply to attempt `i` is there, however late -/
  | answer (i : Nat) (outcome : Outcome)
  deriving DecidableEq

def next (s : Admissions) : Event → Admissions
  | .tick ms => { s with nowMs := s.nowMs + ms }
  | .attempt =>
    match beginAdmissionAttempt s.nowMs s.circuit with
    | (.opened _, circuit) => { s with circuit }
    | (state, circuit) =>
      { s with circuit, attempts := s.attempts ++ [⟨s.nowMs, state, false⟩] }
  | .answer i outcome =>
    match s.attempts[i]? with
    | none => s
    | some t =>
      if t.recorded then s
      else
        { s with
          circuit := outcome.record t.startedAtMs t.state s.circuit
          attempts := s.attempts.set i { t with recorded := true }
          successes := if outcome = .success then s.successes + 1 else s.successes }

def run (s : Admissions) (es : List Event) : Admissions := es.foldl next s
/-! ## what may be recorded when -/

/-- attempt `j` is a probe whose lease is not over and whose own result is still out -/
def Admissions.Live (s : Admissions) (j : Nat) (q : Attempt) : Prop :=
  s.attempts[j]? = some q ∧ q.state = .probe ∧ q.recorded = false ∧ s.nowMs < q.leaseEnd

/-- every live probe other than attempt `i` is `P` -/
def Admissions.Others (s : Admissions) (i : Nat) (P : Attempt → Prop) : Prop :=
  ∀ j q, j ≠ i → s.Live j q → P q

/-- the row holds the lease of `q` -/
def Holds (circuit : Circuit) (q : Attempt) : Prop :=
  circuit.halfOpenProbe = true ∧ circuit.halfOpenProbeUntilMs = q.leaseEnd

/-- `q` needs no lease: the circuit is closed, or stays shut for as long as the lease would run -/
def Covered (circuit : Circuit) (q : Attempt) : Prop :=
  circuit.openUntilMs = 0 ∨ q.leaseEnd ≤ circuit.openUntilMs

/-- what `recordAdmissionFailure` counts up to -/
def failuresCounted (now : Nat) (circuit : Circuit) : Nat :=
  if decide (0 < circuit.failureWindowStartedAtMs)
      && decide (now ≤ circuit.failureWindowStartedAtMs + circuitFailureWindowMs)
  then circuit.failureCount + 1 else 1

def shouldOpen (t : Attempt) (circuit : Circuit) : Bool :=
  t.state = .probe || decide (circuitFailureThreshold ≤ failuresCounted t.startedAtMs circuit)

/-- when the cooldown of a failure is over: counted from the start of its attempt -/
def cooldownEnd (t : Attempt) (circuit : Circuit) : Nat :=
  t.startedAtMs + min circuitMaximumCooldownMs
    (circuitFailureWindowMs * 2 ^ min circuit.openCount 10)

/-- a failure of `t` that opens the circuit shuts it for as long as a lease of another probe and
as a cooldown that is running -/
structure Reopens (s : Admissions) (i : Nat) (t : Attempt) : Prop where
  leases : s.Others i fun q => q.leaseEnd ≤ cooldownEnd t s.circuit
  cooldown : s.circuit.openUntilMs ≤ s.nowMs ∨ s.circuit.openUntilMs ≤ cooldownEnd t s.circuit
  closed : t.state = .closed → s.Others i (Covered s.circuit)

/-- a result other than success is recorded only when no other live probe needs the lease in the
row, or when it shuts the circuit for at least as long -/
def Meets (s : Admissions) : Event → Prop
  | .answer i outcome => ∀ t, s.attempts[i]? = some t → t.recorded = false → outcome ≠ .success →
      if outcome = .failure ∧ shouldOpen t s.circuit = true then Reopens s i t
      else s.Others i (Covered s.circuit)
  | _ => True

def AllMeet (s : Admissions) : List Event → Prop
  | [] => True
  | e :: es => Meets s e ∧ AllMeet (next s e) es

section decidable
variable {s : Admissions} {i : Nat} {t : Attempt}

theorem others_iff {P : Attempt → Prop} : s.Others i P ↔
    ∀ j : Fin s.attempts.length, j.1 ≠ i → (s.attempts.get j).state = .probe →
      (s.attempts.get j).recorded = false → s.nowMs < (s.attempts.get j).leaseEnd →
        P (s.attempts.get j) := by
  constructor
  · intro h j hji hstate hout hnow
    exact h j _ hji ⟨List.getElem?_eq_getElem j.2, hstate, hout, hnow⟩
  · intro h j q hji hq
    obtain ⟨hj, hstate, hout, hnow⟩ := hq
    obtain ⟨hlt, hget⟩ := List.getElem?_eq_some_iff.mp hj
    subst hget
    exact h ⟨j, hlt⟩ hji hstate hout hnow

instance {P : Attempt → Prop} [DecidablePred P] : Decidable (s.Others i P) :=
  decidable_of_iff _ others_iff.symm

instance {c : Circuit} : DecidablePred (Covered c) :=
  fun q => inferInstanceAs (Decidable (c.openUntilMs = 0 ∨ q.leaseEnd ≤ c.openUntilMs))

instance : Decidable (Reopens s i t) :=
  decidable_of_iff
    ((s.Others i fun q => q.leaseEnd ≤ cooldownEnd t s.circuit) ∧
      (s.circuit.openUntilMs ≤ s.nowMs ∨ s.circuit.openUntilMs ≤ cooldownEnd t s.circuit) ∧
      (t.state = .closed → s.Others i (Covered s.circuit)))
    ⟨fun h => ⟨h.1, h.2.1, h.2.2⟩, fun h => ⟨h.leases, h.cooldown, h.closed⟩⟩

instance decidableMeets : (e : Event) → Decidable (Meets s e)
  | .tick _ => inferInstanceAs (Decidable True)
  | .attempt => inferInstanceAs (Decidable True)
  | .answer i outcome =>
    match h : s.attempts[i]? with
    | none => .isTrue fun t ht => absurd (h.symm.trans ht) (by simp)
    | some t => decidable_of_iff
        (t.recorded = false → outcome ≠ .success →
          if outcome = .failure ∧ shouldOpen t s.circuit = true then Reopens s i t
          else s.Others i (Covered s.circuit))
        ⟨fun hm _ ht => Option.some.inj (h.symm.trans ht) ▸ hm, fun hm => hm t h⟩

instance decidableAllMeet : (s : Admissions) → (es : List Event) → Decidable (AllMeet s es)
  | _, [] => .isTrue trivial
  | s, e :: es =>
    have := decidableAllMeet (next s e) es
    inferInstanceAs (Decidable (Meets s e ∧ AllMeet (next s e) es))

end decidable

/-! ## what is to be upheld -/

/-- as long as the circuit is open and a probe is live no second probe is let in -/
def ProbeAlone (s : Admissions) : Prop :=
  ∀ j q, s.Live j q → 0 < s.circuit.openUntilMs →
    (beginAdmissionAttempt s.nowMs s.circuit).1 ≠ .probe

/-- the failure of an attempt let in by a closed circuit leaves the lease of a live probe -/
def LeaseKept (s : Admissions) (e : Event) : Prop :=
  ∀ i t, e = .answer i .failure → s.attempts[i]? = some t → t.recorded = false →
    t.state = .closed → ∀ j q, s.Live j q → 0 < s.circuit.openUntilMs → Holds s.circuit q →
      Holds (next s e).circuit q

/-- until the cooldown seen in `s` is over, `s'` lets nobody in, unless a success came between -/
def CooldownKept (s s' : Admissions) : Prop :=
  s'.successes = s.successes → s'.nowMs < s.circuit.openUntilMs →
    ∃ retryAfterMs, (beginAdmissionAttempt s'.nowMs s'.circuit).1 = .opened retryAfterMs

structure Upheld (s : Admissions) (es : List Event) : Prop where
  probe : ∀ pre post, es = pre ++ post → ProbeAlone (run s pre)
  lease : ∀ pre e post, es = pre ++ e :: post → LeaseKept (run s pre) e
  cooldown : ∀ pre mid post, es = pre ++ mid ++ post →
    CooldownKept (run s pre) (run s (pre ++ mid))

/-! ## steps -/

section steps
variable {s : Admissions} {i j : Nat} {t q : Attempt} {outcome : Outcome}

theorem begin_cases (now : Nat) (c : Circuit) :
    (∃ retryAfterMs, beginAdmissionAttempt now c = (.opened retryAfterMs, c)) ∨
    (beginAdmissionAttempt now c = (.probe, { c with
        halfOpenProbe := true, halfOpenProbeUntilMs := now + circuitFailureWindowMs }) ∧
      0 < c.openUntilMs ∧ c.openUntilMs ≤ now ∧
      (c.halfOpenProbe = true → c.halfOpenProbeUntilMs ≤ now)) ∨
    (beginAdmissionAttempt now c = (.closed, c) ∧ c.openUntilMs = 0) := by
  unfold beginAdmissionAttempt
  by_cases hopen : now < c.openUntilMs
  · exact Or.inl ⟨_, if_pos hopen⟩
  · rw [if_neg hopen]
    by_cases hpos : 0 < c.openUntilMs
    · rw [if_pos hpos]
      by_cases hlease : (c.halfOpenProbe && decide (now < c.halfOpenProbeUntilMs)) = true
      · exact Or.inl ⟨_, if_pos hlease⟩
      · rw [if_neg hlease]
        refine Or.inr (Or.inl ⟨rfl, hpos, by omega, fun hprobe => ?_⟩)
        simp only [hprobe, Bool.true_and, decide_eq_true_eq] at hlease
        omega
    · rw [if_neg hpos]
      exact Or.inr (Or.inr ⟨rfl, by omega⟩)

theorem next_opened {r : Nat} (h : beginAdmissionAttempt s.nowMs s.circuit = (.opened r, s.circuit)) :
    next s .attempt = s := by
  simp only [next, h]

theorem next_probe {c : Circuit} (h : beginAdmissionAttempt s.nowMs s.circuit = (.probe, c)) :
    next s .attempt
      = { s with circuit := c, attempts := s.attempts ++ [⟨s.nowMs, .probe, false⟩] } := by
  simp only [next, h]

theorem next_closed (h : beginAdmissionAttempt s.nowMs s.circuit = (.closed, s.circuit)) :
    next s .attempt = { s with attempts := s.attempts ++ [⟨s.nowMs, .closed, false⟩] } := by
  simp only [next, h]

theorem next_answer (hi : s.attempts[i]? = some t) (ht : t.recorded = false) :
    next s (.answer i outcome) = { s with
      circuit := outcome.record t.startedAtMs t.state s.circuit
      attempts := s.attempts.set i { t with recorded := true }
      successes := if outcome = .success then s.successes + 1 else s.successes } := by
  simp only [next, hi, ht]
  rfl

theorem next_answer_stale (h : ∀ t, s.attempts[i]? = some t → t.recorded = true) :
    next s (.answer i outcome) = s := by
  simp only [next]
  cases hi : s.attempts[i]? with
  | none => rfl
  | some t => exact if_pos (h t hi)

/-- a failure, with the two tests of `recordAdmissionFailure` under their names -/
theorem recordAdmissionFailure_eq (t : Attempt) (c : Circuit) :
    recordAdmissionFailure t.startedAtMs t.state c =
      if shouldOpen t c = true then
        { failureCount := 0, failureWindowStartedAtMs := 0, openUntilMs := cooldownEnd t c
          openCount := c.openCount + 1, halfOpenProbe := false, halfOpenProbeUntilMs := 0 }
      else
        { c with
          failureCount := failuresCounted t.startedAtMs c
          failureWindowStartedAtMs :=
            if decide (0 < c.failureWindowStartedAtMs)
              && decide (t.startedAtMs ≤ c.failureWindowStartedAtMs + circuitFailureWindowMs)
            then c.failureWindowStartedAtMs else t.startedAtMs
          halfOpenProbe := false, halfOpenProbeUntilMs := 0 } := rfl

/-- what a result that is no success leaves: no lease, and the cooldown of a failure that opens -/
theorem record_leaves (hne : outcome ≠ .success) (t : Attempt) (c : Circuit) :
    (outcome.record t.startedAtMs t.state c).halfOpenProbe = false ∧
    (outcome.record t.startedAtMs t.state c).openUntilMs =
      if outcome = .failure ∧ shouldOpen t c = true then cooldownEnd t c else c.openUntilMs := by
  cases outcome with
  | success => exact absurd rfl hne
  | neutral => exact ⟨rfl, rfl⟩
  | failure =>
    simp only [Outcome.record, recordAdmissionFailure_eq, true_and]
    split
    · exact ⟨rfl, rfl⟩
    · exact ⟨rfl, rfl⟩

theorem Admissions.Live.of_tick {ms : Nat} (h : (next s (.tick ms)).Live j q) : s.Live j q := by
  obtain ⟨hj, hstate, hout, hnow⟩ := h
  have hnow' : s.nowMs + ms < q.leaseEnd := hnow
  exact ⟨hj, hstate, hout, by omega⟩

/-- an answered attempt is not live any more, the others are what they were -/
theorem live_answer (hi : s.attempts[i]? = some t) (ht : t.recorded = false) :
    (next s (.answer i outcome)).Live j q ↔ j ≠ i ∧ s.Live j q := by
  rw [next_answer hi ht]
  by_cases hji : j = i
  · subst hji
    have hlt : j < s.attempts.length := (List.getElem?_eq_some_iff.mp hi).1
    constructor
    · intro h
      obtain ⟨hj, _, hout, _⟩ := h
      simp only [List.getElem?_set_self hlt, Option.some.injEq] at hj
      rw [← hj] at hout
      exact absurd hout (by simp)
    · intro h
      exact absurd rfl h.1
  · simp only [Admissions.Live, List.getElem?_set_ne (Ne.symm hji), ne_eq, hji, not_false_eq_true,
      true_and]

end steps

/-! ## the invariant -/

/-- a closed circuit holds no lease, a lease is held only after the cooldown, and every live probe
is covered or holds the lease -/
structure Sound (s : Admissions) : Prop where
  closed : s.circuit.openUntilMs = 0 → s.circuit.halfOpenProbe = false
  leased : s.circuit.halfOpenProbe = true → s.circuit.openUntilMs ≤ s.nowMs
  guarded : ∀ j q, s.Live j q → Covered s.circuit q ∨ Holds s.circuit q

theorem fresh_sound (nowMs : Nat) : Sound (.fresh nowMs) where
  closed _ := rfl
  leased h := absurd h (by simp [Admissions.fresh, Circuit.closed])
  guarded j q h := absurd h.1 (by simp [Admissions.fresh])

theorem Sound.probeAlone {s : Admissions} (h : Sound s) : ProbeAlone s := by
  intro j q hq hopen hprobe
  have hlive := hq.2.2.2
  rcases begin_cases s.nowMs s.circuit with ⟨r, hb⟩ | ⟨hb, _, hover, hfree⟩ | ⟨hb, _⟩
  · rw [hb] at hprobe
    exact absurd hprobe (by simp)
  · -- the cooldown and the lease in the row are over, so the probe is neither covered nor holds it
    cases h.guarded j q hq with
    | inl hcovered =>
      cases hcovered with
      | inl hclosed => omega
      | inr hlong => omega
    | inr hholds =>
      have huntil := hfree hholds.1
      have hend := hholds.2
      omega
  · rw [hb] at hprobe
    exact absurd hprobe (by simp)

theorem Sound.tick {s : Admissions} (h : Sound s) (ms : Nat) : Sound (next s (.tick ms)) where
  closed := h.closed
  leased hprobe := Nat.le_trans (h.leased hprobe) (Nat.le_add_right _ _)
  guarded j q hq := h.guarded j q hq.of_tick

/-- an attempt that is let in is live when it is a probe, and then it is the only one -/
theorem Sound.attempt {s : Admissions} (h : Sound s) : Sound (next s .attempt) := by
  have halone := h.probeAlone
  rcases begin_cases s.nowMs s.circuit with ⟨r, hb⟩ | ⟨hb, hpos, hover, hfree⟩ | ⟨hb, hclosed⟩
  · rw [next_opened hb]
    exact h
  · rw [next_probe hb]
    refine ⟨fun h0 => absurd h0 (by simpa using Nat.pos_iff_ne_zero.mp hpos), fun _ => hover, ?_⟩
    intro j q hq
    obtain ⟨hj, hstate, hout, hnow⟩ := hq
    by_cases hlt : j < s.attempts.length
    · rw [List.getElem?_append_left hlt] at hj
      exact absurd (congrArg Prod.fst hb) (halone j q ⟨hj, hstate, hout, hnow⟩ hpos)
    · right
      have hq : q = ⟨s.nowMs, .probe, false⟩ := by
        rw [List.getElem?_append_right (by omega)] at hj
        exact (List.mem_singleton.mp (List.mem_of_getElem? hj))
      subst hq
      exact ⟨rfl, rfl⟩
  · rw [next_closed hb]
    exact ⟨h.closed, h.leased, fun j q _ => Or.inl (Or.inl hclosed)⟩

theorem Sound.answer {s : Admissions} {i : Nat} {outcome : Outcome} (h : Sound s)
    (hm : Meets s (.answer i outcome)) : Sound (next s (.answer i outcome)) := by
  by_cases hstale : ∀ t, s.attempts[i]? = some t → t.recorded = true
  · rw [next_answer_stale hstale]
    exact h
  push Not at hstale
  obtain ⟨t, hi, ht⟩ := hstale
  have ht : t.recorded = false := by simpa using ht
  have hlive : ∀ j q, (next s (.answer i outcome)).Live j q → j ≠ i ∧ s.Live j q :=
    fun j q => (live_answer hi ht).mp
  by_cases hs : outcome = .success
  · subst hs
    have hc : (next s (.answer i .success)).circuit = .closed := by
      rw [next_answer hi ht]
      rfl
    refine ⟨fun _ => ?_, fun hp => ?_, fun j q _ => Or.inl (Or.inl ?_)⟩
    · rw [hc]
      rfl
    · rw [hc] at hp
      exact absurd hp (by simp [Circuit.closed])
    · rw [hc]
      rfl
  · have hmet := hm t hi ht hs
    obtain ⟨hflag, huntil⟩ := record_leaves hs t s.circuit
    have hc : (next s (.answer i outcome)).circuit
        = outcome.record t.startedAtMs t.state s.circuit := by
      rw [next_answer hi ht]
    refine ⟨fun _ => by rw [hc, hflag], fun hp => ?_, fun j q hq => Or.inl ?_⟩
    · rw [hc, hflag] at hp
      exact absurd hp (by simp)
    · obtain ⟨hji, hq⟩ := hlive j q hq
      unfold Covered
      rw [hc, huntil]
      by_cases hopens : outcome = .failure ∧ shouldOpen t s.circuit = true
      · rw [if_pos hopens] at hmet ⊢
        exact Or.inr (hmet.leases j q hji hq)
      · rw [if_neg hopens] at hmet ⊢
        exact hmet j q hji hq

theorem Sound.next {s : Admissions} {e : Event} (h : Sound s) (hm : Meets s e) :
    Sound (next s e) := by
  cases e with
  | tick ms => exact h.tick ms
  | attempt => exact h.attempt
  | answer i outcome => exact h.answer hm

theorem Sound.run {s : Admissions} {es : List Event} (h : Sound s) (hm : AllMeet s es) :
    Sound (run s es) := by
  induction es generalizing s with
  | nil => exact h
  | cons e es ih => exact ih (h.next hm.1) hm.2

theorem allMeet_append {s : Admissions} {es fs : List Event} :
    AllMeet s (es ++ fs) ↔ AllMeet s es ∧ AllMeet (run s es) fs := by
  induction es generalizing s with
  | nil => exact (true_and _).to_iff.symm
  | cons e es ih =>
    show Meets s e ∧ AllMeet (Admission.next s e) (es ++ fs) ↔ _
    rw [ih]
    exact and_assoc.symm

/-! ## the cooldown over a run -/

/-- a cooldown until `t` is over, or the circuit is still shut for at least as long -/
def Cooled (t : Nat) (s : Admissions) : Prop := t ≤ s.nowMs ∨ t ≤ s.circuit.openUntilMs

theorem attempt_openUntil (s : Admissions) :
    (next s .attempt).nowMs = s.nowMs ∧
    (next s .attempt).circuit.openUntilMs = s.circuit.openUntilMs ∧
    (next s .attempt).successes = s.successes := by
  rcases begin_cases s.nowMs s.circuit with ⟨r, hb⟩ | ⟨hb, _⟩ | ⟨hb, _⟩
  · rw [next_opened hb]
    exact ⟨rfl, rfl, rfl⟩
  · rw [next_probe hb]
    exact ⟨rfl, rfl, rfl⟩
  · rw [next_closed hb]
    exact ⟨rfl, rfl, rfl⟩

theorem successes_next (s : Admissions) (e : Event) : s.successes ≤ (next s e).successes := by
  cases e with
  | tick ms => exact Nat.le_refl _
  | attempt => exact Nat.le_of_eq (attempt_openUntil s).2.2.symm
  | answer i outcome =>
    by_cases hstale : ∀ t, s.attempts[i]? = some t → t.recorded = true
    · exact Nat.le_of_eq (by rw [next_answer_stale hstale])
    · push Not at hstale
      obtain ⟨t, hi, ht⟩ := hstale
      rw [next_answer hi (by simpa using ht)]
      show s.successes ≤ if outcome = .success then s.successes + 1 else s.successes
      split
      · omega
      · omega

theorem Cooled.next {t : Nat} {s : Admissions} {e : Event} (h : Cooled t s) (hm : Meets s e)
    (hs : (next s e).successes = s.successes) : Cooled t (next s e) := by
  cases e with
  | tick ms =>
    show t ≤ s.nowMs + ms ∨ t ≤ s.circuit.openUntilMs
    cases h with
    | inl hnow => exact Or.inl (by omega)
    | inr hopen => exact Or.inr hopen
  | attempt =>
    obtain ⟨hnow, hopen, _⟩ := attempt_openUntil s
    unfold Cooled
    rw [hnow, hopen]
    exact h
  | answer i outcome =>
    by_cases hstale : ∀ a, s.attempts[i]? = some a → a.recorded = true
    · rw [next_answer_stale hstale]
      exact h
    push Not at hstale
    obtain ⟨a, hi, ha⟩ := hstale
    have ha : a.recorded = false := by simpa using ha
    have hne : outcome ≠ .success := by
      intro heq
      rw [next_answer hi ha, heq] at hs
      exact absurd hs (by simp)
    have hmet := hm a hi ha hne
    obtain ⟨_, huntil⟩ := record_leaves hne a s.circuit
    rw [next_answer hi ha]
    show t ≤ s.nowMs ∨ t ≤ (outcome.record a.startedAtMs a.state s.circuit).openUntilMs
    rw [huntil]
    by_cases hopens : outcome = .failure ∧ shouldOpen a s.circuit = true
    · rw [if_pos hopens] at hmet ⊢
      have hreopened := hmet.cooldown
      unfold Cooled at h
      omega
    · rw [if_neg hopens]
      exact h

theorem successes_run (s : Admissions) (es : List Event) :
    s.successes ≤ (run s es).successes := by
  induction es generalizing s with
  | nil => exact Nat.le_refl _
  | cons e es ih => exact Nat.le_trans (successes_next s e) (ih (next s e))

theorem Cooled.run {t : Nat} {s : Admissions} {es : List Event} (h : Cooled t s)
    (hm : AllMeet s es) (hs : (run s es).successes = s.successes) : Cooled t (run s es) := by
  induction es generalizing s with
  | nil => exact h
  | cons e es ih =>
    have hfirst := successes_next s e
    have hrest := successes_run (Admission.next s e) es
    have hrun : (Admission.run (Admission.next s e) es).successes = s.successes := hs
    exact ih (h.next hm.1 (by omega)) hm.2 (by omega)

theorem Cooled.kept {s s' : Admissions}
    (h : s'.successes = s.successes → Cooled s.circuit.openUntilMs s') : CooldownKept s s' := by
  intro hs hlt
  have hopen : s'.nowMs < s'.circuit.openUntilMs := by
    cases h hs with
    | inl hnow => omega
    | inr hopen => omega
  exact ⟨_, congrArg Prod.fst (if_pos hopen)⟩

/-! ## the results -/

theorem run_append (s : Admissions) (es fs : List Event) :
    run s (es ++ fs) = run (run s es) fs := List.foldl_append

theorem leaseKept_of_meets {s : Admissions} {e : Event} (h : Sound s) (hm : Meets s e) :
    LeaseKept s e := by
  intro i t he hi ht hstate j q hq hopen hholds
  subst he
  -- the lease is held, so the probe is not covered, and then such a failure is not recorded
  have hnot : ¬ Covered s.circuit q := by
    intro hcovered
    have hover := h.leased hholds.1
    have hlive := hq.2.2.2
    cases hcovered with
    | inl hclosed => omega
    | inr hlong => omega
  have hji : j ≠ i := by
    intro heq
    have htq : t = q := Option.some.inj (hi.symm.trans (heq ▸ hq.1))
    rw [htq] at hstate
    exact absurd (hstate.symm.trans hq.2.1) (by simp)
  have hmet := hm t hi ht (by simp)
  by_cases hopens : Outcome.failure = .failure ∧ shouldOpen t s.circuit = true
  · rw [if_pos hopens] at hmet
    exact absurd (hmet.closed hstate j q hji hq) hnot
  · rw [if_neg hopens] at hmet
    exact absurd (hmet j q hji hq) hnot

/-- **the circuit admits one probe at a time, keeps its lease and waits out its cooldown, in every
run whose steps meet the condition** -/
theorem one_probe (nowMs : Nat) (es : List Event) (hm : AllMeet (.fresh nowMs) es) :
    Upheld (.fresh nowMs) es where
  probe pre post hes := by
    rw [hes] at hm
    exact ((fresh_sound nowMs).run (allMeet_append.mp hm).1).probeAlone
  lease pre e post hes := by
    rw [hes] at hm
    obtain ⟨hpre, hpost⟩ := allMeet_append.mp hm
    exact leaseKept_of_meets ((fresh_sound nowMs).run hpre) hpost.1
  cooldown pre mid post hes := by
    rw [hes] at hm
    have hmid := (allMeet_append.mp (allMeet_append.mp hm).1).2
    refine Cooled.kept fun hs => ?_
    rw [run_append] at hs ⊢
    exact Cooled.run (Or.inr (Nat.le_refl _)) hmid hs

/-! ## the condition is exact -/

section needed
variable {s : Admissions} {i j : Nat} {t q : Attempt} {outcome : Outcome}

/-- a live probe that is not covered and holds no lease is joined by a second one -/
theorem second_probe (hq : s.Live j q) (hfree : s.circuit.halfOpenProbe = false)
    (hpos : 0 < s.circuit.openUntilMs) (hlt : s.circuit.openUntilMs < q.leaseEnd) :
    ¬ ProbeAlone (next s (.tick (s.circuit.openUntilMs - s.nowMs))) := by
  obtain ⟨hj, hstate, hout, hnow⟩ := hq
  intro halone
  have hnow' : s.nowMs + (s.circuit.openUntilMs - s.nowMs) < q.leaseEnd := by omega
  refine halone j q ⟨hj, hstate, hout, hnow'⟩ hpos ?_
  rcases begin_cases (s.nowMs + (s.circuit.openUntilMs - s.nowMs)) s.circuit
    with ⟨r, hb⟩ | ⟨hb, _⟩ | ⟨_, hclosed⟩
  · exfalso
    unfold beginAdmissionAttempt at hb
    rw [if_neg (by omega), if_pos hpos, hfree] at hb
    exact absurd (congrArg Prod.fst hb) (by simp)
  · exact congrArg Prod.fst hb
  · omega

/-- what a result that does not meet the condition does to others -/
theorem breach_of_not_meets (hs : Sound s) (hn : ¬ Meets s (.answer i outcome)) :
    ∃ ms, ¬ Upheld s [.answer i outcome, .tick ms] := by
  unfold Meets at hn
  push Not at hn
  obtain ⟨t, hi, ht, hne, hbad⟩ := hn
  obtain ⟨hflag, huntil⟩ := record_leaves hne t s.circuit
  have hc : (next s (.answer i outcome)).circuit
      = outcome.record t.startedAtMs t.state s.circuit := by
    rw [next_answer hi ht]
  -- a probe whose lease is given up is joined by a second one
  have hsecond : ∀ j q, j ≠ i → s.Live j q →
      0 < (next s (.answer i outcome)).circuit.openUntilMs →
      (next s (.answer i outcome)).circuit.openUntilMs < q.leaseEnd →
      ∃ ms, ¬ Upheld s [.answer i outcome, .tick ms] := by
    intro j q hji hq hpos hlt
    refine ⟨_, fun hup => second_probe ((live_answer hi ht).mpr ⟨hji, hq⟩) ?_ hpos hlt
      (hup.probe _ [] (List.append_nil _).symm)⟩
    rw [hc, hflag]
  rw [hc, huntil] at hsecond
  by_cases hopens : outcome = .failure ∧ shouldOpen t s.circuit = true
  · rw [if_pos hopens] at hbad hsecond
    have hpos : 0 < cooldownEnd t s.circuit := by
      have hpow : 0 < 2 ^ min s.circuit.openCount 10 := Nat.two_pow_pos _
      unfold cooldownEnd circuitMaximumCooldownMs circuitFailureWindowMs
      omega
    by_cases hleases : s.Others i fun q => q.leaseEnd ≤ cooldownEnd t s.circuit
    · by_cases hcool : s.circuit.openUntilMs ≤ s.nowMs ∨
          s.circuit.openUntilMs ≤ cooldownEnd t s.circuit
      · -- the lease of a live probe is dropped by an attempt of the closed circuit
        have hclosed : ¬ (t.state = .closed → s.Others i (Covered s.circuit)) :=
          fun h => hbad ⟨hleases, hcool, h⟩
        unfold Admissions.Others at hclosed
        push Not at hclosed
        obtain ⟨hstate, j, q, hji, hq, hnot⟩ := hclosed
        have hholds := (hs.guarded j q hq).resolve_left hnot
        have hopen : 0 < s.circuit.openUntilMs :=
          Nat.pos_of_ne_zero fun h0 => hnot (Or.inl h0)
        refine ⟨0, fun hup => ?_⟩
        have hkept := hup.lease [] _ _ rfl i t (by rw [hopens.1]) hi ht hstate j q hq hopen hholds
        rw [show run s [] = s from rfl, hc, Holds, hflag] at hkept
        exact absurd hkept.1 (by simp)
      · -- the running cooldown is cut short
        push Not at hcool
        refine ⟨cooldownEnd t s.circuit - s.nowMs, fun hup => ?_⟩
        have hsame : (next s (.answer i outcome)).successes = s.successes := by
          rw [next_answer hi ht]
          exact if_neg hne
        have hnow : (next s (.answer i outcome)).nowMs = s.nowMs := by
          rw [next_answer hi ht]
        have huntil' : (next s (.answer i outcome)).circuit.openUntilMs
            = cooldownEnd t s.circuit := by
          rw [hc, huntil, if_pos hopens]
        obtain ⟨r, hshut⟩ := hup.cooldown [] _ [] (List.append_nil _).symm hsame (by
          show (next s (.answer i outcome)).nowMs + (cooldownEnd t s.circuit - s.nowMs)
            < s.circuit.openUntilMs
          omega)
        have hshut : (beginAdmissionAttempt
            ((next s (.answer i outcome)).nowMs + (cooldownEnd t s.circuit - s.nowMs))
            (next s (.answer i outcome)).circuit).1 = .opened r := hshut
        have hfree : (next s (.answer i outcome)).circuit.halfOpenProbe = false := by
          rw [hc, hflag]
        unfold beginAdmissionAttempt at hshut
        rw [if_neg (by omega), if_pos (by omega), hfree] at hshut
        exact absurd hshut (by simp)
    · unfold Admissions.Others at hleases
      push Not at hleases
      obtain ⟨j, q, hji, hq, hlt⟩ := hleases
      exact hsecond j q hji hq hpos (by omega)
  · rw [if_neg hopens] at hbad hsecond
    unfold Admissions.Others at hbad
    push Not at hbad
    obtain ⟨j, q, hji, hq, hnot⟩ := hbad
    unfold Covered at hnot
    push Not at hnot
    exact hsecond j q hji hq (Nat.pos_of_ne_zero hnot.1) (by omega)

theorem Upheld.rest {es fs : List Event} (h : Upheld s (es ++ fs)) : Upheld (run s es) fs where
  probe pre post hfs := by
    rw [← run_append]
    exact h.probe (es ++ pre) post (by rw [hfs, List.append_assoc])
  lease pre e post hfs := by
    rw [← run_append]
    exact h.lease (es ++ pre) e post (by rw [hfs, List.append_assoc])
  cooldown pre mid post hfs := by
    rw [← run_append, ← run_append, ← List.append_assoc]
    exact h.cooldown (es ++ pre) mid post (by rw [hfs]; simp only [List.append_assoc])

theorem exists_not_meets {s : Admissions} {es : List Event} (h : ¬ AllMeet s es) :
    ∃ pre e post, es = pre ++ e :: post ∧ AllMeet s pre ∧ ¬ Meets (run s pre) e := by
  induction es generalizing s with
  | nil => exact absurd trivial h
  | cons e es ih =>
    by_cases hm : Meets s e
    · obtain ⟨pre, f, post, hes, hpre, hf⟩ := ih fun hrest => h ⟨hm, hrest⟩
      exact ⟨e :: pre, f, post, by rw [hes]; rfl, ⟨hm, hpre⟩, hf⟩
    · exact ⟨[], e, es, rfl, trivial, hm⟩

end needed

/-- **a run upholds the circuit at every moment if and only if all its steps meet the condition** -/
theorem one_probe_iff (nowMs : Nat) (es : List Event) :
    (∀ pre post ms, es = pre ++ post → Upheld (.fresh nowMs) (pre ++ [.tick ms])) ↔
      AllMeet (.fresh nowMs) es := by
  constructor
  · intro h
    by_contra hnot
    obtain ⟨pre, e, post, hes, hpre, he⟩ := exists_not_meets hnot
    have hs := (fresh_sound nowMs).run hpre
    cases e with
    | tick ms => exact he trivial
    | attempt => exact he trivial
    | answer i outcome =>
      obtain ⟨ms, hbreach⟩ := breach_of_not_meets hs he
      have hup := h (pre ++ [.answer i outcome]) post ms (by rw [hes, List.append_assoc]; rfl)
      rw [List.append_assoc] at hup
      exact hbreach hup.rest
  · intro hm pre post ms hes
    rw [hes] at hm
    exact one_probe nowMs _ (allMeet_append.mpr ⟨(allMeet_append.mp hm).1, trivial, trivial⟩)

/-- three attempts fail, a probe after the cooldown keeps the next attempt out and fails as well, and
a probe after the longer cooldown succeeds -/
example : AllMeet (.fresh 5) [.attempt, .attempt, .attempt, .answer 0 .failure, .answer 1 .failure,
    .answer 2 .failure, .tick 30000, .attempt, .attempt, .answer 3 .failure, .tick 60000,
    .attempt, .answer 4 .success] := by decide

/-- the late failure of an attempt from before the circuit opened gives up the lease of a probe, and
the next attempt is a second one -/
theorem late_failure_frees_probe :
    ¬ Upheld (.fresh 5) [.attempt, .attempt, .attempt, .attempt, .answer 0 .failure,
      .answer 1 .failure, .answer 2 .failure, .tick 30000, .attempt, .answer 3 .failure,
      .attempt] := by
  intro h
  have halone := h.probe [.attempt, .attempt, .attempt, .attempt, .answer 0 .failure,
    .answer 1 .failure, .answer 2 .failure, .tick 30000, .attempt, .answer 3 .failure] _ rfl
  exact halone 4 ⟨30005, .probe, false⟩ ⟨rfl, rfl, rfl, by decide⟩ (by decide) (by decide)

end Admission
end Coordinator
