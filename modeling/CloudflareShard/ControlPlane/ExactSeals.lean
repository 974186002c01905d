import CloudflareShard.ControlPlane.JournalFollows

/-!
# Seals of a manifest bucket are exact and permanent

* `Ahead`                      what is decided later is decided behind the floor of an earlier store;
* `seals_exact_and_permanent`  **every run of a bucket**.
-/

namespace JournalManifest
open Async Contracts Keyset

variable {L : BucketLib} {d : Regime} {s s' s'' : Store}

/-- `s'` has given out further times, all of them behind the floor of `s` -/
structure Ahead (s s' : Store) : Prop where
  floor : s.bucket.decisionFloorMs ≤ s'.bucket.decisionFloorMs
  later : ∃ later, s'.assigned = s.assigned ++ later ∧
    ∀ a ∈ later, s.bucket.decisionFloorMs < a.decidedAtMs

/-- no time is given out -/
theorem Ahead.still (hf : s.bucket.decisionFloorMs ≤ s'.bucket.decisionFloorMs)
    (ha : s'.assigned = s.assigned) : Ahead s s' :=
  ⟨hf, [], by rw [ha, List.append_nil], fun _ h => absurd h List.not_mem_nil⟩

theorem Ahead.refl (s : Store) : Ahead s s := .still le_rfl rfl

theorem Ahead.trans (h : Ahead s s') (h' : Ahead s' s'') : Ahead s s'' := by
  obtain ⟨later, heq, hlater⟩ := h.later
  obtain ⟨later', heq', hlater'⟩ := h'.later
  refine ⟨h.floor.trans h'.floor, later ++ later', ?_, fun a ha => ?_⟩
  · rw [heq', heq, List.append_assoc]
  · rcases List.mem_append.mp ha with ha | ha
    · exact hlater a ha
    · exact h.floor.trans_lt (hlater' a ha)

theorem Ahead.move (hm : Move L d s s') : Ahead s s' := by
  cases hm with
  | raiseFloor => exact .still (le_max_left _ _) rfl
  | insertSeal => exact .still (le_max_left _ _) rfl
  | assign txId intentHash row =>
    refine ⟨le_rfl, [⟨txId, s.decisionTime, s.bucket.nextDecisionSequence⟩], rfl, fun a ha => ?_⟩
    obtain rfl := List.mem_singleton.mp ha
    exact decisionTime_gt
  | _ => exact .still le_rfl rfl

theorem Ahead.later_of (h : (rules L d).Later s s') : Ahead s s' := by
  refine h.history Ahead.refl Ahead.trans fun _ hm => ?_
  induction hm with
  | refl => exact .refl _
  | tail _ hm ih => exact ih.trans (.move hm)

/-- a run on no terms but that the code is what it is -/
def anyRun : Regime := ⟨false⟩

theorem allowed_anyRun (c : Config Store Ask Ask.Answer BucketError Response Request)
    (x : Choice Ask Ask.Answer Request Event) : x.Allowed (system L) (terms anyRun) c := by
  cases x with
  | event => exact trivial
  | run a => cases a with
    | arrive => exact trivial
    | resume => exact fun _ _ _ _ _ _ => nofun
  | crash a => cases a with
    | arrive => exact trivial
    | resume => exact fun _ _ _ _ _ _ => nofun

/-- **A seal is exact and permanent.**  Over any run of a bucket from its creation on, with crashes
at any await: a complete seal was published with the count and the rolling hash of exactly the
reservations decided by its cutoff, all published and none in dispute; every time that is given out
later lies behind its cutoff; the sealed time stays under the floor; and decision times grow with
their sequence. -/
theorem seals_exact_and_permanent (L : BucketLib) (now : Nat)
    (xs ys : List (Choice Ask Ask.Answer Request Event)) :
    let s := ((system L).run ⟨.initial now, []⟩ xs).store
    let s' := ((system L).run ⟨.initial now, []⟩ (xs ++ ys)).store
    (∀ g ∈ s.seals.rows, ∀ receipt, g.status = .complete receipt →
      (∃ p ∈ s.publications, p.generation = g.generation ∧ p.receipt = receipt ∧
        p.Exact L g.cutoffMs) ∧
      ∃ later, s'.assigned = s.assigned ++ later ∧ ∀ a ∈ later, g.cutoffMs < a.decidedAtMs) ∧
    s.bucket.sealedThroughMs ≤ s.bucket.decisionFloorMs ∧
    (s.assigned.Pairwise fun a b => a.decidedAtMs < b.decidedAtMs ∧ a.sequence < b.sequence) ∧
    ∀ row ∈ s.reservations.rows, ∀ intentHash decidedAtMs sequence published,
      row.state = .finalized intentHash decidedAtMs sequence published →
        ⟨row.txId, decidedAtMs, sequence⟩ ∈ s.assigned := by
  intro s s'
  have hmeets : (system L).Meets (fun c x => x.Allowed (system L) (terms anyRun) c)
      ⟨Store.initial now, []⟩ (xs ++ ys) := System.meets_of_forall _ allowed_anyRun
  obtain ⟨hi, hl⟩ := (obeys L anyRun).reachable (Inv.initial now) hmeets
  have hahead := Ahead.later_of hl
  refine ⟨fun g hg receipt hc => ⟨(hi.seals g hg).complete receipt hc, ?_⟩,
    hi.clocked.sealedThrough, hi.clocked.times, hi.clocked.decided⟩
  obtain ⟨later, heq, hlater⟩ := hahead.later
  refine ⟨later, heq, fun a ha => ?_⟩
  exact (hi.clocked.cutoff g hg).trans_lt (hlater a ha)

end JournalManifest
