import CloudflareShard.Coordinator.Follows

/-!
# The decision of a coordinator never changes

The transition table lets both sides of a decision enter `quarantined`, and lets `quarantined` leave
to either side.  What keeps the sides apart is which request is stored: a commit stores only a
finalize request, an abort only a cancel request, and a resolution needs the one it resolves to.

* `Undecided`, `CommitBound`, `AbortBound`   where a row stands;
* `Move.commitBound`, `Move.abortBound`      no move leaves a side;
* `Move.sound`                               every row stands somewhere;
* `decision_never_changes`                   **over any run a decision stays what it was**.
-/

namespace Coordinator
open Async Contracts

structure Undecided (row : TxRow) : Prop where
  finalize : row.manifestFinalizeRequestJson = none
  cancel : row.manifestCancelRequestJson = none
  status : row.status = .new ∨ row.status = .manifestReserving ∨ row.status = .preparing ∨
    row.status = .prepared

/-- the row has been decided to commit, whether or not it is quarantined now -/
structure CommitBound (row : TxRow) : Prop where
  cancel : row.manifestCancelRequestJson = none
  status : isCommitDecidedOrLater row.status ∨ row.status = .quarantined

/-- the row has been decided to abort, whether or not it is quarantined now -/
structure AbortBound (row : TxRow) : Prop where
  finalize : row.manifestFinalizeRequestJson = none
  status : isAbortDecidedOrLater row.status ∨ row.status = .quarantined

def Sound (row : TxRow) : Prop := Undecided row ∨ CommitBound row ∨ AbortBound row

/-! ## sides -/

theorem CommitBound.not_abort {row : TxRow} (h : CommitBound row) :
    isAbortDecidedOrLater row.status = false := by
  rcases h.status with hs | hs
  · exact not_abort_of_commit hs
  · rw [hs]; rfl

theorem AbortBound.not_commit {row : TxRow} (h : AbortBound row) :
    isCommitDecidedOrLater row.status = false := by
  rcases h.status with hs | hs
  · cases hc : isCommitDecidedOrLater row.status with
    | false => rfl
    | true => rw [not_abort_of_commit hc] at hs; cases hs
  · rw [hs]; rfl

theorem Undecided.not_decided {row : TxRow} (h : Undecided row) :
    isCommitDecidedOrLater row.status = false ∧ isAbortDecidedOrLater row.status = false := by
  rcases h.status with hs | hs | hs | hs <;> rw [hs] <;> exact ⟨rfl, rfl⟩

theorem Sound.commitBound {row : TxRow} (h : Sound row) (hc : isCommitDecidedOrLater row.status) :
    CommitBound row := by
  rcases h with h | h | h
  · rw [h.not_decided.1] at hc; cases hc
  · exact h
  · rw [h.not_commit] at hc; cases hc

theorem Sound.abortBound {row : TxRow} (h : Sound row) (ha : isAbortDecidedOrLater row.status) :
    AbortBound row := by
  rcases h with h | h | h
  · rw [h.not_decided.2] at ha; cases ha
  · rw [h.not_abort] at ha; cases ha
  · exact h

theorem sound_of_no_request {row : TxRow} (hf : row.manifestFinalizeRequestJson = none)
    (hc : row.manifestCancelRequestJson = none) : Sound row := by
  cases hs : row.status with
  | new | manifestReserving | preparing | prepared => exact .inl ⟨hf, hc, by simp [hs]⟩
  | abortDecided | aborting | aborted | abortedPendingManifestCancel =>
    exact .inr (.inr ⟨hf, by simp [hs, isAbortDecidedOrLater]⟩)
  | _ => exact .inr (.inl ⟨hc, by simp [hs, isCommitDecidedOrLater]⟩)

/-! ## moves -/

theorem commitNext_commit (state : TransactionState) : isCommitDecidedOrLater (commitNext state) := by
  cases state <;> rfl

theorem abortNext_abort (state : TransactionState) : isAbortDecidedOrLater (abortNext state) := by
  cases state <;> rfl

theorem Move.commitBound {d d' : Durable} (hm : Move d d') (h : CommitBound d.row) :
    CommitBound d'.row := by
  obtain ⟨hcancel, hs⟩ := h
  cases hm with
  | start h => rw [h] at hs; exact absurd hs (by decide)
  | reject _ h => rw [h] at hs; exact absurd hs (by decide)
  | abort _ _ _ _ h => rcases h with h | h | h <;> rw [h] at hs <;> exact absurd hs (by decide)
  | aborting h => rw [h] at hs; exact absurd hs (by decide)
  | cancelPending _ h => rw [h] at hs; exact absurd hs (by decide)
  | aborted h => rcases h with h | h <;> rw [h] at hs <;> exact absurd hs (by decide)
  | park _ h => rw [h] at hs; exact absurd hs (by decide)
  | prepared h => rw [h] at hs; exact absurd hs (by decide)
  | commitV1 _ _ _ h => rw [h] at hs; exact absurd hs (by decide)
  | commitV2 _ _ _ h => rw [h] at hs; exact absurd hs (by decide)
  | adopt _ h => rcases h with h | h <;> rw [h] at hs <;> exact absurd hs (by decide)
  | resolveAbort _ _ hc => rw [hcancel] at hc; cases hc
  | quarantine error h => exact ⟨hcancel, .inr rfl⟩
  | discard restoreId generation => exact ⟨hcancel, .inr rfl⟩
  | resolveCommit envelope record recordHash q hq hf ht =>
    exact ⟨hcancel, .inl (commitNext_commit _)⟩
  | bridgeFinalize => exact ⟨hcancel, hs⟩
  | reschedule => exact ⟨hcancel, hs⟩
  | releaseError => exact ⟨hcancel, hs⟩
  | dropQueue => exact ⟨hcancel, hs⟩
  | _ => exact ⟨hcancel, .inl rfl⟩

theorem Move.abortBound {d d' : Durable} (hm : Move d d') (h : AbortBound d.row) :
    AbortBound d'.row := by
  obtain ⟨hfinalize, hs⟩ := h
  cases hm with
  | start h => rw [h] at hs; exact absurd hs (by decide)
  | prepared h => rw [h] at hs; exact absurd hs (by decide)
  | commitV1 _ _ _ h => rw [h] at hs; exact absurd hs (by decide)
  | commitV2 _ _ _ h => rw [h] at hs; exact absurd hs (by decide)
  | pend h => rcases h with h | h <;> rw [h] at hs <;> exact absurd hs (by decide)
  | finalized _ _ _ _ h => rcases h with h | h <;> rw [h] at hs <;> exact absurd hs (by decide)
  | registered _ h => rcases h with h | h <;> rw [h] at hs <;> exact absurd hs (by decide)
  | committing h => rw [h] at hs; exact absurd hs (by decide)
  | committed _ h => rcases h with h | h <;> rw [h] at hs <;> exact absurd hs (by decide)
  | pendingAck _ h => rw [h] at hs; exact absurd hs (by decide)
  | bridge _ _ _ _ h => rcases h with h | h <;> rw [h] at hs <;> exact absurd hs (by decide)
  | bridgeFinalize _ _ _ h => rw [h] at hs; exact absurd hs (by decide)
  | adopt _ h => rcases h with h | h <;> rw [h] at hs <;> exact absurd hs (by decide)
  | resolveCommit _ _ _ _ _ hf => rw [hfinalize] at hf; cases hf
  | quarantine error h => exact ⟨hfinalize, .inr rfl⟩
  | discard restoreId generation => exact ⟨hfinalize, .inr rfl⟩
  | resolveAbort q hq hc ht => exact ⟨hfinalize, .inl (abortNext_abort _)⟩
  | park => exact ⟨hfinalize, hs⟩
  | reschedule => exact ⟨hfinalize, hs⟩
  | releaseError => exact ⟨hfinalize, hs⟩
  | dropQueue => exact ⟨hfinalize, hs⟩
  | _ => exact ⟨hfinalize, .inl rfl⟩

theorem Move.undecided {d d' : Durable} (hm : Move d d') (h : Undecided d.row) : Sound d'.row := by
  obtain ⟨hf, hc, hs⟩ := h
  cases hm with
  | commitV2 => exact .inr (.inl ⟨hc, .inl rfl⟩)
  | abort => exact .inr (.inr ⟨hf, .inl rfl⟩)
  | bridgeFinalize _ _ _ h => simp [h] at hs
  | resolveCommit _ _ _ _ _ h => rw [hf] at h; cases h
  | resolveAbort _ _ h => rw [hc] at h; cases h
  | _ => exact sound_of_no_request hf hc

theorem Move.sound {d d' : Durable} (hm : Move d d') : Sound d.row → Sound d'.row
  | .inl h => hm.undecided h
  | .inr (.inl h) => .inr (.inl (hm.commitBound h))
  | .inr (.inr h) => .inr (.inr (hm.abortBound h))

/-! ## runs -/

/-- no row, or a row with neither request, as the predecessor schema left it -/
def Undisputed (s : Store) : Prop :=
  ∀ row, s.transaction = some row →
    row.manifestFinalizeRequestJson = none ∧ row.manifestCancelRequestJson = none

/-- runs from rows with neither request -/
def undisputed (txId : TxId) : Regime txId where
  drains := true
  start row := row.manifestFinalizeRequestJson = none ∧ row.manifestCancelRequestJson = none
  new hrow := ⟨hrow.finalize, hrow.cancel⟩

theorem Undisputed.rooted {txId : TxId} {s : Store} (h : Undisputed s) :
    Rooted (undisputed txId) s := by
  intro row hrow
  exact .of_start (h row hrow)

theorem Born.sound {txId : TxId} {x : Durable} (h : Born (undisputed txId) x) : Sound x.row := by
  obtain ⟨x₀, ⟨hf, hc⟩, hpath⟩ := h
  induction hpath with
  | refl => exact sound_of_no_request hf hc
  | tail _ hm ih => exact hm.sound ih

section
variable {x x' : Durable} (hpath : Relation.ReflTransGen Move x x')
include hpath

theorem commitBound_of_path (h : CommitBound x.row) : CommitBound x'.row := by
  induction hpath with
  | refl => exact h
  | tail _ hm ih => exact hm.commitBound ih

theorem abortBound_of_path (h : AbortBound x.row) : AbortBound x'.row := by
  induction hpath with
  | refl => exact h
  | tail _ hm ih => exact hm.abortBound ih

end

/-- **A decision stays what it was**: over any run of a coordinator, a row that was decided to commit
is never decided to abort later, and the other way round. -/
theorem decision_never_changes (E : Bindings) (C : ContractLib) (s₀ : Store) (h₀ : Undisputed s₀)
    (xs ys : List (Choice Ask Ask.Answer Activity Nat)) (row row' : TxRow)
    (hrow : ((system E C).run ⟨s₀, []⟩ xs).store.transaction = some row)
    (hrow' : ((system E C).run ⟨s₀, []⟩ (xs ++ ys)).store.transaction = some row') :
    (isCommitDecidedOrLater row.status → isAbortDecidedOrLater row'.status = false) ∧
      (isAbortDecidedOrLater row.status → isCommitDecidedOrLater row'.status = false) := by
  have hstart := follows_start (C := C) (d := undisputed E.txId) h₀.rooted
  obtain ⟨gs, hpast⟩ :=
    (system_governs (E := E) (C := C) rfl).run xs hstart (System.meets_of_forall _ allowed)
  have hlater := (hist_later (undisputed E.txId) E C).run (system_governs rfl) ys hpast
    (System.meets_of_forall _ allowed)
  have hwas := Was.of_eq hpast.inv hrow
  obtain ⟨_, latest, hlatest, hpath⟩ := hlater _ hwas
  rw [← System.run_append, hrow'] at hlatest
  cases hlatest
  have hsound : Sound row := hwas.1.sound
  exact ⟨fun hc => (commitBound_of_path hpath (hsound.commitBound hc)).not_abort,
    fun ha => (abortBound_of_path hpath (hsound.abortBound ha)).not_commit⟩

theorem preparedStore_undisputed : Undisputed preparedStore := by
  rintro row ⟨⟩
  exact ⟨rfl, rfl⟩

/-- a prepared transaction that is aborted by force does not commit later -/
theorem forced_abort_stays :
    ∃ row row', ((system plainBindings plainContracts).run ⟨preparedStore, []⟩
        (forceAbortArrives :: List.replicate 8 firstResumes)).store.transaction = some row ∧
      ((system plainBindings plainContracts).run ⟨preparedStore, []⟩
        ((forceAbortArrives :: List.replicate 8 firstResumes) ++ [alarmFires])).store.transaction =
          some row' ∧
      isAbortDecidedOrLater row.status ∧ isCommitDecidedOrLater row'.status = false := by
  refine ⟨_, _, rfl, rfl, rfl, ?_⟩
  exact (decision_never_changes plainBindings plainContracts preparedStore preparedStore_undisputed
    (forceAbortArrives :: List.replicate 8 firstResumes) [alarmFires] _ _ rfl rfl).2 rfl

end Coordinator
