import CloudflareShard.Shard.Permanence

/-!
# What a restore checkpoint certifies

A checkpoint pairs a time with a bookmark of the provider.  It is sound when the bookmark has every
direct write that was journaled by that time, and a clean shard has written nothing since the newest
bookmark.

* `Certified`               the invariant of a store;
* `Work.certified`          what one section inside the barrier preserves;
* `checkpoints_certified`   **checkpoints are sound over every run on the certified terms**;
* `stale_checkpoint`        a preview that records its bookmark after a write was journaled.
-/

namespace Shard
open Async Contracts Barrier

variable {D : Type} {E : Engine D} {ρ : Regime} {s s' : Store D}

/-! ## the newest checkpoint -/

theorem later_foldl {l : List Checkpoint} {best : Option Checkpoint} {c : Checkpoint}
    (hbest : ∀ b, best = some b → b.checkpointAtMs < c.checkpointAtMs)
    (h : ∀ b ∈ l, b.checkpointAtMs < c.checkpointAtMs) :
    (l ++ [c]).foldl latestCheckpoint.later best = some c := by
  induction l generalizing best with
  | nil =>
    show latestCheckpoint.later best c = some c
    unfold latestCheckpoint.later
    rw [if_pos]
    cases best with
    | none => rfl
    | some b => simpa using hbest b rfl
  | cons b l ih =>
    refine ih (fun b' hb' => ?_) fun b' hb' => h b' (List.mem_cons_of_mem _ hb')
    unfold latestCheckpoint.later at hb'
    split at hb'
    · cases hb'
      exact h b (List.mem_cons_self ..)
    · exact hbest b' hb'

/-- the newest checkpoint after one was recorded now, when none is from the future -/
theorem latest_recorded {bookmark : Bookmark} (h : ∀ c ∈ s.checkpoints, c.checkpointAtMs ≤ s.now) :
    latestCheckpoint (recordCheckpoint bookmark s.now s) = some ⟨s.now, bookmark⟩ := by
  unfold latestCheckpoint recordCheckpoint
  have hfloor : s.now - directWriteLossRetentionMs ≤ s.now := Nat.sub_le ..
  simp only [List.filter_append, List.filter_cons, hfloor, decide_true, if_true, List.filter_nil]
  refine later_foldl nofun fun b hb => ?_
  obtain ⟨hb, -⟩ := List.mem_filter.mp hb
  obtain ⟨hmem, hne⟩ := List.mem_filter.mp hb
  have hle := h b hmem
  have hne : b.checkpointAtMs ≠ s.now := by simpa using hne
  show b.checkpointAtMs < s.now
  omega

/-! ## the invariant -/

structure Certified (s : Store D) : Prop where
  /-- direct writes are numbered in the order they were journaled -/
  numbered : ∀ e ∈ s.journal, e.sequence ≤ s.journalSequence
  past : ∀ c ∈ s.checkpoints, c.checkpointAtMs ≤ s.now
  contains : ∀ c ∈ s.checkpoints, ∀ e ∈ s.journal, e.appliedAtMs ≤ c.checkpointAtMs →
    e.sequence ≤ c.bookmark.sequence
  clean : s.checkpointMeta.dirty = false → ∀ c, latestCheckpoint s = some c →
    c.bookmark.mutations = s.mutations

/-- what was not journaled since leaves the checkpoints sound -/
theorem Certified.of_same (h : Certified s) (hj : s'.journal ⊆ s.journal)
    (hs : s'.journalSequence = s.journalSequence) (hc : s'.checkpoints = s.checkpoints)
    (hn : s.now ≤ s'.now)
    (hclean : s'.checkpointMeta.dirty = false → s.checkpointMeta.dirty = false ∧
      s'.mutations = s.mutations) : Certified s' where
  numbered e he := hs ▸ h.numbered e (hj he)
  past c hmem := Nat.le_trans (h.past c (hc ▸ hmem)) hn
  contains c hmem e he := h.contains c (hc ▸ hmem) e (hj he)
  clean hd c hl := by
    obtain ⟨hd', hm⟩ := hclean hd
    rw [hm]
    refine h.clean hd' c ?_
    unfold latestCheckpoint at hl ⊢
    rw [← hc]
    exact hl

theorem Side.certified (hρ : ρ.certified) (h : Certified s) (hs : Side ρ s s') : Certified s' := by
  have hb : Bookmark.mk s'.journalSequence s'.mutations = Bookmark.mk s.journalSequence s.mutations :=
    hs.bookmark
  obtain ⟨hseq, hmut⟩ := Bookmark.mk.injEq .. ▸ hb
  refine h.of_same hs.journal hseq (hs.checkpoints hρ) (hs.now hρ) fun hd => ⟨?_, hmut⟩
  rw [← hs.checkpointMeta hρ]
  exact hd

/-- a direct write comes after every checkpoint -/
theorem executeSync_certified {payload : ExecutePayload} {incomingHash writeHash : Hash}
    {execStart : Nat} {result : MutationResult × Bool} (h : Certified s)
    (hd : s.checkpointMeta.dirty = true) (hlate : ∀ c ∈ s.checkpoints, c.checkpointAtMs < s.now)
    (hexec : executeSync E payload incomingHash writeHash execStart s = .ok (result, s')) :
    Certified s' := by
  obtain ⟨t, requests, n, -, rfl⟩ := executeSync_ok hexec
  refine ⟨fun e he => ?_, h.past, fun c hc e he hle => ?_, fun hclean => ?_⟩
  · rcases List.mem_append.mp he with he | he
    · exact Nat.le_succ_of_le (h.numbered e he)
    · rw [List.mem_singleton.mp he]
      exact Nat.le_refl _
  · rcases List.mem_append.mp he with he | he
    · exact h.contains c hc e he hle
    · rw [List.mem_singleton.mp he] at hle
      exact absurd hle (Nat.not_le.mpr (hlate c hc))
  · have hdirty : s.checkpointMeta.dirty = false := hclean
    rw [hd] at hdirty
    cases hdirty

/-- **one section inside the barrier keeps the checkpoints sound** -/
theorem Work.certified (hρ : ρ.certified) (h : Certified s) (hw : Work E ρ s s') : Certified s' := by
  cases hw with
  | mutation hd hchange =>
    rename_i s₁
    have hd := hd hρ
    have hcertified : Certified s₁ := by
      have hmeta : s₁.checkpointMeta = s.checkpointMeta := hchange.checkpointMeta
      have hdirty : ¬s₁.checkpointMeta.dirty = false := by simp [hmeta, hd]
      cases hchange with
      | write hr ht hexec => exact executeSync_certified h hd (ht hρ) hexec
      | apply ht _ _ happly =>
        obtain ⟨t, -, rfl⟩ := applySync_ok happly
        exact h.of_same (List.Subset.refl _) rfl rfl (Nat.le_refl _) fun hf => absurd hf hdirty
      | other ha =>
        exact h.of_same (ha.journal ▸ List.Subset.refl _) ha.journalSequence ha.checkpoints
          (Nat.le_of_eq ha.now.symm) fun hf => absurd hf hdirty
      | _ => exact h.of_same (List.Subset.refl _) rfl rfl (Nat.le_refl _) fun hf => absurd hf hdirty
    refine hcertified.of_same (List.Subset.refl _) rfl rfl (Nat.le_refl _) fun hf => ?_
    have hmeta : s₁.checkpointMeta.dirty = true := by rw [hchange.checkpointMeta, hd]
    have hf : s₁.checkpointMeta.dirty = false := hf
    rw [hmeta] at hf
    cases hf
  | dirty => exact h.of_same (List.Subset.refl _) rfl rfl (Nat.le_refl _) nofun
  | certify =>
    refine ⟨h.numbered, fun c hc => ?_, fun c hc e he hle => ?_, fun _ c hl => ?_⟩
    · obtain ⟨hc, -⟩ := List.mem_filter.mp hc
      rcases List.mem_append.mp hc with hc | hc
      · exact h.past c (List.mem_filter.mp hc).1
      · rw [List.mem_singleton.mp hc]
        exact Nat.le_refl _
    · obtain ⟨hc, -⟩ := List.mem_filter.mp hc
      rcases List.mem_append.mp hc with hc | hc
      · exact h.contains c (List.mem_filter.mp hc).1 e he hle
      · rw [List.mem_singleton.mp hc]
        exact h.numbered e he
    · rw [latest_recorded h.past] at hl
      cases hl
      rfl

/-! ## runs -/

/-- decisions are of no matter here -/
def certifiedRegime : Regime where
  evidence _ _ := True
  certified := True

def certification (E : Engine D) : Invariant E certifiedRegime where
  holds := Certified
  work h hw := hw.certified trivial h
  side h hs := hs.certified trivial h

/-- a shard that has no checkpoint yet -/
structure Uncertified (s : Store D) : Prop where
  checkpoints : s.checkpoints = []
  numbered : ∀ e ∈ s.journal, e.sequence ≤ s.journalSequence
  barrier : s.barrier = .fresh

theorem Uncertified.certified (h : Uncertified s) : Certified s where
  numbered := h.numbered
  past c hc := by
    rw [h.checkpoints] at hc
    cases hc
  contains c hc := by
    rw [h.checkpoints] at hc
    cases hc
  clean _ c hl := by
    unfold latestCheckpoint at hl
    rw [h.checkpoints] at hl
    cases hl

/-- what comes in is on the certified terms -/
def CertifiedTerms (E : Engine D) (H : Digests) (B : Bindings)
    (c : Config (Store D) Ask Ask.Answer ShardError (Option Response) Activity)
    (x : Choice Ask Ask.Answer Activity Nat) : Prop :=
  x.Allowed (system E H B) (terms D certifiedRegime) c

/-- **Checkpoints are sound over every run on the certified terms**: the bookmark of a checkpoint has
every direct write that was journaled by its time, and when the shard is clean nothing was written
since the newest bookmark. -/
theorem checkpoints_certified (E : Engine D) (H : Digests) (B : Bindings) (s₀ : Store D)
    (h₀ : Uncertified s₀) (xs : List (Choice Ask Ask.Answer Activity Nat))
    (hxs : (system E H B).Meets (CertifiedTerms E H B) ⟨s₀, []⟩ xs) :
    let s := ((system E H B).run ⟨s₀, []⟩ xs).store
    (∀ c ∈ s.checkpoints, ∀ e ∈ s.journal, e.appliedAtMs ≤ c.checkpointAtMs →
      e.sequence ≤ c.bookmark.sequence) ∧
    (s.checkpointMeta.dirty = false → ∀ c, latestCheckpoint s = some c →
      c.bookmark.mutations = s.mutations) := by
  have hgoverns := system_governs (E := E) (H := H) (B := B) (I := certification E) fun _ h =>
    h.of_same (List.Subset.refl _) rfl rfl (Nat.le_refl _) fun hd => ⟨hd, rfl⟩
  obtain ⟨gs, hf⟩ := hgoverns.run xs (follows_start h₀.certified h₀.barrier) hxs
  exact ⟨hf.inv.2.contains, hf.inv.2.clean⟩

/-! ## a bookmark that is recorded too late -/

def previewRequest : Activity := .request (.pitrPreview (some 0) ⟨none, none⟩)

def plainWrite : Activity :=
  .request (.execute
    { sql := "UPDATE rows SET n = 1", params := [], requestId := "r", tenantId := none, table := none
      partitionKey := none, vbucket := none, isMirror := false, clientRequestId := none
      indexName := none, mirrorTargetShardId := none })

/-- a preview asks for its bookmark, a direct write is made and certified, the bookmark comes in -/
def lateBookmark : List (Choice Ask Ask.Answer Activity Nat) :=
  served previewRequest 0 3 ++ .event 1000 :: served plainWrite 1 6 ++
    [.event 2000, .run (.resume 0 plainAnswers)]

/-- **a checkpoint at 2000 has a bookmark without the write that was journaled at 1000**, and the shard
is clean although that write came after the newest bookmark -/
theorem stale_checkpoint :
    (∃ c ∈ (plainRun lateBookmark).checkpoints, ∃ e ∈ (plainRun lateBookmark).journal,
      e.appliedAtMs ≤ c.checkpointAtMs ∧ c.bookmark.sequence < e.sequence) ∧
    (plainRun lateBookmark).checkpointMeta.dirty = false ∧
    ∃ c, latestCheckpoint (plainRun lateBookmark) = some c ∧
      c.bookmark.mutations < (plainRun lateBookmark).mutations := by
  have hc : latestCheckpoint (plainRun lateBookmark) = some ⟨2000, ⟨0, 0⟩⟩ := by decide +kernel
  exact ⟨by decide +kernel, by decide +kernel, _, hc, by decide +kernel⟩

/-- without a checkpoint and without a preview every answer is on the certified terms -/
theorem certifiedTerms_resume {H : Digests} {B : Bindings} {i : Nat} {ans : ∀ q, Ask.Answer q}
    {c : Config (Store D) Ask Ask.Answer ShardError (Option Response) Activity}
    (hc : c.store.checkpoints = []) (hp : c.threads.all (fun t => !t.req.isPreview)) :
    CertifiedTerms E H B c (.run (.resume i ans)) := by
  intro t ht q k _ _
  have hpreview : t.req.isPreview = false := by
    simpa using List.all_eq_true.mp hp t (List.mem_of_getElem? ht)
  cases q with
  | coordinatorDecision txId => exact fun _ _ => trivial
  | currentBookmark use bookmark =>
    cases use with
    | checkpoint =>
      intro _ htrue
      rw [hpreview] at htrue
      cases htrue
    | _ => trivial
  | writeHash =>
    intro _ c' hc'
    rw [hc] at hc'
    cases hc'
  | _ => trivial

/-- a direct write is certified by the checkpoint that follows it -/
theorem write_certified : (plainRun (served plainWrite 0 6)).checkpoints.length = 1 ∧
    (∀ c ∈ (plainRun (served plainWrite 0 6)).checkpoints,
      ∀ e ∈ (plainRun (served plainWrite 0 6)).journal, e.appliedAtMs ≤ c.checkpointAtMs →
        e.sequence ≤ c.bookmark.sequence) ∧
    ((plainRun (served plainWrite 0 6)).checkpointMeta.dirty = false →
      ∀ c, latestCheckpoint (plainRun (served plainWrite 0 6)) = some c →
        c.bookmark.mutations = (plainRun (served plainWrite 0 6)).mutations) := by
  refine ⟨by decide +kernel, checkpoints_certified countingEngine plainDigests plainBindings (Store.empty 0)
    ⟨rfl, nofun, rfl⟩ (served plainWrite 0 6) ⟨fun _ _ _ => trivial, ?_, ?_, ?_, ?_, ?_, ?_, trivial⟩⟩
  · exact certifiedTerms_resume (by decide +kernel) (by decide +kernel)
  · exact certifiedTerms_resume (by decide +kernel) (by decide +kernel)
  · exact certifiedTerms_resume (by decide +kernel) (by decide +kernel)
  · exact certifiedTerms_resume (by decide +kernel) (by decide +kernel)
  · exact certifiedTerms_resume (by decide +kernel) (by decide +kernel)
  · exact certifiedTerms_resume (by decide +kernel) (by decide +kernel)

end Shard
