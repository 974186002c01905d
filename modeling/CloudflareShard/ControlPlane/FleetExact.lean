import CloudflareShard.ControlPlane.CatalogClosesFollow

/-!
# Fleet snapshots and closes are exact

* `SnapshotExact`, `CloseExact`   what a complete snapshot and a complete close hold;
* `snapshots_and_closes_exact`    **in every run in which no close is exchanged under a digest**;
* `stale_root`                    without that, a close is completed with the root of the close
                                  that had its key before.
-/

namespace FleetCatalog
open Async Contracts Keyset

variable {L : CatalogLib} {d : Regime} {s : Store}

/-- closes are not exchanged under a digest -/
def carefulRun : Regime := ⟨true⟩

/-- the entries of a snapshot, in the order of their activation -/
def Store.membersOf (s : Store) (row : SnapshotRow) : List Member :=
  (s.entries.ordered (·.generation == row.generation) SnapshotEntryRow.activationSequence).map
    (·.member)

variable (L) in
/-- a complete snapshot holds the buckets that are active at its fence, each once, and its hash is
theirs -/
structure SnapshotExact (s : Store) (row : SnapshotRow) (hash : Hash) : Prop where
  members : ∀ m, m ∈ s.membersOf row ↔ m ∈ live s.events row.fenceSequence
  buckets : ((s.membersOf row).map (·.entry.bucket)).Nodup
  entryCount : row.entryCount = (s.membersOf row).length
  rollingHash : row.rollingHash =
    rollEntries L zeroHash ((s.membersOf row).map (·.entry.entryHash))
  hash : hash = L.hash (.snapshot (snapshotDocument row row.entryCount row.rollingHash))

variable (L) in
/-- a complete close has one receipt for each member of its snapshot, and its root binds them -/
structure CloseExact (s : Store) (c : CloseRow) (root : Hash) : Prop where
  snapshot : ∃ created ∈ s.begun, created.generation = c.snapshotGeneration ∧
    created.cutoffMs = c.cutoffMs ∧ ∃ all, All s.events created.fenceSequence all ∧
      (s.receipts c.closeKey).map (·.1) = all.map (·.activationSequence)
  receipts : ∀ r ∈ s.receipts c.closeKey, r.2.isSome
  completed : c.completedEntries = c.totalEntries
  total : c.totalEntries = (s.receipts c.closeKey).length
  root : root = L.hash (.fleetRoot (fleetRoot c (s.receipts c.closeKey)))

theorem Listed.buckets {events : List BucketEvent} {fence lo hi : Nat} {l : List Member}
    (h : Listed events fence lo l hi) : (l.map (·.entry.bucket)).Nodup := by
  have hnodup : l.Nodup := h.sorted.imp fun {x y} hlt => by
    rintro rfl
    exact lt_irrefl _ hlt
  refine List.Nodup.map_on (fun m hm m' hm' he => ?_) hnodup
  obtain ⟨hin, hle, hlast⟩ := Listed.live h m hm
  obtain ⟨hin', hle', hlast'⟩ := Listed.live h m' hm'
  -- of two activations of a bucket the earlier one is followed by the later one
  have h₁ : m'.activationSequence ≤ m.activationSequence := hlast _ hin' he.symm hle'
  have h₂ : m.activationSequence ≤ m'.activationSequence := hlast' _ hin he hle
  exact Listed.inj h hm hm' (Nat.le_antisymm h₂ h₁)

theorem snapshot_exact (hi : Inv L d s) {row : SnapshotRow} (hrow : row ∈ s.snapshots.rows)
    {hash : Hash} {atMs : Nat} (hst : row.status = .complete hash atMs) :
    SnapshotExact L s row hash := by
  obtain ⟨l, ht⟩ := hi.snapshots.taken row hrow
  obtain ⟨hhash, hend⟩ := ht.complete hash atMs hst
  have hall := Listed.toAll ht.listed hend
  have hmem : ∀ m, m ∈ s.membersOf row ↔ m ∈ l := by
    intro m
    rw [ht.entries]
    simp only [Store.membersOf, List.mem_map, Keyed.mem_ordered, beq_iff_eq, and_assoc]
  have hlist : All s.events row.fenceSequence (s.membersOf row) := by
    refine ⟨List.pairwise_map.mpr ?_, fun m => (hmem m).trans (hall.mem m), fun _ _ => trivial⟩
    refine (Keyed.ordered_pairwise.and Keyed.ordered_nodup).imp_of_mem fun {a b} ha hb hab => ?_
    refine lt_of_le_of_ne hab.1 fun (he : a.activationSequence = b.activationSequence) => hab.2 ?_
    obtain ⟨ha, hga⟩ := Keyed.mem_ordered.mp ha
    obtain ⟨hb, hgb⟩ := Keyed.mem_ordered.mp hb
    have hkey : (a.generation, a.activationSequence) = (b.generation, b.activationSequence) := by
      rw [eq_of_beq hga, eq_of_beq hgb, he]
    exact List.inj_on_of_nodup_map s.entries.nodup ha hb hkey
  have hl : s.membersOf row = l := Covers.unique hlist hall
  refine ⟨fun m => ?_, hlist.buckets, by rw [hl, ht.entryCount], ?_, ?_⟩
  · rw [hlist.mem]
    constructor
    · exact fun h => h.1
    · intro hm
      exact ⟨hm, WithBot.coe_lt_coe.mpr (hi.events.positive _ hm.1), WithBot.coe_le_coe.mpr hm.2.1⟩
  · rw [ht.rollingHash, hl]
    rfl
  · rw [hhash, certifiedHash, ← ht.entryCount, ← ht.rollingHash]

theorem receipts_sequences (s : Store) (key : Hash) :
    (s.receipts key).map (·.1) =
      (s.progress.ordered (·.closeKey == key) ProgressRow.activationSequence).map
        (·.activationSequence) := by
  rw [Store.receipts, List.map_map]
  rfl

theorem close_exact (hi : Inv L d s) (hd : d.careful) {c : CloseRow} (hc : c ∈ s.closes.rows)
    {root : Hash} (hst : c.status = .complete root) : CloseExact L s c root := by
  obtain ⟨created, all, ha⟩ := hi.closes.about c hc
  obtain ⟨l, hl⟩ := hi.receipts hd c hc created ha.begun ha.generation.symm
  obtain rfl := hl.eq_all ha hst
  obtain ⟨hroot, hcount, -⟩ := hl.complete root hst
  have hlen : (s.receipts c.closeKey).length = l.length := by
    rw [Store.receipts, List.length_map, Keyed.length_ordered, hl.count_key]
  refine ⟨⟨created, ha.begun, ha.generation.symm, ha.cutoffMs.symm, l, ha.members, ?_⟩,
    fun r hr => ?_, hcount, ha.totalEntries.trans hlen.symm, hroot⟩
  · -- both lists are sorted by the sequence and have the same elements
    rw [receipts_sequences]
    set rows := s.progress.ordered (·.closeKey == c.closeKey) ProgressRow.activationSequence
    have hsorted : (rows.map (·.activationSequence)).Pairwise (· < ·) := by
      refine List.pairwise_map.mpr ?_
      refine (Keyed.ordered_pairwise.and Keyed.ordered_nodup).imp_of_mem fun {a b} hp hp' hab => ?_
      refine lt_of_le_of_ne hab.1 fun he => hab.2 ?_
      obtain ⟨hp, hk⟩ := Keyed.mem_ordered.mp hp
      obtain ⟨hp', hk'⟩ := Keyed.mem_ordered.mp hp'
      have hkey : (a.closeKey, a.activationSequence) = (b.closeKey, b.activationSequence) := by
        rw [eq_of_beq hk, eq_of_beq hk', he]
      exact List.inj_on_of_nodup_map s.progress.nodup hp hp' hkey
    refine hsorted.eq_of_mem_iff (List.pairwise_map.mpr ha.members.sorted) fun q => ?_
    rw [hl.progress]
    simp only [rows, List.mem_map, Keyed.mem_ordered, beq_iff_eq, and_assoc]
  · obtain ⟨p, hp, rfl⟩ := List.mem_map.mp hr
    obtain ⟨hp, hk⟩ := Keyed.mem_ordered.mp hp
    exact hl.receipts_all ha hst p hp (eq_of_beq hk)

/-- **Fleet snapshots and closes are exact.**  In every run in which a close that is found behind a
digest is still the one that was read before it: a complete snapshot holds exactly the buckets that
were active at its fence, and its hash is theirs; every floor that `activateBucket` answered lies at
or above the cutoffs of the snapshots there were; and a complete close has exactly one receipt for
each member of its snapshot, all bound by its root. -/
theorem snapshots_and_closes_exact (L : CatalogLib) (now : Nat)
    (xs : List (Choice Ask Ask.Answer Request Event))
    (h : (system L).Meets (fun c x => x.Allowed (system L) (terms carefulRun) c)
      ⟨.initial now, []⟩ xs) :
    let s := ((system L).run ⟨.initial now, []⟩ xs).store
    (∀ row ∈ s.snapshots.rows, ∀ hash atMs, row.status = .complete hash atMs →
      SnapshotExact L s row hash) ∧
    (∀ f ∈ s.floors, ∀ b ∈ s.begun, b.generation ≤ f.snapshotGeneration →
      b.cutoffMs ≤ f.requiredDecisionFloorMs) ∧
    ∀ c ∈ s.closes.rows, ∀ root, c.status = .complete root → CloseExact L s c root := by
  intro s
  have hmeets : (system L).Meets (fun c x => x.Allowed (system L) (terms carefulRun) c)
      ⟨.initial now, []⟩ (xs ++ []) := by
    rw [List.append_nil]
    exact h
  have hi : Inv L carefulRun s := ((obeys L carefulRun).reachable (Inv.initial now) hmeets).1
  exact ⟨fun row hrow hash atMs hst => snapshot_exact hi hrow hst,
    fun f hf b hb hg => (hi.floors f hf).2 b hb hg,
    fun c hc root hst => close_exact hi rfl hc hst⟩

/-! ## a catalog at work -/

def hex (c : Char) : Hash := String.ofList (List.replicate 64 c)

/-- digests that tell the values of the runs below apart -/
def exampleLib : CatalogLib where
  hashCanonicalJson _ := hex '0'
  sha256Participants _ := hex '0'
  manifestReservationRoute _ _ _ :=
    { reservationUtcDay := 0, partition := 0, routingKey := "", partitionConfigHash := hex '0' }
  manifestRoute _ _ := (0, 0, "")
  validateManifestReservation _ := .ok ()
  validateManifestFinalizeIntent _ := .ok ()
  validateManifestCancelIntent _ := .ok ()
  validateManifestRecordV2 _ := .ok ()
  validateRedoEnvelopeStructure _ := .ok ()
  validateWritableRedoEnvelopeStructure _ := .ok ()
  validateManifestRegistration _ _ := .ok ()
  localeCompareLe a b := decide (a ≤ b)
  hash
    | .partitionConfig .. => hex 'c'
    | .activation _ bucket _ _ => hex (if bucket.partition = 0 then 'a' else 'b')
    | .closeKey .. => hex 'd'
    | .fleetRoot root => hex (if root.receipts.length = 1 then '1' else '2')
    | _ => hex '0'

abbrev Step := Choice Ask Ask.Answer Request Event

def arrives (r : Request) : Step := .run (.arrive r)

/-- the handler `i` is resumed `n` times -/
def resumes (i n : Nat) : List Step := List.replicate n (.run (.resume i fun _ => ()))

/-- the request comes in as the handler `i`, and is resumed `n` times -/
def served (i n : Nat) (r : Request) : List Step := arrives r :: resumes i n

def activate (partition : Nat) (key : Hash) : Request :=
  .activateBucket
    { protocolVersion := 2, fleetId := "default", bucket := ⟨20000, partition⟩
      partitionCount := initialPartitionCount, partitionConfigHash := hex 'c', activationKey := key }

def snapshot (key : String) : Request :=
  .snapshotThrough
    { protocolVersion := 2, fleetId := "default", cutoffMs := 5, idempotencyKey := key
      pageSize := none }

/-- a bucket, a snapshot through 5 and its close, up to the receipt of the bucket -/
def firstClose : List Step :=
  served 0 4 (activate 0 "k0") ++ served 1 8 (snapshot "s1") ++
    served 2 3 (.beginClose "default" 5 1) ++ served 3 2 (.materializeCloseProgress (hex 'd') none) ++
    [arrives (.recordCloseReceipt (hex 'd') 1 (hex '3'))]

/-- just before the retention of the close is over `finalizeClose` reads it; while its digest is
awaited the close is purged, a snapshot of two buckets is taken through the same cutoff, and its close
has both receipts when the digest comes back -/
def exchanged : List Step :=
  firstClose ++ [.event (.clock (35 * 86400000)), arrives (.finalizeClose (hex 'd')),
      .event (.clock (35 * 86400000 + 20))] ++
    served 6 4 (activate 1 "k1") ++ served 7 9 (snapshot "s2") ++
    served 8 3 (.beginClose "default" 5 2) ++ served 9 3 (.materializeCloseProgress (hex 'd') none) ++
    [arrives (.recordCloseReceipt (hex 'd') 1 (hex '3')),
      arrives (.recordCloseReceipt (hex 'd') 2 (hex '4'))] ++ resumes 5 1

theorem root_of_length {c : CloseRow} {receipts : List (Nat × Option Hash)}
    (h : receipts.length = 2) :
    exampleLib.hash (.fleetRoot (fleetRoot c receipts)) = hex '2' := by
  show hex (if receipts.length = 1 then '1' else '2') = hex '2'
  rw [h]
  rfl

/-- the close of two buckets is complete with the root over the receipt of one of them -/
theorem stale_root :
    ∃ c ∈ ((system exampleLib).run ⟨.initial 10, []⟩ exchanged).store.closes.rows, ∃ root,
      c.status = .complete root ∧ c.snapshotGeneration = 2 ∧
        ¬ CloseExact exampleLib ((system exampleLib).run ⟨.initial 10, []⟩ exchanged).store c root := by
  have hclose : ((system exampleLib).run ⟨.initial 10, []⟩ exchanged).store.closes.rows.any fun c =>
      c.fleetRootHash == some (hex '1') && c.snapshotGeneration == 2 &&
        c.closeKey == hex 'd' := by decide +kernel
  have hreceipts : (((system exampleLib).run ⟨.initial 10, []⟩ exchanged).store.receipts
      (hex 'd')).length = 2 := by decide +kernel
  obtain ⟨c, hc, hp⟩ := List.any_eq_true.mp hclose
  simp only [Bool.and_eq_true, beq_iff_eq] at hp
  obtain ⟨⟨hroot, hgen⟩, hkey⟩ := hp
  cases hst : c.status with
  | pending => simp [CloseRow.fleetRootHash, hst] at hroot
  | complete root =>
    obtain rfl : root = hex '1' := by simpa [CloseRow.fleetRootHash, hst] using hroot
    refine ⟨c, hc, hex '1', hst, hgen, fun h => ?_⟩
    have hr := h.root
    rw [hkey, root_of_length hreceipts] at hr
    exact absurd hr (by decide +kernel)

/-- the close that is found is the one that was read -/
def respects : (q : Ask) → q.Answer → Store → Bool
  | .closeKeys seen, _, s => (s.closes.find seen.closeKey).all fun c =>
      c.snapshotGeneration == seen.snapshotGeneration
  | .fleetRoot seen receipts, _, s => (s.closes.find seen.closeKey).all fun c =>
      c.snapshotGeneration == seen.snapshotGeneration && s.receipts seen.closeKey == receipts
  | _, _, _ => true

theorem respectful_of_respects {q : Ask} {a : q.Answer} {s : Store} (h : respects q a s) :
    Allows carefulRun q a s := by
  intro _
  cases q with
  | closeKeys seen =>
    intro c hc _
    simpa [respects, hc] using h
  | fleetRoot seen receipts =>
    intro c hc _ _
    simpa [respects, hc] using h
  | _ => exact trivial

/-- a close of one bucket is complete with its receipt -/
theorem first_close_exact :
    let s := ((system exampleLib).run ⟨.initial 10, []⟩
      (firstClose ++ served 5 4 (.finalizeClose (hex 'd')))).store
    s.closes.rows.map (·.fleetRootHash) = [some (hex '1')] ∧
      ∀ c ∈ s.closes.rows, ∀ root, c.status = .complete root → CloseExact exampleLib s c root := by
  refine ⟨by decide +kernel, (snapshots_and_closes_exact exampleLib 10
    (firstClose ++ served 5 4 (.finalizeClose (hex 'd'))) ?_).2.2⟩
  have hchecks : (system exampleLib).checks respects ⟨.initial 10, []⟩
      (firstClose ++ served 5 4 (.finalizeClose (hex 'd'))) := by decide +kernel
  exact System.meets_of_checks (fun _ => trivial) (fun _ _ => trivial)
    (fun _ _ _ _ => respectful_of_respects) hchecks

end FleetCatalog
