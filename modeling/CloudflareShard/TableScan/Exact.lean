import CloudflareShard.TableScan.Position
import Mathlib.Algebra.Order.BigOperators.Group.List
import Mathlib.Algebra.Order.Group.Nat
import Mathlib.Data.List.Perm.Basic
import Mathlib.Data.Prod.Lex
import Mathlib.Tactic.Linarith

/-!
# A table scan returns every row once

* `keysOf`, `entriesOf`         what a shard holds for the tenant, in the order of the keys;
* `pageOf`, `shardPages_eq`     a shard's page is the front of what is behind the cursor;
* `merge_takes`                 **one page takes its part of every shard**;
* `scan_exact`                  **the pages of a scan hold every row once**, and the scan ends.
-/

namespace TableScan
open Keyset

variable {Row : Type}

/-! ## what a shard holds -/

section
variable (shard : Shard Row) (tenantId table column : String)

/-- the tenant's keys, in their order -/
def keysOf : List String :=
  if shard.tableExists table = false then [] else ownerKeys shard tenantId table ""

def entryOf (shardId key : String) : Option (Entry Row) :=
  (shard.lookup table column key).map fun row => { shardId, partitionKey := key, row }

/-- the rows of these keys -/
def entriesOf (shardId : String) : List (Entry Row) :=
  (keysOf shard tenantId table).filterMap (entryOf shard table column shardId)

/-- the primary key of `__cf_row_owners` -/
def Shard.Keyed : Prop := (shard.owners.map fun o => (o.tableName, o.partitionKey)).Nodup

instance : Decidable shard.Keyed := inferInstanceAs (Decidable (List.Nodup _))

variable {shard tenantId table column}

theorem pairwise_sorted (l : List String) :
    (l.mergeSort fun a b => encode a ≤ encode b).Pairwise fun a b => encode a ≤ encode b := by
  have h : (l.mergeSort fun a b => encode a ≤ encode b).Pairwise
      fun a b => decide (encode a ≤ encode b) = true := by
    refine List.pairwise_mergeSort (fun a b c hab hbc => ?_) (fun a b => ?_) l
    · simp only [decide_eq_true_eq] at hab hbc ⊢
      exact hab.trans hbc
    · simpa using le_total (encode a) (encode b)
  exact h.imp fun hab => of_decide_eq_true hab

theorem selectedKeys_eq (after : String) : selectedKeys shard tenantId table after =
    rest encode (selectedKeys shard tenantId table "") (encode after) := by
  unfold selectedKeys rest
  rw [List.filter_map, List.filter_filter]
  refine congrArg _ (List.filter_congr fun o _ => ?_)
  by_cases h : encode after < encode o.partitionKey
  · simp [h, lt_of_le_of_lt (encode_empty_le (encode after)) h]
  · simp [h]

theorem ownerKeys_eq (after : String) : ownerKeys shard tenantId table after =
    rest encode (ownerKeys shard tenantId table "") (encode after) := by
  have hperm : (ownerKeys shard tenantId table after).Perm
      (rest encode (ownerKeys shard tenantId table "") (encode after)) := by
    refine (List.mergeSort_perm _ _).trans ?_
    rw [selectedKeys_eq]
    exact ((List.mergeSort_perm _ _).symm.filter _)
  exact hperm.eq_of_pairwise (fun a b _ _ hab hba => encode_injective (le_antisymm hab hba))
    (pairwise_sorted _) ((pairwise_sorted _).sublist rest_sublist)

theorem selectedKeys_nodup (h : shard.Keyed) (after : String) :
    (selectedKeys shard tenantId table after).Nodup := by
  unfold selectedKeys
  rw [List.nodup_iff_pairwise_ne, List.pairwise_map]
  have hpairs := List.pairwise_map.mp (List.nodup_iff_pairwise_ne.mp h)
  refine (hpairs.sublist List.filter_sublist).imp_of_mem fun ha hb hne heq => hne ?_
  have htable : ∀ {o : OwnerRow}, o ∈ (shard.owners.filter fun o => o.tenantId == tenantId
      && o.tableName == table && encode after < encode o.partitionKey) → o.tableName = table := by
    intro o ho
    have := (List.mem_filter.mp ho).2
    simp only [Bool.and_eq_true, beq_iff_eq] at this
    exact this.1.2
  rw [htable ha, htable hb, heq]

theorem keysOf_sorted (h : shard.Keyed) :
    (keysOf shard tenantId table).Pairwise fun a b => encode a < encode b := by
  unfold keysOf
  split
  · exact .nil
  · have hnodup := (List.mergeSort_perm (selectedKeys shard tenantId table "")
      fun a b => encode a ≤ encode b).nodup_iff.mpr (selectedKeys_nodup h "")
    refine (pairwise_sorted _).imp₂ (fun a b hle hne => ?_) (List.nodup_iff_pairwise_ne.mp hnodup)
    exact lt_of_le_of_ne hle fun he => hne (encode_injective he)

/-- the rows behind a cursor are those of the keys behind it -/
theorem rest_entriesOf (shardId : String) (k : List Nat) :
    rest (fun e : Entry Row => encode e.partitionKey) (entriesOf shard tenantId table column shardId)
        k =
      (rest encode (keysOf shard tenantId table) k).filterMap (entryOf shard table column shardId) := by
  unfold entriesOf rest
  rw [List.filter_filterMap, List.filterMap_filter]
  refine List.filterMap_congr fun key _ => ?_
  unfold entryOf
  cases shard.lookup table column key with
  | none => simp
  | some row => by_cases h : k < encode key <;> simp [h, Option.filter]

theorem entriesOf_sorted (h : shard.Keyed) (shardId : String) :
    (entriesOf shard tenantId table column shardId).Pairwise
      fun a b => encode a.partitionKey < encode b.partitionKey := by
  unfold entriesOf
  rw [List.pairwise_filterMap]
  refine (keysOf_sorted h).imp fun hlt e he e' he' => ?_
  obtain ⟨_, _, rfl⟩ := Option.map_eq_some_iff.mp he
  obtain ⟨_, _, rfl⟩ := Option.map_eq_some_iff.mp he'
  exact hlt

end

/-! ## one call -/

/-- a call of the endpoint, past its checks -/
structure Call (Row : Type) where
  fleet : Fleet Row
  tenantId : String
  table : String
  cursors : ShardCursors
  perShardLimit : Nat
  limit : Nat

namespace Call
variable (K : Call Row)

/-- the keys of the shard behind a position -/
def keysBehind (s : String × Shard Row) (k : List Nat) : List String :=
  rest encode (keysOf s.2 K.tenantId K.table) k

/-- the rows of the shard behind a position -/
def behind (s : String × Shard Row) (k : List Nat) : List (Entry Row) :=
  rest (fun e : Entry Row => encode e.partitionKey)
    (entriesOf s.2 K.tenantId K.table K.fleet.partitionKeyColumn s.1) k

/-- the keys that the owner query of the shard finds -/
def scanned (s : String × Shard Row) : List String :=
  (K.keysBehind s (position K.cursors s.1)).take K.perShardLimit

def page (s : String × Shard Row) : ShardScanPage Row where
  shardId := s.1
  rows := (K.scanned s).filterMap fun partitionKey =>
    (s.2.lookup K.table K.fleet.partitionKeyColumn partitionKey).map fun row => { partitionKey, row }
  ownerRowsScanned := if s.2.tableExists K.table = false then none else some (K.scanned s).length
  lastOwnerKeyScanned := (K.scanned s).getLast?

/-- the rows behind the page of the shard -/
def beyond (s : String × Shard Row) : List (Entry Row) :=
  ((K.keysBehind s (position K.cursors s.1)).drop K.perShardLimit).filterMap
    (entryOf s.2 K.table K.fleet.partitionKeyColumn s.1)

def pages : List (ShardScanPage Row) := K.fleet.shards.map K.page

/-- all rows that were fetched, in the order of the merge -/
def merged : List (Entry Row) :=
  (K.pages.flatMap entries).mergeSort fun a b => compareEntries a b ≤ 0

def truncated : List (Entry Row) := K.merged.take K.limit

def nextCursors : ShardCursors :=
  K.pages.foldl (passScanned K.truncated K.perShardLimit)
    (K.truncated.foldl (fun c e => c.raise e.shardId e.partitionKey)
      (K.pages.foldl touch K.cursors))

/-- the rows of the shard that are returned -/
def delivered (s : String × Shard Row) : List (Entry Row) :=
  K.truncated.filter (·.shardId = s.1)

/-- the rows of the shard that were fetched and cut off -/
def cutOff (s : String × Shard Row) : List (Entry Row) :=
  (K.merged.drop K.limit).filter (·.shardId = s.1)

variable {K}

theorem scanned_missing {s : String × Shard Row} (h : s.2.tableExists K.table = false) :
    K.scanned s = [] := by
  simp [scanned, keysBehind, keysOf, h, rest]

theorem handleTenantScanPage_eq (s : String × Shard Row) (htenant : K.tenantId ≠ "")
    (htable : K.table ≠ "") (hcolumn : K.fleet.partitionKeyColumn ≠ "") (hpos : 1 ≤ K.perShardLimit)
    (hle : K.perShardLimit ≤ tenantScanPageSize) :
    handleTenantScanPage s.2
        { table := K.table, partitionKeyColumn := K.fleet.partitionKeyColumn, tenantId := K.tenantId
          afterPartitionKey := some ((K.cursors.get s.1).getD ""), limit := some K.perShardLimit } =
      some (K.page s).toScanPage := by
  unfold handleTenantScanPage
  rw [if_neg (by simp [htenant, htable, hcolumn])]
  have hlimit : min tenantScanPageSize (max 1 ((some K.perShardLimit).getD tenantScanPageSize)) =
      K.perShardLimit := by
    simp only [Option.getD_some]
    omega
  by_cases hmissing : s.2.tableExists K.table = false
  · simp [page, hmissing, scanned_missing hmissing]
  · have hscanned : K.scanned s =
        (ownerKeys s.2 K.tenantId K.table ((K.cursors.get s.1).getD "")).take K.perShardLimit := by
      rw [scanned, keysBehind, keysOf, if_neg hmissing, ownerKeys_eq ((K.cursors.get s.1).getD "")]
      rfl
    dsimp only
    rw [if_neg hmissing, hlimit, Option.getD_some, ← hscanned]
    simp [page, hmissing]

theorem entries_page (s : String × Shard Row) : entries (K.page s) =
    (K.scanned s).filterMap (entryOf s.2 K.table K.fleet.partitionKeyColumn s.1) := by
  unfold entries page
  rw [List.map_filterMap]
  refine List.filterMap_congr fun key _ => ?_
  unfold entryOf
  cases s.2.lookup K.table K.fleet.partitionKeyColumn key <;> rfl

theorem ownerRows_page (s : String × Shard Row) : (K.page s).ownerRows = (K.scanned s).length := by
  unfold ShardScanPage.ownerRows
  by_cases hmissing : s.2.tableExists K.table = false
  · simp [page, hmissing, scanned_missing hmissing]
  · simp [page, hmissing]

/-- what is behind the cursor begins with the page -/
theorem behind_eq (s : String × Shard Row) :
    K.behind s (position K.cursors s.1) = entries (K.page s) ++ K.beyond s := by
  rw [behind, rest_entriesOf, entries_page, beyond, scanned, ← List.filterMap_append,
    List.take_append_drop]
  rfl

theorem shardId_of_mem_entries (s : String × Shard Row) :
    ∀ e ∈ entries (K.page s), e.shardId = s.1 := by
  intro e he
  obtain ⟨r, _, rfl⟩ := List.mem_map.mp he
  rfl

theorem mergeTableScanPages_eq :
    mergeTableScanPages K.pages K.limit K.perShardLimit K.cursors =
      (K.truncated.map (·.row),
        if K.truncated.length < K.merged.length ∨
          ∃ page ∈ K.pages, K.perShardLimit ≤ page.ownerRows then some K.nextCursors else none) := by
  unfold mergeTableScanPages
  simp [merged, nextCursors, truncated]

end Call

/-- the shards have different names, and each table of owners its primary key -/
structure Fleet.WellFormed (fleet : Fleet Row) : Prop where
  names : (fleet.shards.map Prod.fst).Nodup
  keyed : ∀ s ∈ fleet.shards, s.2.Keyed

/-! ## the merge -/

theorem compareEntries_le (a b : Entry Row) : compareEntries a b ≤ 0 ↔
    toLex (encode a.partitionKey, codeUnits a.shardId) ≤
      toLex (encode b.partitionKey, codeUnits b.shardId) := by
  have hneg := compareBytes_neg (encode a.partitionKey) (encode b.partitionKey)
  have hzero := compareBytes_eq_zero (a := encode a.partitionKey) (b := encode b.partitionKey)
  rw [Prod.Lex.toLex_le_toLex]
  unfold compareEntries compareBinaryCollation
  dsimp only
  by_cases hkey : compareBytes (encode a.partitionKey) (encode b.partitionKey) = 0
  · have heq := hzero.mp hkey
    rw [if_neg (by simpa using hkey)]
    by_cases hlt : codeUnits a.shardId < codeUnits b.shardId
    · simp [heq, hlt, hlt.le]
    · by_cases hgt : codeUnits b.shardId < codeUnits a.shardId
      · simp [heq, hlt, hgt]
      · simp [heq, hlt, hgt, not_lt.mp hgt]
  · have hne : encode a.partitionKey ≠ encode b.partitionKey := mt hzero.mpr hkey
    rw [if_pos hkey]
    simp only [hne, false_and, or_false]
    rw [← hneg]
    omega

theorem sorted_entries (l : List (Entry Row)) :
    (l.mergeSort fun a b => compareEntries a b ≤ 0).Pairwise
      fun a b => encode a.partitionKey ≤ encode b.partitionKey := by
  have h : (l.mergeSort fun a b => compareEntries a b ≤ 0).Pairwise
      fun a b => decide (compareEntries a b ≤ 0) = true := by
    refine List.pairwise_mergeSort (fun a b c hab hbc => ?_) (fun a b => ?_) l
    · simp only [decide_eq_true_eq, compareEntries_le] at hab hbc ⊢
      exact hab.trans hbc
    · simpa [compareEntries_le] using le_total _ _
  refine h.imp fun hab => ?_
  have hle := (compareEntries_le _ _).mp (of_decide_eq_true hab)
  rcases Prod.Lex.toLex_le_toLex.mp hle with hlt | ⟨heq, -⟩
  · exact hlt.le
  · exact heq.le

/-! ## one shard in the merge -/

namespace Call
variable {K : Call Row} {s : String × Shard Row} (hf : K.fleet.WellFormed)
  (hs : s ∈ K.fleet.shards)
include hf hs

theorem behind_sorted (k : List Nat) : (K.behind s k).Pairwise
    fun a b => encode a.partitionKey < encode b.partitionKey :=
  (entriesOf_sorted (hf.keyed s hs) s.1).sublist rest_sublist

theorem keysBehind_sorted (k : List Nat) :
    (K.keysBehind s k).Pairwise fun a b => encode a < encode b :=
  (keysOf_sorted (hf.keyed s hs)).sublist rest_sublist

/-- the rows of the shard in the merge are its page -/
theorem filter_merged : K.merged.filter (·.shardId = s.1) = entries (K.page s) := by
  have hperm : (K.merged.filter (·.shardId = s.1)).Perm (entries (K.page s)) := by
    refine ((List.mergeSort_perm _ _).filter _).trans ?_
    rw [pages, List.flatMap_map, filter_flatMap_self shardId_of_mem_entries hf.names hs]
  have hsorted := behind_sorted hf hs (position K.cursors s.1)
  rw [behind_eq] at hsorted
  exact filter_merge (sorted_entries _) hperm (List.pairwise_append.mp hsorted).1

theorem entries_split : entries (K.page s) = K.delivered s ++ K.cutOff s := by
  rw [← filter_merged hf hs]
  exact take_filter _ K.limit _

theorem behind_split : K.behind s (position K.cursors s.1) =
    K.delivered s ++ (K.cutOff s ++ K.beyond s) := by
  rw [behind_eq, entries_split hf hs, List.append_assoc]

theorem pages_filter : K.pages.filter (fun page => page.shardId = s.1) = [K.page s] := by
  rw [pages, List.map_eq_flatMap]
  refine filter_flatMap_self (fun s page hpage => ?_) hf.names hs
  cases List.mem_singleton.mp hpage
  rfl

/-- a shard that is passed has no row cut off -/
theorem scannedKey_page : scannedKey K.truncated K.perShardLimit (K.page s) =
    if K.perShardLimit ≤ (K.scanned s).length ∧ K.cutOff s = [] then (K.scanned s).getLast?
    else none := by
  have hcount : deliveredCount K.truncated (K.page s).shardId = (K.delivered s).length := by
    rw [deliveredCount, List.countP_eq_length_filter]
    rfl
  have hrows : (K.page s).rows.length = (K.delivered s).length + (K.cutOff s).length := by
    rw [← List.length_append, ← entries_split hf hs, entries, List.length_map]
  have hshort : (K.page s).ownerRows < K.perShardLimit ↔ ¬K.perShardLimit ≤ (K.scanned s).length := by
    rw [ownerRows_page, not_le]
  have hall : ((K.page s).rows.isEmpty ∨
      ¬deliveredCount K.truncated (K.page s).shardId < (K.page s).rows.length) ↔ K.cutOff s = [] := by
    rw [hcount, List.isEmpty_iff, ← List.length_eq_zero_iff, ← List.length_eq_zero_iff, hrows]
    omega
  unfold scannedKey
  by_cases hlimit : K.perShardLimit ≤ (K.scanned s).length
  · rw [if_neg (by rw [hshort]; exact fun h => h hlimit)]
    by_cases hcut : K.cutOff s = []
    · rw [if_pos (hall.mpr hcut), if_pos ⟨hlimit, hcut⟩]
      rfl
    · rw [if_neg (mt hall.mp hcut), if_neg fun h => hcut h.2]
  · rw [if_pos (hshort.mpr hlimit), if_neg fun h => hlimit h.1]

theorem position_next : ∃ k,
    Reaches (position K.cursors s.1) k ((K.delivered s).map (·.partitionKey)) ∧
    Reaches k (position K.nextCursors s.1)
      (scannedKey K.truncated K.perShardLimit (K.page s)).toList := by
  have hreturned := position_returned K.truncated s.1 (K.pages.foldl touch K.cursors)
  rw [position_touched] at hreturned
  have hpassed := position_passed K.truncated K.perShardLimit s.1 K.pages
    (K.truncated.foldl (fun c e => c.raise e.shardId e.partitionKey) (K.pages.foldl touch K.cursors))
  rw [pages_filter hf hs] at hpassed
  refine ⟨_, hreturned, ?_⟩
  cases h : scannedKey K.truncated K.perShardLimit (K.page s) with
  | none => rwa [List.filterMap_cons_none h] at hpassed
  | some last => rwa [List.filterMap_cons_some h] at hpassed

/-- behind the next cursor are the rows of the shard that were not returned -/
theorem behind_next :
    K.behind s (position K.nextCursors s.1) = K.cutOff s ++ K.beyond s := by
  obtain ⟨k, hreturned, hpassed⟩ := position_next hf hs
  have hsplit := behind_split hf hs
  have hsorted := behind_sorted hf hs (position K.cursors s.1)
  rw [hsplit] at hsorted
  have hlater := (List.pairwise_append.mp hsorted).2.2
  refine rest_advance hsplit (hreturned.le.trans hpassed.le) (fun e he => ?_) fun e he => ?_
  · exact (hreturned.all _ (List.mem_map_of_mem he)).trans hpassed.le
  have hk : k < encode e.partitionKey := by
    rcases hreturned.reached with hk | ⟨key, hkey, hk⟩
    · have hbehind : e ∈ K.behind s (position K.cursors s.1) := by
        rw [hsplit]
        exact List.mem_append_right _ he
      rw [hk]
      simpa using (List.mem_filter.mp hbehind).2
    · obtain ⟨d, hd, rfl⟩ := List.mem_map.mp hkey
      rw [hk]
      exact hlater d hd e he
  rcases hpassed.reached with hlast | ⟨last, hmem, hlast⟩
  · rwa [hlast]
  · have hscanned := Option.mem_toList.mp hmem
    rw [scannedKey_page hf hs] at hscanned
    split at hscanned
    · rename_i hpass
      rw [hpass.2, List.nil_append] at he
      obtain ⟨key, hkey, hentry⟩ := List.mem_filterMap.mp he
      obtain ⟨_, _, rfl⟩ := Option.map_eq_some_iff.mp hentry
      have hkeys := keysBehind_sorted hf hs (position K.cursors s.1)
      rw [← List.take_append_drop K.perShardLimit (K.keysBehind s _)] at hkeys
      rw [hlast]
      exact (List.pairwise_append.mp hkeys).2.2 last (List.mem_of_getLast? hscanned) key hkey
    · cases hscanned

end Call

/-! ## the whole page -/

namespace Call
variable {K : Call Row} (hf : K.fleet.WellFormed)

/-- the rows behind a cursor -/
def left (K : Call Row) (c : ShardCursors) : List (Entry Row) :=
  K.fleet.shards.flatMap fun s => K.behind s (position c s.1)

/-- the keys behind a cursor -/
def size (K : Call Row) (c : ShardCursors) : Nat :=
  (K.fleet.shards.map fun s => (K.keysBehind s (position c s.1)).length).sum

theorem mem_merged {e : Entry Row} (he : e ∈ K.merged) :
    ∃ s ∈ K.fleet.shards, e ∈ entries (K.page s) := by
  obtain ⟨page, hpage, he⟩ := List.mem_flatMap.mp ((List.mergeSort_perm _ _).subset he)
  obtain ⟨s, hs, rfl⟩ := List.mem_map.mp hpage
  exact ⟨s, hs, he⟩

include hf

theorem delivered_perm : (K.fleet.shards.flatMap K.delivered).Perm K.truncated := by
  have hnamed : ∀ e ∈ K.truncated, e.shardId ∈ K.fleet.shards.map Prod.fst := by
    intro e he
    obtain ⟨s, hs, he⟩ := mem_merged (List.mem_of_mem_take he)
    exact shardId_of_mem_entries s e he ▸ List.mem_map_of_mem hs
  have hparts := flatMap_filter_perm hf.names hnamed
  rwa [List.flatMap_map] at hparts

/-- **a page takes its part of every shard** -/
theorem left_perm : (K.left K.cursors).Perm (K.truncated ++ K.left K.nextCursors) := by
  have hparts : K.left K.cursors = K.fleet.shards.flatMap fun s =>
      K.delivered s ++ K.behind s (position K.nextCursors s.1) := by
    refine List.flatMap_congr fun s hs => ?_
    rw [behind_split hf hs, behind_next hf hs]
  rw [hparts]
  exact (List.flatMap_append_perm _ _ _).symm.trans ((delivered_perm hf).append_right _)

/-- without a cursor nothing is left -/
theorem left_perm_last (h : ¬(K.truncated.length < K.merged.length ∨
    ∃ page ∈ K.pages, K.perShardLimit ≤ page.ownerRows)) : (K.left K.cursors).Perm K.truncated := by
  have hdrop : K.merged.drop K.limit = [] := by
    rw [List.drop_eq_nil_iff]
    have := mt Or.inl h
    rw [truncated, List.length_take] at this
    omega
  have hparts : K.left K.cursors = K.fleet.shards.flatMap K.delivered := by
    refine List.flatMap_congr fun s hs => ?_
    have hshort : ¬K.perShardLimit ≤ (K.scanned s).length := fun hle =>
      h (.inr ⟨K.page s, List.mem_map_of_mem hs, (ownerRows_page s).symm ▸ hle⟩)
    have hbeyond : K.beyond s = [] := by
      have hkeys : (K.keysBehind s (position K.cursors s.1)).drop K.perShardLimit = [] := by
        rw [List.drop_eq_nil_iff]
        rw [scanned, List.length_take] at hshort
        omega
      rw [beyond, hkeys, List.filterMap_nil]
    rw [behind_split hf hs, cutOff, hdrop, hbeyond]
    simp
  rw [hparts]
  exact delivered_perm hf

/-- a shard whose row is returned, or that is passed, has less left -/
theorem size_lt (hpos : 1 ≤ K.limit) (hshard : 1 ≤ K.perShardLimit)
    (h : K.truncated.length < K.merged.length ∨
      ∃ page ∈ K.pages, K.perShardLimit ≤ page.ownerRows) :
    K.size K.nextCursors < K.size K.cursors := by
  have hle : ∀ s ∈ K.fleet.shards, position K.cursors s.1 ≤ position K.nextCursors s.1 := by
    intro s hs
    obtain ⟨k, hreturned, hpassed⟩ := position_next hf hs
    exact hreturned.le.trans hpassed.le
  refine List.sum_lt_sum _ _ (fun s hs => rest_length_le (hle s hs)) ?_
  by_cases hcut : K.truncated.length < K.merged.length
  · obtain ⟨e, he⟩ : ∃ e, e ∈ K.truncated := by
      refine List.exists_mem_of_ne_nil _ fun hnil => ?_
      have hlength : K.truncated.length = 0 := by rw [hnil, List.length_nil]
      rw [truncated, List.length_take] at hlength
      omega
    obtain ⟨s, hs, hentry⟩ := mem_merged (List.mem_of_mem_take he)
    obtain ⟨k, hreturned, hpassed⟩ := position_next hf hs
    refine ⟨s, hs, rest_length_lt (a := e.partitionKey) ?_ ?_⟩
    · rw [entries_page] at hentry
      obtain ⟨key, hkey, hlookup⟩ := List.mem_filterMap.mp hentry
      obtain ⟨_, _, rfl⟩ := Option.map_eq_some_iff.mp hlookup
      exact List.mem_of_mem_take hkey
    · have hmem : e ∈ K.delivered s :=
        List.mem_filter.mpr ⟨he, by simpa using shardId_of_mem_entries s e hentry⟩
      exact (hreturned.all _ (List.mem_map_of_mem hmem)).trans hpassed.le
  · obtain ⟨page, hpage, hfull⟩ := h.resolve_left hcut
    obtain ⟨s, hs, rfl⟩ := List.mem_map.mp hpage
    rw [ownerRows_page] at hfull
    have hnone : K.cutOff s = [] := by
      have hdrop : K.merged.drop K.limit = [] := by
        rw [List.drop_eq_nil_iff]
        rw [truncated, List.length_take] at hcut
        omega
      rw [cutOff, hdrop, List.filter_nil]
    obtain ⟨last, hlast⟩ : ∃ last, (K.scanned s).getLast? = some last := by
      cases hlast : (K.scanned s).getLast? with
      | some last => exact ⟨last, rfl⟩
      | none =>
        rw [List.getLast?_eq_none_iff.mp hlast, List.length_nil] at hfull
        omega
    obtain ⟨k, hreturned, hpassed⟩ := position_next hf hs
    rw [scannedKey_page hf hs, if_pos ⟨hfull, hnone⟩, hlast] at hpassed
    refine ⟨s, hs, rest_length_lt (a := last) ?_ (hpassed.all last (by simp))⟩
    exact List.mem_of_mem_take (List.mem_of_getLast? hlast)

end Call

/-! ## the endpoint -/

/-- the cursor names shards of the fleet only -/
def Named (names : List String) (c : ShardCursors) : Prop := ∀ e ∈ c, e.1 ∈ names

section
variable {names : List String} {c : ShardCursors} {shardId key : String}

theorem Named.set (h : Named names c) (hs : shardId ∈ names) : Named names (c.set shardId key) := by
  unfold ShardCursors.set
  split
  · intro e he
    obtain ⟨e, hmem, rfl⟩ := List.mem_map.mp he
    split <;> exact h e hmem
  · intro e he
    rcases List.mem_append.mp he with he | he
    · exact h e he
    · cases List.mem_singleton.mp he
      exact hs

theorem Named.raise (h : Named names c) (hs : shardId ∈ names) :
    Named names (c.raise shardId key) := by
  unfold ShardCursors.raise
  split
  · exact h.set hs
  · exact h

theorem Named.foldl {α : Type} {f : ShardCursors → α → ShardCursors} (l : List α)
    (hf : ∀ c, ∀ a ∈ l, Named names c → Named names (f c a)) (h : Named names c) :
    Named names (l.foldl f c) := by
  induction l generalizing c with
  | nil => exact h
  | cons a l ih =>
    exact ih (fun c b hb => hf c b (List.mem_cons_of_mem _ hb)) (hf c a List.mem_cons_self h)

end

namespace Call
variable {K : Call Row}

theorem named_next (h : Named (K.fleet.shards.map Prod.fst) K.cursors) :
    Named (K.fleet.shards.map Prod.fst) K.nextCursors := by
  have hpage : ∀ page ∈ K.pages, page.shardId ∈ K.fleet.shards.map Prod.fst := by
    intro page hpage
    obtain ⟨s, hs, rfl⟩ := List.mem_map.mp hpage
    exact List.mem_map_of_mem hs
  refine Named.foldl _ (fun c page hp hc => ?_) (Named.foldl _ (fun c e he hc => ?_)
    (Named.foldl _ (fun c page hp hc => ?_) h))
  · rw [passScanned_eq]
    split
    · exact hc
    · exact hc.raise (hpage page hp)
  · obtain ⟨s, hs, he⟩ := mem_merged (List.mem_of_mem_take he)
    exact hc.raise (shardId_of_mem_entries s e he ▸ List.mem_map_of_mem hs)
  · unfold touch
    split
    · exact hc.set (hpage page hp)
    · exact hc

end Call

/-- a request for a scan that is answered -/
structure Scannable (unicodeLower : Sqlite.Grammar.Text → Sqlite.Grammar.Text) (fleet : Fleet Row)
    (body : ScanBody) : Prop where
  tenantId : body.tenantId ≠ ""
  table : body.table ≠ ""
  notInternal : SqlSafety.isInternalTableName
    (SqlSafety.normalizeTableName unicodeLower body.table.toList) = false
  column : fleet.partitionKeyColumn ≠ ""
  shards : fleet.shards ≠ []
  wellFormed : fleet.WellFormed
  limit : ∀ n, body.limit = some n → 1 ≤ n ∧ n ≤ 500

def callOf (fleet : Fleet Row) (body : ScanBody) (cursor : Option TableScanCursor) : Call Row where
  fleet
  tenantId := body.tenantId
  table := body.table
  cursors := priorCursors { body with cursor }
  perShardLimit := min tenantScanPageSize (scanLimit body)
  limit := scanLimit body

/-- the cursor is one of this scan -/
structure Resumes (fleet : Fleet Row) (body : ScanBody) (cursor : Option TableScanCursor) : Prop where
  table : ∀ c, cursor = some c → c.table = body.table
  named : Named (fleet.shards.map Prod.fst) ((cursor.map (·.shardCursors)).getD [])

section
variable {unicodeLower : Sqlite.Grammar.Text → Sqlite.Grammar.Text} {fleet : Fleet Row}
  {body : ScanBody} {cursor : Option TableScanCursor}

theorem scanLimit_pos (body : ScanBody) : 1 ≤ scanLimit body := Nat.le_max_left ..

theorem mapM_ok {α β ε : Type} {f : α → Except ε β} {g : α → β} {l : List α}
    (h : ∀ a ∈ l, f a = .ok (g a)) : l.mapM f = .ok (l.map g) := by
  induction l with
  | nil => rfl
  | cons a l ih =>
    rw [List.mapM_cons, h a List.mem_cons_self, ih fun b hb => h b (List.mem_cons_of_mem _ hb)]
    rfl

theorem shardPages_eq (h : Scannable unicodeLower fleet body) :
    shardPages fleet { body with cursor } (callOf fleet body cursor).cursors
        (callOf fleet body cursor).perShardLimit = .ok (callOf fleet body cursor).pages := by
  have hpos : 1 ≤ (callOf fleet body cursor).perShardLimit :=
    Nat.le_min.mpr ⟨by decide, scanLimit_pos body⟩
  refine mapM_ok fun s _ => ?_
  have hpage := Call.handleTenantScanPage_eq (K := callOf fleet body cursor) s h.tenantId h.table
    h.column hpos (Nat.min_le_left ..)
  unfold shardPage
  split
  · rename_i hnone
    cases hnone.symm.trans hpage
  · rename_i hsome
    cases hsome.symm.trans hpage
    rfl

theorem scanRefusal_eq (h : Scannable unicodeLower fleet body) (hc : Resumes fleet body cursor) :
    scanRefusal unicodeLower fleet { body with cursor } = none := by
  have hmissing : ¬(body.tenantId = "" ∨ body.table = "") := by simp [h.tenantId, h.table]
  have hlimit : ¬(body.limit.any fun limit => limit < 1 || (maxTableScanLimit : Int) < limit) := by
    cases hl : body.limit with
    | none => simp
    | some n =>
      have hrange := h.limit n hl
      have hmax : (maxTableScanLimit : Int) = 500 := rfl
      simp only [Option.any_some, Bool.or_eq_true, decide_eq_true_eq]
      omega
  have htable : (cursor.bind fun cursor =>
      if cursor.table ≠ body.table then some (Refusal.cursorOfTable cursor.table) else none) =
        none := by
    cases hcursor : cursor with
    | none => rfl
    | some c =>
      rw [Option.bind_some, if_neg]
      exact fun hne => hne (hc.table c hcursor)
  have hshards : ¬(fleet.shards.isEmpty = true) := by simpa using h.shards
  have hnamed : (priorCursors { body with cursor }).find?
      (fun e => !(fleet.shards.any (·.1 == e.1))) = none := by
    rw [List.find?_eq_none]
    intro e he
    obtain ⟨s, hs, hname⟩ := List.mem_map.mp (hc.named e he)
    have hany : fleet.shards.any (·.1 == e.1) :=
      List.any_eq_true.mpr ⟨s, hs, beq_iff_eq.mpr hname⟩
    simp [hany]
  unfold scanRefusal
  dsimp only
  rw [if_neg hmissing, if_neg hlimit, if_neg (by rw [h.notInternal]; exact nofun), htable]
  dsimp only
  rw [if_neg hshards, hnamed]
  rfl

theorem scanPage_eq (h : Scannable unicodeLower fleet body) (hc : Resumes fleet body cursor) :
    scanPage unicodeLower fleet body cursor =
      some ((callOf fleet body cursor).truncated.map (·.row),
        if (callOf fleet body cursor).truncated.length < (callOf fleet body cursor).merged.length ∨
            ∃ page ∈ (callOf fleet body cursor).pages,
              (callOf fleet body cursor).perShardLimit ≤ page.ownerRows then
          some (some ⟨body.table, (callOf fleet body cursor).nextCursors⟩)
        else none) := by
  have hpages : shardPages fleet { body with cursor } (priorCursors { body with cursor })
      (min tenantScanPageSize (scanLimit { body with cursor })) =
        .ok (callOf fleet body cursor).pages := shardPages_eq h
  have hmerge : mergeTableScanPages (callOf fleet body cursor).pages (scanLimit { body with cursor })
      (min tenantScanPageSize (scanLimit { body with cursor })) (priorCursors { body with cursor }) =
        _ := Call.mergeTableScanPages_eq
  unfold scanPage tableScanCore
  rw [scanRefusal_eq h hc]
  dsimp only
  rw [hpages]
  simp only [bind, Except.bind, pure, Except.pure, hmerge]
  split <;> rfl

/-- the tenant's rows of the table: every base row with an owner key, on every shard -/
def ownedRows (fleet : Fleet Row) (body : ScanBody) : List Row :=
  fleet.shards.flatMap fun s =>
    if s.2.tableExists body.table = false then []
    else (s.2.owners.filter fun o => o.tenantId == body.tenantId && o.tableName == body.table
        && o.partitionKey != "").filterMap fun o =>
      s.2.lookup body.table fleet.partitionKeyColumn o.partitionKey

theorem encode_empty_lt {key : String} : encode "" < encode key ↔ key ≠ "" := by
  constructor
  · rintro h rfl
    exact lt_irrefl _ h
  · intro h
    exact lt_of_le_of_ne (encode_empty_le _) fun he => h (encode_injective he).symm

/-- the rows of the keys are those that the shard holds for the tenant -/
theorem entriesOf_perm (shard : Shard Row) (tenantId table column shardId : String) :
    ((entriesOf shard tenantId table column shardId).map (·.row)).Perm
      (if shard.tableExists table = false then []
      else (shard.owners.filter fun o => o.tenantId == tenantId && o.tableName == table
          && o.partitionKey != "").filterMap fun o => shard.lookup table column o.partitionKey) := by
  have hrow : ∀ keys : List String, (keys.filterMap (entryOf shard table column shardId)).map (·.row) =
      keys.filterMap (shard.lookup table column) := by
    intro keys
    rw [List.map_filterMap]
    refine List.filterMap_congr fun key _ => ?_
    unfold entryOf
    cases shard.lookup table column key <;> rfl
  rw [entriesOf, hrow, keysOf]
  split
  · exact .refl _
  · refine ((List.mergeSort_perm _ _).filterMap _).trans ?_
    rw [selectedKeys, List.filterMap_map]
    have hkeys : ∀ o : OwnerRow, (encode "" < encode o.partitionKey : Bool) = (o.partitionKey != "") := by
      intro o
      rw [Bool.eq_iff_iff]
      simpa using encode_empty_lt
    simp only [hkeys]
    exact .refl _

/-- behind no cursor are all the rows -/
theorem left_start :
    (((callOf fleet body none).left []).map (·.row)).Perm (ownedRows fleet body) := by
  unfold Call.left ownedRows
  rw [List.map_flatMap]
  refine List.Perm.flatMap_left _ fun s _ => ?_
  have hall : (callOf fleet body none).behind s (position [] s.1) =
      entriesOf s.2 body.tenantId body.table fleet.partitionKeyColumn s.1 := by
    show rest _ (entriesOf s.2 body.tenantId body.table fleet.partitionKeyColumn s.1) (encode "") = _
    rw [rest_entriesOf, entriesOf]
    congr 1
    unfold keysOf
    split
    · rfl
    · exact (ownerKeys_eq "").symm
  rw [hall]
  exact entriesOf_perm ..

/-- one page takes its part of what is behind its cursor -/
theorem scanPage_takes (h : Scannable unicodeLower fleet body) (hc : Resumes fleet body cursor) :
    ∃ r, scanPage unicodeLower fleet body cursor = some r ∧
      Takes (fun cursor =>
          ((callOf fleet body none).left (priorCursors { body with cursor })).map (·.row))
        (fun cursor => (callOf fleet body none).size (priorCursors { body with cursor }))
        (Resumes fleet body) cursor r := by
  have hwell : (callOf fleet body cursor).fleet.WellFormed := h.wellFormed
  have hpos : 1 ≤ (callOf fleet body cursor).perShardLimit :=
    Nat.le_min.mpr ⟨by decide, scanLimit_pos body⟩
  refine ⟨_, scanPage_eq h hc, ?_⟩
  split
  · rename_i hmore
    refine ⟨nofun, fun cursor' hcursor => ?_⟩
    cases hcursor
    refine ⟨⟨?_, Call.named_next hc.named⟩, ?_, Call.size_lt hwell (scanLimit_pos body) hpos hmore⟩
    · rintro _ ⟨⟩
      rfl
    · have hperm := (Call.left_perm hwell).map (·.row)
      rwa [List.map_append] at hperm
  · rename_i hlast
    exact ⟨fun _ => (Call.left_perm_last hwell hlast).map (·.row), nofun⟩

/-- **the pages of a scan hold every row of the tenant once**, whose key is not the empty string -/
theorem scan_exact (h : Scannable unicodeLower fleet body) :
    ∃ n pages, scan unicodeLower fleet body n = some pages ∧
      pages.flatten.Perm (ownedRows fleet body) := by
  have hstart : Resumes fleet body none := ⟨nofun, nofun⟩
  obtain ⟨pages, hpages, hperm⟩ := readAll_exact (fun _ => scanPage_takes h)
    ((callOf fleet body none).size [] + 1) none hstart (Nat.lt_succ_self _)
  exact ⟨_, pages, hpages, hperm.trans left_start⟩

end

/-! ## two scans -/

/-- shards whose owner keys are these, base rows being there for some of them -/
def shardOf (keys present : List String) : Shard String where
  owners := keys.map fun partitionKey => { tableName := "notes", partitionKey, tenantId := "t" }
  tableExists _ := true
  lookup _ _ key := if present.contains key then some key else none

def notesFleet : Fleet String where
  partitionKeyColumn := "id"
  provenanceComplete := true
  shards := [("shard-0", shardOf ["b", "a"] ["b"]), ("shard-1", shardOf ["c"] ["c"])]

def notesScan : ScanBody := { tenantId := "t", table := "notes", limit := some 1, cursor := none }

theorem notesScan_scannable (shards : List (String × Shard String)) (hne : shards ≠ [])
    (hwell : ({ notesFleet with shards } : Fleet String).WellFormed) :
    Scannable id { notesFleet with shards } notesScan := by
  have hcolumn : notesFleet.partitionKeyColumn ≠ "" := by decide
  refine ⟨by decide, by decide, by decide +kernel, hcolumn, hne, hwell, ?_⟩
  rintro _ ⟨⟩
  decide

/-- a key without its base row next to one that has it -/
theorem notes_scanned : ∃ n pages, scan id notesFleet notesScan n = some pages ∧
    pages.flatten.Perm (ownedRows notesFleet notesScan) :=
  scan_exact (notesScan_scannable _ (by decide)
    ⟨by decide, fun s hs => by
      simp only [List.mem_cons, List.not_mem_nil, or_false] at hs
      rcases hs with rfl | rfl
      · decide
      · decide⟩)

def emptyKeyFleet : Fleet String := { notesFleet with shards := [("shard-0", shardOf [""] [""])] }

/-- **a row under the empty key is on no page** -/
theorem empty_key_unreturned : Scannable id emptyKeyFleet notesScan ∧
    (shardOf [""] [""]).lookup "notes" "id" "" = some "" ∧
    ∀ n pages, scan id emptyKeyFleet notesScan n = some pages → "" ∉ pages.flatten := by
  refine ⟨notesScan_scannable _ (by decide) ⟨by decide, fun s hs => ?_⟩, rfl, fun n pages h => ?_⟩
  · cases List.mem_singleton.mp hs
    decide
  · have hpage : (scanPage id emptyKeyFleet notesScan none).map (fun r => (r.1, r.2.isNone)) =
        some ([], true) := by decide +kernel
    obtain ⟨⟨rows, cursor⟩, hr, heq⟩ := Option.map_eq_some_iff.mp hpage
    obtain ⟨rfl, hlast⟩ := Prod.mk.inj heq
    have hlast : cursor = none := Option.isNone_iff_eq_none.mp hlast
    cases n with
    | zero => cases h
    | succ n =>
      rw [scan, Keyset.readAll, hr, hlast] at h
      cases h
      simp

end TableScan
