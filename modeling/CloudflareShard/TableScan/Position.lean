import CloudflareShard.TableScan.Page

/-!
# How far a cursor has read

* `compareBytes_pos`, `encode_injective`   the order of the worker is the order of the shards;
* `position`            how far a cursor has read a shard;
* `Reaches`             a position that moves to the last of some keys, if that is later;
* `position_returned`   the rows that are returned move it so;
* `position_passed`     and so do the keys that were scanned without a row to return.
-/

namespace TableScan
open Keyset

variable {Row : Type}

/-! ## the order of keys -/

theorem compareBytes_neg : ∀ a b : List Nat, compareBytes a b < 0 ↔ a < b
  | [], [] => by simp [compareBytes]
  | [], y :: ys => by
    simp only [compareBytes, List.length_nil, List.length_cons, List.nil_lt_cons, iff_true]
    omega
  | x :: xs, [] => by
    simp only [compareBytes, List.length_nil, List.length_cons, List.not_lt_nil, iff_false]
    omega
  | x :: xs, y :: ys => by
    rw [compareBytes, List.cons_lt_cons_iff]
    split
    · omega
    · rename_i heq
      have heq : x = y := not_not.mp heq
      rw [compareBytes_neg xs ys]
      simp [heq]

theorem compareBytes_swap : ∀ a b : List Nat, compareBytes a b = -compareBytes b a
  | [], [] => by simp [compareBytes]
  | [], y :: ys => by simp [compareBytes]
  | x :: xs, [] => by simp [compareBytes]
  | x :: xs, y :: ys => by
    rw [compareBytes, compareBytes]
    by_cases h : x = y
    · rw [if_neg (by simpa using h), if_neg (by simpa using h.symm)]
      exact compareBytes_swap xs ys
    · rw [if_pos h, if_pos (Ne.symm h)]
      omega

theorem compareBytes_pos (a b : List Nat) : 0 < compareBytes a b ↔ b < a := by
  rw [← compareBytes_neg, compareBytes_swap a b]
  omega

theorem compareBytes_eq_zero {a b : List Nat} : compareBytes a b = 0 ↔ a = b := by
  constructor
  · intro h
    refine le_antisymm (not_lt.mp fun hlt => ?_) (not_lt.mp fun hlt => ?_)
    · have := (compareBytes_pos a b).mpr hlt
      omega
    · have := (compareBytes_neg a b).mpr hlt
      omega
  · rintro rfl
    have hneg := mt (compareBytes_neg a a).mp (lt_irrefl a)
    have hpos := mt (compareBytes_pos a a).mp (lt_irrefl a)
    omega

theorem encode_injective : Function.Injective encode := by
  intro a b h
  have hmap : a.toUTF8.data.toList = b.toUTF8.data.toList :=
    List.map_injective_iff.mpr (fun x y hxy => UInt8.toNat_inj.mp hxy) h
  have harray : a.toUTF8.data = b.toUTF8.data := Array.toList_inj.mp hmap
  have hbytes : a.toUTF8 = b.toUTF8 := ByteArray.ext harray
  exact String.toByteArray_inj.mp hbytes

theorem encode_empty_le (k : List Nat) : encode "" ≤ k := by
  have hempty : encode "" = [] := rfl
  rw [hempty, ← not_lt]
  exact List.not_lt_nil k

/-! ## cursors -/

/-- how far the shard has been read -/
def position (c : ShardCursors) (shardId : String) : List Nat := encode ((c.get shardId).getD "")

theorem lookup_overwrite (c : ShardCursors) (i j key : String) :
    (c.map fun e => if e.1 == i then (e.1, key) else e).lookup j =
      if j = i then (c.lookup j).map fun _ => key else c.lookup j := by
  induction c with
  | nil => simp
  | cons e c ih =>
    rw [List.map_cons]
    by_cases hi : e.1 == i
    · rw [if_pos hi, List.lookup_cons, List.lookup_cons, ih]
      have hi : e.1 = i := by simpa using hi
      by_cases hj : j = i
      · simp [hj, hi]
      · have hje : (j == e.1) = false := by simpa [hi] using hj
        simp [hj, hje]
    · rw [if_neg hi, List.lookup_cons, List.lookup_cons, ih]
      have hi : e.1 ≠ i := by simpa using hi
      by_cases hj : j = i
      · have hje : (j == e.1) = false := by simpa [hj] using hi.symm
        simp [hj, hj ▸ hje]
      · simp [hj]

theorem get_set (c : ShardCursors) (i j key : String) :
    (c.set i key).get j = if j = i then some key else c.get j := by
  unfold ShardCursors.set ShardCursors.get
  by_cases hany : c.any (·.1 == i)
  · rw [if_pos hany, lookup_overwrite]
    by_cases hj : j = i
    · obtain ⟨v, hv⟩ : ∃ v, c.lookup i = some v := by
        obtain ⟨e, he, hi⟩ := List.any_eq_true.mp hany
        have hsome : (c.lookup i).isSome := by
          rw [List.lookup_isSome_iff]
          exact ⟨e, he, beq_iff_eq.mpr (beq_iff_eq.mp hi).symm⟩
        exact Option.isSome_iff_exists.mp hsome
      rw [if_pos hj, if_pos hj, hj, hv]
      rfl
    · rw [if_neg hj, if_neg hj]
  · rw [if_neg hany, List.lookup_append]
    have hnone : c.lookup i = none := by
      rw [List.lookup_eq_none_iff]
      intro e he
      simpa using fun h => hany (List.any_eq_true.mpr ⟨e, he, by simpa using h.symm⟩)
    by_cases hj : j = i
    · rw [if_pos hj, hj, hnone]
      simp
    · have hji : (j == i) = false := by simpa using hj
      rw [if_neg hj, List.lookup_cons, hji]
      simp

theorem position_raise (c : ShardCursors) (i j key : String) :
    position (c.raise i key) j =
      if j = i then max (position c j) (encode key) else position c j := by
  have hcmp : compareBinaryCollation key ((c.get i).getD "") > 0 ↔ position c i < encode key :=
    compareBytes_pos _ _
  unfold ShardCursors.raise
  by_cases hlt : position c i < encode key
  · rw [if_pos (hcmp.mpr hlt), position, get_set]
    by_cases hj : j = i
    · subst hj
      rw [if_pos rfl, if_pos rfl, max_eq_right hlt.le]
      rfl
    · rw [if_neg hj, if_neg hj]
      rfl
  · rw [if_neg (mt hcmp.mp hlt)]
    by_cases hj : j = i
    · subst hj
      rw [if_pos rfl, max_eq_left (not_lt.mp hlt)]
    · rw [if_neg hj]

theorem position_touch (c : ShardCursors) (page : ShardScanPage Row) (j : String) :
    position (touch c page) j = position c j := by
  unfold touch
  by_cases h : (c.get page.shardId).isNone
  · rw [if_pos h, position, get_set]
    by_cases hj : j = page.shardId
    · subst hj
      rw [if_pos rfl, position, Option.isNone_iff_eq_none.mp h]
      rfl
    · rw [if_neg hj]
      rfl
  · rw [if_neg h]

theorem position_touched (pages : List (ShardScanPage Row)) (c : ShardCursors) (j : String) :
    position (pages.foldl touch c) j = position c j := by
  induction pages generalizing c with
  | nil => rfl
  | cons page pages ih => rw [List.foldl_cons, ih, position_touch]

/-- `k'` is `k`, or a later one of the keys, and no key of them is later -/
structure Reaches (k k' : List Nat) (keys : List String) : Prop where
  le : k ≤ k'
  all : ∀ key ∈ keys, encode key ≤ k'
  reached : k' = k ∨ ∃ key ∈ keys, k' = encode key

theorem Reaches.nil (k : List Nat) : Reaches k k [] := ⟨le_rfl, by simp, .inl rfl⟩

theorem Reaches.cons {k k' : List Nat} {key : String} {keys : List String}
    (h : Reaches (max k (encode key)) k' keys) : Reaches k k' (key :: keys) := by
  refine ⟨(le_max_left _ _).trans h.le, fun a ha => ?_, ?_⟩
  · rcases List.mem_cons.mp ha with rfl | ha
    · exact (le_max_right _ _).trans h.le
    · exact h.all a ha
  · rcases h.reached with hk | ⟨a, ha, hk⟩
    · rcases le_total (encode key) k with hle | hle
      · exact .inl (hk.trans (max_eq_left hle))
      · exact .inr ⟨key, List.mem_cons_self, hk.trans (max_eq_right hle)⟩
    · exact .inr ⟨a, List.mem_cons_of_mem _ ha, hk⟩

/-- what is returned moves a shard to the last key that is returned of it -/
theorem position_returned (truncated : List (Entry Row)) (j : String) : ∀ c : ShardCursors,
    Reaches (position c j)
      (position (truncated.foldl (fun c e => c.raise e.shardId e.partitionKey) c) j)
      ((truncated.filter fun e => e.shardId = j).map (·.partitionKey)) := by
  induction truncated with
  | nil => exact fun c => .nil _
  | cons e l ih =>
    intro c
    rw [List.foldl_cons]
    have h := ih (c.raise e.shardId e.partitionKey)
    rw [position_raise] at h
    by_cases he : e.shardId = j
    · rw [if_pos he.symm] at h
      rw [List.filter_cons_of_pos (by simpa using he), List.map_cons]
      exact h.cons
    · rw [if_neg (Ne.symm he)] at h
      rwa [List.filter_cons_of_neg (by simpa using he)]

/-- all that the page scanned may be passed, up to this key -/
def scannedKey (truncated : List (Entry Row)) (perShardLimit : Nat) (page : ShardScanPage Row) :
    Option String :=
  if page.ownerRows < perShardLimit then none
  else if page.rows.isEmpty ∨ ¬deliveredCount truncated page.shardId < page.rows.length then
    page.lastOwnerKeyScanned
  else none

theorem passScanned_eq (truncated : List (Entry Row)) (perShardLimit : Nat) (c : ShardCursors)
    (page : ShardScanPage Row) : passScanned truncated perShardLimit c page =
      match scannedKey truncated perShardLimit page with
      | none => c
      | some last => c.raise page.shardId last := by
  unfold passScanned scannedKey
  by_cases hshort : page.ownerRows < perShardLimit
  · rw [if_pos hshort, if_pos hshort]
  · rw [if_neg hshort, if_neg hshort]
    cases hlast : page.lastOwnerKeyScanned with
    | none => simp
    | some last =>
      by_cases hempty : page.rows.isEmpty
      · simp [hempty]
      · by_cases hcut : deliveredCount truncated page.shardId < page.rows.length
        · simp [hempty, hcut]
        · simp [hempty, hcut]

/-- and the shards whose rows are all returned to the last key they scanned -/
theorem position_passed (truncated : List (Entry Row)) (perShardLimit : Nat) (j : String)
    (pages : List (ShardScanPage Row)) : ∀ c : ShardCursors,
    Reaches (position c j)
      (position (pages.foldl (passScanned truncated perShardLimit) c) j)
      ((pages.filter fun page => page.shardId = j).filterMap (scannedKey truncated perShardLimit)) := by
  induction pages with
  | nil => exact fun c => .nil _
  | cons page pages ih =>
    intro c
    rw [List.foldl_cons]
    have h := ih (passScanned truncated perShardLimit c page)
    rw [passScanned_eq] at h ⊢
    by_cases hj : page.shardId = j
    · rw [List.filter_cons_of_pos (by simpa using hj)]
      cases hkey : scannedKey truncated perShardLimit page with
      | none =>
        rw [hkey] at h
        rwa [List.filterMap_cons_none hkey]
      | some last =>
        rw [hkey] at h
        rw [List.filterMap_cons_some hkey]
        dsimp only at h
        rw [position_raise, if_pos hj.symm] at h
        exact h.cons
    · rw [List.filter_cons_of_neg (by simpa using hj)]
      cases hkey : scannedKey truncated perShardLimit page with
      | none =>
        rw [hkey] at h
        exact h
      | some last =>
        rw [hkey] at h
        dsimp only at h ⊢
        rwa [position_raise, if_neg (Ne.symm hj)] at h

end TableScan
