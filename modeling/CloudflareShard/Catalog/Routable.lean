import Mathlib.Data.List.Induction
import CloudflareShard.Catalog.Init

/-!
# When every key is routable

The loops of `/init` count whole numbers, and a key is looked up under a remainder.  The two agree on
whole numbers of vbuckets and shards, and where no vbucket wraps around the shards.

* `remainder_natCast`, `remainder_once`   remainders of whole numbers, and of what goes in once;
* `Listed`, `Numbered`                    what the two loops leave in their tables;
* `exists_hashKey`                        keys with a small hash, or with a power of two;
* `Whole`                                 the numbers that agree;
* `routable_iff`                          **every key is routable just when they do**.
-/

namespace Catalog
open Json

/-! ## remainders -/

theorem remainder_natCast (a b : Nat) : remainder a b = (a % b : Nat) := by
  have hsplit : ((b * (a / b) + a % b : Nat) : ℚ) = a := by rw [Nat.div_add_mod]
  unfold remainder
  rw [Rat.floor_natCast_div_natCast, ← Int.natCast_div, Int.cast_natCast]
  rw [Nat.cast_add, Nat.cast_mul] at hsplit
  linarith

theorem remainder_of_lt {a d : ℚ} (ha : 0 ≤ a) (hd : a < d) : remainder a d = a := by
  have hpos : 0 < d := lt_of_le_of_lt ha hd
  have hfloor : ⌊a / d⌋ = 0 := by
    rw [Int.floor_eq_zero_iff]
    exact ⟨div_nonneg ha hpos.le, (div_lt_one hpos).mpr hd⟩
  simp [remainder, hfloor]

theorem remainder_once {a d : ℚ} (hpos : 0 < d) (hd : d ≤ a) (ha : a < 2 * d) :
    remainder a d = a - d := by
  have hfloor : ⌊a / d⌋ = 1 := by
    rw [Int.floor_eq_iff]
    constructor
    · rw [Int.cast_one, le_div_iff₀ hpos]
      linarith
    · rw [Int.cast_one, div_lt_iff₀ hpos]
      linarith
  simp [remainder, hfloor]

/-- a whole number -/
def IsWhole (q : ℚ) : Prop := ∃ n : Nat, q = n

theorem sub_ne_natCast {d : ℚ} (hpos : 0 < d) (hd : ¬IsWhole d) (a n : Nat) : (a : ℚ) - d ≠ n := by
  intro h
  have hle : (n : ℚ) ≤ a := by linarith
  refine hd ⟨a - n, ?_⟩
  rw [Nat.cast_sub (by exact_mod_cast hle)]
  linarith

/-! ## the two loops -/

/-- the table has an active row for each of the names -/
def Listed (names : List ShardName) (shards : List ShardRow) : Prop :=
  ∀ shardId, shards.find? (·.shardId == shardId) =
    if shardId ∈ names then some ⟨shardId, .active⟩ else none

theorem insertShard_listed {names : List ShardName} {shards : List ShardRow}
    (h : Listed names shards) (name : ShardName) : Listed (name :: names) (insertShard name shards) := by
  intro shardId
  unfold insertShard
  have hany : shards.any (·.shardId == name) = decide (name ∈ names) := by
    rw [← List.isSome_find?, h name]
    split <;> simp [*]
  rw [hany]
  by_cases hn : name ∈ names
  · rw [if_pos (by simpa using hn), h shardId]
    by_cases he : shardId = name
    · subst he
      simp [hn]
    · simp [he]
  · rw [if_neg (by simpa using hn), List.find?_append, h shardId]
    by_cases he : shardId = name
    · subst he
      simp [hn]
    · have hne : name ≠ shardId := Ne.symm he
      by_cases hs : shardId ∈ names <;> simp [he, hs, hne]

theorem foldl_listed (start : String) (numbers : List Nat) {names : List ShardName}
    {shards : List ShardRow} (h : Listed names shards) :
    ∃ names', Listed names'
      (numbers.foldl (fun shards (i : Nat) => insertShard ⟨start, i⟩ shards) shards) ∧
      ∀ name, name ∈ names' ↔ name ∈ names ∨ ∃ i ∈ numbers, name = ⟨start, (i : ℚ)⟩ := by
  induction numbers generalizing names shards with
  | nil => exact ⟨names, h, by simp⟩
  | cons i numbers ih =>
    obtain ⟨names', hl, hm⟩ := ih (insertShard_listed h ⟨start, i⟩)
    refine ⟨names', hl, fun name => ?_⟩
    rw [hm, List.mem_cons]
    simp only [List.mem_cons, exists_eq_or_imp]
    tauto

/-- the table has the rows `f 0`, .., `f (n - 1)` -/
def Numbered (f : Nat → ShardName) (n : Nat) (vbucketMap : List VbucketRow) : Prop :=
  ∀ v : Nat, vbucketMap.find? (fun row => (row.vbucket : ℚ) = v) =
    if v < n then some ⟨v, f v⟩ else none

theorem replaceVbucket_numbered {f : Nat → ShardName} {n : Nat} {vbucketMap : List VbucketRow}
    (h : Numbered f n vbucketMap) :
    Numbered f (n + 1) (replaceVbucket ⟨n, f n⟩ vbucketMap) := by
  intro v
  have hothers : (vbucketMap.filter (·.vbucket != n)).find? (fun row => (row.vbucket : ℚ) = v) =
      if v < n then some ⟨v, f v⟩ else none := by
    rw [List.find?_filter]
    by_cases hv : v = n
    · subst hv
      rw [if_neg (Nat.lt_irrefl v), List.find?_eq_none]
      intro row _ hrow
      simp at hrow
    · rw [← h v]
      refine congrArg (fun p => vbucketMap.find? p) (funext fun row => ?_)
      by_cases hr : row.vbucket = v
      · simp [hr, hv]
      · simp [hr]
  unfold replaceVbucket
  rw [List.find?_append, hothers]
  by_cases hlt : v < n
  · rw [if_pos hlt, if_pos (Nat.lt_succ_of_lt hlt)]
    rfl
  · rw [if_neg hlt]
    by_cases hv : v = n
    · subst hv
      simp
    · have hne : n ≠ v := Ne.symm hv
      rw [if_neg (by omega)]
      simp [hne]

theorem foldl_numbered (f : Nat → ShardName) (n : Nat) :
    Numbered f n ((List.range n).foldl (fun map vb => replaceVbucket ⟨vb, f vb⟩ map) []) := by
  induction n with
  | zero => exact fun v => rfl
  | succ n ih =>
    rw [List.range_succ, List.foldl_append]
    exact replaceVbucket_numbered ih

theorem find_not_isWhole {vbucketMap : List VbucketRow} {q : ℚ} (hq : ¬IsWhole q) :
    vbucketMap.find? (fun row => (row.vbucket : ℚ) = q) = none := by
  rw [List.find?_eq_none]
  intro row _ hrow
  exact hq ⟨row.vbucket, (of_decide_eq_true hrow).symm⟩

/-! ## keys of a given hash -/

/-- the inverse of the FNV prime -/
def unmultiply (h : Nat) : Nat := h * 0x359C449B % 2 ^ 32

/-- two code units that lead from the state `h` to `target`, if the first of them is to move the upper
half by `256 * b + e` -/
def lastUnits (h target b e : Nat) : JsString :=
  let k := (e * 65536 + 256 * 403 - 1 - b * 403) / (256 * 403)
  let first := (256 * k + b) ^^^ (h % 65536)
  let state := (h ^^^ first) * 0x01000193 % 2 ^ 32
  [codeUnit first, codeUnit ((unmultiply target ^^^ state) % 65536)]

/-- keys, one of which has the hash `target` -/
def candidates (target : Nat) : List JsString :=
  [[], [codeUnit 0], [codeUnit 1]].flatMap fun start =>
    let h := hashKey start
    let move := (unmultiply target / 65536 + 65536 * 403 - 403 * (h / 65536)) % 65536
    [start ++ lastUnits h target (move / 256) (move % 256),
      start ++ lastUnits h target ((move / 256 + 255) % 256) (move % 256 + 256)]

def HasKey (h : Nat) : Prop := ∃ key, hashKey key = h

theorem hasKey_of_candidates {h : Nat} (hc : (candidates h).any fun key => hashKey key == h) :
    HasKey h := by
  obtain ⟨key, -, hkey⟩ := List.any_eq_true.mp hc
  exact ⟨key, by simpa using hkey⟩

theorem hasKey_of_lt {h : Nat} (hh : h < 257) : HasKey h := by
  have hall : ∀ h < 257, (candidates h).any fun key => hashKey key == h := by decide +kernel
  exact hasKey_of_candidates (hall h hh)

theorem hasKey_two_pow {n : Nat} (hn : n < 17) : HasKey (2 ^ n) := by
  have hall : ∀ n < 17, (candidates (2 ^ n)).any fun key => hashKey key == 2 ^ n := by
    decide +kernel
  exact hasKey_of_candidates (hall n hn)

/-! ## the tables of a request -/

section
variable (body : InitBody)

theorem InitBody.one_le_shardCount : 1 ≤ body.shardCount :=
  le_min (by norm_num) (le_max_left ..)

theorem InitBody.shardCount_le : body.shardCount ≤ 256 := min_le_left ..

theorem InitBody.le_vbucketCount : 64 ≤ body.vbucketCount :=
  le_min (by norm_num) (le_max_left ..)

theorem InitBody.vbucketCount_le : body.vbucketCount ≤ 65536 := min_le_left ..

/-- the loop variable takes the whole numbers below the bound -/
theorem mem_counts {bound : ℚ} (hb : 0 < bound) {i : Nat} : i ∈ counts bound ↔ (i : ℚ) < bound := by
  have hceil : 0 ≤ ⌈bound⌉ := Int.ceil_nonneg hb.le
  rw [counts, List.mem_range, Int.lt_toNat, Int.lt_ceil, Int.cast_natCast]

/-- a vbucket of the map has an active shard when its remainder is a number that the shards have -/
theorem mapped_fillTables {v : Nat} (hv : (v : ℚ) < body.vbucketCount) :
    (∃ i : Nat, (i : ℚ) < body.shardCount ∧ remainder v body.shardCount = i) →
      (fillTables body .empty).mapped v =
        some ⟨⟨body.start, remainder v body.shardCount⟩, .active⟩ := by
  rintro ⟨i, hi, hr⟩
  have hvpos : 0 < body.vbucketCount := lt_of_lt_of_le (by norm_num) body.le_vbucketCount
  have hspos : 0 < body.shardCount := lt_of_lt_of_le (by norm_num) body.one_le_shardCount
  have hrow := foldl_numbered (fun vb => ⟨body.start, remainder vb body.shardCount⟩)
    ⌈body.vbucketCount⌉.toNat v
  rw [if_pos (List.mem_range.mp ((mem_counts hvpos).mpr hv))] at hrow
  have hempty : Listed [] [] := fun _ => rfl
  obtain ⟨names, hlisted, hmem⟩ := foldl_listed body.start (counts body.shardCount) hempty
  have hname : (⟨body.start, remainder v body.shardCount⟩ : ShardName) ∈ names :=
    (hmem _).mpr (.inr ⟨i, (mem_counts hspos).mpr hi, by rw [hr]⟩)
  unfold CatalogStore.mapped fillTables counts CatalogStore.empty
  rw [hrow, Option.bind_some]
  exact (hlisted _).trans (if_pos hname)

theorem mapped_eq_none {v : Nat} (hr : ¬IsWhole (remainder v body.shardCount)) :
    (fillTables body .empty).mapped v = none := by
  have hrow := foldl_numbered (fun vb => ⟨body.start, remainder vb body.shardCount⟩)
    ⌈body.vbucketCount⌉.toNat v
  have hempty : Listed [] [] := fun _ => rfl
  obtain ⟨names, hlisted, hmem⟩ := foldl_listed body.start (counts body.shardCount) hempty
  have hname : (⟨body.start, remainder v body.shardCount⟩ : ShardName) ∉ names := by
    rw [hmem]
    rintro (h | ⟨i, -, h⟩)
    · cases h
    · exact hr ⟨i, congrArg ShardName.index h⟩
  unfold CatalogStore.mapped fillTables counts CatalogStore.empty
  rw [hrow]
  split
  · exact (hlisted _).trans (if_neg hname)
  · rfl

/-! ## whole numbers -/

/-- the vbuckets are a whole number, and so are the shards unless there are more of them -/
def Whole : Prop :=
  IsWhole body.vbucketCount ∧ (IsWhole body.shardCount ∨ body.vbucketCount - 1 < body.shardCount)

theorem routeMapping_none (composite : JsString)
    (h : (fillTables body .empty).mapped (remainder (hashKey composite) body.vbucketCount) = none) :
    routeMapping composite (fillTables body .empty) =
      .error (.noShardMapping (remainder (hashKey composite) body.vbucketCount)) := by
  have htotal : (fillTables body .empty).totalVBuckets = some body.vbucketCount := rfl
  simp only [routeMapping, htotal, h]

theorem routeMapping_active (composite : JsString) {shardId : ShardName}
    (h : (fillTables body .empty).mapped (remainder (hashKey composite) body.vbucketCount) =
      some ⟨shardId, .active⟩) :
    routeMapping composite (fillTables body .empty) = .ok ⟨shardId, .active⟩ := by
  have htotal : (fillTables body .empty).totalVBuckets = some body.vbucketCount := rfl
  simp only [routeMapping, htotal, h]
  exact if_neg (not_not.mpr rfl)

theorem routable_of_whole (h : Whole body) : Routable (fillTables body .empty) := by
  intro composite
  obtain ⟨⟨total, htotal⟩, hshards⟩ := h
  have hpos : 0 < total := by
    have hle := body.le_vbucketCount
    rw [htotal] at hle
    have hpos : (0 : ℚ) < total := by linarith
    exact_mod_cast hpos
  have hlt : hashKey composite % total < total := Nat.mod_lt _ hpos
  have hvbucket : remainder (hashKey composite) body.vbucketCount =
      (hashKey composite % total : Nat) := by rw [htotal, remainder_natCast]
  generalize hashKey composite % total = v at hlt hvbucket
  have hmapped := mapped_fillTables body (v := v) (by rw [htotal]; exact_mod_cast hlt) (by
    rcases hshards with ⟨n, hn⟩ | hmore
    · have hn0 : 0 < n := by
        have hle := body.one_le_shardCount
        rw [hn] at hle
        have hpos : (0 : ℚ) < n := by linarith
        exact_mod_cast hpos
      refine ⟨v % n, ?_, ?_⟩
      · rw [hn]
        exact_mod_cast Nat.mod_lt v hn0
      · rw [hn, remainder_natCast]
    · have hv : (v : ℚ) ≤ total - 1 := by
        have hle : v + 1 ≤ total := hlt
        have hle : ((v + 1 : Nat) : ℚ) ≤ total := by exact_mod_cast hle
        rw [Nat.cast_add, Nat.cast_one] at hle
        linarith
      have hv : (v : ℚ) < body.shardCount := by
        rw [htotal] at hmore
        linarith
      exact ⟨v, hv, remainder_of_lt (Nat.cast_nonneg v) hv⟩)
  rw [← hvbucket] at hmapped
  exact ⟨_, routeMapping_active body composite hmapped⟩

/-- a key under whose remainder nothing is mapped -/
theorem not_routable (key : JsString)
    (h : (fillTables body .empty).mapped (remainder (hashKey key) body.vbucketCount) = none) :
    ¬Routable (fillTables body .empty) := by
  intro hroutable
  obtain ⟨shard, hshard⟩ := hroutable key
  rw [routeMapping_none body key h] at hshard
  cases hshard

/-- a power of two that a number goes into just once -/
theorem exists_two_pow {d : ℚ} (hd : 64 ≤ d) (hle : d ≤ 65536) :
    ∃ n < 17, d ≤ (2 ^ n : Nat) ∧ ((2 ^ n : Nat) : ℚ) < 2 * d := by
  have hex : ∃ n, d ≤ (2 ^ n : Nat) := ⟨16, by norm_num; exact hle⟩
  classical
  have hspec := Nat.find_spec hex
  refine ⟨Nat.find hex, ?_, hspec, ?_⟩
  · exact Nat.lt_succ_of_le (Nat.find_min' hex (by norm_num; exact hle))
  · cases hn : Nat.find hex with
    | zero =>
      norm_num
      linarith
    | succ n =>
      have hmin : ¬d ≤ (2 ^ n : Nat) := Nat.find_min hex (by omega)
      rw [pow_succ, Nat.cast_mul]
      push_cast at hmin ⊢
      linarith [not_le.mp hmin]

theorem whole_of_routable (h : Routable (fillTables body .empty)) : Whole body := by
  have hpos : 0 < body.vbucketCount := lt_of_lt_of_le (by norm_num) body.le_vbucketCount
  have hspos : 0 < body.shardCount := lt_of_lt_of_le (by norm_num) body.one_le_shardCount
  have htotal : IsWhole body.vbucketCount := by
    by_contra hne
    obtain ⟨n, hn, hle, hlt⟩ := exists_two_pow body.le_vbucketCount body.vbucketCount_le
    obtain ⟨key, hkey⟩ := hasKey_two_pow hn
    refine not_routable body key ?_ h
    have hr : ¬IsWhole (remainder (2 ^ n : Nat) body.vbucketCount) := by
      rw [remainder_once hpos hle hlt]
      rintro ⟨m, hm⟩
      exact sub_ne_natCast hpos hne _ m hm
    unfold CatalogStore.mapped
    rw [hkey, find_not_isWhole hr]
    rfl
  refine ⟨htotal, ?_⟩
  by_contra hne
  obtain ⟨hshards, hfew⟩ := not_or.mp hne
  have hfew := not_lt.mp hfew
  -- the first vbucket that wraps around the shards
  have hceil : body.shardCount ≤ ⌈body.shardCount⌉₊ := Nat.le_ceil _
  have hceil' : (⌈body.shardCount⌉₊ : ℚ) < body.shardCount + 1 := Nat.ceil_lt_add_one hspos.le
  have hsmall : ⌈body.shardCount⌉₊ < 257 := by
    have hle : ⌈body.shardCount⌉₊ ≤ 256 := Nat.ceil_le.mpr body.shardCount_le
    omega
  obtain ⟨key, hkey⟩ := hasKey_of_lt hsmall
  refine not_routable body key ?_ h
  rw [hkey, remainder_of_lt (Nat.cast_nonneg _) (by linarith)]
  refine mapped_eq_none body ?_
  rw [remainder_once hspos hceil (by linarith [body.one_le_shardCount])]
  rintro ⟨m, hm⟩
  exact sub_ne_natCast hspos hshards _ m hm

end

/-! ## sequences of requests -/

theorem inits_eq (bodies : List InitBody) :
    inits bodies = ((inForce bodies).map fun body => fillTables body .empty).getD .empty := by
  induction bodies using List.reverseRecOn with
  | nil => rfl
  | append_singleton bodies body ih =>
    have hinits : inits (bodies ++ [body]) = (handleInit body (inits bodies)).2 := by
      unfold inits
      rw [List.foldl_append]
      rfl
    have hforce : inForce (bodies ++ [body]) = inForce.later (inForce bodies) body := by
      unfold inForce
      rw [List.foldl_append]
      rfl
    rw [hinits, hforce, ih]
    unfold handleInit inForce.later
    by_cases hn : body.numShards = .other
    · simp [hn]
    · by_cases hv : body.totalVBuckets = .other
      · simp [hn, hv]
      · cases hf : body.force <;> cases inForce bodies <;>
          simp [hn, hv, fillTables, CatalogStore.empty]

/-- **Every key is routable just when the numbers are whole.**  After any sequence of requests the map
is that of the request in force, and it leads every key to an active shard if and only if that request
asked for a whole number of vbuckets and, unless it asked for more shards than vbuckets, for a whole
number of shards. -/
theorem routable_iff (bodies : List InitBody) (body : InitBody) (h : inForce bodies = some body) :
    Routable (inits bodies) ↔ Whole body := by
  rw [inits_eq, h]
  exact ⟨whole_of_routable body, routable_of_whole body⟩

/-- 64.5 vbuckets -/
def fractionalBody : InitBody :=
  { numShards := .absent, totalVBuckets := .finite (129 / 2), force := false, catalogShardId := none }

/-- **a key of a tenant that no shard is mapped for**, after an accepted request -/
theorem fractional_unroutable :
    (handleInit fractionalBody .empty).1.accepted = true ∧
      routeMapping (utf16 "a:t:gfykom") (inits [fractionalBody]) = .error (.noShardMapping (57 / 2)) := by
  decide +kernel

/-- a request without numbers, and a later one that is not forced -/
theorem default_routable : Routable (inits
    [{ fractionalBody with totalVBuckets := .absent }, fractionalBody]) := by
  refine (routable_iff _ { fractionalBody with totalVBuckets := .absent } (by decide +kernel)).mpr ?_
  refine ⟨⟨1024, ?_⟩, .inl ⟨8, ?_⟩⟩ <;> decide +kernel

end Catalog
