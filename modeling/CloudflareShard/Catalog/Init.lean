import Mathlib.Algebra.Order.Floor.Ring
import Mathlib.Data.Rat.Floor
import CloudflareShard.Json.Value

/-!
# Setting a catalog up

`/init` writes the shards and the map of the vbuckets, `/route` looks a key up in the map.  Numbers are
what a double can hold, so they need not be whole.

* `InitBody`, `CatalogStore`   the body of a request, and the tables it fills;
* `handleInit`                 the handler, with its two loops;
* `routeMapping`               the shard that the vbucket of a key is mapped to;
* `inits`, `inForce`           a sequence of requests, and the one that the tables are from.
-/

namespace Catalog
open Json

/-! ## keys -/

/-- FNV over code units, in 32 bits -/
def hashKey (input : JsString) : Nat :=
  input.foldl (fun h unit => (h ^^^ unit.val) * 0x01000193 % 2 ^ 32) 0x811c9dc5

/-- `%` for a dividend that is not negative and a divisor that is positive -/
def remainder (dividend divisor : ℚ) : ℚ := dividend - divisor * ⌊dividend / divisor⌋

/-! ## tables -/

/-- the text made of `start`, `shard-` and the number; numbers that differ are written differently -/
structure ShardName where
  start : String
  index : ℚ
  deriving DecidableEq

inductive ShardStatus where
  | active
  | draining
  deriving DecidableEq

structure ShardRow where
  shardId : ShardName
  status : ShardStatus
  deriving DecidableEq

structure VbucketRow where
  vbucket : Nat
  shardId : ShardName
  deriving DecidableEq

structure CatalogStore where
  totalVBuckets : Option ℚ
  shards : List ShardRow
  vbucketMap : List VbucketRow
  deriving DecidableEq

/-- a field that should be a number; `other` is `null`, a text, an infinity and all else that
`Number.isFinite` turns down -/
inductive NumberField where
  | absent
  | finite (value : ℚ)
  | other
  deriving DecidableEq

structure InitBody where
  numShards : NumberField
  totalVBuckets : NumberField
  force : Bool
  catalogShardId : Option String
  deriving DecidableEq

inductive InitAnswer where
  | refused (message : String)
  | alreadyInitialized (totalVBuckets : ℚ)
  | ok (numShards totalVBuckets : ℚ) (catalogShardId : Option String)
  deriving DecidableEq

def InitAnswer.accepted : InitAnswer → Bool
  | refused _ => false
  | _ => true

/-! ## init -/

def NumberField.getD : NumberField → ℚ → ℚ
  | finite value, _ => value
  | _, default => default

def InitBody.shardCount (body : InitBody) : ℚ := min 256 (max 1 (body.numShards.getD 8))

def InitBody.vbucketCount (body : InitBody) : ℚ := min 65536 (max 64 (body.totalVBuckets.getD 1024))

def InitBody.start (body : InitBody) : String :=
  match body.catalogShardId with
  | none | some "" => ""
  | some catalogShardId => catalogShardId ++ "-"

/-- the values of `i` in `for (let i = 0; i < bound; i += 1)` -/
def counts (bound : ℚ) : List Nat := List.range ⌈bound⌉.toNat

/-- `INSERT OR IGNORE` -/
def insertShard (shardId : ShardName) (shards : List ShardRow) : List ShardRow :=
  if shards.any (·.shardId == shardId) then shards else shards ++ [{ shardId, status := .active }]

/-- `INSERT OR REPLACE` -/
def replaceVbucket (row : VbucketRow) (vbucketMap : List VbucketRow) : List VbucketRow :=
  vbucketMap.filter (·.vbucket != row.vbucket) ++ [row]

def CatalogStore.empty : CatalogStore := { totalVBuckets := none, shards := [], vbucketMap := [] }

def fillTables (body : InitBody) (s : CatalogStore) : CatalogStore :=
  { totalVBuckets := some body.vbucketCount
    shards := (counts body.shardCount).foldl
      (fun shards (i : Nat) => insertShard ⟨body.start, i⟩ shards) s.shards
    vbucketMap := (counts body.vbucketCount).foldl
      (fun map (vb : Nat) => replaceVbucket ⟨vb, ⟨body.start, remainder vb body.shardCount⟩⟩ map)
      s.vbucketMap }

def handleInit (body : InitBody) (s : CatalogStore) : InitAnswer × CatalogStore :=
  if body.numShards = .other then (.refused "numShards must be a finite number.", s)
  else if body.totalVBuckets = .other then (.refused "totalVBuckets must be a finite number.", s)
  else
    match s.totalVBuckets, body.force with
    | some total, false => (.alreadyInitialized total, s)
    | _, force =>
      (.ok body.shardCount body.vbucketCount body.catalogShardId,
        fillTables body (if force then .empty else s))

/-! ## routing -/

inductive RouteRefusal where
  | notInitialized
  | noShardMapping (vbucket : ℚ)
  | notActive (shardId : ShardName)
  deriving DecidableEq

/-- the join of `vbucket_map` and `shards` -/
def CatalogStore.mapped (s : CatalogStore) (vbucket : ℚ) : Option ShardRow :=
  (s.vbucketMap.find? fun row => (row.vbucket : ℚ) = vbucket).bind fun row =>
    s.shards.find? (·.shardId == row.shardId)

/-- the part of `/route` that looks the map up -/
def routeMapping (composite : JsString) (s : CatalogStore) : Except RouteRefusal ShardRow :=
  match s.totalVBuckets with
  | none => .error .notInitialized
  | some total =>
    let vbucket := remainder (hashKey composite) total
    match s.mapped vbucket with
    | none => .error (.noShardMapping vbucket)
    | some shard => if shard.status ≠ .active then .error (.notActive shard.shardId) else .ok shard

/-- every key is mapped to an active shard -/
def Routable (s : CatalogStore) : Prop := ∀ composite, ∃ shard, routeMapping composite s = .ok shard

/-! ## sequences of requests -/

/-- the tables after the requests, on a fresh catalog -/
def inits (bodies : List InitBody) : CatalogStore :=
  bodies.foldl (fun s body => (handleInit body s).2) .empty

/-- the request that filled the tables last -/
def inForce (bodies : List InitBody) : Option InitBody := bodies.foldl later none
where
  later (last : Option InitBody) (body : InitBody) : Option InitBody :=
    if body.numShards = .other ∨ body.totalVBuckets = .other then last
    else if last.isSome && !body.force then last
    else some body

end Catalog
