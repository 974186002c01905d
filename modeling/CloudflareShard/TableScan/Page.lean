import CloudflareShard.Sqlite.Merged
import CloudflareShard.SqlSafety.Scan
import Mathlib.Data.List.Lex

/-!
# `/v1/table-scan`

A tenant lists its own rows of a table.  The worker asks every shard for a page of the tenant's keys,
merges the pages and hands out how far each shard was read.

* `compareBinaryCollation`   the order of partition keys, by their UTF-8 bytes;
* `handleTenantScanPage`     the page of one shard: owner keys first, then each base row;
* `mergeTableScanPages`      the rows that are returned, and the next cursor;
* `tableScanCore`            a request, with its cursor;
* `scan`                     all pages, each cursor fed back until none is returned.
-/

namespace TableScan
open SqlSafety Sqlite.Grammar

variable {Row : Type}

/-! ## the order of keys -/

/-- `new TextEncoder().encode(s)` -/
def encode (s : String) : List Nat := s.toUTF8.data.toList.map UInt8.toNat

/-- at the first byte that differs, or by the lengths -/
def compareBytes : List Nat → List Nat → Int
  | x :: xs, y :: ys => if x ≠ y then (x : Int) - y else compareBytes xs ys
  | xs, ys => (xs.length : Int) - ys.length

def compareBinaryCollation (a b : String) : Int := compareBytes (encode a) (encode b)

/-- the UTF-16 code units of a string, by which `<` compares -/
def codeUnits (s : String) : List Nat :=
  s.toList.flatMap fun c =>
    if c.toNat < 0x10000 then [c.toNat]
    else [0xD800 + (c.toNat - 0x10000) / 0x400, 0xDC00 + (c.toNat - 0x10000) % 0x400]

/-! ## a shard -/

/-- a row of `__cf_row_owners` -/
structure OwnerRow where
  tableName : String
  partitionKey : String
  tenantId : String

/-- `lookup table column key` is the first row of `SELECT * FROM table WHERE column = key` -/
structure Shard (Row : Type) where
  owners : List OwnerRow
  tableExists : String → Bool
  lookup : String → String → String → Option Row

def tenantScanPageSize : Nat := 100

structure ScanRequest where
  table : String
  partitionKeyColumn : String
  tenantId : String
  afterPartitionKey : Option String
  limit : Option Nat

structure ScannedRow (Row : Type) where
  partitionKey : String
  row : Row

structure ScanPage (Row : Type) where
  rows : List (ScannedRow Row)
  ownerRowsScanned : Option Nat
  lastOwnerKeyScanned : Option String

/-- `SELECT partition_key ... WHERE tenant_id = ? AND table_name = ? AND partition_key > ?`, the keys
under the collation `BINARY` -/
def selectedKeys (shard : Shard Row) (tenantId table after : String) : List String :=
  (shard.owners.filter fun o => o.tenantId == tenantId && o.tableName == table
    && encode after < encode o.partitionKey).map (·.partitionKey)

/-- `ORDER BY partition_key ASC` -/
def ownerKeys (shard : Shard Row) (tenantId table after : String) : List String :=
  (selectedKeys shard tenantId table after).mergeSort fun a b => encode a ≤ encode b

/-- `none` for a request that lacks a field, which is answered 400 -/
def handleTenantScanPage (shard : Shard Row) (body : ScanRequest) : Option (ScanPage Row) :=
  if body.table = "" ∨ body.partitionKeyColumn = "" ∨ body.tenantId = "" then none
  else
    let limit := min tenantScanPageSize (max 1 (body.limit.getD tenantScanPageSize))
    if shard.tableExists body.table = false then
      some { rows := [], ownerRowsScanned := none, lastOwnerKeyScanned := none }
    else
      let ownerRows :=
        (ownerKeys shard body.tenantId body.table (body.afterPartitionKey.getD "")).take limit
      some
        { rows := ownerRows.filterMap fun partitionKey =>
            (shard.lookup body.table body.partitionKeyColumn partitionKey).map fun row =>
              { partitionKey, row }
          ownerRowsScanned := some ownerRows.length
          lastOwnerKeyScanned := ownerRows.getLast? }

/-! ## the merge -/

/-- a map from shards to how far they were read -/
abbrev ShardCursors := List (String × String)

namespace ShardCursors

def get (c : ShardCursors) (shardId : String) : Option String := c.lookup shardId

def set (c : ShardCursors) (shardId key : String) : ShardCursors :=
  if c.any (·.1 == shardId) then c.map fun e => if e.1 == shardId then (e.1, key) else e
  else c ++ [(shardId, key)]

/-- `if (compareBinaryCollation(key, current) > 0) next[shardId] = key` -/
def raise (c : ShardCursors) (shardId key : String) : ShardCursors :=
  if compareBinaryCollation key ((c.get shardId).getD "") > 0 then c.set shardId key else c

end ShardCursors

structure ShardScanPage (Row : Type) extends ScanPage Row where
  shardId : String

structure Entry (Row : Type) where
  shardId : String
  partitionKey : String
  row : Row

def compareEntries (a b : Entry Row) : Int :=
  let pkCmp := compareBinaryCollation a.partitionKey b.partitionKey
  if pkCmp ≠ 0 then pkCmp
  else if codeUnits a.shardId < codeUnits b.shardId then -1
  else if codeUnits b.shardId < codeUnits a.shardId then 1
  else 0

def entries (page : ShardScanPage Row) : List (Entry Row) :=
  page.rows.map fun r => { shardId := page.shardId, partitionKey := r.partitionKey, row := r.row }

def ShardScanPage.ownerRows (page : ShardScanPage Row) : Nat :=
  page.ownerRowsScanned.getD page.rows.length

def deliveredCount (truncated : List (Entry Row)) (shardId : String) : Nat :=
  truncated.countP (·.shardId == shardId)

/-- every shard of the call has an entry -/
def touch (c : ShardCursors) (page : ShardScanPage Row) : ShardCursors :=
  if (c.get page.shardId).isNone then c.set page.shardId "" else c

/-- a shard whose owner query used up its limit, and whose rows were all returned, is behind
everything it scanned -/
def passScanned (truncated : List (Entry Row)) (perShardLimit : Nat) (c : ShardCursors)
    (page : ShardScanPage Row) : ShardCursors :=
  if page.ownerRows < perShardLimit then c
  else
    match page.lastOwnerKeyScanned with
    | none => c
    | some last =>
      if page.rows.isEmpty then c.raise page.shardId last
      else if deliveredCount truncated page.shardId < page.rows.length then c
      else c.raise page.shardId last

def mergeTableScanPages (pages : List (ShardScanPage Row)) (overallLimit perShardLimit : Nat)
    (priorShardCursors : ShardCursors) : List Row × Option ShardCursors :=
  let all := (pages.flatMap entries).mergeSort fun a b => compareEntries a b ≤ 0
  let truncated := all.take overallLimit
  let touched := pages.foldl touch priorShardCursors
  -- never past the last row of a shard that is returned
  let returned := truncated.foldl (fun c e => c.raise e.shardId e.partitionKey) touched
  let next := pages.foldl (passScanned truncated perShardLimit) returned
  let anyRowsTruncatedAway := truncated.length < all.length
  let anyShardMayHaveMore :=
    anyRowsTruncatedAway || pages.any fun page => perShardLimit ≤ page.ownerRows
  (truncated.map (·.row), if anyShardMayHaveMore then some next else none)

/-! ## the endpoint -/

def defaultTableScanLimit : Nat := 100
def maxTableScanLimit : Nat := 500

/-- the content of the opaque cursor -/
structure TableScanCursor where
  table : String
  shardCursors : ShardCursors

structure ScanBody where
  tenantId : String
  table : String
  limit : Option Int
  cursor : Option TableScanCursor

/-- what the catalog answers: the shards, draining ones included, and the table's registration -/
structure Fleet (Row : Type) where
  partitionKeyColumn : String
  provenanceComplete : Bool
  shards : List (String × Shard Row)

inductive Refusal where
  | missingFields
  | limitExceeded
  | internalTableAccessForbidden
  /-- the cursor was issued for this table -/
  | cursorOfTable (table : String)
  | noShards
  /-- the cursor names a shard that is no longer in use -/
  | staleShard (shardId : String)
  | shardUnreachable (shardId : String)
  deriving DecidableEq

structure ScanAnswer (Row : Type) where
  rows : List Row
  nextCursor : Option TableScanCursor
  provenanceComplete : Bool
  shardCount : Nat

section
variable (unicodeLower : Text → Text)

def shardPage (fleet : Fleet Row) (body : ScanBody) (priorShardCursors : ShardCursors)
    (perShardLimit : Nat) (s : String × Shard Row) : Except Refusal (ShardScanPage Row) :=
  match handleTenantScanPage s.2
      { table := body.table, partitionKeyColumn := fleet.partitionKeyColumn
        tenantId := body.tenantId
        afterPartitionKey := some ((priorShardCursors.get s.1).getD "")
        limit := some perShardLimit } with
  | none => .error (.shardUnreachable s.1)
  | some page => .ok { page with shardId := s.1 }

/-- the fan-out, up to the first shard that does not answer -/
def shardPages (fleet : Fleet Row) (body : ScanBody) (priorShardCursors : ShardCursors)
    (perShardLimit : Nat) : Except Refusal (List (ShardScanPage Row)) :=
  fleet.shards.mapM (shardPage fleet body priorShardCursors perShardLimit)

/-- the limit of the whole page -/
def scanLimit (body : ScanBody) : Nat :=
  max 1 (min maxTableScanLimit ((body.limit.map Int.toNat).getD defaultTableScanLimit))

def priorCursors (body : ScanBody) : ShardCursors := (body.cursor.map (·.shardCursors)).getD []

/-- why a request is turned away before a shard is asked -/
def scanRefusal (fleet : Fleet Row) (body : ScanBody) : Option Refusal :=
  if body.tenantId = "" ∨ body.table = "" then some .missingFields
  else if body.limit.any fun limit => limit < 1 || (maxTableScanLimit : Int) < limit then
    some .limitExceeded
  else if isInternalTableName (normalizeTableName unicodeLower body.table.toList) then
    some .internalTableAccessForbidden
  else
    match body.cursor.bind fun cursor =>
      if cursor.table ≠ body.table then some (.cursorOfTable cursor.table) else none with
    | some refusal => some refusal
    | none =>
      if fleet.shards.isEmpty then some .noShards
      else
        ((priorCursors body).find? fun e => !(fleet.shards.any (·.1 == e.1))).map fun e =>
          .staleShard e.1

def tableScanCore (fleet : Fleet Row) (body : ScanBody) : Except Refusal (ScanAnswer Row) :=
  match scanRefusal unicodeLower fleet body with
  | some refusal => .error refusal
  | none => do
    let perShardLimit := min tenantScanPageSize (scanLimit body)
    let pages ← shardPages fleet body (priorCursors body) perShardLimit
    let merged := mergeTableScanPages pages (scanLimit body) perShardLimit (priorCursors body)
    return { rows := merged.1
             nextCursor := merged.2.map fun shardCursors => { table := body.table, shardCursors }
             provenanceComplete := fleet.provenanceComplete
             shardCount := fleet.shards.length }

/-- one request of a scan, the cursor being what the last one returned -/
def scanPage (fleet : Fleet Row) (body : ScanBody) (cursor : Option TableScanCursor) :
    Option (List Row × Option (Option TableScanCursor)) :=
  match tableScanCore unicodeLower fleet { body with cursor } with
  | .error _ => none
  | .ok answer => some (answer.rows, answer.nextCursor.map some)

/-- the pages of a scan from the beginning, `none` when a request is refused or `n` are not enough -/
def scan (fleet : Fleet Row) (body : ScanBody) (n : Nat) : Option (List (List Row)) :=
  Keyset.readAll (scanPage unicodeLower fleet body) n none

end
end TableScan
