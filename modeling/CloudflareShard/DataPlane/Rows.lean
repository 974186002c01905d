import Mathlib.Data.String.Basic
import CloudflareShard.Json.Object
import CloudflareShard.Sqlite.Keyset
import CloudflareShard.Sqlite.Statement

/-!
# The rows of a shard

A shard holds base tables and, for each row key, an entry that says which tenant and which vbucket the
key belongs to.  Migration reads and writes rows through these entries.

* `RowOwner`, `Data`                        the base tables and the table `__cf_row_owners`;
* `upsertRowOwner`, `deleteRowOwner`        one entry for each table and key;
* `handleMigrateExport`                     a page of a vbucket's rows;
* `handleMigrateImport`, `handleDeleteVbucketRows`   rows that come and go.
-/

namespace DataPlane
open Json Sqlite

structure RowOwner where
  tableName : String
  partitionKey : String
  tenantId : String
  vbucket : Nat
  deriving DecidableEq

def RowOwner.id (o : RowOwner) : String × String := (o.tableName, o.partitionKey)

structure Data where
  table : String → Option Table
  owners : List RowOwner
  keyed : (owners.map RowOwner.id).Nodup

/-! ## provenance -/

def deleteRowOwner (table partitionKey : String) (D : Data) : Data where
  table := D.table
  owners := D.owners.filter fun o => o.id ≠ (table, partitionKey)
  keyed := D.keyed.sublist (List.filter_sublist.map RowOwner.id)

/-- the entry for a table and a key is replaced, or added -/
def upsertRowOwner (o : RowOwner) (D : Data) : Data where
  table := D.table
  owners := (D.owners.filter fun p => p.id ≠ o.id) ++ [o]
  keyed := by
    rw [List.map_append]
    refine List.nodup_append.mpr
      ⟨D.keyed.sublist (List.filter_sublist.map RowOwner.id), List.nodup_singleton _, ?_⟩
    intro a ha b hb hab
    obtain ⟨p, hp, rfl⟩ := List.mem_map.mp ha
    have hb : b = o.id := by simpa using hb
    have hne := (List.mem_filter.mp hp).2
    simp [hab, hb] at hne

def setTable (name : String) (t : Table) (D : Data) : Data :=
  { D with table := fun n => if n = name then some t else D.table n }

/-! ## rows with their owners -/

/-- the owner entries of a vbucket in one table, in the order of their keys -/
def ownersOf (D : Data) (table : String) (vbucket : Nat) : List RowOwner :=
  (D.owners.filter fun o => o.tableName = table ∧ o.vbucket = vbucket).insertionSort
    fun a b => a.partitionKey ≤ b.partitionKey

variable {D : Data} {table : String} {vbucket : Nat}

theorem ownersOf_mem {o : RowOwner} : o ∈ ownersOf D table vbucket ↔
    o ∈ D.owners ∧ o.tableName = table ∧ o.vbucket = vbucket := by
  simp [ownersOf, List.mem_insertionSort]

theorem ownersOf_sorted : (ownersOf D table vbucket).Pairwise
    fun a b => a.partitionKey ≤ b.partitionKey := by
  have : Std.Total fun a b : RowOwner => a.partitionKey ≤ b.partitionKey := ⟨fun a b => le_total _ _⟩
  have : IsTrans RowOwner fun a b => a.partitionKey ≤ b.partitionKey := ⟨fun a b c => le_trans⟩
  exact List.pairwise_insertionSort _ _

theorem ownersOf_nodup : (ownersOf D table vbucket).Nodup :=
  (List.perm_insertionSort _ _).nodup_iff.mpr (D.keyed.of_map.filter _)

/-- `b."pk" = ro.partition_key` -/
def joins (R : Rules) (t : Table) (pk : String) (o : RowOwner) (r : Row) : Bool :=
  match t.schema.resolve pk with
  | some i => (t.schema.columns[i]?.map fun c =>
      c.matches R (r.cell i) (.text o.partitionKey)).getD false
  | none => false

/-- `__cf_row_owners ro JOIN b` for one vbucket; nothing when the table is not there -/
def joined (R : Rules) (D : Data) (table pk : String) (vbucket : Nat) : List (RowOwner × Row) :=
  match D.table table with
  | some t => (ownersOf D table vbucket).flatMap fun o => (t.rows.filter (joins R t pk o)).map (o, ·)
  | none => []

/-- the order of the join -/
def joinKey (p : RowOwner × Row) : String := p.1.partitionKey

def migratePageSize : Nat := 500

/-- the columns of a row with what a query adds to them; a later name replaces an earlier one -/
def rowObject (S : Schema) (r : Row) (extra : List (String × Value)) : Object Value :=
  .ofList ((S.columns.mapIdx fun i c => (c.name, r.cell i)) ++ extra)

/-! ## export -/

structure ExportRequest where
  vbucket : Option Nat
  table : Option String
  partitionKeyColumn : Option String
  afterPartitionKey : Option String
  limit : Option Nat

structure ExportedRow where
  partitionKey : String
  tenantId : String
  row : Object Value

def exportPk : String := "__cf_export_pk"
def exportTenant : String := "__cf_export_tenant"

/-- the row as it is exported, without the columns that the query adds -/
def exportedRow (S : Schema) (p : RowOwner × Row) : ExportedRow where
  partitionKey := p.1.partitionKey
  tenantId := p.1.tenantId
  row := ((rowObject S p.2 [(exportPk, .text p.1.partitionKey), (exportTenant, .text p.1.tenantId)]).erase
    exportPk).erase exportTenant

def exportLimit (limit : Option Nat) : Nat := min migratePageSize (max 1 (limit.getD migratePageSize))

def badExport : String := "Missing vbucket, table, or partitionKeyColumn"

/-- `!body.table` -/
def given (s : Option String) : Option String := s.filter (· ≠ "")

/-- the rows of one page; a query that fails finds nothing -/
def exportRaw (R : Rules) (D : Data) (table pk : String) (vbucket : Nat) (limit : Option Nat)
    (after : Option String) : List (RowOwner × Row) :=
  Keyset.page joinKey (joined R D table pk vbucket) (exportLimit limit) (after.getD "")

def handleMigrateExport (R : Rules) (D : Data) (req : ExportRequest) :
    Except String (List ExportedRow) :=
  match req.vbucket, given req.table, given req.partitionKeyColumn with
  | some vbucket, some table, some pk =>
    match D.table table with
    | some t => .ok ((exportRaw R D table pk vbucket req.limit req.afterPartitionKey).map
        (exportedRow t.schema))
    | none => .ok []
  | _, _, _ => .error badExport

end DataPlane
