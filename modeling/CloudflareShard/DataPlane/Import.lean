import CloudflareShard.DataPlane.Checksum
import CloudflareShard.Gateway.StructuredOp

/-!
# Rows that a migration brings and takes

What the catalog's migration asks of a shard besides reading: to import a page, to create a table that
is missing, to delete the rows of a vbucket.

* `WireRow`, `wireRow`          an exported row on its way through JSON;
* `handleMigrateImport`         INSERT OR REPLACE and the row's owner entry, for a whole page;
* `handleDeleteVbucketRows`     the rows of a vbucket, and its entries;
* `importRow_ok`, `deleteTable_owners`   what they did.
-/

namespace DataPlane
open Json Sqlite StructuredOp

structure WireRow where
  partitionKey : String
  tenantId : String
  row : Object JsValue

/-- a value in the JSON of a reply, as the catalog parses it again -/
def wireValue : Value → JsValue
  | .null => .null
  | .integer n => .number (.ofInt n)
  | .real (.finite q) => .number (.finite q)
  | .real (.infinite _) => .null
  | .text s => .string s
  | .blob _ => .structured "{}"

def wireRow (e : ExportedRow) : WireRow where
  partitionKey := e.partitionKey
  tenantId := e.tenantId
  row :=
    { entries := e.row.entries.map fun p => (p.1, wireValue p.2)
      nodup := by simpa [List.map_map, Function.comp_def] using e.row.nodup }

/-! ## import -/

/-- the cells of the row that an import writes -/
def importCells (B : Binding) (S : Schema) (row : Object JsValue) : Option (List Value) := do
  let targets ← (S.resolveAll row.keys).toOption
  let values ← (row.entries.map Prod.snd).mapM B.bind
  return S.candidate B.rules targets values

/-- one row of a page; `none` where SQLite refuses it -/
def importRow (B : Binding) (table : String) (vbucket : Nat) (D : Data) (e : WireRow) : Option Data :=
  if e.row.keys.isEmpty then some D
  else do
    let t ← D.table table
    let cells ← importCells B t.schema e.row
    let t' ← (t.replace cells).toOption
    return upsertRowOwner ⟨table, e.partitionKey, e.tenantId, vbucket⟩ (setTable table t' D)

/-- all rows of the page, or none -/
def handleMigrateImport (B : Binding) (table : String) (vbucket : Nat) (rows : List WireRow)
    (D : Data) : Option Data :=
  rows.foldlM (importRow B table vbucket) D

/-- `CREATE TABLE IF NOT EXISTS` -/
def createTable (name : String) (t : Table) (D : Data) : Data :=
  if (D.table name).isSome then D else setTable name t D

/-! ## deletion -/

/-- the rows of one table whose key the vbucket owns, and the entries -/
def deleteTable (R : Rules) (vbucket : Nat) (D : Data) (table pk : String) : Data :=
  let deleted := match D.table table with
    | some t => setTable table
        (t.deleteWhere fun r => (ownersOf D table vbucket).any fun o => joins R t pk o r) D
    | none => D
  { deleted with
    owners := D.owners.filter fun o => ¬ (o.tableName = table ∧ o.vbucket = vbucket)
    keyed := D.keyed.sublist (List.filter_sublist.map RowOwner.id) }

def handleDeleteVbucketRows (R : Rules) (vbucket : Nat) (tables : List (String × String)) (D : Data) :
    Data :=
  tables.foldl (fun D t => deleteTable R vbucket D t.1 t.2) D

/-! ## what they did -/

variable {B : Binding} {R : Rules} {D D' : Data} {table pk : String} {vbucket : Nat} {e : WireRow}

theorem mem_upsertRowOwner {o p : RowOwner} :
    p ∈ (upsertRowOwner o D).owners ↔ p = o ∨ p ∈ D.owners ∧ p.id ≠ o.id := by
  simp [upsertRowOwner, or_comm]

@[simp] theorem setTable_owners {t : Table} : (setTable table t D).owners = D.owners := rfl

@[simp] theorem upsertRowOwner_table {o : RowOwner} : (upsertRowOwner o D).table = D.table := rfl

theorem importRow_ok (h : importRow B table vbucket D e = some D') : D' = D ∨
    ∃ t cells t', D.table table = some t ∧ importCells B t.schema e.row = some cells ∧
      t.replace cells = .ok t' ∧
      D' = upsertRowOwner ⟨table, e.partitionKey, e.tenantId, vbucket⟩ (setTable table t' D) := by
  unfold importRow at h
  split at h
  · exact .inl (Option.some.inj h).symm
  · right
    cases ht : D.table table with
    | none => simp [ht] at h
    | some t =>
      cases hc : importCells B t.schema e.row with
      | none => simp [ht, hc] at h
      | some cells =>
        cases hr : t.replace cells with
        | error err => simp [ht, hc, hr, Except.toOption] at h
        | ok t' =>
          refine ⟨t, cells, t', rfl, hc, hr, ?_⟩
          simpa [ht, hc, hr, Except.toOption, eq_comm] using h

end DataPlane
