import CloudflareShard.DataPlane.Import

/-!
# Index entries

An index of a table maps the JSON text of some columns to partition keys.  The entries are placed on
shards by a hash of that text, apart from the rows.

* `IndexDefinition`, `indexShardIdForKey`   an index and the shard of a key;
* `preRead`, `currentKeyJson`     the indexed columns of a row as the gateway reads them, and its key;
* `requireIndexedColumnsForInsert`, `computeIndexDeltas`   which entries a mutation takes and brings;
* `IndexEntry`, `IndexWrite`      the table `__cf_indexes` of a shard, and a write to it.
-/

namespace StructuredOp
open Json Sqlite DataPlane

/-! ## hash -/

def hashKey (input : String) : Nat :=
  (sortKey input).foldl (fun h unit => (h ^^^ unit) * 0x01000193 % 2 ^ 32) 0x811c9dc5

structure IndexDefinition where
  indexName : String
  columns : List String
  ring : List String
  deriving DecidableEq

def indexShardIdForKey (table indexName indexKeyJson : String) (ring : List String) : String :=
  ring.getD (hashKey (table ++ ":" ++ indexName ++ ":" ++ indexKeyJson) % ring.length) ""

/-! ## keys -/

/-- `JSON.stringify` of a value in an array -/
def stringify (P : Platform) : JsValue → String
  | .null => "null"
  | .bool b => if b then "true" else "false"
  | .number x => doubleJson P x
  | .string s => quote s
  | .structured json => json

/-- the names that every object inherits -/
def objectPrototype : List String :=
  ["constructor", "__defineGetter__", "__defineSetter__", "hasOwnProperty", "__lookupGetter__",
    "__lookupSetter__", "isPrototypeOf", "propertyIsEnumerable", "toString", "valueOf", "__proto__",
    "toLocaleString"]

/-- what `o[name] ?? null` is written as when `o` has no such property itself -/
def inherited (name : String) : JsValue := if name = "__proto__" then .structured "{}" else .null

/-- `name in o` -/
def hasProperty (o : Object JsValue) (name : String) : Bool :=
  (o.get? name).isSome || objectPrototype.contains name

/-- `o?.[name] ?? null` -/
def property (o : Option (Object JsValue)) (name : String) : JsValue :=
  match o with
  | some o => (o.get? name).getD (inherited name)
  | none => .null

/-- the rows that a statement finds by their partition key -/
def keyedRow (R : Rules) (S : Schema) (k partitionKey : String) (r : Row) : Bool :=
  match S.resolve k with
  | some i => (S.columns[i]?.map fun c => c.matches R (r.cell i) (.text partitionKey)).getD false
  | none => false

/-- `SELECT columns FROM table WHERE k = partitionKey`, its first row, under the declared names -/
def preRead (R : Rules) (t : Table) (k partitionKey : String) (columns : List String) :
    Option (Object JsValue) := do
  let targets ← (t.schema.resolveAll columns).toOption
  let r ← t.rows.find? (keyedRow R t.schema k partitionKey)
  return .ofList (targets.map fun i =>
    (((t.schema.columns[i]?).map Column.name).getD "", wireValue (r.cell i)))

/-- the key of an index by the stored values of a row -/
def currentKeyJson (P : Platform) (S : Schema) (index : IndexDefinition) (r : Row) : String :=
  array (index.columns.map fun c => jsonText P (((S.resolve c).map r.cell).getD .null))

def indexedColumns (indexes : List IndexDefinition) : List String :=
  (indexes.flatMap IndexDefinition.columns).eraseDups

/-! ## mutations -/

def requireIndexedColumnsForInsert (op : MutationOp) (indexedColumns : List String)
    (values : Option (Object JsValue)) : Option (String × String × String) :=
  if op = .insert ∨ op = .upsert then
    let missing := indexedColumns.filter fun c => !(values.map fun v => hasProperty v c).getD false
    if missing.isEmpty then none
    else some ("INDEXED_COLUMN_REQUIRES_VALUE",
      "insert/upsert on an indexed table must explicitly supply every indexed column: missing " ++
        String.intercalate ", " missing ++ ".",
      "Provide a value for every indexed column — relying on a SQL DEFAULT for an indexed column isn't supported, since the index entry is computed from the values you supply, not read back from the stored row.")
  else none

structure IndexDelta where
  indexName : String
  oldKeyJson : Option String
  newKeyJson : Option String
  deriving DecidableEq

/-- the value that a mutation is taken to leave in a column -/
def newValue (beforeRow afterValues : Option (Object JsValue)) (column : String) : JsValue :=
  match afterValues with
  | some values => if hasProperty values column then property (some values) column
      else property beforeRow column
  | none => property beforeRow column

def indexDelta (P : Platform) (op : MutationOp) (beforeRow afterValues : Option (Object JsValue))
    (index : IndexDefinition) : IndexDelta where
  indexName := index.indexName
  oldKeyJson := beforeRow.map fun _ =>
    array (index.columns.map fun c => stringify P (property beforeRow c))
  newKeyJson := if op = .delete then none
    else some (array (index.columns.map fun c => stringify P (newValue beforeRow afterValues c)))

/-- only the entries that change -/
def computeIndexDeltas (P : Platform) (indexes : List IndexDefinition) (op : MutationOp)
    (beforeRow afterValues : Option (Object JsValue)) : List IndexDelta :=
  if op = .update ∧ beforeRow.isNone then []
  else (indexes.map (indexDelta P op beforeRow afterValues)).filter fun d => d.oldKeyJson ≠ d.newKeyJson

/-! ## the table of entries -/

structure IndexEntry where
  tableName : String
  indexName : String
  indexKeyJson : String
  partitionKey : String
  sourceShardId : String
  tenantId : String
  deriving DecidableEq

def IndexEntry.id (e : IndexEntry) : String × String × String × String :=
  (e.tableName, e.indexName, e.indexKeyJson, e.partitionKey)

/-- `DELETE FROM __cf_indexes` or `INSERT OR REPLACE INTO __cf_indexes`, by the primary key -/
inductive IndexWrite where
  | delete (id : String × String × String × String)
  | insert (e : IndexEntry)
  deriving DecidableEq

def IndexWrite.id : IndexWrite → String × String × String × String
  | delete id => id
  | insert e => e.id

def IndexWrite.exec (entries : List IndexEntry) : IndexWrite → List IndexEntry
  | delete id => entries.filter fun e => e.id ≠ id
  | insert e => (entries.filter fun e' => e'.id ≠ e.id) ++ [e]

theorem mem_delete {entries : List IndexEntry} {id : String × String × String × String}
    {e : IndexEntry} : e ∈ (IndexWrite.delete id).exec entries ↔ e ∈ entries ∧ e.id ≠ id := by
  simp [IndexWrite.exec]

theorem mem_insert {entries : List IndexEntry} {e e' : IndexEntry} :
    e' ∈ (IndexWrite.insert e).exec entries ↔ e' ∈ entries ∧ e'.id ≠ e.id ∨ e' = e := by
  simp [IndexWrite.exec]

end StructuredOp
