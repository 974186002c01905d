import CloudflareShard.Json.Text
import CloudflareShard.DataPlane.Rows

/-!
# The checksum of a vbucket

Both shards of a migration hash the rows of the vbucket in one table, page by page.

* `Platform`                     SHA-256 and the text of a JavaScript number;
* `jsonText`, `canonicalRowJson` a value and a row as the checksum writes them;
* `pageText`, `vbucketTableChecksum`   what is hashed, and the digest.
-/

namespace DataPlane
open Json Sqlite

/-- `sha256Hex` hashes a text, `numberText` is `Number.prototype.toString` of a finite number -/
structure Platform where
  sha256Hex : String → String
  numberText : Rat → String

/-- a double in JSON -/
def doubleJson (P : Platform) : Double → String
  | .finite q => P.numberText q
  | .infinite _ => "null"

/-- INTEGER and REAL come as numbers, a BLOB comes as an `ArrayBuffer`, which has no own properties -/
def jsonText (P : Platform) : Value → String
  | .null => "null"
  | .integer n => doubleJson P (.ofInt n)
  | .real x => doubleJson P x
  | .text s => quote s
  | .blob _ => "{}"

/-- the UTF-16 code units of a character -/
def codeUnits (c : Char) : List Nat :=
  if c.toNat < 0x10000 then [c.toNat]
  else [0xD800 + (c.toNat - 0x10000) / 0x400, 0xDC00 + (c.toNat - 0x10000) % 0x400]

/-- the order of `Array.prototype.sort` -/
def sortKey (name : String) : List Nat := name.toList.flatMap codeUnits

def decimal (digits : List Char) : Option Nat :=
  digits.foldlM (fun n c => if '0' ≤ c ∧ c ≤ '9' then some (10 * n + (c.toNat - 48)) else none) 0

/-- a property name that stands before all others, in numeric order -/
def arrayIndex (name : String) : Option Nat :=
  match name.toList with
  | [] => none
  | ['0'] => some 0
  | '0' :: _ => none
  | digits => (decimal digits).filter (· < 2 ^ 32 - 1)

/-- the order in which `sorted` enumerates its properties: `sorted[key] = ...` on sorted keys -/
def enumerated (entries : List (String × Value)) : List (String × Value) :=
  let sorted := entries.insertionSort fun a b => sortKey a.1 ≤ sortKey b.1
  let indices := (sorted.filter fun p => (arrayIndex p.1).isSome).insertionSort
    fun a b => (arrayIndex a.1).getD 0 ≤ (arrayIndex b.1).getD 0
  indices ++ sorted.filter fun p => (arrayIndex p.1).isNone

/-- an assignment to `__proto__` makes no own property -/
def canonicalRow (row : Object Value) : List (String × Value) :=
  enumerated (row.entries.filter fun p => p.1 ≠ "__proto__")

def memberText (P : Platform) (p : String × Value) : String := quote p.1 ++ ":" ++ jsonText P p.2

def canonicalRowJson (P : Platform) (row : Object Value) : String :=
  "\x7b" ++ String.intercalate "," ((canonicalRow row).map (memberText P)) ++ "\x7d"

/-- the row as the checksum query returns it, without the added column -/
def checkedRow (S : Schema) (p : RowOwner × Row) : Object Value :=
  (rowObject S p.2 [(exportPk, .text p.1.partitionKey)]).erase exportPk

def rowText (P : Platform) (S : Schema) (p : RowOwner × Row) : String :=
  p.1.partitionKey ++ canonicalRowJson P (checkedRow S p)

def pageText (P : Platform) (S : Schema) (page : List (RowOwner × Row)) : String :=
  String.join (page.map (rowText P S))

/-- the pages that the checksum reads -/
def checkedPages (R : Rules) (D : Data) (table pk : String) (vbucket : Nat) :
    List (List (RowOwner × Row)) :=
  Keyset.pages joinKey (joined R D table pk vbucket) migratePageSize ""

structure Checksum where
  checksum : String
  rowCount : Nat
  deriving DecidableEq

/-- a table that is not there is read as an empty one -/
def vbucketTableChecksum (P : Platform) (R : Rules) (D : Data) (vbucket : Nat) (table pk : String) :
    Checksum :=
  match D.table table with
  | some t =>
    let pages := checkedPages R D table pk vbucket
    { checksum := P.sha256Hex (String.join (pages.map fun page => P.sha256Hex (pageText P t.schema page)))
      rowCount := pages.flatten.length }
  | none => { checksum := P.sha256Hex "", rowCount := 0 }

end DataPlane
