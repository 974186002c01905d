import CloudflareShard.Json.Object
import CloudflareShard.Json.Text
import CloudflareShard.Sqlite.Statement

/-!
# Structured mutations

A mutation of one row group is validated and compiled to one SQL statement, into which the partition
key is forced.

* `StructuredMutation`                    what a client sends;
* `validateMutation`                      the checks all callers share;
* `mutationWhereClause`, `compileMutation`   the statement and its parameters.
-/

namespace StructuredOp
open Json Sqlite

def unsetPartitionKeyColumn : String := "__unset__"

def isIdentifierStart (c : Char) : Bool :=
  ('A' ≤ c && c ≤ 'Z') || ('a' ≤ c && c ≤ 'z') || c == '_'

/-- the regular expression `IDENTIFIER_RE` -/
def isIdentifier (s : String) : Bool :=
  match s.toList with
  | [] => false
  | c :: rest => isIdentifierStart c && rest.all fun c => isIdentifierStart c || ('0' ≤ c && c ≤ '9')

/-- a value of a parsed JSON body; a number is a double -/
inductive JsValue where
  | null
  | bool (b : Bool)
  | number (x : Double)
  | string (s : String)
  | structured (json : String)
  deriving DecidableEq

/-- `unknown` is any other text in the body -/
inductive MutationOp where
  | insert
  | update
  | delete
  | upsert
  | unknown (text : String)
  deriving DecidableEq

def MutationOp.text : MutationOp → String
  | insert => "insert"
  | update => "update"
  | delete => "delete"
  | upsert => "upsert"
  | unknown text => text

structure StructuredMutation where
  op : MutationOp
  table : String
  tenantId : String
  partitionKey : String
  where_ : Option (Object JsValue)
  values : Option (Object JsValue)
  conflictColumns : Option (List String)

structure ValidationError where
  status : Nat
  code : String
  error : String
  deriving DecidableEq

def rowKey (tenantId table partitionKey : String) : String :=
  Json.array [quote tenantId, quote table, quote partitionKey]

def syntheticIndexTablePrefix : String := "__cf_indexes:"

def participantKey (m : StructuredMutation) : String := rowKey m.tenantId m.table m.partitionKey

/-- `m.where ?? {}` -/
def StructuredMutation.conditions (m : StructuredMutation) : Object JsValue := m.where_.getD .empty

/-- `m.values ?? {}` -/
def StructuredMutation.given (m : StructuredMutation) : Object JsValue := m.values.getD .empty

/-! ## validation -/

def unsafeIdentifier (place : String) (names : List String) : Except ValidationError Unit :=
  match names.find? fun name => !isIdentifier name with
  | some name =>
    .error ⟨400, "UNSAFE_IDENTIFIER", "Unsafe identifier in " ++ place ++ ": " ++ name⟩
  | none => .ok ()

def partitionKeyConflict (place k partitionKey : String) (given : Option JsValue) :
    Except ValidationError Unit :=
  match given with
  | some v =>
    if v = .string partitionKey then .ok ()
    else .error ⟨400, "PARTITION_KEY_CONFLICT",
      place ++ "." ++ k ++ " conflicts with the declared partitionKey."⟩
  | none => .ok ()

def validateValues (m : StructuredMutation) (k : String) : Except ValidationError Unit :=
  match m.op with
  | .insert | .upsert =>
    if m.given.isEmpty then
      .error ⟨400, "MISSING_VALUES", m.op.text ++ " requires at least one value."⟩
    else .ok ()
  | .update =>
    if (m.given.keys.filter (· ≠ k)).isEmpty then
      .error ⟨400, "MISSING_VALUES",
        "update requires at least one value to set (besides the partition key)."⟩
    else .ok ()
  | _ => .ok ()

def validateMutation (m : StructuredMutation) (k : String) : Except ValidationError Unit := do
  if k = unsetPartitionKeyColumn then
    .error ⟨409, "PARTITION_KEY_COLUMN_UNSET", "Table " ++ m.table ++
      " has not been upgraded with a partition key column. Call /admin/set-partition-key-column first."⟩
  else if m.table = "" then .error ⟨400, "MISSING_TABLE", "Missing table."⟩
  else if m.tenantId = "" then .error ⟨400, "MISSING_TENANT_ID", "Missing tenantId."⟩
  else if m.partitionKey = "" then .error ⟨400, "MISSING_PARTITION_KEY", "Missing partitionKey."⟩
  else
    match m.op with
    | .unknown text => .error ⟨400, "UNKNOWN_OP", "Unknown op: " ++ text⟩
    | _ =>
      unsafeIdentifier "where" m.conditions.keys
      unsafeIdentifier "values" m.given.keys
      unsafeIdentifier "conflictColumns" (m.conflictColumns.getD [])
      partitionKeyConflict "where" k m.partitionKey (m.conditions.get? k)
      partitionKeyConflict "values" k m.partitionKey (m.given.get? k)
      validateValues m k

theorem bind_ok {ε α β : Type} {x : Except ε α} {f : α → Except ε β} {b : β}
    (h : (x >>= f) = .ok b) : ∃ a, x = .ok a ∧ f a = .ok b := by
  cases x with
  | error e => cases h
  | ok a => exact ⟨a, rfl, h⟩

/-- a partition key among the values of a mutation that passes is the declared one -/
theorem given_key {m : StructuredMutation} {k : String} (h : validateMutation m k = .ok ()) {v : JsValue}
    (hv : m.given.get? k = some v) : v = .string m.partitionKey := by
  have hconflict : partitionKeyConflict "values" k m.partitionKey (m.given.get? k) = .ok () := by
    unfold validateMutation at h
    split_ifs at h
    split at h
    · cases h
    · obtain ⟨_, -, h⟩ := bind_ok h
      obtain ⟨_, -, h⟩ := bind_ok h
      obtain ⟨_, -, h⟩ := bind_ok h
      obtain ⟨_, -, h⟩ := bind_ok h
      obtain ⟨_, hvalues, -⟩ := bind_ok h
      exact hvalues
  rw [hv] at hconflict
  by_contra hne
  simp [partitionKeyConflict, hne] at hconflict

/-! ## compilation -/

structure Compiled where
  statement : Statement
  params : List JsValue

/-- the partition key first, then what the caller asks for besides it -/
def mutationWhereClause (m : StructuredMutation) (k : String) : List (String × JsValue) :=
  (k, .string m.partitionKey) :: m.conditions.entries.filter fun p => p.1 ≠ k

def insertedValues (m : StructuredMutation) (k : String) : Object JsValue :=
  m.given.set k (.string m.partitionKey)

def conflictColumns (m : StructuredMutation) (k : String) : List String :=
  match m.conflictColumns with
  | some (c :: rest) => c :: rest
  | _ => [k]

def upsertClause (columns conflictCols : List String) : Conflict :=
  let updateCols := columns.filter fun c => !conflictCols.contains c
  if updateCols.isEmpty then .doNothing conflictCols else .doUpdate conflictCols updateCols

/-- what an update sets -/
def setValues (m : StructuredMutation) (k : String) : List (String × JsValue) :=
  m.given.entries.filter fun p => p.1 ≠ k

/-- `none` where the source throws on an unsafe table name or leaves its switch -/
def compileMutation (m : StructuredMutation) (k : String) : Option Compiled :=
  if isIdentifier m.table then
    match m.op with
    | .insert =>
      let values := insertedValues m k
      some ⟨.insert m.table values.keys .abort, values.entries.map Prod.snd⟩
    | .upsert =>
      let values := insertedValues m k
      some ⟨.insert m.table values.keys (upsertClause values.keys (conflictColumns m k)),
        values.entries.map Prod.snd⟩
    | .update =>
      let conditions := mutationWhereClause m k
      some ⟨.update m.table ((setValues m k).map Prod.fst) (conditions.map Prod.fst),
        (setValues m k).map Prod.snd ++ conditions.map Prod.snd⟩
    | .delete =>
      let conditions := mutationWhereClause m k
      some ⟨.delete m.table (conditions.map Prod.fst), conditions.map Prod.snd⟩
    | .unknown _ => none
  else none

/-! ## execution -/

/-- `sql.exec` takes a JavaScript value as a parameter, or throws -/
structure Binding where
  rules : Rules
  bind : JsValue → Option Value
  bind_string : ∀ s, bind (.string s) = some (.text s)

/-- texts and NULL only, so that no number is read or written -/
def plainBinding : Binding where
  rules := textRules
  bind
    | .null => some .null
    | .string s => some (.text s)
    | .number x => some (.real x)
    | _ => none
  bind_string _ := rfl

/-- `sql.exec(compiled.sql, ...compiled.params)` -/
def Compiled.exec (B : Binding) (c : Compiled) (t : Table) : Except SqlError Table :=
  match c.params.mapM B.bind with
  | some params => c.statement.exec B.rules params t
  | none => .error .parameter

/-- the table afterwards, and how many rows were changed -/
def Compiled.run (B : Binding) (c : Compiled) (t : Table) : Except SqlError (Table × Nat) :=
  match c.params.mapM B.bind with
  | some params => do
    let t' ← c.statement.exec B.rules params t
    let n ← c.statement.changes B.rules params t
    return (t', n)
  | none => .error .parameter

theorem run_ok {B : Binding} {c : Compiled} {t t' : Table} {n : Nat} (h : c.run B t = .ok (t', n)) :
    ∃ params, c.params.mapM B.bind = some params ∧ c.statement.exec B.rules params t = .ok t' ∧
      c.statement.changes B.rules params t = .ok n := by
  unfold Compiled.run at h
  split at h
  · rename_i params hparams
    cases ht : c.statement.exec B.rules params t with
    | error e => simp [ht, bind, Except.bind] at h
    | ok t₁ =>
      cases hn : c.statement.changes B.rules params t with
      | error e => simp [ht, hn, bind, Except.bind] at h
      | ok n₁ =>
        simp only [ht, hn, bind, Except.bind, pure, Except.pure, Except.ok.injEq, Prod.mk.injEq] at h
        obtain ⟨rfl, rfl⟩ := h
        exact ⟨params, hparams, ht, hn⟩
  · cases h

/-- nothing was changed -/
theorem run_zero {B : Binding} {c : Compiled} {t t' : Table} (h : c.run B t = .ok (t', 0)) :
    t'.rows = t.rows ∧ t'.schema = t.schema := by
  obtain ⟨params, -, hexec, hn⟩ := run_ok h
  exact changes_zero hexec hn

end StructuredOp
