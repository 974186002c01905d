import CloudflareShard.Gateway.IndexDelivery

/-!
# Transactions at the gateway

A batch of mutations becomes intents for the shards: the compiled statements and, where a table is
indexed, the index writes that go with them.  These are computed before anything is executed, from a
simulation of the rows.

* `Routed`, `TxIntent`          what `/route` answers, and what a participant is asked to do;
* `simulatedRowMatchesWhere`, `beforeMutation`, `afterMutation`   the simulated row;
* `txMutation`, `txCore`        the loop over the batch;
* `TxIntent.exec`, `Committed`  what the participants do.
-/

namespace StructuredOp
open Json Sqlite DataPlane

/-- the answer of `/route`, for an indexed or plain table -/
structure Routed where
  shardId : String
  vbucket : Nat
  partitionKeyColumn : Option String
  indexes : List IndexDefinition
  named : (indexes.map IndexDefinition.indexName).Nodup
  nonempty : ∀ i ∈ indexes, i.columns ≠ []

def Routed.k (route : Routed) : String := route.partitionKeyColumn.getD unsetPartitionKeyColumn

/-- a mutation of a base row -/
structure BaseIntent where
  compiled : Compiled
  tenantId : String
  table : String
  partitionKey : String
  vbucket : Nat
  op : MutationOp

inductive TxIntent where
  | base (i : BaseIntent)
  | index (write : IndexWrite)

structure GatewayError where
  status : Nat
  code : String
  message : String
  fix : Option String
  deriving DecidableEq

/-- `thrown` where `compileMutation` throws -/
inductive TxRefusal where
  | refused (e : GatewayError)
  | thrown
  deriving DecidableEq

/-- a shard as far as transactions write it -/
structure ShardState where
  data : Data
  entries : List IndexEntry

abbrev Cluster : Type := String → ShardState

structure Gateway where
  platform : Platform
  binding : Binding
  /-- by tenant, table and partition key -/
  route : String → String → String → Except GatewayError Routed

/-! ## the simulated row -/

/-- `===` of two values that were parsed apart -/
def strictEq : JsValue → JsValue → Bool
  | .structured _, _ => false
  | v, w => v = w

def simulatedRowMatchesWhere (row : Option (Object JsValue)) (where_ : Object JsValue) : Bool :=
  match row with
  | none => false
  | some row => where_.entries.all fun p => ((row.get? p.1).map fun v => strictEq v p.2).getD false

/-- `{ ...a, ...b }` -/
def spread (a b : Object JsValue) : Object JsValue := b.entries.foldl (fun o p => o.set p.1 p.2) a

/-- the intents in the order in which they were added, and `simulatedRowState` -/
structure TxState where
  intents : List (String × TxIntent)
  simulated : String → Option (Option (Object JsValue))

def TxState.start : TxState := ⟨[], fun _ => none⟩

variable (G : Gateway) (C : Cluster)

/-- the row as the shard has it before the transaction; `ok` says whether the shard answers -/
def committedRow (route : Routed) (m : StructuredMutation) (ok : Bool) : Option (Object JsValue) :=
  if ok then
    ((C route.shardId).data.table m.table).bind fun t =>
      preRead G.binding.rules t route.k m.partitionKey (indexedColumns route.indexes)
  else none

def rawRow (route : Routed) (m : StructuredMutation) (ok : Bool) (s : TxState) :
    Option (Object JsValue) :=
  if indexedColumns route.indexes ≠ [] ∧ m.op ≠ .insert then
    match s.simulated (participantKey m) with
    | some row => row
    | none => committedRow G C route m ok
  else none

/-- whether the mutation is taken to find its row -/
def matched (m : StructuredMutation) (raw : Option (Object JsValue)) : Bool :=
  match m.op with
  | .update | .delete => simulatedRowMatchesWhere raw m.conditions
  | _ => true

def nextRow (m : StructuredMutation) (k : String) (raw : Option (Object JsValue)) :
    Option (Object JsValue) :=
  match m.op with
  | .insert => some (m.given.set k (.string m.partitionKey))
  | op =>
    if matched m raw then
      if op = .delete then none
      else some ((spread (raw.getD .empty) m.given).set k (.string m.partitionKey))
    else raw

/-! ## the loop -/

def missingFields : GatewayError :=
  ⟨400, "MISSING_FIELDS", "Each mutation requires table, tenantId, partitionKey.", none⟩

def validated (m : StructuredMutation) (route : Routed) : Except TxRefusal Unit :=
  match validateMutation m route.k with
  | .error e => .error (.refused
      ⟨e.status, e.code, e.error, some "Check the request against the error message above."⟩)
  | .ok () =>
    match requireIndexedColumnsForInsert m.op (indexedColumns route.indexes) m.values with
    | some (code, message, fix) => .error (.refused ⟨400, code, message, some fix⟩)
    | none => .ok ()

/-- the row that the mutation is about, as index maintenance sees it -/
def Routed.target (route : Routed) (m : StructuredMutation) : Delivery.Target where
  platform := G.platform
  binding := G.binding
  table := m.table
  tenantId := m.tenantId
  partitionKey := m.partitionKey
  partitionKeyColumn := route.k
  baseShardId := route.shardId
  indexes := route.indexes
  named := route.named

def indexWrites (route : Routed) (m : StructuredMutation) (raw : Option (Object JsValue)) :
    List (String × IndexWrite) :=
  (computeIndexDeltas G.platform route.indexes m.op (if matched m raw then raw else none)
    (if m.op = .delete then none else m.values)).flatMap (route.target G m).deltaWrites

/-- one turn of the loop -/
def txMutation (s : TxState) (m : StructuredMutation) (ok : Bool) : Except TxRefusal TxState :=
  if m.table = "" ∨ m.tenantId = "" ∨ m.partitionKey = "" then .error (.refused missingFields)
  else match G.route m.tenantId m.table m.partitionKey with
  | .error e => .error (.refused e)
  | .ok route =>
    match validated m route, compileMutation m route.k with
    | .error e, _ => .error e
    | .ok (), none => .error .thrown
    | .ok (), some compiled =>
      let raw := rawRow G C route m ok s
      .ok
        { intents := s.intents ++ (route.shardId, .base
            { compiled, tenantId := m.tenantId, table := m.table, partitionKey := m.partitionKey
              vbucket := route.vbucket, op := m.op }) ::
            (indexWrites G route m raw).map fun p => (p.1, .index p.2)
          simulated := fun key =>
            if key = participantKey m ∧ indexedColumns route.indexes ≠ [] then some (nextRow m route.k raw)
            else s.simulated key }

def maxTxParticipantKeys : Nat := 8

structure StructuredOperation where
  requestId : String
  mutations : List StructuredMutation

def txRefusal (body : StructuredOperation) : Option GatewayError :=
  let distinctKeys := (body.mutations.map participantKey).eraseDups.length
  if body.mutations = [] then
    some ⟨400, "MISSING_MUTATIONS", "mutations must be a non-empty array.", none⟩
  else if body.requestId = "" then
    some ⟨400, "MISSING_REQUEST_ID", "Missing requestId.",
      some "Provide a client-generated requestId for idempotent retries."⟩
  else if Delivery.reservedRequestIdPrefix.toList.isPrefixOf body.requestId.toList then
    some ⟨400, "RESERVED_REQUEST_ID", "requestId must not start with the reserved prefix \"" ++
      Delivery.reservedRequestIdPrefix ++ "\".", some "Use a different requestId."⟩
  else if maxTxParticipantKeys < distinctKeys then
    some ⟨400, "TOO_MANY_PARTICIPANTS", "Transaction touches " ++ toString distinctKeys ++
      " distinct rows, exceeding the cap of " ++ toString maxTxParticipantKeys ++ ".",
      some "Split this into multiple smaller transactions."⟩
  else none

/-- what goes to `/begin`; each mutation comes with whether its pre-read is answered -/
def txCore (requestId : String) (mutations : List (StructuredMutation × Bool)) :
    Except TxRefusal (List (String × TxIntent)) :=
  match txRefusal ⟨requestId, mutations.map Prod.fst⟩ with
  | some e => .error (.refused e)
  | none => (mutations.foldlM (fun s p => txMutation G C s p.1 p.2) TxState.start).map TxState.intents

/-! ## participants -/

/-- by the kind of statement, which the shard reads off its text -/
def writeOrDeleteProvenance (i : BaseIntent) (D : Data) : Data :=
  match i.compiled.statement with
  | .delete .. => deleteRowOwner i.table i.partitionKey D
  | _ => upsertRowOwner ⟨i.table, i.partitionKey, i.tenantId, i.vbucket⟩ D

/-- `none` where the statement fails, or where an update or a delete finds no row: the participant
then does not prepare -/
def BaseIntent.exec (B : Binding) (i : BaseIntent) (D : Data) : Option Data := do
  let t ← D.table i.table
  let (t', n) ← (i.compiled.run B t).toOption
  if n = 0 then
    if i.op = .update ∨ i.op = .delete then none else some (setTable i.table t' D)
  else some (writeOrDeleteProvenance i (setTable i.table t' D))

def TxIntent.exec (B : Binding) (i : TxIntent) (S : ShardState) : Option ShardState :=
  match i with
  | base i => (i.exec B S.data).map fun D => { S with data := D }
  | index write => some { S with entries := write.exec S.entries }

/-- the intents of one participant -/
def participantIntents (intents : List (String × TxIntent)) (shard : String) : List TxIntent :=
  (intents.filter fun p => p.1 = shard).map Prod.snd

def applyIntents (B : Binding) (intents : List TxIntent) (S : ShardState) : Option ShardState :=
  intents.foldlM (fun S i => i.exec B S) S

/-- every participant prepares and commits, with no other writer -/
def Committed (B : Binding) (intents : List (String × TxIntent)) (C C' : Cluster) : Prop :=
  ∀ shard, applyIntents B (participantIntents intents shard) (C shard) = some (C' shard)

end StructuredOp
