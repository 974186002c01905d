import CloudflareShard.Async.Barrier
import CloudflareShard.Contracts.Participant

/-!
# The durable state of a shard

A shard owns the base tables of its rows and, next to them, what it keeps about transactions it takes
part in, about direct writes and about restore checkpoints.  The base tables are a parameter `D`: the
SQL of a statement is run by the engine and read by nothing else.

* `PendingIntent`, `RowLock`, `ParticipantTombstone`   what a participant keeps of a transaction;
* `AppliedRequest`, `JournalEntry`, `RowOwner`         what a direct write leaves;
* `Checkpoint`, `CheckpointMeta`, `Bookmark`           restore checkpoints;
* `Store`, `Engine`, `Digests`, `Bindings`             the store and the code around it;
* `acquireMutationBarrier`, `mutation`                 the barrier, and a write inside it.
-/

namespace Shard
open Async Contracts

/-! ## rows -/

inductive IntentStatus where
  | prepared
  | committed
  | aborted
  deriving DecidableEq

/-- the routing columns are missing in rows that the predecessor schema left, and so are the version,
the epoch and the hash: such a row reads as version 0, epoch 1 and the empty hash -/
structure PendingIntent where
  coordinatorTxId : TxId
  intentSeq : Nat
  sql : String
  params : List JsonPrimitive
  status : IntentStatus
  lockKeys : List RowKey
  preparedAt : Nat
  tenantId : Option String
  tableName : Option String
  partitionKey : Option String
  vbucket : Option Nat
  op : Option StructuredMutationKind
  mirrorTargetShardId : Option ShardId
  protocolVersion : Nat
  epoch : Nat
  operationHash : Hash
  deriving DecidableEq

structure RowLock where
  lockKey : RowKey
  coordinatorTxId : TxId
  acquiredAt : Nat
  deriving DecidableEq

structure RowOwner where
  tableName : String
  partitionKey : String
  tenantId : String
  vbucket : Nat
  updatedAt : Nat
  deriving DecidableEq

structure MirrorJob where
  jobId : Nat
  targetShardId : ShardId
  sql : String
  params : List JsonPrimitive
  requestId : String
  vbucket : Nat
  tenantId : String
  tableName : String
  partitionKey : String
  clientRequestId : Option String
  nextAttemptAt : Nat
  attemptCount : Nat
  deriving DecidableEq

structure MutationResult where
  rowsAffected : Nat
  executeMs : Nat
  deriving DecidableEq

structure AppliedRequest where
  requestId : String
  requestHash : Hash
  result : MutationResult
  appliedAt : Nat
  deriving DecidableEq

inductive DirectWriteKind where
  | mirror
  | index
  | direct
  deriving DecidableEq

structure JournalEntry where
  sequence : Nat
  requestId : String
  requestHash : Hash
  writeHash : Hash
  kind : DirectWriteKind
  appliedAtMs : Nat
  expiresAtMs : Nat
  deriving DecidableEq

structure Coverage where
  coverageStartMs : Nat
  journaledThroughMs : Nat
  journaledThroughSequence : Nat
  deriving DecidableEq

/-- a bookmark of the provider, as the point of the history that it restores: the direct writes up to
`sequence`, and the first `mutations` mutations of any kind -/
structure Bookmark where
  sequence : Nat
  mutations : Nat
  deriving DecidableEq

structure Checkpoint where
  checkpointAtMs : Nat
  bookmark : Bookmark
  deriving DecidableEq

structure CheckpointMeta where
  dirty : Bool
  coverageStartMs : Option Nat
  deriving DecidableEq

structure BookmarkMarker where
  txId : TxId
  preMarkerBookmark : Bookmark
  recordedAtMs : Nat
  deriving DecidableEq

structure RestoreState where
  restoreId : String
  generation : Nat
  phase : String
  deriving DecidableEq

/-! ## calls -/

structure RestoreClaim where
  restoreId : Option String
  generation : Option Nat
  deriving DecidableEq

/-- what a coordinator answers to `/tx-status` -/
inductive CoordinatorReply where
  | refused
  | malformed
  | absent
  | discarded
  | found (status : TransactionState) (epoch : Nat) (operationHash : Hash) (commitAuthorized : Bool)
  deriving DecidableEq

inductive GateReply where
  | refused (status : Nat)
  | malformed
  | snapshot (active : Bool) (restoreId : Option String) (generation : Nat)

/-- what a bookmark is taken for -/
inductive BookmarkUse where
  | checkpoint
  | marker
  | preview
  | fence

inductive Ask where
  | gate (claim : Option (String × Nat))
  | currentBookmark (use : BookmarkUse) (bookmark : Bookmark)
  /-- the digest that a direct write is journaled under -/
  | writeHash
  | coordinatorDecision (txId : TxId)
  | deliverMirror (job : MirrorJob)

/-- a rejected promise is an `error` -/
def Ask.Answer : Ask → Type
  | gate _ => Except Unit GateReply
  | currentBookmark _ _ => Except Unit Unit
  | writeHash => Unit
  | coordinatorDecision _ => Except Unit CoordinatorReply
  | deliverMirror _ => Except Unit Bool

inductive ShardError where
  | contract (error : TransactionProtocolError)
  | error (message : String)

/-! ## results -/

/-- the JSON body of a response -/
inductive Body where
  | protocol (error : TransactionProtocolError)
  | failure (code message : String) (fix : Option String) (retryAfterMs : Option Nat)
  | fenced (restoreId : Option String) (generation : Nat)
  | message (error : String)
  | ok
  | prepared (prepared : Nat) (legacyAdopted : Option Bool) (prepareBookmark : Option Bookmark)
      (prepareCheckpointExact : Bool)
  | alreadyResolved (epoch : Option Nat)
  | legacyDiscarded (aborted : Nat)
  | remaining (jobs : Nat)
  | recovered (status : IntentStatus) (epoch : Nat)
  | txAbsent (prepareBookmarkPresent : Option Bool)
  | txStatus (status : IntentStatus) (decision : Option ParticipantDecision) (epoch : Nat)
      (prepareBookmarkPresent : Option Bool)
  | mutation (duplicated : Bool) (result : MutationResult)
  | query (rows : List (List JsonPrimitive)) (executeMs : Nat)
  | restoreFence (restoreId : String) (generation : Nat) (closedThrough : Option (Nat × Bookmark))
  | preview (target current : Bookmark) (coverageStart checkpointAt journaledThrough : Nat)
      (journaledThroughSequence : Nat)

structure Response where
  status : Nat
  body : Body

def json (body : Body) (status : Nat := 200) : Response := { status, body }

def protocolResponse (error : TransactionProtocolError) : Response :=
  json (.protocol error) error.httpStatus

/-! ## the store -/

/-- `applied` records whose intents were run on the base tables, `pruned` whose tombstones were
dropped, and `mutations` counts the writes; the barrier is in memory -/
structure Store (D : Type) where
  data : D
  pending : List PendingIntent
  locks : List RowLock
  tombstones : List ParticipantTombstone
  owners : List RowOwner
  mirrors : List MirrorJob
  nextJobId : Nat
  appliedRequests : List AppliedRequest
  journal : List JournalEntry
  journalSequence : Nat
  coverage : Coverage
  checkpoints : List Checkpoint
  checkpointMeta : CheckpointMeta
  markers : List BookmarkMarker
  fencedVbuckets : List Nat
  fencedIndexRings : List String
  restoreState : Option RestoreState
  alarm : Option Nat
  now : Nat
  applied : List TxId
  pruned : List TxId
  mutations : Nat
  barrier : Barrier

variable {D : Type}

def Store.empty (data : D) : Store D :=
  { data, pending := [], locks := [], tombstones := [], owners := [], mirrors := [], nextJobId := 1
    appliedRequests := [], journal := [], journalSequence := 0
    coverage := { coverageStartMs := 0, journaledThroughMs := 0, journaledThroughSequence := 0 }
    checkpoints := [], checkpointMeta := { dirty := true, coverageStartMs := none }, markers := []
    fencedVbuckets := [], fencedIndexRings := [], restoreState := none, alarm := none, now := 0
    applied := [], pruned := [], mutations := 0, barrier := .fresh }

/-- a restarted object has its tables and its alarm -/
def Store.restart (s : Store D) : Store D := { s with barrier := .fresh }

/-- the point of the history that a bookmark taken now restores -/
def Store.bookmark (s : Store D) : Bookmark :=
  { sequence := s.journalSequence, mutations := s.mutations }

/-- the rows of a table are listed in the order of its primary key -/
def Store.intentsOf (s : Store D) (txId : TxId) : List PendingIntent :=
  s.pending.filter (·.coordinatorTxId == txId)

def Store.tombstoneOf (s : Store D) (txId : TxId) : Option ParticipantTombstone :=
  s.tombstones.find? (·.txId == txId)

def Store.lockOf (s : Store D) (lockKey : RowKey) : Option RowLock :=
  s.locks.find? (·.lockKey == lockKey)

/-- the SQL engine under the base tables: a statement fails, or changes the tables and the number of
rows that `changes()` reports -/
structure Engine (D : Type) where
  exec : String → List JsonPrimitive → D → Except String (D × Nat)
  query : String → List JsonPrimitive → D → Except String (List (List JsonPrimitive))
  isMutation : String → Bool
  isDeleteStatement : String → Bool

/-- what `hashCanonicalJson` is asked to digest -/
inductive Digested where
  | legacyTerminal (kind : String) (txId : TxId)
  | intents (intents : List BeginIntent)
  | directWrite (requestId : String) (requestHash : Hash) (kind : DirectWriteKind)
      (tenantId tableName partitionKey : Option String) (vbucket : Option Nat)

structure Digests where
  hashCanonicalJson : Digested → Hash
  requestHash : String → List JsonPrimitive → Hash

structure Bindings where
  restoreCoordinator : Bool

abbrev Sh (D : Type) := Prog (Store D) Ask Ask.Answer ShardError

section
variable {α : Type}

def liftContract : Except TransactionProtocolError α → Sh D α
  | .ok a => .pure a
  | .error e => .throw (.contract e)

def contractViolation (code : TransactionErrorCode) (message : String) : Sh D α :=
  .throw (.contract (transactionError code message))

def gets (f : Store D → α) : Sh D α := .step id fun s => .pure (f s)

def dateNow : Sh D Nat := gets (·.now)

/-- a `transactionSync` that writes: it is counted when it goes through -/
def mutation (f : Store D → Except ShardError (α × Store D)) : Sh D α :=
  .transact fun s => (f s).map fun r => (r.1, { r.2 with mutations := r.2.mutations + 1 })

/-- a statement that cannot fail, as a write -/
def mutate (f : Store D → Store D) : Sh D Unit := mutation fun s => .ok ((), f s)

end

/-! ## the barrier -/

/-- the release function that the source returns is the number of the promise here -/
def acquireMutationBarrier {α : Type} (k : Nat → Sh D α) : Sh D α :=
  .step (fun s => { s with barrier := s.barrier.take }) fun s =>
    .wait (fun s' => s'.barrier.released.contains s.barrier.tail) (k (s.barrier.tail + 1))

def releaseMutationBarrier (ticket : Nat) (s : Store D) : Store D :=
  { s with barrier := s.barrier.release ticket }

/-! ## alarms and bookmarks -/

def setAlarm (at_ : Nat) : Sh D Unit := do
  .modify ({ · with alarm := some at_ })
  .pause

def setAlarmNoLater (at_ : Nat) : Sh D Unit := do
  let existing ← gets (·.alarm)
  .pause
  if existing.all (at_ < ·) then setAlarm at_ else return ()

def mirrorJobBaseDelayMs : Nat := 1000
def mirrorJobMaxDelayMs : Nat := 60000
def mirrorJobBatchSize : Nat := 20

def scheduleMirrorAlarmSoon : Sh D Unit := do
  let now ← dateNow
  setAlarmNoLater (now + mirrorJobBaseDelayMs)

/-- the provider fixes the bookmark when it is asked, and answers later -/
def getCurrentBookmark (use : BookmarkUse) : Sh D Bookmark := do
  let bookmark ← gets Store.bookmark
  match ← .call (.currentBookmark use bookmark) .pure with
  | .ok () => return bookmark
  | .error () => .throw (.error "bookmark unavailable")

end Shard
