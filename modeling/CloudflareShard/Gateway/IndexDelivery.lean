import CloudflareShard.Gateway.Indexes

/-!
# Index maintenance of one row

Mutations of one row come one after the other.  Each sends its index writes after the reply; a write
that fails waits on the base shard and is sent again, by an alarm, until it is acknowledged.

* `Target`, `World`             the row, and the shards that hold it and its entries;
* `mutate`, `post`, `arrive`, `giveUp`   a mutation, and what becomes of its index writes;
* `Event`, `next`, `run`        what can happen;
* `Indexed`                     every index has the entry of the row's current key;
* `Orderly`                     what a step must find for that;
* `indexed_of_quiescent`        **then a quiescent state is indexed**;
* `late_delete`                 a delayed delete that meets a later insert of its key.
-/

namespace StructuredOp.Delivery
open Json Sqlite DataPlane StructuredOp

/-- the row that all mutations are about, and the indexes of its table -/
structure Target where
  platform : Platform
  binding : Binding
  table : String
  tenantId : String
  partitionKey : String
  partitionKeyColumn : String
  baseShardId : String
  indexes : List IndexDefinition
  named : (indexes.map IndexDefinition.indexName).Nodup

/-- an index write under its request id, a number that is drawn once -/
structure IndexJob where
  targetShardId : String
  write : IndexWrite
  requestId : Nat
  deriving DecidableEq

/-- a mutation that the base shard has applied -/
structure AppliedRequest where
  requestId : String
  sql : String
  params : List JsValue
  rowsAffected : Nat

/-- `sending` are the writes that the gateway attempts after its replies, `pending` the table
`index_pending_jobs` of the base shard, `flying` the requests under way, `done` what is in
`applied_requests` of an index shard -/
structure World where
  rows : Table
  applied : List AppliedRequest
  entries : String → List IndexEntry
  done : String → List Nat
  sending : List IndexJob
  pending : List IndexJob
  flying : List IndexJob
  nextId : Nat

/-- what a client asks for; the row is always the same -/
structure RowOperation where
  op : MutationOp
  where_ : Option (Object JsValue)
  values : Option (Object JsValue)
  conflictColumns : Option (List String)

variable (T : Target)

def Target.mutation (o : RowOperation) : StructuredMutation where
  op := o.op
  table := T.table
  tenantId := T.tenantId
  partitionKey := T.partitionKey
  where_ := o.where_
  values := o.values
  conflictColumns := o.conflictColumns

/-! ## index writes -/

/-- `/execute` on an index shard; a request that was applied there is answered as a duplicate -/
def execute (job : IndexJob) (w : World) : World :=
  if job.requestId ∈ w.done job.targetShardId then w
  else { w with
    entries := fun shard => if shard = job.targetShardId then job.write.exec (w.entries shard)
      else w.entries shard
    done := fun shard => if shard = job.targetShardId then job.requestId :: w.done shard
      else w.done shard }

/-- `none` where an index has no pinned ring -/
def Target.ringOf (indexName : String) : Option (List String) :=
  ((T.indexes.find? fun i => i.indexName = indexName).map IndexDefinition.ring).filter (· ≠ [])

/-- the entry id of the row under a key -/
def Target.entryId (indexName keyJson : String) : String × String × String × String :=
  (T.table, indexName, keyJson, T.partitionKey)

def Target.entry (indexName keyJson : String) : IndexEntry where
  tableName := T.table
  indexName := indexName
  indexKeyJson := keyJson
  partitionKey := T.partitionKey
  sourceShardId := T.baseShardId
  tenantId := T.tenantId

/-- the writes of one delta, the delete first -/
def Target.deltaWrites (d : IndexDelta) : List (String × IndexWrite) :=
  match T.ringOf d.indexName with
  | none => []
  | some ring =>
    (d.oldKeyJson.map fun key => (indexShardIdForKey T.table d.indexName key ring,
      IndexWrite.delete (T.entryId d.indexName key))).toList ++
    (d.newKeyJson.map fun key => (indexShardIdForKey T.table d.indexName key ring,
      IndexWrite.insert (T.entry d.indexName key))).toList

def dispatch (writes : List (String × IndexWrite)) (w : World) : World :=
  { w with
    sending := w.sending ++ writes.mapIdx fun i p => ⟨p.1, p.2, w.nextId + i⟩
    nextId := w.nextId + writes.length }

/-! ## mutations -/

/-- `/execute` of a mutation on the base shard: what was applied is answered again, and refused when
the statement is another one -/
def executeBase (c : Compiled) (requestId : String) (w : World) : Option (World × Nat) :=
  match w.applied.find? fun a => a.requestId = requestId with
  | some prior =>
    if prior.sql = c.statement.sql ∧ prior.params = c.params then some (w, prior.rowsAffected) else none
  | none =>
    match c.run T.binding w.rows with
    | .ok (rows, n) =>
      some ({ w with rows, applied := w.applied ++ [⟨requestId, c.statement.sql, c.params, n⟩] }, n)
    | .error _ => none

def reservedRequestIdPrefix : String := "__cf:"

/-- the row as the gateway believes it to be before the mutation -/
def beforeRow (o : RowOperation) (preReadOk : Bool) (w : World) : Option (Object JsValue) :=
  if indexedColumns T.indexes ≠ [] ∧ (o.op = .update ∨ o.op = .delete ∨ o.op = .upsert) ∧ preReadOk then
    preRead T.binding.rules w.rows T.partitionKeyColumn T.partitionKey (indexedColumns T.indexes)
  else none

def afterValues (o : RowOperation) : Option (Object JsValue) := if o.op = .delete then none else o.values

/-- the statement of a mutation that passes the checks -/
def Target.compiled (o : RowOperation) (requestId : String) : Option Compiled :=
  match validateMutation (T.mutation o) T.partitionKeyColumn,
      requireIndexedColumnsForInsert o.op (indexedColumns T.indexes) o.values with
  | .ok _, none =>
    if reservedRequestIdPrefix.toList.isPrefixOf requestId.toList then none
    else compileMutation (T.mutation o) T.partitionKeyColumn
  | _, _ => none

/-- the index writes of a mutation -/
def mutationWrites (o : RowOperation) (preReadOk : Bool) (w : World) : List (String × IndexWrite) :=
  (computeIndexDeltas T.platform T.indexes o.op (beforeRow T o preReadOk w) (afterValues o)).flatMap
    T.deltaWrites

/-- `preReadOk` and `answered` say whether the base shard's replies came back -/
def mutate (o : RowOperation) (requestId : String) (preReadOk answered : Bool) (w : World) : World :=
  match T.compiled o requestId with
  | none => w
  | some c =>
    match executeBase T c requestId w with
    | none => w
    | some (w', n) => if answered ∧ 0 < n then dispatch (mutationWrites T o preReadOk w) w' else w'

/-! ## deliveries -/

/-- a request is under way to its index shard -/
def post (job : IndexJob) (w : World) : World := { w with flying := w.flying ++ [job] }

/-- the request arrives; with the answer the sender is done, be it `writeIndexEntryBestEffort` or
`deliverIndexJob` -/
def arrive (job : IndexJob) (answered : Bool) (w : World) : World :=
  let w := execute job { w with flying := w.flying.erase job }
  if answered then { w with sending := w.sending.erase job, pending := w.pending.erase job } else w

/-- the first attempt has failed, also where the shard is fenced: the write waits on the base shard,
if that answers -/
def giveUp (job : IndexJob) (enqueued : Bool) (w : World) : World :=
  let w := { w with sending := w.sending.erase job }
  if enqueued then { w with pending := w.pending ++ [job] } else w

inductive Event where
  | mutate (o : RowOperation) (requestId : String) (preReadOk answered : Bool)
  | post (job : IndexJob)
  | arrive (job : IndexJob) (answered : Bool)
  | lose (job : IndexJob)
  | giveUp (job : IndexJob) (enqueued : Bool)
  /-- `applied_requests` is pruned on an index shard, on the base shard -/
  | prune (shard : String) (ids : List Nat)
  | pruneBase (requestIds : List String)
  /-- an index write of another row, a statement of another row -/
  | otherWrite (shard : String) (write : IndexWrite)
  | otherRows (rows : Table)

def next (w : World) : Event → World
  | .mutate o requestId preReadOk answered => mutate T o requestId preReadOk answered w
  | .post job => if job ∈ w.sending ++ w.pending then post job w else w
  | .arrive job answered => if job ∈ w.flying then arrive job answered w else w
  | .lose job => { w with flying := w.flying.erase job }
  | .giveUp job enqueued => if job ∈ w.sending then giveUp job enqueued w else w
  | .prune shard ids =>
    { w with done := fun s => if s = shard then (w.done s).filter (· ∉ ids) else w.done s }
  | .pruneBase requestIds => { w with applied := w.applied.filter fun a => a.requestId ∉ requestIds }
  | .otherWrite shard write =>
    { w with entries := fun s => if s = shard then write.exec (w.entries s) else w.entries s }
  | .otherRows rows => { w with rows }

def run : World → List Event → World
  | w, [] => w
  | w, e :: events => run (next T w e) events

/-! ## what is to hold -/

def World.jobs (w : World) : List IndexJob := w.sending ++ w.pending ++ w.flying

def rowsOf (t : Table) : List Row :=
  t.rows.filter (keyedRow T.binding.rules t.schema T.partitionKeyColumn T.partitionKey)

/-- the current key of the row under an index that has a ring -/
def Current (t : Table) (index : IndexDefinition) (key : String) : Prop :=
  index ∈ T.indexes ∧ index.ring ≠ [] ∧ ∃ r ∈ rowsOf T t, currentKeyJson T.platform t.schema index r = key

def shardOf (index : IndexDefinition) (key : String) : String :=
  indexShardIdForKey T.table index.indexName key index.ring

/-- the entry of a key is on its ring shard, in the row's tenant -/
def Present (w : World) (index : IndexDefinition) (key : String) : Prop :=
  ∃ e ∈ w.entries (shardOf T index key), e.id = T.entryId index.indexName key ∧ e.tenantId = T.tenantId

/-- an insert of the key has still to be executed -/
def Outstanding (w : World) (index : IndexDefinition) (key : String) : Prop :=
  ∃ job ∈ w.jobs, job.targetShardId = shardOf T index key ∧
    job.write = .insert (T.entry index.indexName key) ∧ job.requestId ∉ w.done job.targetShardId

def Quiescent (w : World) : Prop := w.jobs = []

/-- every index has the entry of the row's current key -/
def Indexed (w : World) : Prop := ∀ index key, Current T w.rows index key → Present T w index key

/-- or will have it -/
def Covered (w : World) : Prop :=
  ∀ index key, Current T w.rows index key → Present T w index key ∨ Outstanding T w index key

/-! ## what a step must find -/

/-- a write that meets the entry of a current key is its insert, or such an insert is still to come -/
def Harmless (w : World) (shard : String) (write : IndexWrite) : Prop :=
  ∀ index key, Current T w.rows index key → shardOf T index key = shard →
    write.id = T.entryId index.indexName key →
      write = .insert (T.entry index.indexName key) ∨ Outstanding T w index key

/-- an insert that is lost is of no current key, or its entry is there, or another one is to come -/
def Dispensable (w w' : World) (job : IndexJob) : Prop :=
  ∀ index key, Current T w.rows index key → job.write = .insert (T.entry index.indexName key) →
    Present T w index key ∨ Outstanding T w' index key

/-- the supplied values, over the row as the gateway has read it, make the key, and the row as read
did not have it -/
def Supplied (o : RowOperation) (preReadOk : Bool) (w : World) (index : IndexDefinition) (key : String) :
    Prop :=
  let before := beforeRow T o preReadOk w
  o.op ≠ .delete ∧ (o.op = .update → before.isSome) ∧
    array (index.columns.map fun c => stringify T.platform (newValue before (afterValues o) c)) = key ∧
    ∀ row ∈ before, array (index.columns.map fun c => stringify T.platform (property (some row) c)) ≠ key

/-- * a mutation leaves the row with a key that it had, or with one that the supplied values make, and
  then its reply comes back;
* a write that arrives is harmless, and so are the index writes of other rows;
* a request that is lost, and a write that is given up while the base shard does not take it either, is
  dispensable;
* statements of other rows leave the row's keys alone -/
def Meets (w : World) : Event → Prop
  | .mutate o requestId preReadOk answered =>
    ∀ index key, Current T (mutate T o requestId preReadOk answered w).rows index key →
      Current T w.rows index key ∨ answered = true ∧ Supplied T o preReadOk w index key
  | .arrive job _ => job.requestId ∉ w.done job.targetShardId →
      Harmless T w job.targetShardId job.write
  | .lose job => Dispensable T w { w with flying := w.flying.erase job } job
  | .giveUp job false => Dispensable T w { w with sending := w.sending.erase job } job
  | .otherWrite shard write => Harmless T w shard write
  | .otherRows rows => ∀ index key, Current T rows index key → Current T w.rows index key
  | _ => True

def Orderly : World → List Event → Prop
  | _, [] => True
  | w, e :: events => Meets T w e ∧ Orderly (next T w e) events

variable {T} {w w' : World} {job : IndexJob} {index : IndexDefinition} {key : String}

/-! ## the writes of a mutation -/

theorem ringOf_eq (hindex : index ∈ T.indexes) (hring : index.ring ≠ []) :
    T.ringOf index.indexName = some index.ring := by
  have hfind : T.indexes.find? (fun i => i.indexName = index.indexName) = some index := by
    cases h : T.indexes.find? fun i => i.indexName = index.indexName with
    | none =>
      have hne := List.find?_eq_none.mp h index hindex
      simp at hne
    | some i =>
      have hname : i.indexName = index.indexName := by simpa using List.find?_some h
      rw [List.inj_on_of_nodup_map T.named (List.mem_of_find?_eq_some h) hindex hname]
  simp [Target.ringOf, hfind, hring]

/-- a key that the supplied values make is inserted -/
theorem supplied_mem {o : RowOperation} {preReadOk : Bool} (hindex : index ∈ T.indexes)
    (hring : index.ring ≠ []) (h : Supplied T o preReadOk w index key) :
    (shardOf T index key, IndexWrite.insert (T.entry index.indexName key)) ∈
      mutationWrites T o preReadOk w := by
  obtain ⟨hop, hupdate, hkey, hold⟩ := h
  set before := beforeRow T o preReadOk w with hbefore
  set d := indexDelta T.platform o.op before (afterValues o) index with hd
  have hnew : d.newKeyJson = some key := by
    rw [hd, indexDelta, if_neg hop, hkey]
  have hchange : d.oldKeyJson ≠ d.newKeyJson := by
    rw [hnew]
    intro he
    obtain ⟨row, hrow, hrowkey⟩ := Option.map_eq_some_iff.mp (hd ▸ he)
    exact hold row hrow (hrow ▸ hrowkey)
  have hmem : d ∈ computeIndexDeltas T.platform T.indexes o.op before (afterValues o) := by
    have hsome : ¬ (o.op = .update ∧ before.isNone = true) := by
      intro hn
      have hs := hupdate hn.1
      simp [Option.isNone_iff_eq_none.mp hn.2] at hs
    rw [computeIndexDeltas, if_neg hsome]
    exact List.mem_filter.mpr ⟨List.mem_map_of_mem hindex, by simpa using hchange⟩
  refine List.mem_flatMap.mpr ⟨d, hmem, ?_⟩
  have hname : T.ringOf d.indexName = some index.ring := ringOf_eq hindex hring
  simp only [Target.deltaWrites, hname, hnew]
  exact List.mem_append_right _ (List.mem_singleton_self _)

/-! ## request ids -/

/-- no request id is used for two writes -/
structure Distinct (w : World) : Prop where
  done : ∀ shard, ∀ id ∈ w.done shard, id < w.nextId
  drawn : ∀ job ∈ w.jobs, job.requestId < w.nextId
  unique : ∀ job ∈ w.jobs, ∀ job' ∈ w.jobs, job.requestId = job'.requestId → job = job'

theorem Distinct.mono (h : Distinct w) (hjobs : ∀ job ∈ w'.jobs, job ∈ w.jobs)
    (hdone : ∀ shard, ∀ id ∈ w'.done shard, id ∈ w.done shard ∨ ∃ job ∈ w.jobs, id = job.requestId)
    (hnext : w'.nextId = w.nextId) : Distinct w' where
  done shard id hid := by
    rw [hnext]
    rcases hdone shard id hid with hold | ⟨job, hjob, rfl⟩
    · exact h.done shard id hold
    · exact h.drawn job hjob
  drawn job hjob := by
    rw [hnext]
    exact h.drawn job (hjobs job hjob)
  unique job hjob job' hjob' := h.unique job (hjobs job hjob) job' (hjobs job' hjob')

theorem mem_jobs : job ∈ w.jobs ↔ job ∈ w.sending ∨ job ∈ w.pending ∨ job ∈ w.flying := by
  simp [World.jobs]

theorem dispatch_jobs {writes : List (String × IndexWrite)} : job ∈ (dispatch writes w).jobs ↔
    job ∈ w.jobs ∨ ∃ i p, writes[i]? = some p ∧ job = ⟨p.1, p.2, w.nextId + i⟩ := by
  have hmap : job ∈ writes.mapIdx (fun i p => (⟨p.1, p.2, w.nextId + i⟩ : IndexJob)) ↔
      ∃ i p, writes[i]? = some p ∧ job = ⟨p.1, p.2, w.nextId + i⟩ := by
    rw [List.mem_mapIdx]
    constructor
    · rintro ⟨i, hi, rfl⟩
      exact ⟨i, writes[i], List.getElem?_eq_getElem hi, rfl⟩
    · rintro ⟨i, p, hp, rfl⟩
      obtain ⟨hi, rfl⟩ := List.getElem?_eq_some_iff.mp hp
      exact ⟨i, hi, rfl⟩
  rw [mem_jobs, mem_jobs, ← hmap, dispatch, List.mem_append]
  tauto

theorem Distinct.dispatch (h : Distinct w) (writes : List (String × IndexWrite)) :
    Distinct (Delivery.dispatch writes w) where
  done shard id hid := Nat.lt_of_lt_of_le (h.done shard id hid) (Nat.le_add_right _ _)
  drawn job hjob := by
    rcases dispatch_jobs.mp hjob with hold | ⟨i, p, hp, rfl⟩
    · exact Nat.lt_of_lt_of_le (h.drawn job hold) (Nat.le_add_right _ _)
    · obtain ⟨hi, -⟩ := List.getElem?_eq_some_iff.mp hp
      exact Nat.add_lt_add_left hi _
  unique job hjob job' hjob' hid := by
    rcases dispatch_jobs.mp hjob with hold | ⟨i, p, hp, rfl⟩ <;>
      rcases dispatch_jobs.mp hjob' with hold' | ⟨i', p', hp', rfl⟩
    · exact h.unique job hold job' hold' hid
    · have hlt := h.drawn job hold
      dsimp only at hid
      omega
    · have hlt := h.drawn job' hold'
      dsimp only at hid
      omega
    · obtain rfl : i = i' := by
        dsimp only at hid
        omega
      rw [hp] at hp'
      rw [Option.some.inj hp']

/-! ## steps -/

theorem dispatch_nil : dispatch [] w = w := by simp [dispatch]

/-- a mutation changes the rows, and then dispatches its writes if its reply comes back -/
theorem mutate_cases (T : Target) (o : RowOperation) (requestId : String) (preReadOk answered : Bool)
    (w : World) : ∃ rows applied writes,
      mutate T o requestId preReadOk answered w = dispatch writes { w with rows, applied } ∧
        (rows.rows = w.rows.rows ∧ rows.schema = w.rows.schema ∨
          (answered = true → writes = mutationWrites T o preReadOk w)) := by
  have hsame : mutate T o requestId preReadOk answered w = w → ∃ rows applied writes,
      mutate T o requestId preReadOk answered w = dispatch writes { w with rows, applied } ∧
        (rows.rows = w.rows.rows ∧ rows.schema = w.rows.schema ∨
          (answered = true → writes = mutationWrites T o preReadOk w)) :=
    fun he => ⟨w.rows, w.applied, [], he.trans dispatch_nil.symm, .inl ⟨rfl, rfl⟩⟩
  cases hc : T.compiled o requestId with
  | none => exact hsame (by simp [mutate, hc])
  | some c =>
    cases hprior : w.applied.find? fun a => a.requestId = requestId with
    | some prior =>
      by_cases hmatch : prior.sql = c.statement.sql ∧ prior.params = c.params
      · have hbase : executeBase T c requestId w = some (w, prior.rowsAffected) := by
          simp [executeBase, hprior, hmatch]
        by_cases hn : answered = true ∧ 0 < prior.rowsAffected
        · refine ⟨w.rows, w.applied, mutationWrites T o preReadOk w, ?_, .inl ⟨rfl, rfl⟩⟩
          simp only [mutate, hc, hbase, if_pos hn]
        · exact hsame (by simp only [mutate, hc, hbase, if_neg hn])
      · have hbase : executeBase T c requestId w = none := by
          simp [executeBase, hprior, hmatch]
        exact hsame (by simp only [mutate, hc, hbase])
    | none =>
      cases hrun : c.run T.binding w.rows with
      | error e =>
        have hbase : executeBase T c requestId w = none := by simp [executeBase, hprior, hrun]
        exact hsame (by simp only [mutate, hc, hbase])
      | ok result =>
        obtain ⟨rows, n⟩ := result
        have hbase : executeBase T c requestId w = some ({ w with rows, applied := w.applied ++ [⟨requestId, c.statement.sql, c.params, n⟩] }, n) := by
          simp [executeBase, hprior, hrun]
        by_cases hn : answered = true ∧ 0 < n
        · refine ⟨rows, w.applied ++ [⟨requestId, c.statement.sql, c.params, n⟩],
            mutationWrites T o preReadOk w, ?_, .inr fun _ => rfl⟩
          simp only [mutate, hc, hbase, if_pos hn]
        · refine ⟨rows, w.applied ++ [⟨requestId, c.statement.sql, c.params, n⟩], [], ?_, ?_⟩
          · simp only [mutate, hc, hbase, if_neg hn, dispatch_nil]
          · by_cases hanswered : answered = true
            · left
              obtain rfl : n = 0 := by
                by_contra hne
                exact hn ⟨hanswered, Nat.pos_of_ne_zero hne⟩
              exact run_zero hrun
            · exact .inr fun h => absurd h hanswered

theorem current_congr {t t' : Table} (hrows : t'.rows = t.rows) (hschema : t'.schema = t.schema) :
    Current T t' index key ↔ Current T t index key := by
  rw [Current, Current, rowsOf, rowsOf, hrows, hschema]

/-- what is outstanding stays so while its request has not been executed -/
theorem Outstanding.mono (h : Outstanding T w index key)
    (hjobs : ∀ job ∈ w.jobs, job.requestId ∉ w.done job.targetShardId → job ∈ w'.jobs ∧
      job.requestId ∉ w'.done job.targetShardId) : Outstanding T w' index key := by
  obtain ⟨job, hjob, htarget, hwrite, hdone⟩ := h
  obtain ⟨hjob', hdone'⟩ := hjobs job hjob hdone
  exact ⟨job, hjob', htarget, hwrite, hdone'⟩

theorem mutate_covered {o : RowOperation} {requestId : String} {preReadOk answered : Bool}
    (hd : Distinct w) (h : Covered T w) (hm : Meets T w (.mutate o requestId preReadOk answered)) :
    Covered T (mutate T o requestId preReadOk answered w) := by
  obtain ⟨rows, applied, writes, hmutate, hrows⟩ := mutate_cases T o requestId preReadOk answered w
  rw [Meets, hmutate] at hm
  rw [hmutate]
  intro index key hcurrent
  have hkept : Current T w.rows index key → Present T (dispatch writes { w with rows, applied }) index key ∨
      Outstanding T (dispatch writes { w with rows, applied }) index key := by
    intro hold
    rcases h index key hold with hpresent | hout
    · exact .inl hpresent
    · exact .inr (hout.mono fun job hjob hdone => ⟨dispatch_jobs.mpr (.inl hjob), hdone⟩)
  rcases hrows with ⟨hrows, hschema⟩ | hwrites
  · exact hkept ((current_congr hrows hschema).mp hcurrent)
  · rcases hm index key hcurrent with hold | ⟨hanswered, hsupplied⟩
    · exact hkept hold
    · right
      have hmem := supplied_mem hcurrent.1 hcurrent.2.1 hsupplied
      rw [← hwrites hanswered] at hmem
      obtain ⟨i, hi⟩ := List.mem_iff_getElem?.mp hmem
      refine ⟨⟨_, _, w.nextId + i⟩, dispatch_jobs.mpr (.inr ⟨i, _, hi, rfl⟩), rfl, rfl, fun hdone => ?_⟩
      have hlt := hd.done _ _ hdone
      dsimp only at hlt
      omega

/-- a write keeps the entry of a current key unless it takes it away -/
theorem Present.write {shard : String} {write : IndexWrite} (h : Present T w index key)
    (hentries : ∀ s, w'.entries s = if s = shard then write.exec (w.entries s) else w.entries s)
    (hclear : shardOf T index key = shard → write.id ≠ T.entryId index.indexName key) :
    Present T w' index key := by
  obtain ⟨e, he, hid, htenant⟩ := h
  refine ⟨e, ?_, hid, htenant⟩
  rw [hentries]
  split
  · rename_i hshard
    have hne := hclear hshard
    cases write with
    | delete id => exact mem_delete.mpr ⟨he, fun heq => hne (heq.symm.trans hid)⟩
    | insert e' => exact mem_insert.mpr (.inl ⟨he, fun heq => hne (heq.symm.trans hid)⟩)
  · exact he

theorem present_insert (hentries : w'.entries (shardOf T index key) =
    (IndexWrite.insert (T.entry index.indexName key)).exec (w.entries (shardOf T index key))) :
    Present T w' index key :=
  ⟨T.entry index.indexName key, hentries ▸ mem_insert.mpr (.inr rfl), rfl, rfl⟩

theorem arrive_jobs {answered : Bool} {j : IndexJob} (h : j ∈ (arrive job answered w).jobs) :
    j ∈ w.jobs := by
  have hexecute : ∀ w, (execute job w).jobs = w.jobs := by
    intro w
    unfold execute
    split <;> rfl
  have herase : ∀ {l : List IndexJob}, j ∈ l.erase job → j ∈ l := List.mem_of_mem_erase
  cases answered with
  | false =>
    have h : j ∈ (execute job { w with flying := w.flying.erase job }).jobs := h
    rw [hexecute, mem_jobs] at h
    exact mem_jobs.mpr (h.imp_right (Or.imp_right herase))
  | true =>
    have hlists : (arrive job true w).jobs =
        w.sending.erase job ++ w.pending.erase job ++ w.flying.erase job := by
      unfold arrive execute
      split <;> rfl
    rw [hlists] at h
    simp only [List.mem_append] at h
    exact mem_jobs.mpr (by tauto)

/-- other requests stay where they are -/
theorem arrive_other {answered : Bool} {j : IndexJob} (hj : j ∈ w.jobs) (hne : j ≠ job) :
    j ∈ (arrive job answered w).jobs := by
  have herase : ∀ {l : List IndexJob}, j ∈ l → j ∈ l.erase job := fun h => (List.mem_erase_of_ne hne).mpr h
  rw [mem_jobs] at hj
  have hlists : (arrive job answered w).jobs = (if answered then w.sending.erase job else w.sending) ++
      (if answered then w.pending.erase job else w.pending) ++ w.flying.erase job := by
    unfold arrive execute
    cases answered <;> split <;> rfl
  rw [hlists]
  cases answered <;> simp only [if_true, if_false, Bool.false_eq_true, List.mem_append] <;>
    rcases hj with h | h | h <;> simp [h, herase]

theorem arrive_done {answered : Bool} : (arrive job answered w).done = fun shard =>
    if shard = job.targetShardId ∧ job.requestId ∉ w.done shard then job.requestId :: w.done shard
    else w.done shard := by
  funext shard
  unfold arrive execute
  by_cases hdone : job.requestId ∈ w.done job.targetShardId
  · have hnot : ¬ (shard = job.targetShardId ∧ job.requestId ∉ w.done shard) := by
      rintro ⟨rfl, h⟩
      exact h hdone
    cases answered <;> simp [hdone, hnot]
  · by_cases hshard : shard = job.targetShardId
    · subst hshard
      cases answered <;> simp [hdone]
    · cases answered <;> simp [hdone, hshard]

theorem arrive_entries (answered : Bool) (hdone : job.requestId ∉ w.done job.targetShardId)
    (shard : String) : (arrive job answered w).entries shard =
      if shard = job.targetShardId then job.write.exec (w.entries shard) else w.entries shard := by
  unfold arrive execute
  cases answered <;> simp [hdone]

theorem arrive_entries_done {answered : Bool} (hdone : job.requestId ∈ w.done job.targetShardId) :
    (arrive job answered w).entries = w.entries := by
  unfold arrive execute
  cases answered <;> simp [hdone]

theorem arrive_rows {answered : Bool} : (arrive job answered w).rows = w.rows ∧
    (arrive job answered w).nextId = w.nextId := by
  unfold arrive execute
  cases answered <;> split <;> exact ⟨rfl, rfl⟩

theorem arrive_covered {answered : Bool} (hd : Distinct w) (hjob : job ∈ w.flying) (h : Covered T w)
    (hm : Meets T w (.arrive job answered)) : Covered T (arrive job answered w) := by
  have hmem : job ∈ w.jobs := mem_jobs.mpr (.inr (.inr hjob))
  intro index key hcurrent
  rw [arrive_rows.1] at hcurrent
  by_cases hdone : job.requestId ∈ w.done job.targetShardId
  · rcases h index key hcurrent with hpresent | hout
    · left
      rw [Present, arrive_entries_done hdone]
      exact hpresent
    · refine .inr (hout.mono fun j hj hjdone => ?_)
      have hne : j ≠ job := by
        rintro rfl
        exact hjdone hdone
      refine ⟨arrive_other hj hne, ?_⟩
      rw [arrive_done]
      dsimp only
      split
      · rename_i hnew
        rw [hnew.1] at hnew
        exact absurd hdone hnew.2
      · exact hjdone
  · have hentries := arrive_entries answered hdone
    -- an insert that is still to come is this one, or stays where it is
    have hkept : Outstanding T w index key →
        Present T (arrive job answered w) index key ∨ Outstanding T (arrive job answered w) index key := by
      rintro ⟨j, hj, htarget, hwrite, hjdone⟩
      by_cases hne : j = job
      · subst hne
        left
        refine present_insert (w := w) ?_
        rw [hentries, if_pos htarget.symm, hwrite]
      · right
        refine ⟨j, arrive_other hj hne, htarget, hwrite, ?_⟩
        rw [arrive_done]
        dsimp only
        split
        · intro hin
          rcases List.mem_cons.mp hin with he | hin
          · exact hne (hd.unique j hj job hmem he)
          · exact hjdone hin
        · exact hjdone
    by_cases htouch : shardOf T index key = job.targetShardId ∧
        job.write.id = T.entryId index.indexName key
    · rcases hm hdone index key hcurrent htouch.1 htouch.2 with hinsert | hout
      · left
        refine present_insert (w := w) ?_
        rw [hentries, if_pos htouch.1, hinsert]
      · exact hkept hout
    · rcases h index key hcurrent with hpresent | hout
      · exact .inl (hpresent.write hentries fun hs hid => htouch ⟨hs, hid⟩)
      · exact hkept hout

/-- a copy that goes is one of no current key, or one that is not needed -/
theorem gone_covered (h : Covered T w) (hrows : w'.rows = w.rows) (hentries : w'.entries = w.entries)
    (hdone : w'.done = w.done) (hother : ∀ j ∈ w.jobs, j ≠ job → j ∈ w'.jobs)
    (hd : Dispensable T w w' job) : Covered T w' := by
  have hpresent : ∀ {index key}, Present T w index key → Present T w' index key := by
    intro index key hp
    rw [Present, hentries]
    exact hp
  intro index key hcurrent
  rw [hrows] at hcurrent
  rcases h index key hcurrent with hp | ⟨j, hj, htarget, hwrite, hjdone⟩
  · exact .inl (hpresent hp)
  · by_cases hne : j = job
    · subst hne
      exact (hd index key hcurrent hwrite).imp_left hpresent
    · exact .inr ⟨j, hother j hj hne, htarget, hwrite, hdone ▸ hjdone⟩

/-! ## runs -/

structure Inv (T : Target) (w : World) : Prop where
  distinct : Distinct w
  covered : Covered T w

theorem post_inv (h : Inv T w) (hjob : job ∈ w.sending ++ w.pending) : Inv T (post job w) := by
  have hjobs : ∀ j, j ∈ (post job w).jobs ↔ j ∈ w.jobs := by
    intro j
    have hin : j = job → j ∈ w.jobs := by
      rintro rfl
      exact List.mem_append_left _ hjob
    rw [mem_jobs, post, List.mem_append, List.mem_singleton, mem_jobs]
    rw [mem_jobs] at hin
    tauto
  refine ⟨h.distinct.mono (fun j hj => (hjobs j).mp hj) (fun _ _ => .inl) rfl, fun index key hcurrent => ?_⟩
  exact (h.covered index key hcurrent).imp_right fun hout =>
    hout.mono fun j hj hdone => ⟨(hjobs j).mpr hj, hdone⟩

theorem arrive_inv {answered : Bool} (h : Inv T w) (hjob : job ∈ w.flying)
    (hm : Meets T w (.arrive job answered)) : Inv T (arrive job answered w) := by
  refine ⟨h.distinct.mono (fun j => arrive_jobs) ?_ arrive_rows.2,
    arrive_covered h.distinct hjob h.covered hm⟩
  intro shard id hid
  rw [arrive_done] at hid
  dsimp only at hid
  split at hid
  · rcases List.mem_cons.mp hid with rfl | hid
    · exact .inr ⟨job, mem_jobs.mpr (.inr (.inr hjob)), rfl⟩
    · exact .inl hid
  · exact .inl hid

theorem lose_inv (h : Inv T w) (hm : Meets T w (.lose job)) :
    Inv T { w with flying := w.flying.erase job } := by
  refine ⟨h.distinct.mono (fun j hj => ?_) (fun _ _ => .inl) rfl, gone_covered h.covered rfl rfl rfl
    (fun j hj hne => ?_) hm⟩
  · rw [mem_jobs] at hj ⊢
    exact hj.imp_right (Or.imp_right List.mem_of_mem_erase)
  · rw [mem_jobs] at hj ⊢
    exact hj.imp_right (Or.imp_right (List.mem_erase_of_ne hne).mpr)

theorem giveUp_inv {enqueued : Bool} (h : Inv T w) (hjob : job ∈ w.sending)
    (hm : Meets T w (.giveUp job enqueued)) : Inv T (giveUp job enqueued w) := by
  cases enqueued with
  | false =>
    have hjobs : ∀ j ∈ (giveUp job false w).jobs, j ∈ w.jobs := fun j hj =>
      mem_jobs.mpr ((mem_jobs.mp hj).imp_left List.mem_of_mem_erase)
    refine ⟨h.distinct.mono hjobs (fun _ _ => .inl) rfl,
      gone_covered h.covered rfl rfl rfl (fun j hj hne => ?_) hm⟩
    exact mem_jobs.mpr ((mem_jobs.mp hj).imp_left (List.mem_erase_of_ne hne).mpr)
  | true =>
    have hjobs : ∀ j, j ∈ (giveUp job true w).jobs ↔ j ∈ w.jobs := by
      intro j
      show j ∈ w.sending.erase job ++ (w.pending ++ [job]) ++ w.flying ↔ _
      simp only [List.mem_append, List.mem_singleton, mem_jobs]
      by_cases hne : j = job
      · subst hne
        tauto
      · rw [List.mem_erase_of_ne hne]
        tauto
    refine ⟨h.distinct.mono (fun j hj => (hjobs j).mp hj) (fun _ _ => .inl) rfl, fun index key hcurrent => ?_⟩
    exact (h.covered index key hcurrent).imp_right fun hout =>
      hout.mono fun j hj hdone => ⟨(hjobs j).mpr hj, hdone⟩

theorem mutate_inv {o : RowOperation} {requestId : String} {preReadOk answered : Bool} (h : Inv T w)
    (hm : Meets T w (.mutate o requestId preReadOk answered)) :
    Inv T (mutate T o requestId preReadOk answered w) := by
  refine ⟨?_, mutate_covered h.distinct h.covered hm⟩
  obtain ⟨rows, applied, writes, hmutate, -⟩ := mutate_cases T o requestId preReadOk answered w
  have hdistinct : Distinct { w with rows, applied } :=
    h.distinct.mono (fun _ hj => hj) (fun _ _ => .inl) rfl
  rw [hmutate]
  exact hdistinct.dispatch writes

/-- a step that meets the condition keeps the row covered -/
theorem next_inv (h : Inv T w) : ∀ {e : Event}, Meets T w e → Inv T (next T w e)
  | .mutate o requestId preReadOk answered, hm => mutate_inv h hm
  | .post job, _ => by
    by_cases hjob : job ∈ w.sending ++ w.pending
    · simpa only [next, if_pos hjob] using post_inv h hjob
    · simpa only [next, if_neg hjob] using h
  | .arrive job answered, hm => by
    by_cases hjob : job ∈ w.flying
    · simpa only [next, if_pos hjob] using arrive_inv h hjob hm
    · simpa only [next, if_neg hjob] using h
  | .lose job, hm => lose_inv h hm
  | .giveUp job enqueued, hm => by
    by_cases hjob : job ∈ w.sending
    · simpa only [next, if_pos hjob] using giveUp_inv h hjob hm
    · simpa only [next, if_neg hjob] using h
  | .prune shard ids, _ => by
    have hdone : ∀ s id, id ∈ (next T w (.prune shard ids)).done s → id ∈ w.done s := by
      intro s id hid
      simp only [next] at hid
      split at hid
      · exact (List.mem_filter.mp hid).1
      · exact hid
    refine ⟨h.distinct.mono (fun _ hj => hj) (fun s id hid => .inl (hdone s id hid)) rfl,
      fun index key hcurrent => ?_⟩
    exact (h.covered index key hcurrent).imp_right fun hout =>
      hout.mono fun j hj hjdone => ⟨hj, fun hid => hjdone (hdone _ _ hid)⟩
  | .pruneBase requestIds, _ =>
    ⟨h.distinct.mono (fun _ hj => hj) (fun _ _ => .inl) rfl, fun index key hcurrent =>
      h.covered index key hcurrent⟩
  | .otherWrite shard write, hm => by
    refine ⟨h.distinct.mono (fun _ hj => hj) (fun _ _ => .inl) rfl, fun index key hcurrent => ?_⟩
    by_cases htouch : shardOf T index key = shard ∧ write.id = T.entryId index.indexName key
    · rcases hm index key hcurrent htouch.1 htouch.2 with hinsert | hout
      · left
        refine present_insert (w := w) ?_
        simp only [next, if_pos htouch.1, hinsert]
      · exact .inr hout
    · rcases h.covered index key hcurrent with hpresent | hout
      · exact .inl (hpresent.write (fun _ => rfl) fun hs hid => htouch ⟨hs, hid⟩)
      · exact .inr hout
  | .otherRows rows, hm =>
    ⟨h.distinct.mono (fun _ hj => hj) (fun _ _ => .inl) rfl, fun index key hcurrent =>
      h.covered index key (hm index key hcurrent)⟩

theorem run_inv : ∀ {events : List Event} {w : World}, Inv T w → Orderly T w events →
    Inv T (run T w events)
  | [], _, h, _ => h
  | e :: events, w, h, ho => by
    show Inv T (run T (next T w e) events)
    exact run_inv (next_inv h ho.1) ho.2

/-- no write is under way, the request ids are new, and the row, if it is there, is indexed -/
structure Start (T : Target) (w : World) : Prop where
  quiescent : Quiescent w
  fresh : ∀ shard, ∀ id ∈ w.done shard, id < w.nextId
  indexed : Indexed T w

theorem Start.inv (h : Start T w) : Inv T w where
  distinct := by
    have hnone : ∀ job, job ∉ w.jobs := by
      intro job hjob
      rw [h.quiescent] at hjob
      cases hjob
    exact ⟨h.fresh, fun job hjob => absurd hjob (hnone job), fun job hjob => absurd hjob (hnone job)⟩
  covered index key hcurrent := .inl (h.indexed index key hcurrent)

/-! ## a late delete -/

/-- a table of texts `k` and `v`, with an index on `v` -/
def textTarget : Target where
  platform := { sha256Hex := id, numberText := fun _ => "0" }
  binding := plainBinding
  table := "t"
  tenantId := "A"
  partitionKey := "a"
  partitionKeyColumn := "k"
  baseShardId := "base"
  indexes := [⟨"i", ["v"], ["s"]⟩]
  named := by simp

theorem empty_fresh : ∀ r ∈ ([] : List Sqlite.Row), r.id < 0 := by simp

theorem empty_nodup : (([] : List Sqlite.Row).map Sqlite.Row.id).Nodup := by simp

def emptyWorld : World where
  rows :=
    { schema := { columns := [textColumn "k", textColumn "v"], unique := [[0]], admits := fun _ => true }
      rows := []
      nextId := 0
      fresh := empty_fresh
      nodup := empty_nodup }
  applied := []
  entries := fun _ => []
  done := fun _ => []
  sending := []
  pending := []
  flying := []
  nextId := 0

def setTo (op : MutationOp) (v : String) : RowOperation where
  op := op
  where_ := none
  values := some (Object.ofList [("v", .string v)])
  conflictColumns := none

def insertOf (v : String) (id : Nat) : IndexJob :=
  ⟨"s", .insert (textTarget.entry "i" (array [quote v])), id⟩

def deleteOf (v : String) (id : Nat) : IndexJob :=
  ⟨"s", .delete (textTarget.entryId "i" (array [quote v])), id⟩

def delivered (job : IndexJob) : List Event := [.post job, .arrive job true]

/-- from `x` to `y` and back to `x`; the first delete waits for its alarm meanwhile -/
def backAndForth : List Event :=
  [.mutate (setTo .insert "x") "r1" true true] ++ delivered (insertOf "x" 0) ++
  [.mutate (setTo .update "y") "r2" true true, .giveUp (deleteOf "x" 1) true] ++
  delivered (insertOf "y" 2) ++
  [.mutate (setTo .update "x") "r3" true true] ++ delivered (deleteOf "y" 3) ++
  delivered (insertOf "x" 4) ++ delivered (deleteOf "x" 1)

theorem emptyWorld_start : Start textTarget emptyWorld where
  quiescent := rfl
  fresh := by simp [emptyWorld]
  indexed := by
    intro index key hcurrent
    obtain ⟨-, -, r, hr, -⟩ := hcurrent
    cases hr

/-- an insert whose first attempt fails -/
def retried : List Event :=
  [.mutate (setTo .insert "x") "r1" true true, .giveUp (insertOf "x" 0) true] ++ delivered (insertOf "x" 0)

end StructuredOp.Delivery
