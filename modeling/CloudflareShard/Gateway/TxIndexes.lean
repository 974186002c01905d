import CloudflareShard.Json.Flat
import CloudflareShard.Gateway.OwnRow
import CloudflareShard.Gateway.Transaction

/-!
# The index entries of a transaction

The gateway derives the index writes of a batch from simulated rows, SQLite executes the statements.
Where both agree in the indexed columns, each row of the batch ends with the entry of its current key.

* `Present`, `Indexed`          the entry of a key is there, the row's key has its entry;
* `Declared`, `Ready`           the indexes and the shards before the batch;
* `Faithful`, `AllFaithful`     what a mutation must find when its turn comes;
* `Tracks`, `Inv`               the simulated row and the stored row agree;
* `committed_indexed`           **then the committed batch leaves its rows indexed**;
* `guarded_update_lost`         an update with a condition on a column that is not indexed.
-/

namespace StructuredOp.Tx
open Json Sqlite DataPlane StructuredOp

variable (G : Gateway)

/-! ## what is to hold -/

/-- the entry of a key is on its ring shard, in the row's tenant -/
def Present (C : Cluster) (T : Delivery.Target) (index : IndexDefinition) (key : String) : Prop :=
  ∃ e ∈ (C (Delivery.shardOf T index key)).entries,
    e.id = T.entryId index.indexName key ∧ e.tenantId = T.tenantId

def tableIn (route : Routed) (m : StructuredMutation) (C : Cluster) : Option Table :=
  (C route.shardId).data.table m.table

/-- each row of the mutation's key has the entry of its current key, for every index -/
def Indexed (C : Cluster) (m : StructuredMutation) : Prop :=
  ∀ route, G.route m.tenantId m.table m.partitionKey = .ok route →
    ∀ t, tableIn route m C = some t → ∀ index key,
      Delivery.Current (route.target G m) t index key → Present C (route.target G m) index key

/-! ## what is asked -/

/-- the indexed columns are spelled as they are declared, and are no names that every object inherits -/
def Declared (S : Schema) (route : Routed) : Prop :=
  ∀ c ∈ indexedColumns route.indexes, c ∉ objectPrototype ∧
    ∃ i col, S.resolve c = some i ∧ S.columns[i]? = some col ∧ col.name = c

/-- the partition key is UNIQUE, and the row is indexed before the batch -/
structure Ready (C : Cluster) (m : StructuredMutation) (route : Routed) : Prop where
  declared : ∀ t, tableIn route m C = some t → Declared t.schema route
  unique : ∀ t, tableIn route m C = some t → KeyUnique t.schema route.k
  single : ∀ t, tableIn route m C = some t → Single G.binding m route.k t
  indexed : Indexed G C m

/-- no two partition keys of the batch denote one row -/
def Apart (C : Cluster) (mutations : List StructuredMutation) : Prop :=
  ∀ m ∈ mutations, ∀ m' ∈ mutations, ∀ route route' t,
    G.route m.tenantId m.table m.partitionKey = .ok route →
    G.route m'.tenantId m'.table m'.partitionKey = .ok route' →
    route.shardId = route'.shardId → m.table = m'.table → m.partitionKey ≠ m'.partitionKey →
    tableIn route m C = some t → ∀ r : Row,
      ¬ (ownedBy G.binding t.schema route.k m.partitionKey r = true ∧
        ownedBy G.binding t.schema route'.k m'.partitionKey r = true)

/-- the statement is `Plain`, and an update that sets an indexed column is simulated as one that finds
its row -/
structure Faithful (route : Routed) (m : StructuredMutation) (raw : Option (Object JsValue)) (t : Table) :
    Prop where
  plain : Plain G.binding G.platform (indexedColumns route.indexes) m route.k t
  found : m.op = .update →
    (∃ c ∈ indexedColumns route.indexes, c ≠ route.k ∧ (m.given.get? c).isSome) →
      simulatedRowMatchesWhere raw m.conditions = true

/-- each mutation is faithful to the table as the mutations before it leave it -/
def AllFaithful (C : Cluster) : TxState → List (StructuredMutation × Bool) → Prop
  | _, [] => True
  | s, (m, ok) :: rest =>
    (∀ route, G.route m.tenantId m.table m.partitionKey = .ok route →
      ∀ C', Committed G.binding s.intents C C' → ∀ t, tableIn route m C' = some t →
        Faithful G route m (rawRow G C route m ok s) t) ∧
    ∀ s', txMutation G C s m ok = .ok s' → AllFaithful C s' rest

/-! ## the simulated row and the stored row -/

/-- the key of an index by a simulated row -/
def simulatedKey (P : Platform) (index : IndexDefinition) (row : Object JsValue) : String :=
  array (index.columns.map fun c => stringify P (property (some row) c))

def Tracks (P : Platform) (cs : List String) (S : Schema) (row : Object JsValue) (r : Row) : Prop :=
  ∀ c ∈ cs, stringify P (property (some row) c) = jsonText P (cellOf S c r)

/-- `row` is what the gateway takes the row for: by its simulation, or by the pre-read to come -/
def Simulates (C : Cluster) (s : TxState) (m : StructuredMutation) (route : Routed)
    (row : Object JsValue) : Prop :=
  match s.simulated (participantKey m) with
  | some simulated => simulated = some row
  | none => committedRow G C route m true = some row

/-- `C` are the shards before the batch, `C'` those after the intents of `s` -/
structure Inv (C : Cluster) (s : TxState) (C' : Cluster) (m : StructuredMutation) (route : Routed) :
    Prop where
  schema : ∀ t, tableIn route m C' = some t → ∃ t₀, tableIn route m C = some t₀ ∧ t.schema = t₀.schema
  declared : ∀ t, tableIn route m C' = some t → Declared t.schema route
  unique : ∀ t, tableIn route m C' = some t → KeyUnique t.schema route.k
  single : ∀ t, tableIn route m C' = some t → Single G.binding m route.k t
  indexed : ∀ t, tableIn route m C' = some t → ∀ index key,
    Delivery.Current (route.target G m) t index key → Present C' (route.target G m) index key
  tracks : ∀ row, Simulates G C s m route row → ∀ t, tableIn route m C' = some t →
    ∀ r ∈ ownRows G.binding m route.k t,
      Tracks G.platform (indexedColumns route.indexes) t.schema row r
  present : ∀ row, Simulates G C s m route row → ∀ index ∈ route.indexes, index.ring ≠ [] →
    Present C' (route.target G m) index (simulatedKey G.platform index row)

variable {G} {C C' : Cluster} {s s' : TxState} {m : StructuredMutation} {route : Routed} {t : Table}

theorem rowsOf_target : Delivery.rowsOf (route.target G m) t = ownRows G.binding m route.k t := rfl

theorem stringify_wire (P : Platform) (v : Value) : stringify P (wireValue v) = jsonText P v := by
  cases v with
  | real x => cases x <;> rfl
  | _ => rfl

theorem mem_indexedColumns {index : IndexDefinition} {indexes : List IndexDefinition} {c : String}
    (hindex : index ∈ indexes) (hc : c ∈ index.columns) : c ∈ indexedColumns indexes :=
  List.mem_eraseDups.mpr (List.mem_flatMap.mpr ⟨index, hindex, hc⟩)

/-- without indexed columns there is no index -/
theorem indexes_nil (h : indexedColumns route.indexes = []) : route.indexes = [] := by
  refine List.eq_nil_iff_forall_not_mem.mpr fun index hindex => ?_
  obtain ⟨c, hc⟩ := List.exists_mem_of_ne_nil _ (route.nonempty index hindex)
  have hmem := mem_indexedColumns hindex hc
  rw [h] at hmem
  cases hmem

theorem tracks_key {P : Platform} {S : Schema} {row : Object JsValue} {r : Row} {index : IndexDefinition}
    (hindex : index ∈ route.indexes) (h : Tracks P (indexedColumns route.indexes) S row r) :
    simulatedKey P index row = currentKeyJson P S index r := by
  unfold simulatedKey currentKeyJson
  congr 1
  refine List.map_congr_left fun c hc => ?_
  exact h c (mem_indexedColumns hindex hc)

/-! ## the pre-read -/

theorem nodup_eraseDups : ∀ {n : Nat} {l : List String}, l.length ≤ n → l.eraseDups.Nodup
  | _, [], _ => by simp
  | 0, _ :: _, h => by simp at h
  | n + 1, a :: l, h => by
    have hlen : (l.filter fun b => !b == a).length ≤ n := by
      have hl := List.length_filter_le (fun b => !b == a) l
      simp only [List.length_cons] at h
      omega
    rw [List.eraseDups_cons]
    refine List.nodup_cons.mpr ⟨fun hmem => ?_, nodup_eraseDups hlen⟩
    have hne := (List.mem_filter.mp (List.mem_eraseDups.mp hmem)).2
    simp at hne

theorem indexedColumns_nodup (indexes : List IndexDefinition) : (indexedColumns indexes).Nodup :=
  nodup_eraseDups (le_refl _)

theorem preRead_get {R : Rules} {k pk : String} {columns : List String} {row : Object JsValue}
    (hnodup : columns.Nodup)
    (hdeclared : ∀ c ∈ columns, ∃ i col, t.schema.resolve c = some i ∧ t.schema.columns[i]? = some col ∧
      col.name = c) (h : preRead R t k pk columns = some row) :
    ∃ r ∈ t.rows, keyedRow R t.schema k pk r = true ∧
      ∀ c ∈ columns, row.get? c = some (wireValue (cellOf t.schema c r)) := by
  unfold preRead at h
  cases htargets : t.schema.resolveAll columns with
  | error e => simp [htargets, Except.toOption] at h
  | ok targets =>
    cases hfind : t.rows.find? (keyedRow R t.schema k pk) with
    | none => simp [htargets, hfind, Except.toOption] at h
    | some r =>
      have hrow : row = .ofList (targets.map fun i =>
          (((t.schema.columns[i]?).map Column.name).getD "", wireValue (r.cell i))) := by
        simpa [htargets, hfind, Except.toOption] using h.symm
      refine ⟨r, List.mem_of_find?_eq_some hfind, by simpa using List.find?_some hfind, ?_⟩
      -- the columns come under their own names
      have hlist : (targets.map fun i =>
          (((t.schema.columns[i]?).map Column.name).getD "", wireValue (r.cell i))) =
            columns.map fun c => (c, wireValue (cellOf t.schema c r)) := by
        have hall := resolveAll_ok htargets
        clear htargets hrow h hnodup
        induction hall with
        | nil => rfl
        | @cons c i cs is hi _ ih =>
          obtain ⟨j, col, hj, hcol, hname⟩ := hdeclared c (List.mem_cons_self ..)
          obtain rfl : i = j := Option.some.inj (hi.symm.trans hj)
          have ih := ih fun c hc => hdeclared c (List.mem_cons_of_mem _ hc)
          simp only [List.map_cons, ih, hcol, Option.map_some, Option.getD_some, hname, cellOf_eq hi]
      intro c hc
      have hkeys : ((columns.map fun c => (c, wireValue (cellOf t.schema c r))).map Prod.fst).Nodup := by
        rw [List.map_map]
        simpa [Function.comp_def] using hnodup
      rw [hrow, hlist, Object.get?_ofList hkeys]
      cases hf : (columns.map fun c => (c, wireValue (cellOf t.schema c r))).find? fun p => p.1 = c with
      | none =>
        have hne := List.find?_eq_none.mp hf _ (List.mem_map_of_mem hc)
        simp at hne
      | some p =>
        have hp : p.1 = c := by simpa using List.find?_some hf
        obtain ⟨c', -, rfl⟩ := List.mem_map.mp (List.mem_of_find?_eq_some hf)
        rw [← hp]
        rfl

/-- the pre-read is the row, when there is one row -/
theorem preRead_tracks {C : Cluster} {row : Object JsValue} {ok : Bool}
    (hread : committedRow G C route m ok = some row) (ht : tableIn route m C = some t)
    (hdeclared : Declared t.schema route) (hsingle : Single G.binding m route.k t) :
    ∃ r ∈ ownRows G.binding m route.k t, ∀ r' ∈ ownRows G.binding m route.k t,
      r' = r ∧ Tracks G.platform (indexedColumns route.indexes) t.schema row r' := by
  unfold committedRow at hread
  split at hread
  · rw [show (C route.shardId).data.table m.table = some t from ht, Option.bind_some] at hread
    obtain ⟨r, hr, hown, hget⟩ := preRead_get (indexedColumns_nodup _) (fun c hc => (hdeclared c hc).2) hread
    have hmem : r ∈ ownRows G.binding m route.k t := mem_ownRows.mpr ⟨hr, hown⟩
    refine ⟨r, hmem, fun r' hr' => ⟨hsingle r' hr' r hmem, fun c hc => ?_⟩⟩
    rw [hsingle r' hr' r hmem, property, hget c hc, Option.getD_some, stringify_wire]
  · cases hread

/-! ## index writes -/

/-- writes that do not delete an entry, and bring it if it is not there -/
theorem exec_keeps {id : String × String × String × String} {tenantId : String} {l : List IndexWrite}
    {entries : List IndexEntry} (hdelete : IndexWrite.delete id ∉ l)
    (hinsert : ∀ e, IndexWrite.insert e ∈ l → e.id = id → e.tenantId = tenantId)
    (h : (∃ e ∈ entries, e.id = id ∧ e.tenantId = tenantId) ∨
      ∃ e, IndexWrite.insert e ∈ l ∧ e.id = id) :
    ∃ e ∈ l.foldl IndexWrite.exec entries, e.id = id ∧ e.tenantId = tenantId := by
  induction l generalizing entries with
  | nil =>
    rcases h with h | ⟨e, he, -⟩
    · exact h
    · cases he
  | cons w l ih =>
    have hdelete' : IndexWrite.delete id ∉ l := fun hmem => hdelete (List.mem_cons_of_mem _ hmem)
    have hinsert' : ∀ e, IndexWrite.insert e ∈ l → e.id = id → e.tenantId = tenantId :=
      fun e he => hinsert e (List.mem_cons_of_mem _ he)
    refine ih hdelete' hinsert' ?_
    rcases h with ⟨e, he, hid, htenant⟩ | ⟨e, he, hid⟩
    · left
      cases w with
      | delete id' =>
        have hne : e.id ≠ id' := by
          intro heq
          exact hdelete (by rw [← hid, heq]; exact List.mem_cons_self ..)
        exact ⟨e, mem_delete.mpr ⟨he, hne⟩, hid, htenant⟩
      | insert e' =>
        by_cases heq : e'.id = id
        · exact ⟨e', mem_insert.mpr (.inr rfl), heq, hinsert e' (List.mem_cons_self ..) heq⟩
        · have hne : e.id ≠ e'.id := by rw [hid]; exact Ne.symm heq
          exact ⟨e, mem_insert.mpr (.inl ⟨he, hne⟩), hid, htenant⟩
    · rcases List.mem_cons.mp he with rfl | he
      · exact .inl ⟨e, mem_insert.mpr (.inr rfl), hid, hinsert e (List.mem_cons_self ..) hid⟩
      · exact .inr ⟨e, he, hid⟩

/-- the writes of a batch that go to one shard -/
def writesTo (writes : List (String × IndexWrite)) (shard : String) : List IndexWrite :=
  (writes.filter fun p => p.1 = shard).map Prod.snd

theorem mem_writesTo {writes : List (String × IndexWrite)} {shard : String} {w : IndexWrite} :
    w ∈ writesTo writes shard ↔ (shard, w) ∈ writes := by
  simp [writesTo]

variable {index : IndexDefinition} {raw : Option (Object JsValue)}

/-- the change that the gateway derives for an index -/
def derivedDelta (G : Gateway) (m : StructuredMutation) (raw : Option (Object JsValue))
    (index : IndexDefinition) : IndexDelta :=
  indexDelta G.platform m.op (if matched m raw then raw else none)
    (if m.op = .delete then none else m.values) index

/-- a write of the mutation deletes an old key or inserts a new one -/
theorem indexWrites_mem {p : String × IndexWrite} (h : p ∈ indexWrites G route m raw) :
    ∃ i ∈ route.indexes, (derivedDelta G m raw i).oldKeyJson ≠ (derivedDelta G m raw i).newKeyJson ∧
      ((∃ key, (derivedDelta G m raw i).oldKeyJson = some key ∧
          p.2 = .delete ((route.target G m).entryId i.indexName key)) ∨
        ∃ key, (derivedDelta G m raw i).newKeyJson = some key ∧
          p.2 = .insert ((route.target G m).entry i.indexName key)) := by
  obtain ⟨d, hd, hp⟩ := List.mem_flatMap.mp h
  unfold computeIndexDeltas at hd
  by_cases hnone : m.op = .update ∧ (if matched m raw then raw else none).isNone = true
  · rw [if_pos hnone] at hd
    cases hd
  · rw [if_neg hnone] at hd
    obtain ⟨hd, hne⟩ := List.mem_filter.mp hd
    obtain ⟨i, hi, rfl⟩ := List.mem_map.mp hd
    refine ⟨i, hi, of_decide_eq_true hne, ?_⟩
    unfold Delivery.Target.deltaWrites at hp
    split at hp
    · cases hp
    · rcases List.mem_append.mp hp with hp | hp
      · obtain ⟨key, hkey, rfl⟩ := Option.map_eq_some_iff.mp (Option.mem_toList.mp hp)
        exact .inl ⟨key, hkey, rfl⟩
      · obtain ⟨key, hkey, rfl⟩ := Option.map_eq_some_iff.mp (Option.mem_toList.mp hp)
        exact .inr ⟨key, hkey, rfl⟩

/-- what is deleted is the old key -/
theorem delete_old {shard key : String} (hindex : index ∈ route.indexes)
    (h : (shard, .delete ((route.target G m).entryId index.indexName key)) ∈ indexWrites G route m raw) :
    (derivedDelta G m raw index).oldKeyJson = some key ∧
      (derivedDelta G m raw index).newKeyJson ≠ some key := by
  obtain ⟨i, hi, hne, ⟨key', hold, hp⟩ | ⟨key', -, hp⟩⟩ := indexWrites_mem h
  · have hid := IndexWrite.delete.inj hp
    simp only [Delivery.Target.entryId, Prod.mk.injEq] at hid
    obtain ⟨-, hname, rfl, -⟩ := hid
    obtain rfl := List.inj_on_of_nodup_map route.named hindex hi hname
    exact ⟨hold, fun hnew => hne (hold.trans hnew.symm)⟩
  · cases hp

/-- the key that a mutation is taken to make is inserted, unless the row had it -/
theorem insert_new {key : String} (hindex : index ∈ route.indexes) (hring : index.ring ≠ [])
    (hupdate : m.op = .update → matched m raw = true ∧ raw.isSome)
    (hnew : (derivedDelta G m raw index).newKeyJson = some key)
    (hold : (derivedDelta G m raw index).oldKeyJson ≠ some key) :
    (Delivery.shardOf (route.target G m) index key,
      IndexWrite.insert ((route.target G m).entry index.indexName key)) ∈ indexWrites G route m raw := by
  refine List.mem_flatMap.mpr ⟨derivedDelta G m raw index, ?_, ?_⟩
  · have hsome : ¬ (m.op = .update ∧ (if matched m raw then raw else none).isNone = true) := by
      intro ⟨hop, hnone⟩
      obtain ⟨hmatched, hraw⟩ := hupdate hop
      rw [if_pos hmatched, Option.isNone_iff_eq_none] at hnone
      rw [hnone] at hraw
      cases hraw
    rw [computeIndexDeltas, if_neg hsome]
    refine List.mem_filter.mpr ⟨List.mem_map_of_mem hindex, ?_⟩
    have hchange : (derivedDelta G m raw index).oldKeyJson ≠ (derivedDelta G m raw index).newKeyJson := by
      rw [hnew]
      exact hold
    exact decide_eq_true hchange
  · have hringOf : (route.target G m).ringOf (derivedDelta G m raw index).indexName = some index.ring :=
      Delivery.ringOf_eq (T := route.target G m) hindex hring
    simp only [Delivery.Target.deltaWrites, hringOf, hnew]
    exact List.mem_append_right _ (List.mem_singleton_self _)

/-! ## one turn of the loop -/

/-- a turn that goes through -/
structure Turn (G : Gateway) (C : Cluster) (s s' : TxState) (m : StructuredMutation) (ok : Bool)
    (route : Routed) (c : Compiled) : Prop where
  valid : validateMutation m route.k = .ok ()
  required : requireIndexedColumnsForInsert m.op (indexedColumns route.indexes) m.values = none
  compiled : compileMutation m route.k = some c
  intents : s'.intents = s.intents ++ (route.shardId, .base
      { compiled := c, tenantId := m.tenantId, table := m.table, partitionKey := m.partitionKey
        vbucket := route.vbucket, op := m.op }) ::
      (indexWrites G route m (rawRow G C route m ok s)).map fun p => (p.1, .index p.2)
  simulated : ∀ key, s'.simulated key =
    if key = participantKey m ∧ indexedColumns route.indexes ≠ [] then
      some (nextRow m route.k (rawRow G C route m ok s))
    else s.simulated key

theorem turn_of_ok {ok : Bool} (h : txMutation G C s m ok = .ok s') :
    ∃ route c, G.route m.tenantId m.table m.partitionKey = .ok route ∧ Turn G C s s' m ok route c := by
  unfold txMutation at h
  split at h
  · cases h
  · cases hroute : G.route m.tenantId m.table m.partitionKey with
    | error e => simp [hroute] at h
    | ok route =>
      simp only [hroute] at h
      cases hvalid : validated m route with
      | error e => simp [hvalid] at h
      | ok u =>
        cases hcompiled : compileMutation m route.k with
        | none => simp [hvalid, hcompiled] at h
        | some c =>
          simp only [hvalid, hcompiled] at h
          cases h
          refine ⟨route, c, rfl, ?_⟩
          unfold validated at hvalid
          cases hv : validateMutation m route.k with
          | error e => simp [hv] at hvalid
          | ok u =>
            simp only [hv] at hvalid
            cases hreq : requireIndexedColumnsForInsert m.op (indexedColumns route.indexes) m.values with
            | some e => simp [hreq] at hvalid
            | none => exact ⟨hv, hreq, hcompiled, rfl, fun key => rfl⟩

/-! ## what the participants do in a turn -/

theorem participant_append (a b : List (String × TxIntent)) (shard : String) :
    participantIntents (a ++ b) shard = participantIntents a shard ++ participantIntents b shard := by
  simp [participantIntents]

theorem apply_append {B : Binding} {a b : List TxIntent} {S S' : ShardState}
    (h : applyIntents B (a ++ b) S = some S') :
    ∃ S₁, applyIntents B a S = some S₁ ∧ applyIntents B b S₁ = some S' := by
  unfold applyIntents at h
  rw [List.foldlM_append] at h
  exact Option.bind_eq_some_iff.mp h

/-- a batch that commits has committed its beginning -/
theorem committed_append {B : Binding} {a b : List (String × TxIntent)} (h : Committed B (a ++ b) C C') :
    ∃ C₁, Committed B a C C₁ ∧ Committed B b C₁ C' := by
  have hshard : ∀ shard, ∃ S₁, applyIntents B (participantIntents a shard) (C shard) = some S₁ ∧
      applyIntents B (participantIntents b shard) S₁ = some (C' shard) := fun shard =>
    apply_append (participant_append a b shard ▸ h shard)
  choose C₁ hC₁ using hshard
  exact ⟨C₁, fun shard => (hC₁ shard).1, fun shard => (hC₁ shard).2⟩

theorem apply_index (B : Binding) (writes : List IndexWrite) (S : ShardState) :
    applyIntents B (writes.map .index) S =
      some { S with entries := writes.foldl IndexWrite.exec S.entries } := by
  induction writes generalizing S with
  | nil => rfl
  | cons w writes ih => exact ih { S with entries := w.exec S.entries }

theorem participant_index (writes : List (String × IndexWrite)) (shard : String) :
    participantIntents (writes.map fun p => (p.1, TxIntent.index p.2)) shard =
      (writesTo writes shard).map .index := by
  induction writes with
  | nil => rfl
  | cons p writes ih =>
    unfold participantIntents writesTo at ih ⊢
    by_cases hp : p.1 = shard
    · simp [hp] at ih ⊢
      exact ih
    · simpa [hp] using ih

/-- a base intent that goes through changes its table only -/
theorem base_exec {B : Binding} {i : BaseIntent} {D D' : Data} (h : i.exec B D = some D') :
    ∃ t t' n, D.table i.table = some t ∧ i.compiled.run B t = .ok (t', n) ∧
      (i.op = .update ∨ i.op = .delete → n ≠ 0) ∧
      ∀ name, D'.table name = if name = i.table then some t' else D.table name := by
  unfold BaseIntent.exec at h
  obtain ⟨t, ht, h⟩ := Option.bind_eq_some_iff.mp h
  obtain ⟨⟨t', n⟩, hrun, h⟩ := Option.bind_eq_some_iff.mp h
  have hrun : i.compiled.run B t = .ok (t', n) := by
    cases hr : i.compiled.run B t with
    | error e => simp [hr, Except.toOption] at hrun
    | ok r => simpa [hr, Except.toOption] using hrun
  refine ⟨t, t', n, ht, hrun, ?_, ?_⟩
  · intro hop hn
    simp [hn, hop] at h
  · intro name
    by_cases hn : n = 0
    · simp only [hn, if_true] at h
      split at h
      · cases h
      · cases h
        rfl
    · simp only [hn, if_false] at h
      cases h
      unfold writeOrDeleteProvenance
      split <;> rfl

/-- the shards before and after the intents of one turn -/
structure Effect (G : Gateway) (m : StructuredMutation) (route : Routed) (c : Compiled)
    (raw : Option (Object JsValue)) (C C' : Cluster) : Prop where
  base : ∃ t t' n, tableIn route m C = some t ∧ c.run G.binding t = .ok (t', n) ∧
    (m.op = .update ∨ m.op = .delete → n ≠ 0) ∧
    ∀ shard name, (C' shard).data.table name =
      if shard = route.shardId ∧ name = m.table then some t' else (C shard).data.table name
  entries : ∀ shard, (C' shard).entries =
    (writesTo (indexWrites G route m raw) shard).foldl IndexWrite.exec (C shard).entries

theorem Turn.effect {ok : Bool} {c : Compiled} (h : Turn G C s s' m ok route c)
    (hcommit : Committed G.binding s'.intents C C') :
    ∃ C₁, Committed G.binding s.intents C C₁ ∧ Effect G m route c (rawRow G C route m ok s) C₁ C' := by
  rw [h.intents] at hcommit
  obtain ⟨C₁, hbefore, hturn⟩ := committed_append hcommit
  refine ⟨C₁, hbefore, ?_⟩
  set base : BaseIntent :=
    { compiled := c, tenantId := m.tenantId, table := m.table, partitionKey := m.partitionKey
      vbucket := route.vbucket, op := m.op } with hbase
  set raw := rawRow G C route m ok s
  have hshard : ∀ shard, applyIntents G.binding ((if route.shardId = shard then [.base base] else []) ++
      (writesTo (indexWrites G route m raw) shard).map .index) (C₁ shard) = some (C' shard) := by
    intro shard
    have hs := hturn shard
    rw [← List.singleton_append, participant_append, participant_index] at hs
    by_cases hr : route.shardId = shard
    · simpa [participantIntents, hr] using hs
    · simpa [participantIntents, hr] using hs
  constructor
  · have hs := hshard route.shardId
    rw [if_pos rfl, List.singleton_append] at hs
    obtain ⟨S₁, hS₁, hs⟩ := Option.bind_eq_some_iff.mp hs
    obtain ⟨D, hD, rfl⟩ := Option.map_eq_some_iff.mp hS₁
    obtain ⟨t, t', n, ht, hrun, hn, htable⟩ := base_exec hD
    refine ⟨t, t', n, ht, hrun, hn, fun shard name => ?_⟩
    by_cases hr : shard = route.shardId
    · have hdata : (C' shard).data = D := by
        have hs' : applyIntents G.binding ((writesTo (indexWrites G route m raw) route.shardId).map .index)
          { C₁ route.shardId with data := D } = some (C' route.shardId) := hs
        rw [apply_index] at hs'
        rw [hr, ← Option.some.inj hs']
      rw [hdata, htable name, hr]
      simp [hbase]
    · have hs' := hshard shard
      rw [if_neg (Ne.symm hr), List.nil_append, apply_index] at hs'
      rw [← Option.some.inj hs']
      simp [hr]
  · intro shard
    by_cases hr : route.shardId = shard
    · have hs := hshard shard
      rw [if_pos hr, List.singleton_append] at hs
      obtain ⟨S₁, hS₁, hs⟩ := Option.bind_eq_some_iff.mp hs
      obtain ⟨D, -, rfl⟩ := Option.map_eq_some_iff.mp hS₁
      have hs' : applyIntents G.binding ((writesTo (indexWrites G route m raw) shard).map .index)
          { C₁ shard with data := D } = some (C' shard) := hs
      rw [apply_index] at hs'
      rw [← Option.some.inj hs']
    · have hs := hshard shard
      rw [if_neg hr, List.nil_append, apply_index] at hs
      rw [← Option.some.inj hs]

/-! ## turns of other keys -/

/-- the text of a row key tells the tenant, the table and the partition key -/
theorem rowKey_inj {tenantId table pk tenantId' table' pk' : String}
    (h : rowKey tenantId table pk = rowKey tenantId' table' pk') :
    tenantId = tenantId' ∧ table = table' ∧ pk = pk' := by
  have hlist : ∀ a b c : String, (rowKey a b c).toList =
      '[' :: ((quote a).toList ++ ',' :: ((quote b).toList ++ ',' :: ((quote c).toList ++ [']']))) := by
    intro a b c
    simp [rowKey, array]
  have h := congrArg String.toList h
  rw [hlist, hlist] at h
  obtain ⟨htenant, h⟩ := quote_inj (List.cons.inj h).2
  obtain ⟨htable, h⟩ := quote_inj (List.cons.inj h).2
  obtain ⟨hpk, -⟩ := quote_inj (List.cons.inj h).2
  exact ⟨htenant, htable, hpk⟩

/-- entries whose id no write of the turn has stay as they are -/
theorem Effect.present_other {c : Compiled} {T : Delivery.Target} {key : String}
    (h : Effect G m route c raw C C') (hid : T.table = m.table → T.partitionKey ≠ m.partitionKey)
    (hpresent : Present C T index key) : Present C' T index key := by
  have hne : ∀ name key', (route.target G m).entryId name key' ≠ T.entryId index.indexName key := by
    intro name key' heq
    simp only [Delivery.Target.entryId, Prod.mk.injEq] at heq
    obtain ⟨htable, -, -, hpk⟩ := heq
    exact hid htable.symm hpk.symm
  unfold Present
  rw [h.entries]
  refine exec_keeps (fun hdel => ?_) (fun e he hide => ?_) (.inl hpresent)
  · obtain ⟨i, -, -, ⟨key', -, hp⟩ | ⟨key', -, hp⟩⟩ := indexWrites_mem (mem_writesTo.mp hdel)
    · exact hne _ _ (IndexWrite.delete.inj hp).symm
    · cases hp
  · obtain ⟨i, -, -, ⟨key', -, hp⟩ | ⟨key', -, hp⟩⟩ := indexWrites_mem (mem_writesTo.mp he)
    · cases hp
    · rw [IndexWrite.insert.inj hp] at hide
      exact absurd hide (hne _ _)

/-- the rows of another key of the table -/
theorem ownRows_other {B : Binding} {m' : StructuredMutation} {k k' : String} {t' : Table}
    (hschema : t'.schema = t.schema)
    (hwithin : Table.Within (fun r => ownedBy B t.schema k m.partitionKey r = true) t t')
    (hapart : ∀ r : Row, ¬ (ownedBy B t.schema k m.partitionKey r = true ∧
      ownedBy B t.schema k' m'.partitionKey r = true)) {r : Row} (hr : r ∈ ownRows B m' k' t') :
    r ∈ ownRows B m' k' t := by
  obtain ⟨hmem, hown⟩ := mem_ownRows.mp hr
  rw [hschema] at hown
  by_cases hold : r ∈ t.rows
  · exact mem_ownRows.mpr ⟨hold, hown⟩
  · exact absurd ⟨hwithin.after r hmem hold, hown⟩ (hapart r)

theorem simulates_other {m' : StructuredMutation} {route' : Routed} {ok : Bool} {c : Compiled}
    {row : Object JsValue} (hturn : Turn G C s s' m ok route c)
    (hkey : participantKey m' ≠ participantKey m) :
    Simulates G C s' m' route' row ↔ Simulates G C s m' route' row := by
  unfold Simulates
  rw [hturn.simulated, if_neg fun h => hkey h.1]

/-- a turn leaves the other keys of the batch as they are -/
theorem Inv.other {C₁ C₂ : Cluster} {m' : StructuredMutation} {route' : Routed} {ok : Bool} {c : Compiled}
    (hinv : Inv G C s C₁ m' route') (hturn : Turn G C s s' m ok route c)
    (heffect : Effect G m route c raw C₁ C₂) (hkey : participantKey m' ≠ participantKey m)
    (htenant : m'.tenantId = m.tenantId)
    (hown : ∀ t t' n, tableIn route m C₁ = some t → c.run G.binding t = .ok (t', n) →
      (m.op = .update ∨ m.op = .delete → n ≠ 0) → t'.schema = t.schema ∧
        Table.Within (fun r => ownedBy G.binding t.schema route.k m.partitionKey r = true) t t')
    (hapart : ∀ t, tableIn route m C₁ = some t → route.shardId = route'.shardId → m.table = m'.table →
      m.partitionKey ≠ m'.partitionKey → ∀ r : Row,
        ¬ (ownedBy G.binding t.schema route.k m.partitionKey r = true ∧
          ownedBy G.binding t.schema route'.k m'.partitionKey r = true)) :
    Inv G C s' C₂ m' route' := by
  have hpk : m'.table = m.table → m'.partitionKey ≠ m.partitionKey := by
    intro htable heq
    exact hkey (by rw [participantKey, participantKey, htenant, htable, heq])
  have hpresent : ∀ {index : IndexDefinition} {key : String},
      Present C₁ (route'.target G m') index key → Present C₂ (route'.target G m') index key :=
    fun h => heffect.present_other hpk h
  -- the table of the other key is the same, or has the same rows of that key
  have htable : ∀ t₂, tableIn route' m' C₂ = some t₂ → ∃ t₁, tableIn route' m' C₁ = some t₁ ∧
      t₂.schema = t₁.schema ∧ ∀ r ∈ ownRows G.binding m' route'.k t₂, r ∈ ownRows G.binding m' route'.k t₁ := by
    intro t₂ ht₂
    obtain ⟨t, t', n, ht, hrun, hn, hafter⟩ := heffect.base
    unfold tableIn at ht₂
    rw [hafter] at ht₂
    by_cases hsame : route'.shardId = route.shardId ∧ m'.table = m.table
    · rw [if_pos hsame] at ht₂
      obtain rfl := Option.some.inj ht₂
      obtain ⟨hschema, hwithin⟩ := hown t t' n ht hrun hn
      refine ⟨t, ?_, hschema, fun r hr => ?_⟩
      · unfold tableIn at ht ⊢
        rw [hsame.1, hsame.2]
        exact ht
      · exact ownRows_other hschema hwithin (hapart t ht hsame.1.symm hsame.2.symm
          (Ne.symm (hpk hsame.2))) hr
    · rw [if_neg hsame] at ht₂
      exact ⟨t₂, ht₂, rfl, fun r hr => hr⟩
  refine
    { schema := fun t₂ ht₂ => ?_
      declared := fun t₂ ht₂ => ?_
      unique := fun t₂ ht₂ => ?_
      single := fun t₂ ht₂ r hr r' hr' => ?_
      indexed := fun t₂ ht₂ index key hcurrent => ?_
      tracks := fun row hrow t₂ ht₂ r hr => ?_
      present := fun row hrow index hindex hring =>
        hpresent (hinv.present row ((simulates_other hturn hkey).mp hrow) index hindex hring) }
  · obtain ⟨t₁, ht₁, hschema, -⟩ := htable t₂ ht₂
    rw [hschema]
    exact hinv.schema t₁ ht₁
  · obtain ⟨t₁, ht₁, hschema, -⟩ := htable t₂ ht₂
    rw [hschema]
    exact hinv.declared t₁ ht₁
  · obtain ⟨t₁, ht₁, hschema, -⟩ := htable t₂ ht₂
    rw [hschema]
    exact hinv.unique t₁ ht₁
  · obtain ⟨t₁, ht₁, -, hrows⟩ := htable t₂ ht₂
    exact hinv.single t₁ ht₁ r (hrows r hr) r' (hrows r' hr')
  · obtain ⟨t₁, ht₁, hschema, hrows⟩ := htable t₂ ht₂
    obtain ⟨hindex, hring, r, hr, hjson⟩ := hcurrent
    refine hpresent (hinv.indexed t₁ ht₁ index key ⟨hindex, hring, r, hrows r hr, ?_⟩)
    rw [← hschema]
    exact hjson
  · obtain ⟨t₁, ht₁, hschema, hrows⟩ := htable t₂ ht₂
    rw [hschema]
    exact hinv.tracks row ((simulates_other hturn hkey).mp hrow) t₁ ht₁ r (hrows r hr)

/-! ## a turn of the same key -/

theorem rawRow_simulates {ok : Bool} {row : Object JsValue} (h : rawRow G C route m ok s = some row) :
    Simulates G C s m route row := by
  unfold rawRow at h
  unfold Simulates
  split at h
  · cases hsim : s.simulated (participantKey m) with
    | some simulated =>
      simp only [hsim] at h
      exact h
    | none =>
      simp only [hsim] at h
      cases ok with
      | true => exact h
      | false => simp [committedRow] at h
  · cases h

theorem given_get (m : StructuredMutation) (c : String) :
    m.given.get? c = m.values.bind fun values => values.get? c := by
  unfold StructuredMutation.given
  cases m.values <;> rfl

/-- an insert or an upsert that passes the checks supplies every indexed column -/
theorem given_all (hrequired : requireIndexedColumnsForInsert m.op (indexedColumns route.indexes) m.values =
      none) (hop : m.op = .insert ∨ m.op = .upsert) {c : String} (hc : c ∈ indexedColumns route.indexes)
    (hplain : c ∉ objectPrototype) : (m.given.get? c).isSome := by
  unfold requireIndexedColumnsForInsert at hrequired
  rw [if_pos hop] at hrequired
  dsimp only at hrequired
  split at hrequired
  · rename_i hempty
    have hnone := List.filter_eq_nil_iff.mp (List.isEmpty_iff.mp hempty) c hc
    rw [given_get]
    cases hv : m.values with
    | none => simp [hv] at hnone
    | some values =>
      rw [hv] at hnone
      rw [Option.bind_some]
      by_contra hmissing
      simp [hasProperty, hplain, Option.not_isSome_iff_eq_none.mp hmissing] at hnone
  · cases hrequired

theorem get?_spread (a b : Object JsValue) (c : String) :
    (spread a b).get? c = (b.get? c).or (a.get? c) := Object.get?_foldl b.nodup a c

/-- the simulated row after a mutation that is taken to find its row -/
theorem nextRow_get (route : Routed) (hop : m.op ≠ .delete) (hmatched : matched m raw = true) :
    ∃ next, nextRow m route.k raw = some next ∧ ∀ c, next.get? c =
      (supplied m route.k c).or (if m.op = .insert then none else raw.bind fun row => row.get? c) := by
  have hget : ∀ o : Object JsValue, ∀ c, (o.set route.k (.string m.partitionKey)).get? c =
      if c = route.k then some (.string m.partitionKey) else o.get? c := fun o c => Object.get?_set ..
  by_cases hins : m.op = .insert
  · refine ⟨m.given.set route.k (.string m.partitionKey), by simp only [nextRow, hins], fun c => ?_⟩
    rw [hget, if_pos hins, Option.or_none]
    rfl
  · refine ⟨(spread (raw.getD .empty) m.given).set route.k (.string m.partitionKey), ?_, fun c => ?_⟩
    · unfold nextRow
      split
      · rename_i heq
        exact absurd heq hins
      · rw [if_pos hmatched, if_neg hop]
    · rw [hget, if_neg hins, supplied, get?_spread]
      by_cases hc : c = route.k
      · simp [hc]
      · rw [if_neg hc, if_neg hc]
        cases raw <;> rfl

/-- an indexed column of the simulated row after the mutation -/
theorem property_next {next : Object JsValue} {c : String} {v : JsValue}
    (hnext : ∀ c, next.get? c =
      (supplied m route.k c).or (if m.op = .insert then none else raw.bind fun row => row.get? c))
    (hv : supplied m route.k c = some v) : property (some next) c = v := by
  simp [property, hnext, hv]

theorem property_kept {row next : Object JsValue} {c : String} (hins : m.op ≠ .insert)
    (hnext : ∀ c, next.get? c =
      (supplied m route.k c).or (if m.op = .insert then none else (some row).bind fun row => row.get? c))
    (hv : supplied m route.k c = none) : property (some next) c = property (some row) c := by
  simp [property, hnext, hv, hins]

/-- the simulated row tracks the row that SQLite leaves -/
theorem tracks_next {next : Object JsValue} {t' : Table} (hschema : t'.schema = t.schema)
    (hwritten : Written G.binding G.platform (indexedColumns route.indexes) m route.k t t')
    (hnext : ∀ c, next.get? c =
      (supplied m route.k c).or (if m.op = .insert then none else raw.bind fun row => row.get? c))
    (hkept : ∀ c ∈ indexedColumns route.indexes, supplied m route.k c = none →
      m.op ≠ .insert ∧ ∃ row, raw = some row ∧ ∀ r ∈ ownRows G.binding m route.k t,
        Tracks G.platform (indexedColumns route.indexes) t.schema row r)
    {r' : Row} (hr' : r' ∈ ownRows G.binding m route.k t') :
    Tracks G.platform (indexedColumns route.indexes) t'.schema next r' := by
  intro c hc
  rw [hschema]
  rcases hwritten r' hr' c hc with ⟨v, hv, hcell⟩ | ⟨hv, r, hr, hcell⟩
  · rw [property_next hnext hv, hcell]
  · obtain ⟨hins, row, rfl, htracks⟩ := hkept c hc hv
    rw [property_kept hins hnext hv, ← hcell]
    exact htracks r hr c hc

/-- the key that the gateway derives is the key of the simulated row -/
theorem newKey_next {next : Object JsValue} (hop : m.op ≠ .delete) (hindex : index ∈ route.indexes)
    (hmatched : matched m raw = true) (hvalid : validateMutation m route.k = .ok ())
    (hplain : ∀ c ∈ indexedColumns route.indexes, c ∉ objectPrototype)
    (hnext : ∀ c, next.get? c =
      (supplied m route.k c).or (if m.op = .insert then none else raw.bind fun row => row.get? c))
    (hkept : ∀ c ∈ indexedColumns route.indexes, m.given.get? c = none →
      m.op ≠ .insert ∧ ∃ row, raw = some row ∧
        (c = route.k → stringify G.platform (property (some row) c) = quote m.partitionKey)) :
    (derivedDelta G m raw index).newKeyJson = some (simulatedKey G.platform index next) := by
  unfold derivedDelta indexDelta
  rw [if_neg hop, if_neg hop, if_pos hmatched]
  dsimp only
  rw [simulatedKey]
  congr 2
  refine List.map_congr_left fun c hc => ?_
  have hmem := mem_indexedColumns hindex hc
  have hproto := hplain c hmem
  cases hv : m.given.get? c with
  | some v =>
    have hnew : newValue raw m.values c = v := by
      have hget := given_get m c
      rw [hv] at hget
      obtain ⟨values, hvalues, hvc⟩ := Option.bind_eq_some_iff.mp hget.symm
      simp [newValue, hvalues, hasProperty, hvc, property]
    have hsupplied : supplied m route.k c = some v := by
      unfold supplied
      split
      · rename_i hck
        rw [hck] at hv
        rw [given_key hvalid hv]
      · exact hv
    rw [hnew, property_next hnext hsupplied]
  | none =>
    obtain ⟨hins, row, rfl, hkey⟩ := hkept c hmem hv
    have hnew : newValue (some row) m.values c = property (some row) c := by
      have hget := given_get m c
      rw [hv] at hget
      unfold newValue
      cases hvalues : m.values with
      | none => rfl
      | some values =>
        have hvc : values.get? c = none := by
          rw [hvalues] at hget
          exact hget.symm
        simp [hasProperty, hvc, hproto]
    rw [hnew]
    by_cases hck : c = route.k
    · have hsupplied : supplied m route.k c = some (.string m.partitionKey) := by
        rw [supplied, if_pos hck]
      rw [property_next hnext hsupplied, hkey hck]
      rfl
    · have hsupplied : supplied m route.k c = none := by rw [supplied, if_neg hck, hv]
      rw [property_kept hins hnext hsupplied]

/-- an entry stays or is brought when the turn does not delete it -/
theorem Effect.present_own {c : Compiled} {C₁ C₂ : Cluster} {key : String}
    (h : Effect G m route c raw C₁ C₂)
    (hdelete : ∀ shard, (shard, .delete ((route.target G m).entryId index.indexName key)) ∉
      indexWrites G route m raw)
    (hpresent : Present C₁ (route.target G m) index key ∨
      (Delivery.shardOf (route.target G m) index key,
        IndexWrite.insert ((route.target G m).entry index.indexName key)) ∈ indexWrites G route m raw) :
    Present C₂ (route.target G m) index key := by
  unfold Present
  rw [h.entries]
  refine exec_keeps (fun hdel => hdelete _ (mem_writesTo.mp hdel)) (fun e he _ => ?_) ?_
  · obtain ⟨i, -, -, ⟨key', -, hp⟩ | ⟨key', -, hp⟩⟩ := indexWrites_mem (mem_writesTo.mp he)
    · cases hp
    · rw [IndexWrite.insert.inj hp]
      rfl
  · exact hpresent.imp_right fun hmem => ⟨_, mem_writesTo.mpr hmem, rfl⟩

/-- the key of the simulated row has its entry after the turn -/
theorem Effect.present_new {c : Compiled} {C₁ C₂ : Cluster} {key : String}
    (h : Effect G m route c raw C₁ C₂) (hindex : index ∈ route.indexes) (hring : index.ring ≠ [])
    (hmatched : matched m raw = true) (hupdate : m.op = .update → raw.isSome)
    (hnew : (derivedDelta G m raw index).newKeyJson = some key)
    (hold : ∀ row, raw = some row → Present C₁ (route.target G m) index (simulatedKey G.platform index row)) :
    Present C₂ (route.target G m) index key := by
  refine h.present_own (fun shard hdel => (delete_old hindex hdel).2 hnew) ?_
  by_cases hsame : (derivedDelta G m raw index).oldKeyJson = some key
  · left
    unfold derivedDelta indexDelta at hsame
    rw [if_pos hmatched] at hsame
    obtain ⟨row, hraw, hkey⟩ := Option.map_eq_some_iff.mp hsame
    have hpresent := hold row hraw
    rw [hraw] at hkey
    rw [← hkey]
    exact hpresent
  · exact .inr (insert_new hindex hring (fun hop => ⟨hmatched, hupdate hop⟩) hnew hsame)

/-- a mutation that is taken not to find its row has no index writes -/
theorem indexWrites_unmatched (hmatched : matched m raw = false) : indexWrites G route m raw = [] := by
  refine List.eq_nil_iff_forall_not_mem.mpr fun p hp => ?_
  have hold : ∀ i, (derivedDelta G m raw i).oldKeyJson = none := by
    intro i
    simp [derivedDelta, indexDelta, hmatched]
  obtain ⟨d, hd, hp⟩ := List.mem_flatMap.mp hp
  rw [if_neg (by simp [hmatched])] at hd
  have hop : m.op = .update ∨ m.op = .delete := by
    unfold matched at hmatched
    split at hmatched
    · exact .inl ‹_›
    · exact .inr ‹_›
    · cases hmatched
  rcases hop with hop | hop
  · simp [computeIndexDeltas, hop] at hd
  · unfold computeIndexDeltas at hd
    rw [if_neg (by simp [hop])] at hd
    obtain ⟨hd, hne⟩ := List.mem_filter.mp hd
    obtain ⟨i, -, rfl⟩ := List.mem_map.mp hd
    simp [indexDelta, hop] at hne

theorem matched_some (hop : m.op = .update ∨ m.op = .delete) (h : matched m raw = true) :
    ∃ row, raw = some row := by
  cases raw with
  | some row => exact ⟨row, rfl⟩
  | none => rcases hop with hop | hop <;> simp [matched, hop, simulatedRowMatchesWhere] at h

/-- after a turn of its key the row is what SQLite has left of it -/
structure After (G : Gateway) (m : StructuredMutation) (route : Routed) (raw : Option (Object JsValue))
    (C₁ C₂ : Cluster) (t t' : Table) : Prop where
  before : tableIn route m C₁ = some t
  table : ∀ t₂, tableIn route m C₂ = some t₂ → t₂ = t'
  own : OwnEffect G.binding G.platform (indexedColumns route.indexes) m route.k t t'
  tracked : ∀ row, raw = some row → ∀ r ∈ ownRows G.binding m route.k t,
    Tracks G.platform (indexedColumns route.indexes) t.schema row r
  given : m.op = .insert ∨ m.op = .upsert → ∀ c ∈ indexedColumns route.indexes,
    (m.given.get? c).isSome

theorem Inv.given {C₁ : Cluster} {ok : Bool} {c : Compiled} (hinv : Inv G C s C₁ m route)
    (hturn : Turn G C s s' m ok route c) (ht : tableIn route m C₁ = some t)
    (hop : m.op = .insert ∨ m.op = .upsert) :
    ∀ c ∈ indexedColumns route.indexes, (m.given.get? c).isSome :=
  fun c hc => given_all hturn.required hop hc (hinv.declared t ht c hc).1

/-- the statement of a turn, by its effect on the row of its key -/
theorem Inv.own {C₁ : Cluster} {ok : Bool} {c : Compiled} {t' : Table} {n : Nat}
    (hinv : Inv G C s C₁ m route) (hturn : Turn G C s s' m ok route c)
    (ht : tableIn route m C₁ = some t) (hrun : c.run G.binding t = .ok (t', n))
    (hn : m.op = .update ∨ m.op = .delete → n ≠ 0)
    (hplain : Plain G.binding G.platform (indexedColumns route.indexes) m route.k t) :
    OwnEffect G.binding G.platform (indexedColumns route.indexes) m route.k t t' := by
  refine run_effect hturn.compiled hrun hn (hinv.unique t ht) (hinv.single t ht) hplain
    (fun c hc => (hinv.declared t ht c hc).2.imp fun i hi => hi.choose_spec.1) fun hop c hc => ?_
  unfold supplied
  split
  · rfl
  · exact hinv.given hturn ht hop c hc

theorem Inv.after {C₁ C₂ : Cluster} {ok : Bool} {c : Compiled} (hinv : Inv G C s C₁ m route)
    (hturn : Turn G C s s' m ok route c) (heffect : Effect G m route c (rawRow G C route m ok s) C₁ C₂)
    (hfaithful : ∀ t, tableIn route m C₁ = some t → Faithful G route m (rawRow G C route m ok s) t) :
    ∃ t t', After G m route (rawRow G C route m ok s) C₁ C₂ t t' := by
  obtain ⟨t, t', n, ht, hrun, hn, hafter⟩ := heffect.base
  refine ⟨t, t', ht, fun t₂ ht₂ => ?_, hinv.own hturn ht hrun hn (hfaithful t ht).plain,
    fun row hrow => hinv.tracks row (rawRow_simulates hrow) t ht, hinv.given hturn ht⟩
  unfold tableIn at ht₂
  rw [hafter, if_pos ⟨rfl, rfl⟩] at ht₂
  exact (Option.some.inj ht₂).symm

/-- it is enough to know the next simulated row, what it tracks and its entries -/
theorem Inv.of_next {C₁ C₂ : Cluster} {ok : Bool} {c : Compiled} {t t' : Table}
    (hinv : Inv G C s C₁ m route) (hturn : Turn G C s s' m ok route c)
    (hafter : After G m route (rawRow G C route m ok s) C₁ C₂ t t')
    (htracks : ∀ row, nextRow m route.k (rawRow G C route m ok s) = some row →
      ∀ r ∈ ownRows G.binding m route.k t',
        Tracks G.platform (indexedColumns route.indexes) t'.schema row r)
    (hpresent : ∀ row, nextRow m route.k (rawRow G C route m ok s) = some row →
      ∀ index ∈ route.indexes, index.ring ≠ [] →
        Present C₂ (route.target G m) index (simulatedKey G.platform index row))
    (hindexed : ∀ index ∈ route.indexes, index.ring ≠ [] → ∀ r ∈ ownRows G.binding m route.k t',
      Present C₂ (route.target G m) index (currentKeyJson G.platform t'.schema index r)) :
    Inv G C s' C₂ m route := by
  have hsim : indexedColumns route.indexes ≠ [] → ∀ row, Simulates G C s' m route row →
      nextRow m route.k (rawRow G C route m ok s) = some row := by
    intro hcs row hrow
    unfold Simulates at hrow
    rw [hturn.simulated, if_pos ⟨rfl, hcs⟩] at hrow
    exact hrow
  refine
    { schema := fun t₂ ht₂ => ?_
      declared := fun t₂ ht₂ => ?_
      unique := fun t₂ ht₂ => ?_
      single := fun t₂ ht₂ => ?_
      indexed := fun t₂ ht₂ index key hcurrent => ?_
      tracks := fun row hrow t₂ ht₂ r hr => ?_
      present := fun row hrow index hindex hring => ?_ }
  · rw [hafter.table t₂ ht₂, hafter.own.schema]
    exact hinv.schema t hafter.before
  · rw [hafter.table t₂ ht₂, hafter.own.schema]
    exact hinv.declared t hafter.before
  · rw [hafter.table t₂ ht₂, hafter.own.schema]
    exact hinv.unique t hafter.before
  · rw [hafter.table t₂ ht₂]
    exact hafter.own.single
  · obtain ⟨hindex, hring, r, hr, rfl⟩ := hcurrent
    rw [hafter.table t₂ ht₂] at hr ⊢
    exact hindexed index hindex hring r hr
  · rw [hafter.table t₂ ht₂] at hr ⊢
    by_cases hcs : indexedColumns route.indexes = []
    · intro c hc
      rw [hcs] at hc
      cases hc
    · exact htracks row (hsim hcs row hrow) r hr
  · by_cases hcs : indexedColumns route.indexes = []
    · rw [indexes_nil hcs] at hindex
      cases hindex
    · exact hpresent row (hsim hcs row hrow) index hindex hring

/-- without an indexed column among its values, an update that finds the row keeps what the row has -/
theorem kept_cell {C₁ C₂ : Cluster} {t t' : Table} (hafter : After G m route raw C₁ C₂ t t')
    (hsingle : Single G.binding m route.k t)
    (hplain : Plain G.binding G.platform (indexedColumns route.indexes) m route.k t)
    (hop : m.op = .update)
    (hnone : ∀ c ∈ indexedColumns route.indexes, c ≠ route.k → m.given.get? c = none)
    {r' : Row} (hr' : r' ∈ ownRows G.binding m route.k t') :
    ∃ r ∈ ownRows G.binding m route.k t, ∀ c ∈ indexedColumns route.indexes,
      jsonText G.platform (cellOf t.schema c r') = jsonText G.platform (cellOf t.schema c r) := by
  obtain ⟨r, hr⟩ := List.exists_mem_of_ne_nil _ (hafter.own.found hop)
  refine ⟨r, hr, fun c hc => ?_⟩
  rcases hafter.own.written (by simp [hop]) r' hr' c hc with ⟨v, hv, hcell⟩ | ⟨-, r₁, hr₁, hcell⟩
  · unfold supplied at hv
    split at hv
    · rename_i hck
      rw [hcell, ← Option.some.inj hv, hck, hplain.key (hck ▸ hc) r hr]
      rfl
    · rename_i hck
      rw [hnone c hc hck] at hv
      cases hv
  · rw [← hcell, hsingle r₁ hr₁ r hr]

/-- the mutation is taken to find its row, or to bring it -/
theorem Inv.of_matched {C₁ C₂ : Cluster} {ok : Bool} {c : Compiled} {t t' : Table}
    (hinv : Inv G C s C₁ m route) (hturn : Turn G C s s' m ok route c)
    (heffect : Effect G m route c (rawRow G C route m ok s) C₁ C₂)
    (hafter : After G m route (rawRow G C route m ok s) C₁ C₂ t t')
    (hplain : Plain G.binding G.platform (indexedColumns route.indexes) m route.k t)
    (hop : m.op ≠ .delete) (hmatched : matched m (rawRow G C route m ok s) = true) :
    Inv G C s' C₂ m route := by
  set raw := rawRow G C route m ok s
  obtain ⟨next, hnext, hget⟩ := nextRow_get route hop hmatched
  have hproto : ∀ c ∈ indexedColumns route.indexes, c ∉ objectPrototype :=
    fun c hc => (hinv.declared t hafter.before c hc).1
  -- a column is left out by an update only, and then the row was there
  have hleft : ∀ c ∈ indexedColumns route.indexes, m.given.get? c = none →
      m.op = .update ∧ ∃ row, raw = some row := by
    intro c hc hv
    have hupdate : m.op = .update := by
      by_contra hne
      have hins : m.op = .insert ∨ m.op = .upsert := by
        have hvalid := hturn.valid
        cases hop' : m.op with
        | insert => exact .inl rfl
        | upsert => exact .inr rfl
        | update => exact absurd hop' hne
        | delete => exact absurd hop' hop
        | unknown text =>
          have hcompiled := hturn.compiled
          simp [compileMutation, hop'] at hcompiled
      have hsome := hafter.given hins c hc
      rw [hv] at hsome
      cases hsome
    exact ⟨hupdate, matched_some (.inl hupdate) hmatched⟩
  have htracks : ∀ r' ∈ ownRows G.binding m route.k t',
      Tracks G.platform (indexedColumns route.indexes) t'.schema next r' := by
    intro r' hr'
    refine tracks_next hafter.own.schema (hafter.own.written hop) hget (fun c hc hv => ?_) hr'
    have hnone : m.given.get? c = none := by
      unfold supplied at hv
      split at hv
      · cases hv
      · exact hv
    obtain ⟨hupdate, row, hrow⟩ := hleft c hc hnone
    exact ⟨by simp [hupdate], row, hrow, hafter.tracked row hrow⟩
  have hpresent : ∀ index ∈ route.indexes, index.ring ≠ [] →
      Present C₂ (route.target G m) index (simulatedKey G.platform index next) := by
    intro index hindex hring
    refine heffect.present_new hindex hring hmatched (fun hupdate => ?_) ?_ fun row hrow =>
      hinv.present row (rawRow_simulates hrow) index hindex hring
    · obtain ⟨row, hrow⟩ := matched_some (.inl hupdate) hmatched
      exact Option.isSome_iff_exists.mpr ⟨row, hrow⟩
    · refine newKey_next hop hindex hmatched hturn.valid hproto hget fun c hc hv => ?_
      obtain ⟨hupdate, row, hrow⟩ := hleft c hc hv
      refine ⟨by simp [hupdate], row, hrow, fun hck => ?_⟩
      obtain ⟨r, hr⟩ := List.exists_mem_of_ne_nil _ (hafter.own.found hupdate)
      rw [hafter.tracked row hrow r hr c hc, hck]
      exact hplain.key (hck ▸ hc) r hr
  refine hinv.of_next hturn hafter (fun row hrow r hr => ?_) (fun row hrow index hindex hring => ?_)
    (fun index hindex hring r hr => ?_)
  · obtain rfl := Option.some.inj (hnext.symm.trans hrow)
    exact htracks r hr
  · obtain rfl := Option.some.inj (hnext.symm.trans hrow)
    exact hpresent index hindex hring
  · rw [← tracks_key hindex (htracks r hr)]
    exact hpresent index hindex hring

theorem Inv.same {C₁ C₂ : Cluster} {ok : Bool} {c : Compiled} (hinv : Inv G C s C₁ m route)
    (hturn : Turn G C s s' m ok route c) (heffect : Effect G m route c (rawRow G C route m ok s) C₁ C₂)
    (hfaithful : ∀ t, tableIn route m C₁ = some t → Faithful G route m (rawRow G C route m ok s) t) :
    Inv G C s' C₂ m route := by
  obtain ⟨t, t', hafter⟩ := hinv.after hturn heffect hfaithful
  have hf := hfaithful t hafter.before
  set raw := rawRow G C route m ok s with hraw
  cases hmatched : matched m raw with
  | true =>
    by_cases hop : m.op = .delete
    · -- the row is gone, and with it the simulated one
      have hnext : nextRow m route.k raw = none := by
        unfold nextRow
        split
        · rename_i hins
          rw [hop] at hins
          cases hins
        · rw [if_pos hmatched, if_pos hop]
      refine hinv.of_next hturn hafter (fun row hrow => ?_) (fun row hrow => ?_) fun index _ _ r hr => ?_
      · rw [← hraw, hnext] at hrow
        cases hrow
      · rw [← hraw, hnext] at hrow
        cases hrow
      · rw [hafter.own.gone hop] at hr
        cases hr
    · exact hinv.of_matched hturn heffect hafter hf.plain hop hmatched
  | false =>
    -- no index write, and the simulated row stays
    have hkeep : ∀ {index : IndexDefinition} {key : String},
        Present C₁ (route.target G m) index key → Present C₂ (route.target G m) index key := by
      intro index key h
      refine heffect.present_own (fun shard hdel => ?_) (.inl h)
      rw [indexWrites_unmatched hmatched] at hdel
      cases hdel
    have hop : m.op = .update ∨ m.op = .delete := by
      unfold matched at hmatched
      split at hmatched
      · exact .inl ‹_›
      · exact .inr ‹_›
      · cases hmatched
    have hnext : nextRow m route.k raw = raw := by
      unfold nextRow
      split
      · rename_i hins
        rcases hop with hop | hop <;> rw [hop] at hins <;> cases hins
      · rw [if_neg (by simp [hmatched])]
    have hpresent : ∀ row, nextRow m route.k raw = some row → ∀ index ∈ route.indexes, index.ring ≠ [] →
        Present C₂ (route.target G m) index (simulatedKey G.platform index row) := by
      intro row hrow index hindex hring
      rw [hnext] at hrow
      exact hkeep (hinv.present row (rawRow_simulates hrow) index hindex hring)
    rcases hop with hop | hop
    · have hnone : ∀ c ∈ indexedColumns route.indexes, c ≠ route.k → m.given.get? c = none := by
        intro c hc hck
        by_contra hsome
        have hfound := hf.found hop ⟨c, hc, hck, Option.isSome_iff_ne_none.mpr hsome⟩
        simp [matched, hop, hfound] at hmatched
      refine hinv.of_next hturn hafter (fun row hrow r' hr' c hc => ?_) hpresent
        fun index hindex hring r' hr' => ?_
      · rw [← hraw, hnext] at hrow
        obtain ⟨r, hr, hcells⟩ := kept_cell hafter (hinv.single t hafter.before) hf.plain hop hnone hr'
        rw [hafter.own.schema, hcells c hc]
        exact hafter.tracked row hrow r hr c hc
      · obtain ⟨r, hr, hcells⟩ := kept_cell hafter (hinv.single t hafter.before) hf.plain hop hnone hr'
        have hkey : currentKeyJson G.platform t'.schema index r' =
            currentKeyJson G.platform t.schema index r := by
          unfold currentKeyJson
          rw [hafter.own.schema]
          congr 1
          exact List.map_congr_left fun c hc => hcells c (mem_indexedColumns hindex hc)
        rw [hkey]
        exact hkeep (hinv.indexed t hafter.before index _ ⟨hindex, hring, r, hr, rfl⟩)
    · refine hinv.of_next hturn hafter (fun row _ r hr => ?_) hpresent fun index _ _ r hr => ?_
      · rw [hafter.own.gone hop] at hr
        cases hr
      · rw [hafter.own.gone hop] at hr
        cases hr

/-! ## the batch -/

/-- the invariant is about the key of a mutation -/
theorem Inv.of_key {C₁ : Cluster} {m' : StructuredMutation} (h : Inv G C s C₁ m route)
    (hkey : participantKey m = participantKey m') : Inv G C s C₁ m' route := by
  obtain ⟨htenant, htable, hpk⟩ := rowKey_inj hkey
  cases m
  cases m'
  dsimp only at htenant htable hpk
  subst htenant htable hpk
  exact ⟨h.schema, h.declared, h.unique, h.single, h.indexed, h.tracks, h.present⟩

theorem run_exec {B : Binding} {c : Compiled} {t t' : Table} {n : Nat} (h : c.run B t = .ok (t', n)) :
    c.exec B t = .ok t' := by
  obtain ⟨params, hparams, hexec, -⟩ := run_ok h
  simp only [Compiled.exec, hparams]
  exact hexec

theorem committed_unique {B : Binding} {intents : List (String × TxIntent)} {C₁ C₂ : Cluster}
    (h₁ : Committed B intents C C₁) (h₂ : Committed B intents C C₂) : C₁ = C₂ := by
  funext shard
  exact Option.some.inj ((h₁ shard).symm.trans (h₂ shard))

theorem loop_intents {rest : List (StructuredMutation × Bool)} {s s' : TxState}
    (h : rest.foldlM (fun s p => txMutation G C s p.1 p.2) s = .ok s') :
    ∃ added, s'.intents = s.intents ++ added := by
  induction rest generalizing s with
  | nil =>
    cases h
    exact ⟨[], by simp⟩
  | cons p rest ih =>
    rw [List.foldlM_cons] at h
    obtain ⟨s₁, hs₁, h⟩ := bind_ok h
    obtain ⟨route, c, -, hturn⟩ := turn_of_ok hs₁
    obtain ⟨added, hadded⟩ := ih h
    exact ⟨_, by rw [hadded, hturn.intents, List.append_assoc]⟩

theorem Ready.inv (h : Ready G C m route) (hroute : G.route m.tenantId m.table m.partitionKey = .ok route) :
    Inv G C TxState.start C m route where
  schema t ht := ⟨t, ht, rfl⟩
  declared := h.declared
  unique := h.unique
  single := h.single
  indexed := h.indexed route hroute
  tracks row hrow t ht r hr := by
    obtain ⟨_, _, htracks⟩ := preRead_tracks hrow ht (h.declared t ht) (h.single t ht)
    exact (htracks r hr).2
  present row hrow index hindex hring := by
    have hread : committedRow G C route m true = some row := hrow
    have htable : ∃ t, tableIn route m C = some t := by
      unfold committedRow at hread
      rw [if_pos rfl] at hread
      obtain ⟨t, ht, -⟩ := Option.bind_eq_some_iff.mp hread
      exact ⟨t, ht⟩
    obtain ⟨t, ht⟩ := htable
    obtain ⟨r, hr, htracks⟩ := preRead_tracks hread ht (h.declared t ht) (h.single t ht)
    rw [tracks_key hindex (htracks r hr).2]
    exact h.indexed route hroute t ht index _ ⟨hindex, hring, r, hr, rfl⟩

/-! ## an update with a condition -/

/-- texts `k`, `v` and `n`; the row `a` holds `v` and the text `one` -/
def noted (v : String) : Table where
  schema := { columns := [textColumn "k", textColumn "v", textColumn "n"], unique := [[0]]
              admits := fun _ => true }
  rows := [⟨0, [.text "a", .text v, .text "one"]⟩]
  nextId := 1
  fresh := by simp
  nodup := by simp

theorem noted_named : ([⟨"i", ["v"], ["s"]⟩].map IndexDefinition.indexName).Nodup := by simp

/-- the index `i` on `v` is on the shard `s` -/
def notedRoute : Routed where
  shardId := "base"
  vbucket := 0
  partitionKeyColumn := some "k"
  indexes := [⟨"i", ["v"], ["s"]⟩]
  named := noted_named
  nonempty := by simp

def notedGateway : Gateway where
  platform := { sha256Hex := id, numberText := fun _ => "0" }
  binding := plainBinding
  route _ _ _ := .ok notedRoute

def notedEntry (v : String) : IndexEntry := ⟨"t", "i", array [quote v], "a", "base", "A"⟩

def notedData (v : String) : Data where
  table name := if name = "t" then some (noted v) else none
  owners := [⟨"t", "a", "A", 0⟩]
  keyed := by simp

theorem unowned_keyed : (([] : List DataPlane.RowOwner).map DataPlane.RowOwner.id).Nodup := by simp

def emptyData : Data where
  table _ := none
  owners := []
  keyed := unowned_keyed

/-- the row is on the shard `base`, its entry on the shard `s` -/
def notedShards (v key : String) : Cluster := fun shard =>
  if shard = "base" then ⟨notedData v, []⟩
  else if shard = "s" then ⟨emptyData, [notedEntry key]⟩
  else ⟨emptyData, []⟩

/-- sets `v` in the row `a` under a condition -/
def setWhere (c old new : String) : StructuredMutation where
  op := .update
  table := "t"
  tenantId := "A"
  partitionKey := "a"
  where_ := some (.ofList [(c, .string old)])
  values := some (.ofList [("v", .string new)])
  conflictColumns := none

def updateIntent (c old new : String) : String × TxIntent :=
  ("base", .base
    { compiled := ⟨.update "t" ["v"] ["k", c], [.string new, .string "a", .string old]⟩
      tenantId := "A", table := "t", partitionKey := "a", vbucket := 0, op := .update })

/-- by what they execute, where that goes through -/
def afterIntents (intents : List (String × TxIntent)) (C : Cluster) : Cluster := fun shard =>
  (applyIntents plainBinding (participantIntents intents shard) (C shard)).getD (C shard)

theorem committed_after {intents : List (String × TxIntent)} {C : Cluster}
    (h : ∀ shard, (applyIntents plainBinding (participantIntents intents shard) (C shard)).isSome) :
    Committed plainBinding intents C (afterIntents intents C) := by
  intro shard
  obtain ⟨S, hS⟩ := Option.isSome_iff_exists.mp (h shard)
  rw [afterIntents, hS, Option.getD_some]

/-- only the shards `base` and `s` take part -/
theorem committed_noted {intents : List (String × TxIntent)} {C : Cluster}
    (hbase : (applyIntents plainBinding (participantIntents intents "base") (C "base")).isSome)
    (hs : (applyIntents plainBinding (participantIntents intents "s") (C "s")).isSome)
    (hothers : ∀ p ∈ intents, p.1 = "base" ∨ p.1 = "s") :
    Committed plainBinding intents C (afterIntents intents C) := by
  refine committed_after fun shard => ?_
  by_cases h₁ : shard = "base"
  · exact h₁ ▸ hbase
  by_cases h₂ : shard = "s"
  · exact h₂ ▸ hs
  have hnone : participantIntents intents shard = [] := by
    have hfilter : intents.filter (fun p => p.1 = shard) = [] := by
      refine List.filter_eq_nil_iff.mpr fun p hp hshard => ?_
      have hshard : p.1 = shard := by simpa using hshard
      rcases hothers p hp with h | h
      · exact h₁ (hshard.symm.trans h)
      · exact h₂ (hshard.symm.trans h)
    rw [participantIntents, hfilter, List.map_nil]
  rw [hnone]
  rfl

def movedIntents : List (String × TxIntent) :=
  [updateIntent "v" "x" "y", ("s", .index (.delete (notedEntry "x").id)),
    ("s", .index (.insert (notedEntry "y")))]

theorem noted_table {c old new v key : String} {t : Table}
    (ht : tableIn notedRoute (setWhere c old new) (notedShards v key) = some t) : t = noted v :=
  (Option.some.inj ht).symm

theorem noted_current {c old new : String} {t : Table} {index : IndexDefinition} {key : String} {r : Row}
    (hrows : ownRows plainBinding (setWhere c old new) "k" t = [r])
    (h : Delivery.Current (notedRoute.target notedGateway (setWhere c old new)) t index key) :
    index = ⟨"i", ["v"], ["s"]⟩ ∧ key = currentKeyJson notedGateway.platform t.schema index r := by
  obtain ⟨hindex, -, r', hr', hkey⟩ := h
  rw [rowsOf_target] at hr'
  have hr : r' ∈ ownRows plainBinding (setWhere c old new) "k" t := hr'
  rw [hrows] at hr
  obtain rfl := List.mem_singleton.mp hr
  exact ⟨List.mem_singleton.mp hindex, hkey.symm⟩

theorem noted_rows (c old new v : String) : ownRows plainBinding (setWhere c old new) "k" (noted v) =
    [⟨0, [.text "a", .text v, .text "one"]⟩] := by
  rfl

theorem noted_ready (c old new : String) :
    Ready notedGateway (notedShards "x" "x") (setWhere c old new) notedRoute where
  declared t ht := by
    rw [noted_table ht]
    intro column hcolumn
    have hv : column = "v" := List.mem_singleton.mp hcolumn
    rw [hv]
    exact ⟨by decide +kernel, 1, textColumn "v", by decide +kernel, rfl, rfl⟩
  unique t ht := by
    rw [noted_table ht]
    exact ⟨0, by decide +kernel, by decide⟩
  single t ht := by
    rw [noted_table ht]
    intro r hr r' hr'
    have hr : r ∈ ownRows plainBinding (setWhere c old new) "k" (noted "x") := hr
    have hr' : r' ∈ ownRows plainBinding (setWhere c old new) "k" (noted "x") := hr'
    rw [noted_rows] at hr hr'
    rw [List.mem_singleton.mp hr, List.mem_singleton.mp hr']
  indexed := by
    intro route hroute t ht index key hcurrent
    obtain rfl := Except.ok.inj hroute
    obtain rfl := noted_table ht
    obtain ⟨rfl, hkey⟩ := noted_current (noted_rows c old new "x") hcurrent
    have hquote : key = array [quote "x"] := hkey.trans (by decide +kernel)
    have hshard : indexShardIdForKey "t" "i" (array [quote "x"]) ["s"] = "s" := by decide +kernel
    rw [hquote]
    refine ⟨notedEntry "x", ?_, rfl, rfl⟩
    show _ ∈ (notedShards "x" "x" (indexShardIdForKey "t" "i" (array [quote "x"]) ["s"])).entries
    rw [hshard]
    exact List.mem_singleton_self _

end StructuredOp.Tx
