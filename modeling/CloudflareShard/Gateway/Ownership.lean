import CloudflareShard.Gateway.StructuredOp

/-!
# Whose rows a structured mutation touches

A compiled mutation is meant to insert, change or delete only rows of its own partition key.  Whether
it does is decided by the names in `values` that denote the partition-key column without being its
registered spelling, and by the row that an upsert conflicts with.

* `ownedBy`, `stores`           a row of the partition key, a value that makes one;
* `KeepsKey`                    what the mutation and the table must be like;
* `mutation_within_iff`         **the mutation stays within its partition key exactly then**;
* `upsert_takes_row`            a mutation that takes over a row of another key.
-/

namespace StructuredOp
open Json Sqlite

variable {B : Binding} {S : Schema} {m : StructuredMutation} {k : String} {t t' : Table}

/-- the partition-key column of the row equals `partitionKey` -/
def ownedBy (B : Binding) (S : Schema) (k partitionKey : String) (r : Row) : Bool :=
  match S.resolve k with
  | some i => (S.columns[i]?.map fun c => c.matches B.rules (r.cell i) (.text partitionKey)).getD false
  | none => false

/-- the partition-key column turns `v` into a value that equals `partitionKey` -/
def stores (B : Binding) (S : Schema) (k partitionKey : String) (v : JsValue) : Bool :=
  match S.resolve k, B.bind v with
  | some i, some w =>
    (S.columns[i]?.map fun c => c.matches B.rules (c.store B.rules w) (.text partitionKey)).getD false
  | _, _ => false

/-- the first entry that denotes the partition-key column, under whatever spelling -/
def firstNaming (S : Schema) (k : String) (entries : List (String × JsValue)) : Option JsValue :=
  (entries.find? fun p => S.resolve p.1 = S.resolve k).map Prod.snd

/-- an inserted row gets the partition key -/
def InsertsKey (B : Binding) (S : Schema) (m : StructuredMutation) (k : String) : Prop :=
  ∀ v ∈ firstNaming S k (insertedValues m k).entries, stores B S k m.partitionKey v = true

/-- an updated row keeps the partition key; the last entry for a column counts -/
def UpdatesKey (B : Binding) (S : Schema) (m : StructuredMutation) (k : String) : Prop :=
  ∀ v ∈ firstNaming S k (setValues m k).reverse, stores B S k m.partitionKey v = true

/-- the row meets all conditions of the mutation -/
def Meets (B : Binding) (S : Schema) (m : StructuredMutation) (k : String) (r : Row) : Prop :=
  ∀ p ∈ mutationWhereClause m k, ∃ i c w, S.resolve p.1 = some i ∧ S.columns[i]? = some c ∧
    B.bind p.2 = some w ∧ c.matches B.rules (r.cell i) w = true

/-- the columns that an upsert sets in a row it conflicts with -/
def updateColumns (m : StructuredMutation) (k : String) : List String :=
  (insertedValues m k).keys.filter fun c => !(conflictColumns m k).contains c

/-- the row that an upsert conflicts with, and what it would make of its cells -/
def conflictRow (B : Binding) (m : StructuredMutation) (k : String) (t : Table) :
    Option (Row × List Value) := do
  let targets ← (t.schema.resolveAll (insertedValues m k).keys).toOption
  let params ← ((insertedValues m k).entries.map Prod.snd).mapM B.bind
  let target ← (t.schema.resolveAll (conflictColumns m k)).toOption
  let constraint ← (t.schema.constraintOf target).toOption
  let set ← (t.schema.resolveAll (updateColumns m k)).toOption
  let cells := t.schema.candidate B.rules targets params
  let row ← t.conflicting constraint cells
  return (row, Table.excluded B.rules t.schema set cells row.cells)

/-- the mutation leaves nothing but rows of its partition key behind, and takes no others -/
def KeepsKey (B : Binding) (m : StructuredMutation) (k : String) (t : Table) : Prop :=
  match m.op with
  | .insert => InsertsKey B t.schema m k
  | .update => UpdatesKey B t.schema m k ∨ ∀ r ∈ t.rows, ¬ Meets B t.schema m k r
  | .upsert =>
    match conflictRow B m k t with
    | none => InsertsKey B t.schema m k
    | some (row, cells) => updateColumns m k = [] ∨ cells = row.cells ∨
      ownedBy B t.schema k m.partitionKey row = true ∧
        ((∃ c ∈ updateColumns m k, t.schema.resolve c = t.schema.resolve k) →
          InsertsKey B t.schema m k)
  | _ => True

/-! ## the columns of a statement -/

theorem resolve_lt {name : String} {i : Nat} (h : S.resolve name = some i) :
    ∃ c, S.columns[i]? = some c := by
  have hlt : i < S.columns.length := (List.findIdx?_eq_some_iff_getElem.mp h).1
  exact ⟨S.columns[i], List.getElem?_eq_getElem hlt⟩

theorem ownedBy_eq {i : Nat} {c : Column} (hi : S.resolve k = some i) (hc : S.columns[i]? = some c)
    (pk : String) (r : Row) :
    ownedBy B S k pk r = c.matches B.rules (r.cell i) (.text pk) := by
  simp [ownedBy, hi, hc]

theorem stores_eq {i : Nat} {c : Column} (hi : S.resolve k = some i) (hc : S.columns[i]? = some c)
    {v : JsValue} {w : Value} (hw : B.bind v = some w) (pk : String) :
    stores B S k pk v = c.matches B.rules (c.store B.rules w) (.text pk) := by
  simp [stores, hi, hw, hc]

/-- an assignment list that was resolved and bound, read at the partition-key column -/
theorem assigned_key (entries : List (String × JsValue)) {targets : List Nat} {values : List Value}
    {i : Nat} (hi : S.resolve k = some i)
    (ht : List.Forall₂ (fun name i => S.resolve name = some i) (entries.map Prod.fst) targets)
    (hv : List.Forall₂ (fun v w => B.bind v = some w) (entries.map Prod.snd) values) :
    assigned targets values i = (firstNaming S k entries).bind B.bind := by
  rw [assigned_eq (f := fun p : String × JsValue => S.resolve p.1) (g := fun p => B.bind p.2) i
    (List.forall₂_map_left_iff.mp ht) (List.forall₂_map_left_iff.mp hv), firstNaming, hi]
  cases entries.find? fun p => S.resolve p.1 = some i <;> rfl

theorem bound_of_mem {l : List JsValue} {values : List Value} {v : JsValue}
    (h : List.Forall₂ (fun v w => B.bind v = some w) l values) (hv : v ∈ l) : ∃ w, B.bind v = some w := by
  induction h with
  | nil => cases hv
  | cons h _ ih =>
    rcases List.mem_cons.mp hv with he | hv
    · exact ⟨_, he ▸ h⟩
    · exact ih hv

theorem find_bound {entries : List (String × JsValue)} {values : List Value} {v : JsValue}
    (hv : List.Forall₂ (fun v w => B.bind v = some w) (entries.map Prod.snd) values)
    (h : firstNaming S k entries = some v) : ∃ w, B.bind v = some w := by
  obtain ⟨p, hp, rfl⟩ := Option.map_eq_some_iff.mp h
  exact bound_of_mem hv (List.mem_map_of_mem (List.mem_of_find?_eq_some hp))

/-- the partition key is always among the inserted values -/
theorem firstNaming_inserted : ∃ v, firstNaming S k (insertedValues m k).entries = some v := by
  have hk : k ∈ (insertedValues m k).entries.map Prod.fst := by
    show k ∈ (Object.setEntry k _ _).map Prod.fst
    rw [Object.keys_setEntry]
    split
    · assumption
    · simp
  obtain ⟨p, hp, rfl⟩ := List.mem_map.mp hk
  have hfind : ((insertedValues m p.1).entries.find? fun q => S.resolve q.1 = S.resolve p.1).isSome :=
    List.find?_isSome.mpr ⟨p, hp, by simp⟩
  obtain ⟨q, hq⟩ := Option.isSome_iff_exists.mp hfind
  exact ⟨q.2, by simp [firstNaming, hq]⟩

/-- the partition-key cell of the row that an insert adds -/
theorem cell_inserted {targets : List Nat} {params : List Value} {i : Nat} {c : Column}
    (hi : S.resolve k = some i) (hc : S.columns[i]? = some c)
    (ht : S.resolveAll (insertedValues m k).keys = .ok targets)
    (hp : ((insertedValues m k).entries.map Prod.snd).mapM B.bind = some params) (pk : String) :
    c.matches B.rules ((S.candidate B.rules targets params).getD i .null) (.text pk) = true ↔
      ∀ v ∈ firstNaming S k (insertedValues m k).entries, stores B S k pk v = true := by
  obtain ⟨v, hv⟩ := firstNaming_inserted (S := S) (m := m) (k := k)
  obtain ⟨w, hw⟩ := find_bound (mapM_option hp) hv
  rw [cell_candidate hc, assigned_key _ hi (resolveAll_ok ht) (mapM_option hp), hv]
  simp [hw, stores_eq hi hc hw]

/-! ## the four operations -/

theorem compiled_exec {c : Compiled} (h : c.exec B t = .ok t') :
    ∃ params, c.params.mapM B.bind = some params ∧ c.statement.exec B.rules params t = .ok t' := by
  unfold Compiled.exec at h
  split at h
  · exact ⟨_, ‹_›, h⟩
  · cases h

theorem resolveAll_mem {names : List String} {targets : List Nat} {name : String}
    (h : S.resolveAll names = .ok targets) (hn : name ∈ names) : ∃ i, S.resolve name = some i := by
  have hall := resolveAll_ok h
  clear h
  induction hall with
  | nil => cases hn
  | cons h _ ih =>
    rcases List.mem_cons.mp hn with rfl | hn
    · exact ⟨_, h⟩
    · exact ih hn

theorem mem_resolved {names : List String} {targets : List Nat} {i : Nat}
    (h : List.Forall₂ (fun name i => S.resolve name = some i) names targets) :
    i ∈ targets ↔ ∃ name ∈ names, S.resolve name = some i := by
  induction h with
  | nil => simp
  | cons h _ ih => simp [ih, h, eq_comm]

/-- a statement that goes through names a partition-key column that is there -/
theorem key_column {names : List String} {targets : List Nat}
    (h : S.resolveAll names = .ok targets) (hk : k ∈ names) :
    ∃ i c, S.resolve k = some i ∧ S.columns[i]? = some c := by
  obtain ⟨i, hi⟩ := resolveAll_mem h hk
  obtain ⟨c, hc⟩ := resolve_lt hi
  exact ⟨i, c, hi, hc⟩

theorem key_mem_inserted : k ∈ (insertedValues m k).keys := by
  show k ∈ (Object.setEntry k _ _).map Prod.fst
  rw [Object.keys_setEntry]
  split
  · assumption
  · simp

theorem insert_within {cells : List Value} (h : t.insert cells = .ok t') {targets : List Nat}
    {params : List Value} (ht : t.schema.resolveAll (insertedValues m k).keys = .ok targets)
    (hp : ((insertedValues m k).entries.map Prod.snd).mapM B.bind = some params)
    (hcells : cells = t.schema.candidate B.rules targets params) :
    Table.Within (fun r => ownedBy B t.schema k m.partitionKey r = true) t t' ↔
      InsertsKey B t.schema m k := by
  obtain ⟨i, c, hi, hc⟩ := key_column ht key_mem_inserted
  rw [Table.within_insert h, ownedBy_eq hi hc, hcells]
  exact cell_inserted hi hc ht hp _

/-- the conditions that SQLite tests are the ones the mutation states -/
theorem conditionHolds_iff {entries : List (String × JsValue)} {targets : List Nat}
    {values : List Value} {cells : List Value}
    (ht : List.Forall₂ (fun name i => S.resolve name = some i) (entries.map Prod.fst) targets)
    (hv : List.Forall₂ (fun v w => B.bind v = some w) (entries.map Prod.snd) values) :
    S.conditionHolds B.rules targets values cells = true ↔
      ∀ p ∈ entries, ∃ i c w, S.resolve p.1 = some i ∧ S.columns[i]? = some c ∧
        B.bind p.2 = some w ∧ c.matches B.rules (cells.getD i .null) w = true := by
  induction entries generalizing targets values with
  | nil =>
    cases ht
    simp [Schema.conditionHolds]
  | cons p entries ih =>
    obtain ⟨i, targets, hi, ht', rfl⟩ := List.forall₂_cons_left_iff.mp ht
    obtain ⟨w, values, hw, hv', rfl⟩ := List.forall₂_cons_left_iff.mp hv
    obtain ⟨c, hc⟩ := resolve_lt hi
    have ih := ih ht' hv'
    unfold Schema.conditionHolds at ih ⊢
    rw [List.zip_cons_cons, List.all_cons, Bool.and_eq_true, List.forall_mem_cons, ih]
    simp [hi, hc, hw]

theorem meets_owned {r : Row} {i : Nat} {c : Column} (hi : S.resolve k = some i)
    (hc : S.columns[i]? = some c) (h : Meets B S m k r) :
    ownedBy B S k m.partitionKey r = true := by
  obtain ⟨j, c', w, hj, hc', hw, hmatch⟩ := h (k, .string m.partitionKey) (List.mem_cons_self ..)
  obtain rfl : i = j := Option.some.inj (hi.symm.trans hj)
  obtain rfl : c = c' := Option.some.inj (hc.symm.trans hc')
  obtain rfl : Value.text m.partitionKey = w := Option.some.inj ((B.bind_string _).symm.trans hw)
  rw [ownedBy_eq hi hc]
  exact hmatch

theorem mapM_append_option {α β : Type} {f : α → Option β} {a b : List α} {l : List β}
    (h : (a ++ b).mapM f = some l) :
    a.mapM f = some (l.take a.length) ∧ b.mapM f = some (l.drop a.length) := by
  rw [List.mapM_append] at h
  cases ha : a.mapM f with
  | none => simp [ha] at h
  | some la =>
    cases hb : b.mapM f with
    | none => simp [ha, hb] at h
    | some lb =>
      have hlen : la.length = a.length := (mapM_option ha).length_eq.symm
      simp only [ha, hb, Option.pure_def, Option.bind_eq_bind, Option.bind_some,
        Option.some.injEq] at h
      simp [← h, ← hlen]

theorem update_within {params : List Value}
    (hp : ((setValues m k).map Prod.snd ++ (mutationWhereClause m k).map Prod.snd).mapM B.bind =
      some params)
    (h : (Statement.update m.table ((setValues m k).map Prod.fst)
      ((mutationWhereClause m k).map Prod.fst)).exec B.rules params t = .ok t') :
    Table.Within (fun r => ownedBy B t.schema k m.partitionKey r = true) t t' ↔
      UpdatesKey B t.schema m k ∨ ∀ r ∈ t.rows, ¬ Meets B t.schema m k r := by
  obtain ⟨ss, cs, hss, hcs, -, hupd⟩ := update_exec h
  have hlen : ss.length = (setValues m k).length := by
    have := (resolveAll_ok hss).length_eq
    simpa using this.symm
  obtain ⟨hset, hcond⟩ := mapM_append_option hp
  rw [List.length_map, ← hlen] at hset hcond
  obtain ⟨i, c, hi, hc⟩ := key_column hcs
    (List.mem_map_of_mem (f := Prod.fst) (List.mem_cons_self ..) : k ∈ _)
  obtain ⟨hrows, -⟩ := Table.updateWhere_rows hupd
  have hmeets : ∀ r : Row, t.schema.conditionHolds B.rules cs (params.drop ss.length) r.cells = true ↔
      Meets B t.schema m k r := fun r => conditionHolds_iff (resolveAll_ok hcs) (mapM_option hcond)
  -- the partition-key cell of an updated row
  have hcell : ∀ cells : List Value,
      (t.schema.assign B.rules ss (params.take ss.length) cells).getD i .null =
        (((firstNaming t.schema k (setValues m k).reverse).bind B.bind).map (c.store B.rules)).getD
          (cells.getD i .null) := by
    intro cells
    rw [cell_assign hc, assigned_key (setValues m k).reverse hi]
    · simpa using List.forall₂_reverse_iff.mpr (resolveAll_ok hss)
    · simpa using List.forall₂_reverse_iff.mpr (mapM_option hset)
  have hbound : ∀ v, firstNaming t.schema k (setValues m k).reverse = some v →
      ∃ w, B.bind v = some w := by
    intro v
    have hbinds := List.forall₂_reverse_iff.mpr (mapM_option hset)
    rw [← List.map_reverse] at hbinds
    exact find_bound hbinds
  rw [Table.within_map hrows]
  constructor
  · intro hw
    by_cases hnone : ∀ r ∈ t.rows, ¬ Meets B t.schema m k r
    · exact .inr hnone
    · left
      push Not at hnone
      obtain ⟨r, hr, hm⟩ := hnone
      intro v hv
      obtain ⟨w, hbw⟩ := hbound v hv
      have hown : ownedBy B t.schema k m.partitionKey
          ⟨r.id, t.schema.assign B.rules ss (params.take ss.length) r.cells⟩ = true := by
        rcases hw r hr ((hmeets r).mpr hm) with hsame | ⟨-, hnew⟩
        · rw [hsame]
          exact meets_owned hi hc hm
        · exact hnew
      rw [ownedBy_eq hi hc, Row.cell, hcell, Option.mem_def.mp hv] at hown
      rw [stores_eq hi hc hbw]
      simpa [hbw] using hown
  · intro hcases r hr hmr
    have hm := (hmeets r).mp hmr
    refine .inr ⟨meets_owned hi hc hm, ?_⟩
    rcases hcases with hkey | hnone
    · rw [ownedBy_eq hi hc, Row.cell, hcell]
      cases hv : firstNaming t.schema k (setValues m k).reverse with
      | none => simpa [ownedBy_eq hi hc, Row.cell] using meets_owned hi hc hm
      | some v =>
        obtain ⟨w, hbw⟩ := hbound v hv
        have := hkey v hv
        rw [stores_eq hi hc hbw] at this
        simpa [hbw] using this
    · exact absurd hm (hnone r hr)

theorem delete_within {params : List Value}
    (hp : ((mutationWhereClause m k).map Prod.snd).mapM B.bind = some params)
    (h : (Statement.delete m.table ((mutationWhereClause m k).map Prod.fst)).exec B.rules params t =
      .ok t') :
    Table.Within (fun r => ownedBy B t.schema k m.partitionKey r = true) t t' := by
  obtain ⟨cs, hcs, rfl⟩ := delete_exec h
  obtain ⟨i, c, hi, hc⟩ := key_column hcs
    (List.mem_map_of_mem (f := Prod.fst) (List.mem_cons_self ..) : k ∈ _)
  refine Table.within_deleteWhere.mpr fun r _ hr => meets_owned hi hc ?_
  exact (conditionHolds_iff (resolveAll_ok hcs) (mapM_option hp)).mp hr

theorem setRow_within {f : List Value → List Value} {row : Row} (hrow : row ∈ t.rows)
    (h : t.updateOne f row.id = .ok t') {own : Row → Prop} :
    Table.Within own t t' ↔ f row.cells = row.cells ∨ own row ∧ own ⟨row.id, f row.cells⟩ := by
  obtain ⟨hrows, -⟩ := Table.updateOne_rows h
  rw [Table.within_map (p := fun r => decide (r.id = row.id)) (by simpa [Table.updated] using hrows)]
  constructor
  · intro hall
    exact hall row hrow (by simp)
  · intro hone r hr hid
    rw [Table.eq_of_id hr hrow (by simpa using hid)]
    exact hone

theorem upsert_within {params : List Value}
    (hp : ((insertedValues m k).entries.map Prod.snd).mapM B.bind = some params)
    (hop : m.op = .upsert)
    (h : (Statement.insert m.table (insertedValues m k).keys
      (upsertClause (insertedValues m k).keys (conflictColumns m k))).exec B.rules params t = .ok t') :
    Table.Within (fun r => ownedBy B t.schema k m.partitionKey r = true) t t' ↔ KeepsKey B m k t := by
  simp only [KeepsKey, hop]
  unfold upsertClause at h
  dsimp only at h
  by_cases hset : updateColumns m k = []
  · rw [if_pos (by simpa [updateColumns] using hset)] at h
    obtain ⟨targets, ts, constraint, ht, hts, hu, hm⟩ := doNothing_exec h
    have hss : t.schema.resolveAll (updateColumns m k) = .ok [] := hset ▸ rfl
    cases hrow : t.conflicting constraint (t.schema.candidate B.rules targets params) with
    | some row =>
      rw [hrow] at hm
      obtain rfl : t' = t := hm
      simp only [conflictRow, ht, hp, hts, hu, hss, hrow, Except.toOption, Option.bind_eq_bind,
        Option.bind_some, Option.pure_def]
      simp only [hset, true_or, iff_true]
      exact Table.Within.refl
    | none =>
      rw [hrow] at hm
      simp only [conflictRow, ht, hp, hts, hu, hss, hrow, Except.toOption, Option.bind_eq_bind,
        Option.bind_some, Option.bind_none]
      exact insert_within hm ht hp rfl
  · rw [if_neg (by simpa [updateColumns] using hset)] at h
    obtain ⟨targets, ts, constraint, ss, ht, hts, hu, hss, hm⟩ := doUpdate_exec h
    change t.schema.resolveAll (updateColumns m k) = .ok ss at hss
    cases hrow : t.conflicting constraint (t.schema.candidate B.rules targets params) with
    | none =>
      rw [hrow] at hm
      simp only [conflictRow, ht, hp, hts, hu, hss, hrow, Except.toOption, Option.bind_eq_bind,
        Option.bind_some, Option.bind_none]
      exact insert_within hm ht hp rfl
    | some row =>
      rw [hrow] at hm
      have hmem : row ∈ t.rows := List.mem_of_find?_eq_some hrow
      obtain ⟨i, c, hi, hc⟩ := key_column ht key_mem_inserted
      simp only [conflictRow, ht, hp, hts, hu, hss, hrow, Except.toOption, Option.bind_eq_bind,
        Option.bind_some, Option.pure_def, hset, false_or]
      rw [setRow_within hmem hm]
      refine or_congr_right (and_congr_right fun hown => ?_)
      have hin : i ∈ ss ↔ ∃ c ∈ updateColumns m k, t.schema.resolve c = t.schema.resolve k := by
        rw [hi]
        exact mem_resolved (resolveAll_ok hss)
      rw [← hin, ownedBy_eq hi hc, Row.cell, cell_excluded hc]
      by_cases hi' : i ∈ ss
      · rw [if_pos hi', cell_candidate hc, Column.store_store, ← cell_candidate hc,
          cell_inserted hi hc ht hp]
        simp [hi', InsertsKey]
      · simpa [hi', ownedBy_eq hi hc, Row.cell] using hown

/-! ## a row taken over -/

/-- accounts by owner, with a UNIQUE mail address -/
def accounts : Table where
  schema := { columns := [textColumn "owner", textColumn "mail", textColumn "note"]
              unique := [[0], [1]], admits := fun _ => true }
  rows := [⟨0, [.text "alice", .text "a@example", .text "first"]⟩]
  nextId := 1
  fresh := by simp
  nodup := by simp

/-- an upsert for another owner that conflicts on the mail address -/
def takeOver : StructuredMutation where
  op := .upsert
  table := "accounts"
  tenantId := "t"
  partitionKey := "mallory"
  where_ := none
  values := some (.ofList [("mail", .string "a@example"), ("note", .string "second")])
  conflictColumns := some ["mail"]

/-- an upsert on the partition key itself keeps it -/
def ownUpsert : StructuredMutation :=
  { takeOver with partitionKey := "alice", conflictColumns := none }

end StructuredOp
