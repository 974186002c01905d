import CloudflareShard.Gateway.Ownership
import CloudflareShard.Gateway.Indexes

/-!
# What a mutation leaves in its own row

A mutation that keeps its partition key finds at most one row of that key, when the key is UNIQUE, and
leaves at most one.  The cells of its indexed columns are then known by what the caller supplied.

* `ownRows`, `Single`           the rows of the mutation's key;
* `supplied`, `writtenNames`    the value that is given for a column, and the names that are written;
* `Plain`                       what the mutation and the table must be like;
* `Written`                     the row has what was supplied, and else what it had;
* `OwnEffect`, `run_effect`     **what a statement that goes through leaves in its own row**.
-/

namespace StructuredOp
open Json Sqlite DataPlane

variable (B : Binding) (P : Platform)

def ownRows (m : StructuredMutation) (k : String) (t : Table) : List Row :=
  t.rows.filter (ownedBy B t.schema k m.partitionKey)

def Single (m : StructuredMutation) (k : String) (t : Table) : Prop :=
  ∀ r ∈ ownRows B m k t, ∀ r' ∈ ownRows B m k t, r = r'

/-- the partition key is UNIQUE -/
def KeyUnique (S : Schema) (k : String) : Prop := ∃ i, S.resolve k = some i ∧ [i] ∈ S.unique

def cellOf (S : Schema) (c : String) (r : Row) : Value := ((S.resolve c).map r.cell).getD .null

/-- what the mutation says of a column, the partition key included -/
def supplied (m : StructuredMutation) (k c : String) : Option JsValue :=
  if c = k then some (.string m.partitionKey) else m.given.get? c

/-- the column names that the statement writes -/
def writtenNames (m : StructuredMutation) (k : String) : List String :=
  match m.op with
  | .insert | .upsert => (insertedValues m k).keys
  | .update => (setValues m k).map Prod.fst
  | _ => []

/-- the columns `cs` get what the mutation supplies for them:
* it keeps its partition key, and an upsert meets no row but its own;
* no name that is written denotes one of the columns under another spelling;
* a supplied value and the partition key are stored as the value that they are in JSON;
* so is the partition key in the row that is there, and what an upsert leaves because it conflicts on it -/
structure Plain (cs : List String) (m : StructuredMutation) (k : String) (t : Table) : Prop where
  own : KeepsKey B m k t
  conflict : m.op = .upsert → ∀ row cells, conflictRow B m k t = some (row, cells) →
    ownedBy B t.schema k m.partitionKey row = true ∧
      ∀ c ∈ cs, c ∈ conflictColumns m k → ∀ v ∈ supplied m k c,
        jsonText P (cellOf t.schema c row) = stringify P v
  spelled : ∀ c ∈ cs, ∀ name ∈ writtenNames m k, t.schema.resolve name = t.schema.resolve c → name = c
  stored : ∀ c ∈ cs, c ∈ writtenNames m k → ∀ v ∈ supplied m k c, ∀ w ∈ B.bind v,
    ∀ i col, t.schema.resolve c = some i → t.schema.columns[i]? = some col →
      jsonText P (col.store B.rules w) = stringify P v
  key : k ∈ cs → ∀ r ∈ ownRows B m k t, jsonText P (cellOf t.schema k r) = quote m.partitionKey

/-- a row of the key has what was supplied, and else what a row of the key had -/
def Written (cs : List String) (m : StructuredMutation) (k : String) (t t' : Table) : Prop :=
  ∀ r' ∈ ownRows B m k t', ∀ c ∈ cs,
    (∃ v, supplied m k c = some v ∧ jsonText P (cellOf t.schema c r') = stringify P v) ∨
    supplied m k c = none ∧ ∃ r ∈ ownRows B m k t, cellOf t.schema c r = cellOf t.schema c r'

variable {B P} {cs : List String} {m : StructuredMutation} {k : String} {t t' : Table} {S : Schema}

theorem mem_ownRows {r : Row} : r ∈ ownRows B m k t ↔
    r ∈ t.rows ∧ ownedBy B t.schema k m.partitionKey r = true := List.mem_filter

/-! ## names -/

theorem inserted_get (m : StructuredMutation) (k c : String) :
    (insertedValues m k).get? c = supplied m k c := by
  rw [insertedValues, Object.get?_set, supplied]

/-- with one spelling only, the first entry that denotes the column is the one of its name -/
theorem firstNaming_spelled {c : String} {entries : List (String × JsValue)}
    (h : ∀ name ∈ entries.map Prod.fst, S.resolve name = S.resolve c → name = c) :
    firstNaming S c entries = (entries.find? fun p => p.1 = c).map Prod.snd := by
  unfold firstNaming
  congr 1
  induction entries with
  | nil => rfl
  | cons p entries ih =>
    have hp := h p.1 (List.mem_cons_self ..)
    have ih := ih fun name hname => h name (List.mem_cons_of_mem _ hname)
    by_cases hc : p.1 = c
    · simp [hc]
    · have hr : S.resolve p.1 ≠ S.resolve c := fun he => hc (hp he)
      simp [hc, hr, ih]

theorem find_reverse {c : String} {l : List (String × JsValue)} (hl : (l.map Prod.fst).Nodup) :
    l.reverse.find? (fun p => p.1 = c) = l.find? fun p => p.1 = c := by
  have hmem : ∀ {l : List (String × JsValue)}, (l.map Prod.fst).Nodup → ∀ p,
      l.find? (fun p => p.1 = c) = some p ↔ p ∈ l ∧ p.1 = c := by
    intro l hl p
    constructor
    · intro h
      exact ⟨List.mem_of_find?_eq_some h, by simpa using List.find?_some h⟩
    · intro ⟨hp, hc⟩
      cases h : l.find? fun p => p.1 = c with
      | none =>
        have hne := List.find?_eq_none.mp h p hp
        simp [hc] at hne
      | some q =>
        have hq : q.1 = c := by simpa using List.find?_some h
        rw [List.inj_on_of_nodup_map hl (List.mem_of_find?_eq_some h) hp (hq.trans hc.symm)]
  have hrev : (l.reverse.map Prod.fst).Nodup := by
    rw [List.map_reverse]
    exact List.nodup_reverse.mpr hl
  ext p
  rw [hmem hrev, hmem hl, List.mem_reverse]

theorem setValues_nodup : ((setValues m k).map Prod.fst).Nodup :=
  m.given.nodup.sublist (List.filter_sublist.map Prod.fst)

theorem setValues_find (c : String) : ((setValues m k).find? fun p => p.1 = c).map Prod.snd =
    if c = k then none else m.given.get? c := by
  rw [setValues, List.find?_filter]
  by_cases hc : c = k
  · rw [if_pos hc]
    have hnone : (m.given.entries.find? fun p => decide (decide (p.1 ≠ k) = true ∧ decide (p.1 = c) = true)) =
        none := by
      refine List.find?_eq_none.mpr fun p _ => ?_
      simp only [decide_eq_true_eq, not_and]
      intro hp he
      exact hp (he.trans hc)
    rw [hnone]
    rfl
  · rw [if_neg hc, Object.get?]
    congr 2
    funext p
    by_cases hp : p.1 = c
    · have hk : p.1 ≠ k := by rw [hp]; exact hc
      simp [hp, hc]
    · simp [hp]

/-! ## schemas and keys -/

theorem ownedBy_cells {r r' : Row} (h : r.cells = r'.cells) (pk : String) :
    ownedBy B S k pk r = ownedBy B S k pk r' := by
  unfold ownedBy Row.cell
  rw [h]

/-- two rows of one key stand against each other -/
theorem clash_of_owned {i : Nat} {pk : String} {r r' : Row} (hi : S.resolve k = some i)
    (h : ownedBy B S k pk r = true) (h' : ownedBy B S k pk r' = true) :
    S.clash [i] r.cells r'.cells = true := by
  obtain ⟨col, hcol⟩ := resolve_lt hi
  rw [ownedBy_eq hi hcol] at h h'
  have hcollation : S.collation i = col.collation := by simp [Schema.collation, hcol]
  simp only [Schema.clash, List.all_cons, List.all_nil, Bool.and_true, hcollation]
  exact same_of_same h h'

theorem clashes_of_owned {pk : String} {r r' : Row} (hk : KeyUnique S k)
    (h : ownedBy B S k pk r = true) (h' : ownedBy B S k pk r' = true) :
    S.clashes r.cells r'.cells = true := by
  obtain ⟨i, hi, hu⟩ := hk
  exact List.any_eq_true.mpr ⟨[i], hu, clash_of_owned hi h h'⟩

/-- an insert of the key goes through only where it is not there -/
theorem insert_fresh {cells : List Value} (hk : KeyUnique t.schema k) (h : t.insert cells = .ok t')
    (hown : ownedBy B t.schema k m.partitionKey ⟨t.nextId, cells⟩ = true) : ownRows B m k t = [] := by
  refine List.filter_eq_nil_iff.mpr fun r hr hr' => ?_
  unfold Table.insert at h
  split at h
  · rename_i hok
    have hclash := clashes_of_owned hk hr' hown
    rw [hok.2 r hr] at hclash
    cases hclash
  · cases h

theorem insert_own {cells : List Value} (hk : KeyUnique t.schema k) (h : t.insert cells = .ok t')
    (hown : ownedBy B t.schema k m.partitionKey ⟨t.nextId, cells⟩ = true) :
    ownRows B m k t' = [⟨t.nextId, cells⟩] := by
  obtain ⟨hrows, hschema⟩ := Table.insert_rows h
  have hnone := insert_fresh hk h hown
  unfold ownRows at hnone ⊢
  rw [hrows, hschema, List.filter_append, hnone]
  simp [hown]

/-- rows get new cells; the row of the key is among them -/
theorem map_own {p : Row → Bool} {f : List Value → List Value} (hsingle : Single B m k t)
    (hrows : t'.rows = t.rows.map fun r => Table.updated f (p r) r) (hschema : t'.schema = t.schema)
    (hp : ∀ r ∈ t.rows, p r → ownedBy B t.schema k m.partitionKey r = true)
    {r₀ : Row} (hr₀ : r₀ ∈ t.rows) (hp₀ : p r₀ = true) :
    ∀ r' ∈ ownRows B m k t', r' = ⟨r₀.id, f r₀.cells⟩ := by
  intro r' hr'
  obtain ⟨hmem, hown⟩ := mem_ownRows.mp hr'
  rw [hrows] at hmem
  rw [hschema] at hown
  obtain ⟨r, hr, rfl⟩ := List.mem_map.mp hmem
  by_cases hpr : p r = true
  · have hr₀r := hsingle r (mem_ownRows.mpr ⟨hr, hp r hr hpr⟩) r₀ (mem_ownRows.mpr ⟨hr₀, hp r₀ hr₀ hp₀⟩)
    rw [Table.updated, if_pos hpr, hr₀r]
  · rw [Table.updated, if_neg hpr] at hown
    have hr₀r := hsingle r (mem_ownRows.mpr ⟨hr, hown⟩) r₀ (mem_ownRows.mpr ⟨hr₀, hp r₀ hr₀ hp₀⟩)
    exact absurd (hr₀r ▸ hp₀) hpr

/-! ## cells -/

theorem cellOf_eq {c : String} {i : Nat} (hi : S.resolve c = some i) (r : Row) :
    cellOf S c r = r.cell i := by
  simp [cellOf, hi]

/-- a cell of the row that an INSERT brings -/
theorem candidate_cell {c : String} {i : Nat} {col : Column} {targets : List Nat} {params : List Value}
    (hi : S.resolve c = some i) (hcol : S.columns[i]? = some col)
    (ht : S.resolveAll (insertedValues m k).keys = .ok targets)
    (hp : ((insertedValues m k).entries.map Prod.snd).mapM B.bind = some params)
    (hspelled : ∀ name ∈ (insertedValues m k).keys, S.resolve name = S.resolve c → name = c) :
    (S.candidate B.rules targets params).getD i .null =
      col.store B.rules (((supplied m k c).bind B.bind).getD col.default) := by
  rw [cell_candidate hcol, assigned_key _ hi (resolveAll_ok ht) (mapM_option hp),
    firstNaming_spelled hspelled, ← inserted_get]
  rfl

/-- a cell of a row that an UPDATE has found -/
theorem assign_cell {c : String} {i : Nat} {col : Column} {targets : List Nat} {values : List Value}
    (hi : S.resolve c = some i) (hcol : S.columns[i]? = some col)
    (ht : S.resolveAll ((setValues m k).map Prod.fst) = .ok targets)
    (hv : ((setValues m k).map Prod.snd).mapM B.bind = some values)
    (hspelled : ∀ name ∈ (setValues m k).map Prod.fst, S.resolve name = S.resolve c → name = c)
    (cells : List Value) :
    (S.assign B.rules targets values cells).getD i .null =
      ((if c = k then none else (m.given.get? c).bind B.bind).map (col.store B.rules)).getD
        (cells.getD i .null) := by
  have hrev : ∀ name ∈ (setValues m k).reverse.map Prod.fst,
      S.resolve name = S.resolve c → name = c := by
    intro name hname
    rw [List.map_reverse, List.mem_reverse] at hname
    exact hspelled name hname
  have hassigned : assigned targets.reverse values.reverse i =
      (firstNaming S c (setValues m k).reverse).bind B.bind := by
    refine assigned_key (setValues m k).reverse hi ?_ ?_
    · simpa using List.forall₂_reverse_iff.mpr (resolveAll_ok ht)
    · simpa using List.forall₂_reverse_iff.mpr (mapM_option hv)
  rw [cell_assign hcol, hassigned, firstNaming_spelled hrev, find_reverse setValues_nodup,
    setValues_find]
  by_cases hc : c = k
  · simp [hc]
  · simp [hc]

/-- a value that went into a statement was bound -/
theorem supplied_bound {c : String} {v : JsValue} {params : List Value}
    (hp : ((insertedValues m k).entries.map Prod.snd).mapM B.bind = some params)
    (hv : supplied m k c = some v) : ∃ w, B.bind v = some w := by
  rw [← inserted_get] at hv
  exact bound_of_mem (mapM_option hp) (List.mem_map_of_mem (f := Prod.snd) (Object.mem_entries.mpr hv))

theorem supplied_written {c : String} {v : JsValue} (hv : supplied m k c = some v) :
    c ∈ (insertedValues m k).keys := by
  rw [← inserted_get] at hv
  exact Object.get?_isSome.mp (by simp [hv])

/-- the supplied columns of a row that an INSERT brings -/
theorem candidate_written {c : String} {v : JsValue} {targets : List Nat} {params : List Value}
    (hplain : Plain B P cs m k t) (hnames : writtenNames m k = (insertedValues m k).keys) (hc : c ∈ cs)
    (ht : t.schema.resolveAll (insertedValues m k).keys = .ok targets)
    (hp : ((insertedValues m k).entries.map Prod.snd).mapM B.bind = some params)
    (hv : supplied m k c = some v) {i : Nat} {col : Column} (hi : t.schema.resolve c = some i)
    (hcol : t.schema.columns[i]? = some col) :
    jsonText P (col.store B.rules ((t.schema.candidate B.rules targets params).getD i .null)) =
        stringify P v ∧
      jsonText P ((t.schema.candidate B.rules targets params).getD i .null) = stringify P v := by
  obtain ⟨w, hw⟩ := supplied_bound hp hv
  have hcell := candidate_cell hi hcol ht hp (hnames ▸ hplain.spelled c hc)
  rw [hv, Option.bind_some, hw, Option.getD_some] at hcell
  have hstored := hplain.stored c hc (hnames ▸ supplied_written hv) v hv w hw i col hi hcol
  rw [hcell, Column.store_store]
  exact ⟨hstored, hstored⟩

/-! ## the four operations -/

/-- what a statement that went through did to the rows of its key -/
structure OwnEffect (B : Binding) (P : Platform) (cs : List String) (m : StructuredMutation) (k : String)
    (t t' : Table) : Prop where
  schema : t'.schema = t.schema
  single : Single B m k t'
  written : m.op ≠ .delete → Written B P cs m k t t'
  fresh : m.op = .insert → ownRows B m k t = []
  gone : m.op = .delete → ownRows B m k t' = []
  found : m.op = .update → ownRows B m k t ≠ []

theorem exists_found {rows : List Row} {p : Row → Bool} {n : Nat} (h : (rows.filter p).length = n)
    (hn : n ≠ 0) : ∃ r ∈ rows, p r = true := by
  have hpos : 0 < (rows.filter p).length := by omega
  obtain ⟨r, hr⟩ := List.exists_mem_of_length_pos hpos
  exact ⟨r, (List.mem_filter.mp hr).1, (List.mem_filter.mp hr).2⟩

theorem single_of_eq {r : Row} (h : ∀ r' ∈ ownRows B m k t, r' = r) : Single B m k t :=
  fun r₁ h₁ r₂ h₂ => (h r₁ h₁).trans (h r₂ h₂).symm

theorem insert_effect {targets : List Nat} {params : List Value} (hk : KeyUnique t.schema k)
    (hplain : Plain B P cs m k t) (hnames : writtenNames m k = (insertedValues m k).keys)
    (hall : ∀ c ∈ cs, (supplied m k c).isSome ∧ ∃ i, t.schema.resolve c = some i)
    (hkeeps : InsertsKey B t.schema m k)
    (ht : t.schema.resolveAll (insertedValues m k).keys = .ok targets)
    (hp : ((insertedValues m k).entries.map Prod.snd).mapM B.bind = some params)
    (h : t.insert (t.schema.candidate B.rules targets params) = .ok t')
    (hop : m.op = .insert ∨ m.op = .upsert) : OwnEffect B P cs m k t t' := by
  obtain ⟨i, col, hi, hcol⟩ := key_column ht key_mem_inserted
  have hown : ownedBy B t.schema k m.partitionKey
      ⟨t.nextId, t.schema.candidate B.rules targets params⟩ = true := by
    rw [ownedBy_eq hi hcol]
    exact (cell_inserted hi hcol ht hp m.partitionKey).mpr hkeeps
  have hrow := insert_own hk h hown
  have hsingle : ∀ r' ∈ ownRows B m k t', r' = ⟨t.nextId, t.schema.candidate B.rules targets params⟩ := by
    intro r' hr'
    rw [hrow] at hr'
    exact List.mem_singleton.mp hr'
  refine
    { schema := (Table.insert_rows h).2
      single := single_of_eq hsingle
      written := fun _ r' hr' c hc => ?_
      fresh := fun _ => insert_fresh hk h hown
      gone := fun hd => by rcases hop with hop | hop <;> rw [hop] at hd <;> cases hd
      found := fun hu => by rcases hop with hop | hop <;> rw [hop] at hu <;> cases hu }
  obtain ⟨hsome, j, hj⟩ := hall c hc
  obtain ⟨v, hv⟩ := Option.isSome_iff_exists.mp hsome
  obtain ⟨col', hcol'⟩ := resolve_lt hj
  rw [hsingle r' hr', cellOf_eq hj]
  exact .inl ⟨v, hv, (candidate_written hplain hnames hc ht hp hv hj hcol').2⟩

theorem upsert_effect {params : List Value} (hk : KeyUnique t.schema k) (hsingle : Single B m k t)
    (hplain : Plain B P cs m k t)
    (hall : ∀ c ∈ cs, (supplied m k c).isSome ∧ ∃ i, t.schema.resolve c = some i)
    (hp : ((insertedValues m k).entries.map Prod.snd).mapM B.bind = some params)
    (hop : m.op = .upsert)
    (h : (Statement.insert m.table (insertedValues m k).keys
      (upsertClause (insertedValues m k).keys (conflictColumns m k))).exec B.rules params t = .ok t') :
    OwnEffect B P cs m k t t' := by
  have hnames : writtenNames m k = (insertedValues m k).keys := by simp [writtenNames, hop]
  have hkeeps := hplain.own
  simp only [KeepsKey, hop] at hkeeps
  have hnot : m.op ≠ .insert ∧ m.op ≠ .delete ∧ m.op ≠ .update := by simp [hop]
  unfold upsertClause at h
  dsimp only at h
  by_cases hset : updateColumns m k = []
  · rw [if_pos (by simpa [updateColumns] using hset)] at h
    obtain ⟨targets, ts, constraint, ht, hts, hu, hm⟩ := doNothing_exec h
    have hss : t.schema.resolveAll (updateColumns m k) = .ok [] := hset ▸ rfl
    cases hrow : t.conflicting constraint (t.schema.candidate B.rules targets params) with
    | none =>
      rw [hrow] at hm
      have hnone : conflictRow B m k t = none := by
        simp [conflictRow, ht, hp, hts, hu, hss, hrow, Except.toOption]
      rw [hnone] at hkeeps
      exact insert_effect hk hplain hnames hall hkeeps ht hp hm (.inr hop)
    | some row =>
      rw [hrow] at hm
      obtain rfl : t' = t := hm
      have hconflict : conflictRow B m k t' = some (row, Table.excluded B.rules t'.schema []
          (t'.schema.candidate B.rules targets params) row.cells) := by
        simp [conflictRow, ht, hp, hts, hu, hss, hrow, Except.toOption]
      obtain ⟨hown, hkept⟩ := hplain.conflict hop _ _ hconflict
      have hmem : row ∈ ownRows B m k t' :=
        mem_ownRows.mpr ⟨List.mem_of_find?_eq_some hrow, hown⟩
      refine
        { schema := rfl
          single := hsingle
          written := fun _ r' hr' c hc => ?_
          fresh := fun hi => absurd hi hnot.1
          gone := fun hd => absurd hd hnot.2.1
          found := fun hu => absurd hu hnot.2.2 }
      obtain ⟨v, hv⟩ := Option.isSome_iff_exists.mp (hall c hc).1
      -- every written column is a conflict column
      have hin : c ∈ conflictColumns m k := by
        by_contra hnin
        have hcu : c ∈ updateColumns m k := by
          simp only [updateColumns, List.mem_filter, supplied_written hv, true_and]
          simpa using hnin
        rw [hset] at hcu
        cases hcu
      rw [hsingle r' hr' row hmem]
      exact .inl ⟨v, hv, hkept c hc hin v hv⟩
  · rw [if_neg (by simpa [updateColumns] using hset)] at h
    obtain ⟨targets, ts, constraint, ss, ht, hts, hu, hss, hm⟩ := doUpdate_exec h
    change t.schema.resolveAll (updateColumns m k) = .ok ss at hss
    cases hrow : t.conflicting constraint (t.schema.candidate B.rules targets params) with
    | none =>
      rw [hrow] at hm
      have hnone : conflictRow B m k t = none := by
        simp [conflictRow, ht, hp, hts, hu, hss, hrow, Except.toOption]
      rw [hnone] at hkeeps
      exact insert_effect hk hplain hnames hall hkeeps ht hp hm (.inr hop)
    | some row =>
      rw [hrow] at hm
      have hconflict : conflictRow B m k t = some (row, Table.excluded B.rules t.schema ss
          (t.schema.candidate B.rules targets params) row.cells) := by
        simp [conflictRow, ht, hp, hts, hu, hss, hrow, Except.toOption]
      obtain ⟨hown, hkept⟩ := hplain.conflict hop _ _ hconflict
      have hmem := List.mem_of_find?_eq_some hrow
      obtain ⟨hrows, hschema⟩ := Table.updateOne_rows hm
      have hnew := map_own (p := fun r => decide (r.id = row.id)) hsingle
        (by simpa [Table.updated] using hrows) hschema (fun r hr hid => by
          rw [Table.eq_of_id hr hmem (by simpa using hid)]
          exact hown) hmem (by simp)
      refine
        { schema := hschema
          single := single_of_eq hnew
          written := fun _ r' hr' c hc => ?_
          fresh := fun hi => absurd hi hnot.1
          gone := fun hd => absurd hd hnot.2.1
          found := fun hu => absurd hu hnot.2.2 }
      obtain ⟨hsome, j, hj⟩ := hall c hc
      obtain ⟨v, hv⟩ := Option.isSome_iff_exists.mp hsome
      obtain ⟨col, hcol⟩ := resolve_lt hj
      refine .inl ⟨v, hv, ?_⟩
      rw [hnew r' hr', cellOf_eq hj, Row.cell, cell_excluded hcol]
      by_cases hin : c ∈ conflictColumns m k
      · have hout : j ∉ ss := by
          intro hjs
          obtain ⟨name, hname, hres⟩ := (mem_resolved (resolveAll_ok hss)).mp hjs
          obtain ⟨hkeys, hnin⟩ := List.mem_filter.mp hname
          have hspelled := hplain.spelled c hc name (hnames ▸ hkeys) (hres.trans hj.symm)
          rw [hspelled] at hnin
          simp [hin] at hnin
        rw [if_neg hout]
        have hold := hkept c hc hin v hv
        rw [cellOf_eq hj] at hold
        exact hold
      · have hjs : j ∈ ss := by
          refine (mem_resolved (resolveAll_ok hss)).mpr ⟨c, ?_, hj⟩
          exact List.mem_filter.mpr ⟨supplied_written hv, by simpa using hin⟩
        rw [if_pos hjs]
        exact (candidate_written hplain hnames hc ht hp hv hj hcol).1

theorem update_effect {params : List Value} (hsingle : Single B m k t) (hplain : Plain B P cs m k t)
    (hcs : ∀ c ∈ cs, ∃ i, t.schema.resolve c = some i) (hop : m.op = .update)
    (hp : ((setValues m k).map Prod.snd ++ (mutationWhereClause m k).map Prod.snd).mapM B.bind =
      some params)
    (h : (Statement.update m.table ((setValues m k).map Prod.fst)
      ((mutationWhereClause m k).map Prod.fst)).exec B.rules params t = .ok t')
    {n : Nat} (hn : n ≠ 0) (hchanges : (Statement.update m.table ((setValues m k).map Prod.fst)
      ((mutationWhereClause m k).map Prod.fst)).changes B.rules params t = .ok n) :
    OwnEffect B P cs m k t t' := by
  obtain ⟨ss, conds, hss, hconds, -, hupd⟩ := update_exec h
  have hlen : ss.length = (setValues m k).length := by
    have hl := (resolveAll_ok hss).length_eq
    simpa using hl.symm
  obtain ⟨hset, hcond⟩ := mapM_append_option hp
  rw [List.length_map, ← hlen] at hset hcond
  obtain ⟨hrows, hschema⟩ := Table.updateWhere_rows hupd
  obtain ⟨i, col, hi, hcol⟩ := key_column hconds
    (List.mem_map_of_mem (f := Prod.fst) (List.mem_cons_self ..) : k ∈ _)
  have hfound : ∀ r : Row, t.schema.conditionHolds B.rules conds (params.drop ss.length) r.cells = true →
      ownedBy B t.schema k m.partitionKey r = true := fun r hr =>
    meets_owned hi hcol ((conditionHolds_iff (resolveAll_ok hconds) (mapM_option hcond)).mp hr)
  -- a row was found
  have hex : ∃ r₀ ∈ t.rows,
      t.schema.conditionHolds B.rules conds (params.drop ss.length) r₀.cells = true := by
    simp only [Statement.changes, hconds, bind, Except.bind, pure, Except.pure, Except.ok.injEq,
      List.length_map, ← hlen] at hchanges
    exact exists_found hchanges hn
  obtain ⟨r₀, hr₀, hp₀⟩ := hex
  have hnew := map_own hsingle hrows hschema (fun r _ hr => hfound r hr) hr₀ hp₀
  have hmem₀ : r₀ ∈ ownRows B m k t := mem_ownRows.mpr ⟨hr₀, hfound r₀ hp₀⟩
  have hnames : writtenNames m k = (setValues m k).map Prod.fst := by simp [writtenNames, hop]
  refine
    { schema := hschema
      single := single_of_eq hnew
      written := fun _ r' hr' c hc => ?_
      fresh := fun hins => by rw [hop] at hins; cases hins
      gone := fun hd => by rw [hop] at hd; cases hd
      found := fun _ hnil => by rw [hnil] at hmem₀; cases hmem₀ }
  obtain ⟨j, hj⟩ := hcs c hc
  obtain ⟨col', hcol'⟩ := resolve_lt hj
  have hcell := assign_cell hj hcol' hss hset (hnames ▸ hplain.spelled c hc) r₀.cells
  rw [hnew r' hr', cellOf_eq hj, Row.cell, hcell]
  by_cases hck : c = k
  · left
    refine ⟨.string m.partitionKey, by simp [supplied, hck], ?_⟩
    rw [if_pos hck]
    have hkey := hplain.key (hck ▸ hc) r₀ hmem₀
    rw [← hck, cellOf_eq hj] at hkey
    exact hkey
  · rw [if_neg hck]
    have hsupplied : supplied m k c = m.given.get? c := by rw [supplied, if_neg hck]
    cases hv : m.given.get? c with
    | none => exact .inr ⟨hsupplied.trans hv, r₀, hmem₀, cellOf_eq hj r₀⟩
    | some v =>
      have hin : (c, v) ∈ setValues m k :=
        List.mem_filter.mpr ⟨Object.mem_entries.mpr hv, by simpa using hck⟩
      obtain ⟨w, hw⟩ := bound_of_mem (mapM_option hset) (List.mem_map_of_mem (f := Prod.snd) hin)
      refine .inl ⟨v, hsupplied.trans hv, ?_⟩
      rw [Option.bind_some, hw, Option.map_some, Option.getD_some]
      exact hplain.stored c hc (hnames ▸ List.mem_map_of_mem (f := Prod.fst) hin) v
        (hsupplied.trans hv) w hw j col' hj hcol'

theorem delete_effect {params : List Value} (hsingle : Single B m k t) (hop : m.op = .delete)
    (hp : ((mutationWhereClause m k).map Prod.snd).mapM B.bind = some params)
    (h : (Statement.delete m.table ((mutationWhereClause m k).map Prod.fst)).exec B.rules params t =
      .ok t') {n : Nat} (hn : n ≠ 0)
    (hchanges : (Statement.delete m.table ((mutationWhereClause m k).map Prod.fst)).changes B.rules
      params t = .ok n) : OwnEffect B P cs m k t t' := by
  obtain ⟨conds, hconds, rfl⟩ := delete_exec h
  obtain ⟨i, col, hi, hcol⟩ := key_column hconds
    (List.mem_map_of_mem (f := Prod.fst) (List.mem_cons_self ..) : k ∈ _)
  have hfound : ∀ r : Row, t.schema.conditionHolds B.rules conds params r.cells = true →
      ownedBy B t.schema k m.partitionKey r = true := fun r hr =>
    meets_owned hi hcol ((conditionHolds_iff (resolveAll_ok hconds) (mapM_option hp)).mp hr)
  have hex : ∃ r₀ ∈ t.rows, t.schema.conditionHolds B.rules conds params r₀.cells = true := by
    simp only [Statement.changes, hconds, bind, Except.bind, pure, Except.pure, Except.ok.injEq]
      at hchanges
    exact exists_found hchanges hn
  obtain ⟨r₀, hr₀, hp₀⟩ := hex
  -- it was the only one
  have hgone : ownRows B m k
      (t.deleteWhere fun r => t.schema.conditionHolds B.rules conds params r.cells) = [] := by
    refine List.filter_eq_nil_iff.mpr fun r hr hown => ?_
    obtain ⟨hmem, hnot⟩ := List.mem_filter.mp hr
    have heq := hsingle r (mem_ownRows.mpr ⟨hmem, hown⟩) r₀ (mem_ownRows.mpr ⟨hr₀, hfound r₀ hp₀⟩)
    simp [heq, hp₀] at hnot
  exact
    { schema := rfl
      single := single_of_eq (r := r₀) fun r' hr' => by rw [hgone] at hr'; cases hr'
      written := fun hne => absurd hop hne
      fresh := fun hins => by rw [hop] at hins; cases hins
      gone := fun _ => hgone
      found := fun hu => by rw [hop] at hu; cases hu }

/-- **a mutation that goes through has this effect on the row of its key**; an update or a delete is to
have found a row -/
theorem run_effect {c : Compiled} {n : Nat} (hc : compileMutation m k = some c)
    (hrun : c.run B t = .ok (t', n)) (hn : m.op = .update ∨ m.op = .delete → n ≠ 0)
    (hk : KeyUnique t.schema k) (hsingle : Single B m k t) (hplain : Plain B P cs m k t)
    (hcs : ∀ c ∈ cs, ∃ i, t.schema.resolve c = some i)
    (hall : m.op = .insert ∨ m.op = .upsert → ∀ c ∈ cs, (supplied m k c).isSome) :
    OwnEffect B P cs m k t t' := by
  obtain ⟨params, hp, hexec, hchanges⟩ := run_ok hrun
  unfold compileMutation at hc
  split at hc
  case isFalse => cases hc
  cases hop : m.op with
  | insert =>
    rw [hop] at hc
    cases hc
    obtain ⟨targets, ht, hins⟩ := insert_exec hexec
    have hkeeps := hplain.own
    simp only [KeepsKey, hop] at hkeeps
    exact insert_effect hk hplain (by simp [writtenNames, hop])
      (fun c hc => ⟨hall (.inl hop) c hc, hcs c hc⟩) hkeeps ht hp hins (.inl hop)
  | upsert =>
    rw [hop] at hc
    cases hc
    exact upsert_effect hk hsingle hplain (fun c hc => ⟨hall (.inr hop) c hc, hcs c hc⟩) hp hop hexec
  | update =>
    rw [hop] at hc
    cases hc
    exact update_effect hsingle hplain hcs hop hp hexec (hn (.inl hop)) hchanges
  | delete =>
    rw [hop] at hc
    cases hc
    exact delete_effect hsingle hop hp hexec (hn (.inr hop)) hchanges
  | unknown text =>
    rw [hop] at hc
    cases hc

end StructuredOp
