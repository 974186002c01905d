import Mathlib.Data.List.Nodup
import CloudflareShard.Sqlite.Value

/-!
# SQLite tables

Rows under UNIQUE constraints, and what the writing statements do to them.

* `Schema`, `Row`, `Table`       a table; a row keeps its `id` as long as it is the same row;
* `Table.insert`, `Table.replace`, `Table.updateOne`, `Table.updateWhere`, `Table.deleteWhere`;
* `insert_rows`, `updateWhere_rows`, `deleteWhere_rows`   what is in the table afterwards.
-/

namespace Sqlite

/-- `admits` are NOT NULL, CHECK and the like -/
structure Schema where
  columns : List Column
  /-- the UNIQUE constraints, the primary key among them, by positions of columns -/
  unique : List (List Nat)
  admits : List Value → Bool

structure Row where
  id : Nat
  cells : List Value
  deriving DecidableEq

structure Table where
  schema : Schema
  rows : List Row
  nextId : Nat
  fresh : ∀ r ∈ rows, r.id < nextId
  nodup : (rows.map Row.id).Nodup

inductive SqlError where
  | constraint
  | noSuchColumn (name : String)
  | conflictTarget
  | parameter
  deriving DecidableEq

def Row.cell (r : Row) (i : Nat) : Value := r.cells.getD i .null

/-! ## columns by name -/

/-- identifiers are case-insensitive, quoted or not -/
def sameName (a b : String) : Bool := foldCase a == foldCase b

def Schema.resolve (S : Schema) (name : String) : Option Nat :=
  S.columns.findIdx? fun c => sameName c.name name

def Schema.resolveAll (S : Schema) (names : List String) : Except SqlError (List Nat) :=
  names.mapM fun name => match S.resolve name with
    | some i => .ok i
    | none => .error (.noSuchColumn name)

/-- what an assignment list says of column `i`, the first entry that names it -/
def assigned (targets : List Nat) (values : List Value) (i : Nat) : Option Value :=
  ((targets.zip values).find? fun p => p.1 == i).map Prod.snd

/-! ## constraints -/

def Schema.collation (S : Schema) (i : Nat) : Collation :=
  (S.columns[i]?.map Column.collation).getD .binary

/-- the two rows agree on all columns of the constraint -/
def Schema.clash (S : Schema) (constraint : List Nat) (cells cells' : List Value) : Bool :=
  constraint.all fun i => same (S.collation i) (cells.getD i .null) (cells'.getD i .null)

def Schema.clashes (S : Schema) (cells cells' : List Value) : Bool :=
  S.unique.any fun constraint => S.clash constraint cells cells'

namespace Table

/-! ## writing -/

/-- adds a row; its cells are stored already -/
def add (t : Table) (cells : List Value) : Table where
  schema := t.schema
  rows := t.rows ++ [⟨t.nextId, cells⟩]
  nextId := t.nextId + 1
  fresh := by
    intro r hr
    rcases List.mem_append.mp hr with h | h
    · exact Nat.lt_succ_of_lt (t.fresh r h)
    · rw [List.mem_singleton.mp h]
      exact Nat.lt_succ_self _
  nodup := by
    rw [List.map_append]
    refine List.nodup_append.mpr ⟨t.nodup, List.nodup_singleton _, fun a ha b hb hab => ?_⟩
    obtain ⟨r, hr, rfl⟩ := List.mem_map.mp ha
    have hb : b = t.nextId := by simpa using hb
    have hlt := t.fresh r hr
    omega

def deleteWhere (p : Row → Bool) (t : Table) : Table where
  schema := t.schema
  rows := t.rows.filter fun r => !p r
  nextId := t.nextId
  fresh := fun r hr => t.fresh r (List.mem_filter.mp hr).1
  nodup := t.nodup.sublist (List.filter_sublist.map Row.id)

/-- gives the row `id` new cells -/
def setRow (id : Nat) (f : List Value → List Value) (t : Table) : Table where
  schema := t.schema
  rows := t.rows.map fun r => if r.id = id then ⟨r.id, f r.cells⟩ else r
  nextId := t.nextId
  fresh := by
    intro r hr
    obtain ⟨r', hr', rfl⟩ := List.mem_map.mp hr
    split <;> exact t.fresh r' hr'
  nodup := by
    rw [List.map_map]
    convert t.nodup using 2
    funext r
    by_cases h : r.id = id <;> simp [h]

/-- INSERT of one row -/
def insert (cells : List Value) (t : Table) : Except SqlError Table :=
  if t.schema.admits cells ∧ ∀ r ∈ t.rows, t.schema.clashes r.cells cells = false then
    .ok (t.add cells)
  else
    .error .constraint

/-- INSERT OR REPLACE of one row: the rows that stand against it go -/
def replace (cells : List Value) (t : Table) : Except SqlError Table :=
  if t.schema.admits cells then
    .ok ((t.deleteWhere fun r => t.schema.clashes r.cells cells).add cells)
  else
    .error .constraint

/-- the rows already updated by a statement count when the next one is checked -/
def updateOne (f : List Value → List Value) (id : Nat) (t : Table) : Except SqlError Table :=
  match t.rows.find? fun r => r.id = id with
  | none => .ok t
  | some row =>
    if t.schema.admits (f row.cells) ∧
        ∀ r ∈ t.rows, r.id ≠ id → t.schema.clashes r.cells (f row.cells) = false then
      .ok (t.setRow id f)
    else
      .error .constraint

def updateWhere (p : Row → Bool) (f : List Value → List Value) (t : Table) :
    Except SqlError Table :=
  ((t.rows.filter p).map Row.id).foldlM (fun t id => t.updateOne f id) t

/-! ## what is in the table afterwards -/

theorem eq_of_id {t : Table} {r r' : Row} (h : r ∈ t.rows) (h' : r' ∈ t.rows)
    (hid : r.id = r'.id) : r = r' :=
  List.inj_on_of_nodup_map t.nodup h h' hid

theorem insert_rows {cells : List Value} {t t' : Table} (h : t.insert cells = .ok t') :
    t'.rows = t.rows ++ [⟨t.nextId, cells⟩] ∧ t'.schema = t.schema := by
  unfold insert at h
  split at h
  · cases h
    exact ⟨rfl, rfl⟩
  · cases h

theorem replace_rows {cells : List Value} {t t' : Table} (h : t.replace cells = .ok t') :
    t'.rows = (t.rows.filter fun r => !t.schema.clashes r.cells cells) ++ [⟨t.nextId, cells⟩] ∧
      t'.schema = t.schema := by
  unfold replace at h
  split at h
  · cases h
    exact ⟨rfl, rfl⟩
  · cases h

/-- the row `r` as `updateOne` or `updateWhere` leaves it when it is one of the updated -/
def updated (f : List Value → List Value) (hit : Prop) [Decidable hit] (r : Row) : Row :=
  if hit then ⟨r.id, f r.cells⟩ else r

theorem updateOne_rows {f : List Value → List Value} {id : Nat} {t t' : Table}
    (h : t.updateOne f id = .ok t') :
    t'.rows = (t.rows.map fun r => updated f (r.id = id) r) ∧ t'.schema = t.schema := by
  unfold updateOne at h
  split at h
  · rename_i hnone
    cases h
    have hne : ∀ r ∈ t.rows, r.id ≠ id := by simpa using List.find?_eq_none.mp hnone
    have hid : ∀ r ∈ t.rows, updated f (r.id = id) r = r := by
      intro r hr
      simp [updated, hne r hr]
    exact ⟨by rw [List.map_congr_left hid, List.map_id'], rfl⟩
  · split at h
    · cases h
      exact ⟨rfl, rfl⟩
    · cases h

theorem updateAll_rows {f : List Value → List Value} :
    ∀ {ids : List Nat} {t t' : Table}, ids.Nodup →
      ids.foldlM (fun t id => t.updateOne f id) t = .ok t' →
      t'.rows = (t.rows.map fun r => updated f (r.id ∈ ids) r) ∧ t'.schema = t.schema
  | [], t, t', _, h => by
    cases h
    simp [updated]
  | id :: rest, t, t', hnd, h => by
    rw [List.foldlM_cons] at h
    cases h₁ : t.updateOne f id with
    | error e => simp [h₁, bind, Except.bind] at h
    | ok t₁ =>
      rw [h₁] at h
      obtain ⟨hrows₁, hschema₁⟩ := updateOne_rows h₁
      obtain ⟨hnot, hnd'⟩ := List.nodup_cons.mp hnd
      obtain ⟨hrows, hschema⟩ := updateAll_rows hnd' h
      refine ⟨?_, hschema.trans hschema₁⟩
      rw [hrows, hrows₁, List.map_map]
      refine List.map_congr_left fun r _ => ?_
      by_cases hr : r.id = id
      · simp [updated, hr, hnot]
      · simp [updated, hr]

theorem updateWhere_rows {p : Row → Bool} {f : List Value → List Value} {t t' : Table}
    (h : t.updateWhere p f = .ok t') :
    t'.rows = (t.rows.map fun r => updated f (p r) r) ∧ t'.schema = t.schema := by
  have hnd : ((t.rows.filter p).map Row.id).Nodup := t.nodup.sublist (List.filter_sublist.map Row.id)
  obtain ⟨hrows, hschema⟩ := updateAll_rows hnd h
  refine ⟨hrows.trans (List.map_congr_left fun r hr => ?_), hschema⟩
  have hiff : r.id ∈ (t.rows.filter p).map Row.id ↔ p r = true := by
    constructor
    · intro hmem
      obtain ⟨r', hr', hid⟩ := List.mem_map.mp hmem
      obtain ⟨hr', hp⟩ := List.mem_filter.mp hr'
      exact eq_of_id hr' hr hid ▸ hp
    · exact fun hp => List.mem_map_of_mem (List.mem_filter.mpr ⟨hr, hp⟩)
  simp only [updated, hiff]

/-! ## frames -/

/-- only rows of `own` were inserted, changed or deleted, and what they became is of `own` too -/
structure Within (own : Row → Prop) (t t' : Table) : Prop where
  before : ∀ r ∈ t.rows, r ∉ t'.rows → own r
  after : ∀ r ∈ t'.rows, r ∉ t.rows → own r

theorem Within.refl {own : Row → Prop} {t : Table} : Within own t t :=
  ⟨fun _ h h' => absurd h h', fun _ h h' => absurd h h'⟩

theorem within_insert {own : Row → Prop} {cells : List Value} {t t' : Table}
    (h : t.insert cells = .ok t') : Within own t t' ↔ own ⟨t.nextId, cells⟩ := by
  obtain ⟨hrows, -⟩ := insert_rows h
  constructor
  · intro hw
    refine hw.after _ (by simp [hrows]) fun hmem => ?_
    exact Nat.lt_irrefl _ (t.fresh _ hmem)
  · intro hown
    refine ⟨fun r hr hr' => absurd (by simp [hrows, hr]) hr', fun r hr hr' => ?_⟩
    rw [hrows] at hr
    rcases List.mem_append.mp hr with hr | hr
    · exact absurd hr hr'
    · exact List.mem_singleton.mp hr ▸ hown

theorem within_deleteWhere {own : Row → Prop} {p : Row → Bool} {t : Table} :
    Within own t (t.deleteWhere p) ↔ ∀ r ∈ t.rows, p r → own r := by
  constructor
  · intro hw r hr hp
    exact hw.before r hr (by simp [deleteWhere, hp])
  · intro h
    refine ⟨fun r hr hr' => h r hr ?_, fun r hr hr' => absurd (List.mem_filter.mp hr).1 hr'⟩
    by_contra hp
    exact hr' (List.mem_filter.mpr ⟨hr, by simpa using hp⟩)

/-- rows that are given new cells keep their ids, so that each is changed or as it was -/
theorem within_map {own : Row → Prop} {p : Row → Bool} {f : List Value → List Value} {t t' : Table}
    (h : t'.rows = t.rows.map fun r => updated f (p r) r) : Within own t t' ↔
      ∀ r ∈ t.rows, p r → f r.cells = r.cells ∨ own r ∧ own ⟨r.id, f r.cells⟩ := by
  have hmem : ∀ r ∈ t.rows, updated f (p r) r ∈ t'.rows := by
    intro r hr
    rw [h]
    exact List.mem_map_of_mem hr
  constructor
  · intro hw r hr hp
    by_cases hf : f r.cells = r.cells
    · exact .inl hf
    · right
      have hnew : ⟨r.id, f r.cells⟩ ∈ t'.rows := by simpa [updated, hp] using hmem r hr
      constructor
      · refine hw.before r hr fun hr' => ?_
        rw [h] at hr'
        obtain ⟨r₀, hr₀, he⟩ := List.mem_map.mp hr'
        have hid : r₀.id = r.id := by rw [← he]; unfold updated; split <;> rfl
        obtain rfl := eq_of_id hr₀ hr hid
        have hcells := congrArg Row.cells he
        simp only [updated, hp, if_true] at hcells
        exact hf hcells
      · refine hw.after _ hnew fun hold => hf ?_
        exact congrArg Row.cells (eq_of_id hold hr rfl)
  · intro hown
    constructor
    · intro r hr hr'
      by_cases hp : p r = true
      · rcases hown r hr hp with hf | hf
        · exact absurd (by simpa [updated, hp, hf] using hmem r hr) hr'
        · exact hf.1
      · exact absurd (by simpa [updated, hp] using hmem r hr) hr'
    · intro r' hr' hnot
      rw [h] at hr'
      obtain ⟨r, hr, rfl⟩ := List.mem_map.mp hr'
      by_cases hp : p r = true
      · rcases hown r hr hp with hf | hf
        · exact absurd (by simpa [updated, hp, hf] using hr) hnot
        · simpa [updated, hp] using hf.2
      · exact absurd (by simpa [updated, hp] using hr) hnot

end Table
end Sqlite
