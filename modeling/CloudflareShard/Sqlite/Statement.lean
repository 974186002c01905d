import Mathlib.Data.List.Forall2
import CloudflareShard.Sqlite.Table

/-!
# SQL statements

INSERT with an ON CONFLICT clause, UPDATE and DELETE over one table, their text and their effect.

* `Statement`, `Statement.sql`      the statements and how they are written;
* `Statement.exec`, `Statement.changes`   what a statement does with its parameters, and to how many rows;
* `assigned_eq`                     what an assignment list says of a column;
* `insert_exec`, `upsert_exec`, `update_exec`, `delete_exec`   what a statement did that went through.
-/

namespace Sqlite

inductive Conflict where
  | abort
  | doNothing (target : List String)
  /-- `DO UPDATE SET "c" = excluded."c"` for the columns in `set` -/
  | doUpdate (target set : List String)

/-- there is one `?` for each inserted column, each column that is set and each condition -/
inductive Statement where
  | insert (table : String) (columns : List String) (conflict : Conflict)
  | update (table : String) (set conditions : List String)
  | delete (table : String) (conditions : List String)

/-! ## text -/

def quoted (name : String) : String := "\"" ++ name ++ "\""

def comma (parts : List String) : String := String.intercalate ", " parts

def Conflict.sql : Conflict → String
  | abort => ""
  | doNothing target => " ON CONFLICT (" ++ comma (target.map quoted) ++ ") DO NOTHING"
  | doUpdate target set =>
    " ON CONFLICT (" ++ comma (target.map quoted) ++ ") DO UPDATE SET " ++
      comma (set.map fun c => quoted c ++ " = excluded." ++ quoted c)

def conditionSql (conditions : List String) : String :=
  String.intercalate " AND " (conditions.map fun c => quoted c ++ " = ?")

def Statement.sql : Statement → String
  | insert table columns conflict =>
    "INSERT INTO " ++ quoted table ++ " (" ++ comma (columns.map quoted) ++ ") VALUES (" ++
      comma (columns.map fun _ => "?") ++ ")" ++ conflict.sql
  | update table set conditions =>
    "UPDATE " ++ quoted table ++ " SET " ++ comma (set.map fun c => quoted c ++ " = ?") ++
      " WHERE " ++ conditionSql conditions
  | delete table conditions => "DELETE FROM " ++ quoted table ++ " WHERE " ++ conditionSql conditions

/-! ## effect -/

/-- the row that an INSERT would add -/
def Schema.candidate (R : Rules) (S : Schema) (targets : List Nat) (values : List Value) :
    List Value :=
  S.columns.mapIdx fun i c => c.store R ((assigned targets values i).getD c.default)

/-- a row after SET; of several entries for one column the last one counts -/
def Schema.assign (R : Rules) (S : Schema) (targets : List Nat) (values : List Value)
    (cells : List Value) : List Value :=
  S.columns.mapIdx fun i c =>
    match assigned targets.reverse values.reverse i with
    | some v => c.store R v
    | none => cells.getD i .null

def Schema.conditionHolds (R : Rules) (S : Schema) (targets : List Nat) (values : List Value)
    (cells : List Value) : Bool :=
  (targets.zip values).all fun p =>
    (S.columns[p.1]?.map fun c => c.matches R (cells.getD p.1 .null) p.2).getD false

/-- the UNIQUE constraint that a conflict target stands for -/
def Schema.constraintOf (S : Schema) (target : List Nat) : Except SqlError (List Nat) :=
  match S.unique.find? fun u =>
    u.length == target.length && u.all (target.contains ·) && target.all (u.contains ·) with
  | some u => .ok u
  | none => .error .conflictTarget

namespace Table

/-- the row that a candidate meets on the constraint of the conflict target -/
def conflicting (t : Table) (constraint : List Nat) (cells : List Value) : Option Row :=
  t.rows.find? fun r => t.schema.clash constraint r.cells cells

/-- the cells of a conflicting row after `DO UPDATE` with the candidate `cells` -/
def excluded (R : Rules) (S : Schema) (set : List Nat) (cells : List Value) :
    List Value → List Value :=
  S.assign R set (set.map fun i => cells.getD i .null)

end Table

def execInsert (R : Rules) (columns : List String) (conflict : Conflict) (params : List Value)
    (t : Table) : Except SqlError Table := do
  let targets ← t.schema.resolveAll columns
  let cells := t.schema.candidate R targets params
  match conflict with
  | .abort => t.insert cells
  | .doNothing target =>
    let constraint ← t.schema.constraintOf (← t.schema.resolveAll target)
    if t.schema.admits cells = false then .error .constraint
    else match t.conflicting constraint cells with
      | some _ => return t
      | none => t.insert cells
  | .doUpdate target set =>
    let constraint ← t.schema.constraintOf (← t.schema.resolveAll target)
    let set ← t.schema.resolveAll set
    if t.schema.admits cells = false then .error .constraint
    else match t.conflicting constraint cells with
      | some row => t.updateOne (Table.excluded R t.schema set cells) row.id
      | none => t.insert cells

def Statement.exec (R : Rules) (s : Statement) (params : List Value) (t : Table) :
    Except SqlError Table :=
  match s with
  | insert _ columns conflict =>
    if params.length = columns.length then execInsert R columns conflict params t
    else .error .parameter
  | update _ set conditions => do
    if params.length ≠ set.length + conditions.length then .error .parameter
    let set ← t.schema.resolveAll set
    let conditions ← t.schema.resolveAll conditions
    t.updateWhere
      (fun r => t.schema.conditionHolds R conditions (params.drop set.length) r.cells)
      (t.schema.assign R set (params.take set.length))
  | delete _ conditions => do
    if params.length ≠ conditions.length then .error .parameter
    let conditions ← t.schema.resolveAll conditions
    return t.deleteWhere fun r => t.schema.conditionHolds R conditions params r.cells

/-- `SELECT changes()` after a statement that went through on `t` -/
def Statement.changes (R : Rules) (s : Statement) (params : List Value) (t : Table) :
    Except SqlError Nat :=
  match s with
  | insert _ columns (.doNothing target) => do
    let targets ← t.schema.resolveAll columns
    let constraint ← t.schema.constraintOf (← t.schema.resolveAll target)
    return if (t.conflicting constraint (t.schema.candidate R targets params)).isSome then 0 else 1
  | insert _ _ _ => return 1
  | update _ set conditions => do
    let conditions ← t.schema.resolveAll conditions
    return (t.rows.filter fun r =>
      t.schema.conditionHolds R conditions (params.drop set.length) r.cells).length
  | delete _ conditions => do
    let conditions ← t.schema.resolveAll conditions
    return (t.rows.filter fun r => t.schema.conditionHolds R conditions params r.cells).length

/-! ## assignment lists -/

theorem mapM_except {ε α β : Type} {f : α → Except ε β} : ∀ {l : List α} {l' : List β},
    l.mapM f = .ok l' → List.Forall₂ (fun a b => f a = .ok b) l l'
  | [], l', h => by
    cases h
    exact .nil
  | a :: l, l', h => by
    rw [List.mapM_cons] at h
    cases ha : f a with
    | error e => simp [ha, bind, Except.bind] at h
    | ok b =>
      cases hl : l.mapM f with
      | error e => simp [ha, hl, bind, Except.bind] at h
      | ok bs =>
        simp only [ha, hl, bind, Except.bind, pure, Except.pure, Except.ok.injEq] at h
        exact h ▸ .cons ha (mapM_except hl)

theorem mapM_option {α β : Type} {f : α → Option β} : ∀ {l : List α} {l' : List β},
    l.mapM f = some l' → List.Forall₂ (fun a b => f a = some b) l l'
  | [], l', h => by
    cases h
    exact .nil
  | a :: l, l', h => by
    rw [List.mapM_cons] at h
    cases ha : f a with
    | none => simp [ha] at h
    | some b =>
      cases hl : l.mapM f with
      | none => simp [ha, hl] at h
      | some bs =>
        simp only [ha, hl, Option.pure_def, Option.bind_eq_bind, Option.bind_some,
          Option.some.injEq] at h
        exact h ▸ .cons ha (mapM_option hl)

theorem resolveAll_ok {S : Schema} {names : List String} {targets : List Nat}
    (h : S.resolveAll names = .ok targets) :
    List.Forall₂ (fun name i => S.resolve name = some i) names targets := by
  refine (mapM_except h).imp fun name i hi => ?_
  cases hr : S.resolve name with
  | none => simp [hr] at hi
  | some j => simpa [hr] using hi

/-- the entries of `l` were resolved to `targets` and bound to `values`; what the list says of column
`i` is said by the first of them that names it -/
theorem assigned_eq {α : Type} {f : α → Option Nat} {g : α → Option Value} (i : Nat) :
    ∀ {l : List α} {targets : List Nat} {values : List Value},
      List.Forall₂ (fun a i => f a = some i) l targets →
      List.Forall₂ (fun a v => g a = some v) l values →
      assigned targets values i = (l.find? fun a => f a = some i).bind g
  | [], _, _, .nil, .nil => rfl
  | a :: l, j :: targets, v :: values, .cons hj ht, .cons hv hvs => by
    have ih := assigned_eq i ht hvs
    unfold assigned at ih ⊢
    by_cases hi : j = i
    · subst hi
      simp [hj, hv]
    · simp [hj, hi, ih]

theorem cell_candidate {R : Rules} {S : Schema} {targets : List Nat} {values : List Value} {i : Nat}
    {c : Column} (hc : S.columns[i]? = some c) : (S.candidate R targets values).getD i .null =
      c.store R ((assigned targets values i).getD c.default) := by
  simp [Schema.candidate, hc]

theorem cell_assign {R : Rules} {S : Schema} {targets : List Nat} {values cells : List Value}
    {i : Nat} {c : Column} (hc : S.columns[i]? = some c) :
    (S.assign R targets values cells).getD i .null =
      ((assigned targets.reverse values.reverse i).map (c.store R)).getD (cells.getD i .null) := by
  simp only [Schema.assign, List.getD_eq_getElem?_getD, List.getElem?_mapIdx, hc, Option.map_some,
    Option.getD_some]
  cases assigned targets.reverse values.reverse i <;> rfl

theorem assigned_map {g : Nat → Value} {i : Nat} : ∀ targets : List Nat,
    assigned targets (targets.map g) i = if i ∈ targets then some (g i) else none
  | [] => rfl
  | j :: targets => by
    have ih := assigned_map (g := g) (i := i) targets
    unfold assigned at ih ⊢
    by_cases hi : j = i
    · simp [hi]
    · have hi' : i ≠ j := Ne.symm hi
      simp [hi, hi', ih]

theorem cell_excluded {R : Rules} {S : Schema} {set : List Nat} {cells old : List Value} {i : Nat}
    {c : Column} (hc : S.columns[i]? = some c) : (Table.excluded R S set cells old).getD i .null =
      if i ∈ set then c.store R (cells.getD i .null) else old.getD i .null := by
  rw [Table.excluded, cell_assign hc, ← List.map_reverse, assigned_map]
  simp only [List.mem_reverse]
  split <;> rfl

/-! ## statements that went through -/

theorem insert_exec {R : Rules} {table : String} {columns : List String} {params : List Value}
    {t t' : Table} (h : (Statement.insert table columns .abort).exec R params t = .ok t') :
    ∃ targets, t.schema.resolveAll columns = .ok targets ∧
      t.insert (t.schema.candidate R targets params) = .ok t' := by
  unfold Statement.exec execInsert at h
  dsimp only at h
  split at h
  · cases ht : t.schema.resolveAll columns with
    | error e => simp [ht, bind, Except.bind] at h
    | ok targets => exact ⟨targets, rfl, by simpa [ht, bind, Except.bind] using h⟩
  · cases h

theorem doNothing_exec {R : Rules} {table : String} {columns target : List String}
    {params : List Value} {t t' : Table}
    (h : (Statement.insert table columns (.doNothing target)).exec R params t = .ok t') :
    ∃ targets ts constraint, t.schema.resolveAll columns = .ok targets ∧
      t.schema.resolveAll target = .ok ts ∧ t.schema.constraintOf ts = .ok constraint ∧
      match t.conflicting constraint (t.schema.candidate R targets params) with
      | some _ => t' = t
      | none => t.insert (t.schema.candidate R targets params) = .ok t' := by
  unfold Statement.exec execInsert at h
  dsimp only at h
  split at h
  · simp only [bind, Except.bind] at h
    cases ht : t.schema.resolveAll columns with
    | error e => simp [ht] at h
    | ok targets =>
      cases hts : t.schema.resolveAll target with
      | error e => simp [ht, hts] at h
      | ok ts =>
        cases hu : t.schema.constraintOf ts with
        | error e => simp [ht, hts, hu] at h
        | ok constraint =>
          simp only [ht, hts, hu] at h
          refine ⟨targets, ts, constraint, rfl, rfl, hu, ?_⟩
          split at h
          · cases h
          · split at h
            · cases h
              rfl
            · rename_i hrow
              simpa [hrow] using h
  · cases h

theorem doUpdate_exec {R : Rules} {table : String} {columns target set : List String}
    {params : List Value} {t t' : Table}
    (h : (Statement.insert table columns (.doUpdate target set)).exec R params t = .ok t') :
    ∃ targets ts constraint ss, t.schema.resolveAll columns = .ok targets ∧
      t.schema.resolveAll target = .ok ts ∧ t.schema.constraintOf ts = .ok constraint ∧
      t.schema.resolveAll set = .ok ss ∧
      match t.conflicting constraint (t.schema.candidate R targets params) with
      | some row => t.updateOne
          (Table.excluded R t.schema ss (t.schema.candidate R targets params)) row.id = .ok t'
      | none => t.insert (t.schema.candidate R targets params) = .ok t' := by
  unfold Statement.exec execInsert at h
  dsimp only at h
  split at h
  · simp only [bind, Except.bind] at h
    cases ht : t.schema.resolveAll columns with
    | error e => simp [ht] at h
    | ok targets =>
      cases hts : t.schema.resolveAll target with
      | error e => simp [ht, hts] at h
      | ok ts =>
        cases hu : t.schema.constraintOf ts with
        | error e => simp [ht, hts, hu] at h
        | ok constraint =>
          cases hs : t.schema.resolveAll set with
          | error e => simp [ht, hts, hu, hs] at h
          | ok ss =>
            simp only [ht, hts, hu, hs] at h
            refine ⟨targets, ts, constraint, ss, rfl, rfl, hu, rfl, ?_⟩
            split at h
            · cases h
            · split at h <;> exact h
  · cases h

theorem update_exec {R : Rules} {table : String} {set conditions : List String}
    {params : List Value} {t t' : Table}
    (h : (Statement.update table set conditions).exec R params t = .ok t') :
    ∃ ss cs, t.schema.resolveAll set = .ok ss ∧ t.schema.resolveAll conditions = .ok cs ∧
      params.length = set.length + conditions.length ∧
      t.updateWhere (fun r => t.schema.conditionHolds R cs (params.drop ss.length) r.cells)
        (t.schema.assign R ss (params.take ss.length)) = .ok t' := by
  unfold Statement.exec at h
  dsimp only at h
  simp only [bind, Except.bind] at h
  split at h
  · cases h
  · rename_i hlen
    cases hs : t.schema.resolveAll set with
    | error e => simp [hs] at h
    | ok ss =>
      cases hc : t.schema.resolveAll conditions with
      | error e => simp [hs, hc] at h
      | ok cs =>
        simp only [hs, hc] at h
        exact ⟨ss, cs, rfl, rfl, not_not.mp hlen, h⟩

theorem delete_exec {R : Rules} {table : String} {conditions : List String}
    {params : List Value} {t t' : Table}
    (h : (Statement.delete table conditions).exec R params t = .ok t') :
    ∃ cs, t.schema.resolveAll conditions = .ok cs ∧
      t' = t.deleteWhere fun r => t.schema.conditionHolds R cs params r.cells := by
  unfold Statement.exec at h
  dsimp only at h
  simp only [bind, Except.bind] at h
  split at h
  · cases h
  · cases hc : t.schema.resolveAll conditions with
    | error e => simp [hc] at h
    | ok cs =>
      simp only [hc] at h
      cases h
      exact ⟨cs, rfl, rfl⟩

/-! ## statements that change nothing -/

theorem updateWhere_none {p : Row → Bool} {f : List Value → List Value} {t : Table}
    (h : t.rows.filter p = []) : t.updateWhere p f = .ok t := by
  rw [Table.updateWhere, h]
  rfl

theorem deleteWhere_none {p : Row → Bool} {t : Table} (h : t.rows.filter p = []) :
    (t.deleteWhere p).rows = t.rows := by
  refine List.filter_eq_self.mpr fun r hr => ?_
  have hp := List.filter_eq_nil_iff.mp h r hr
  simpa using hp

/-- a statement that changes no row leaves the rows as they are -/
theorem changes_zero {R : Rules} {s : Statement} {params : List Value} {t t' : Table}
    (h : s.exec R params t = .ok t') (hn : s.changes R params t = .ok 0) :
    t'.rows = t.rows ∧ t'.schema = t.schema := by
  cases s with
  | insert table columns conflict =>
    cases conflict with
    | abort => cases hn
    | doUpdate target set => cases hn
    | doNothing target =>
      obtain ⟨targets, ts, constraint, ht, hts, hu, hrow⟩ := doNothing_exec h
      simp only [Statement.changes, ht, hts, hu, bind, Except.bind, pure, Except.pure,
        Except.ok.injEq] at hn
      cases hfind : t.conflicting constraint (t.schema.candidate R targets params) with
      | none => simp [hfind] at hn
      | some row =>
        rw [hfind] at hrow
        rw [show t' = t from hrow]
        exact ⟨rfl, rfl⟩
  | update table set conditions =>
    obtain ⟨ss, cs, hs, hc, hlen, hexec⟩ := update_exec h
    have hsame : ss.length = set.length := ((resolveAll_ok hs).length_eq).symm
    simp only [Statement.changes, hc, bind, Except.bind, pure, Except.pure, Except.ok.injEq,
      List.length_eq_zero_iff] at hn
    rw [← hsame] at hn
    rw [updateWhere_none hn] at hexec
    cases hexec
    exact ⟨rfl, rfl⟩
  | delete table conditions =>
    obtain ⟨cs, hc, rfl⟩ := delete_exec h
    simp only [Statement.changes, hc, bind, Except.bind, pure, Except.pure, Except.ok.injEq,
      List.length_eq_zero_iff] at hn
    exact ⟨deleteWhere_none hn, rfl⟩

end Sqlite
