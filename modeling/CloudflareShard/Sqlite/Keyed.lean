import Mathlib.Data.List.Nodup
import Mathlib.Data.List.Sort
import Mathlib.Order.Basic

/-!
# Tables with a primary key

* `Keyed`                        rows, no two of one key;
* `find`, `put`, `insertAll`, `modify`, `erase`, `deleteWhere`, `count`, `ordered`   the statements
  on them;
* `find_put`, `find_insertAll`, `find_modify`, `find_deleteWhere`   what is found afterwards;
* `mem_ordered`, `ordered_pairwise`, `eq_ordered`   what `ORDER BY` returns, and that nothing else
  is it.
-/

/-- rows under the primary key `key` -/
structure Keyed (K R : Type) (key : R → K) where
  rows : List R
  nodup : (rows.map key).Nodup

namespace Keyed
variable {K R : Type} {key : R → K}

def empty : Keyed K R key := ⟨[], List.nodup_nil⟩

/-- `DELETE FROM t WHERE p` -/
def deleteWhere (t : Keyed K R key) (p : R → Bool) : Keyed K R key :=
  ⟨t.rows.filter fun r => !p r, t.nodup.sublist (List.filter_sublist.map key)⟩

/-- `SELECT COUNT(*) FROM t WHERE p` -/
def count (t : Keyed K R key) (p : R → Bool) : Nat := (t.rows.filter p).length

/-- `SELECT * FROM t WHERE p ORDER BY sort` -/
def ordered {S : Type} [LinearOrder S] (t : Keyed K R key) (p : R → Bool) (sort : R → S) : List R :=
  (t.rows.filter p).insertionSort fun a b => sort a ≤ sort b

theorem mem_deleteWhere {t : Keyed K R key} {p : R → Bool} {r : R} :
    r ∈ (t.deleteWhere p).rows ↔ r ∈ t.rows ∧ p r = false := by
  simp [deleteWhere]

section
variable [DecidableEq K] (t : Keyed K R key)

/-- `SELECT * FROM t WHERE key = k` -/
def find (k : K) : Option R := t.rows.find? fun r => decide (key r = k)

def erase (k : K) : Keyed K R key := t.deleteWhere fun r => decide (key r = k)

/-- `INSERT OR REPLACE INTO t` -/
def put (r : R) : Keyed K R key where
  rows := (t.erase (key r)).rows ++ [r]
  nodup := by
    rw [List.map_append, List.nodup_append]
    refine ⟨(t.erase (key r)).nodup, by simp, ?_⟩
    intro a ha b hb hab
    obtain ⟨x, hx, rfl⟩ := List.mem_map.mp ha
    have hne : key x ≠ key r := by simpa [erase, deleteWhere] using (List.mem_filter.mp hx).2
    obtain rfl : b = key r := by simpa using hb
    exact hne hab

/-- `INSERT OR IGNORE INTO t` -/
def insertNew (r : R) : Keyed K R key :=
  match t.find (key r) with
  | some _ => t
  | none => t.put r

/-- `INSERT OR IGNORE INTO t`, row by row -/
def insertAll (l : List R) : Keyed K R key := l.foldl insertNew t

/-- `UPDATE t SET f WHERE key = k`; `f` leaves the key alone -/
def modify (k : K) (f : R → R) : Keyed K R key :=
  match t.find k with
  | some r => t.put (f r)
  | none => t

/-! ## what is found -/

variable {t} {r r' : R} {k : K}

theorem key_find (h : t.find k = some r) : key r = k := by
  simpa using List.find?_some h

theorem mem_of_find (h : t.find k = some r) : r ∈ t.rows := List.mem_of_find?_eq_some h

theorem find_of_mem (h : r ∈ t.rows) : t.find (key r) = some r := by
  cases hf : t.find (key r) with
  | none =>
    have := List.find?_eq_none.mp hf r h
    simp at this
  | some r' =>
    have hkey := key_find hf
    rw [List.inj_on_of_nodup_map t.nodup (mem_of_find hf) h hkey]

theorem mem_iff : r ∈ t.rows ↔ t.find (key r) = some r := ⟨find_of_mem, mem_of_find⟩

theorem find_eq_some : t.find k = some r ↔ r ∈ t.rows ∧ key r = k := by
  constructor
  · intro h
    exact ⟨mem_of_find h, key_find h⟩
  · rintro ⟨h, rfl⟩
    exact find_of_mem h

theorem find_eq_none : t.find k = none ↔ ∀ r ∈ t.rows, key r ≠ k := by
  simp [find, List.find?_eq_none]

@[simp] theorem find_empty : (empty : Keyed K R key).find k = none := rfl

theorem mem_erase : r ∈ (t.erase k).rows ↔ r ∈ t.rows ∧ key r ≠ k := by
  simp [erase, deleteWhere]

theorem mem_put : r' ∈ (t.put r).rows ↔ r' = r ∨ r' ∈ t.rows ∧ key r' ≠ key r := by
  show r' ∈ (t.erase (key r)).rows ++ [r] ↔ _
  rw [List.mem_append, mem_erase, List.mem_singleton]
  exact or_comm

theorem find_put : (t.put r).find k = if k = key r then some r else t.find k := by
  split
  case isTrue h =>
    subst h
    exact find_of_mem (mem_put.mpr (.inl rfl))
  case isFalse h =>
    ext r'
    rw [find_eq_some, find_eq_some, mem_put]
    constructor
    · rintro ⟨rfl | ⟨hr, _⟩, hk⟩
      · exact absurd hk.symm h
      · exact ⟨hr, hk⟩
    · rintro ⟨hr, rfl⟩
      exact ⟨.inr ⟨hr, h⟩, rfl⟩

@[simp] theorem find_put_self : (t.put r).find (key r) = some r := by simp [find_put]

theorem find_put_ne (h : k ≠ key r) : (t.put r).find k = t.find k := by simp [find_put, h]

theorem find_insertNew :
    (t.insertNew r).find k = (t.find k).or (if key r = k then some r else none) := by
  unfold insertNew
  cases h : t.find (key r) with
  | some r' =>
    by_cases hk : key r = k
    · simp [← hk, h]
    · simp [hk]
  | none =>
    rw [find_put]
    by_cases hk : key r = k
    · simp [← hk, h]
    · simp [hk, Ne.symm hk]

theorem find_insertAll (l : List R) : ∀ t : Keyed K R key,
    (t.insertAll l).find k = (t.find k).or (l.find? fun r => decide (key r = k)) := by
  induction l with
  | nil => simp [insertAll]
  | cons r l ih =>
    intro t
    show ((t.insertNew r).insertAll l).find k = _
    rw [ih, find_insertNew, List.find?_cons]
    by_cases hk : key r = k
    · simp [hk]
    · simp [hk]

theorem find_deleteWhere {p : R → Bool} :
    (t.deleteWhere p).find k = (t.find k).filter fun r => !p r := by
  ext r
  rw [find_eq_some, mem_deleteWhere, Option.filter_eq_some_iff, find_eq_some]
  simp only [Bool.not_eq_true', and_assoc, and_comm (a := p r = false)]

theorem find_erase : (t.erase k).find k = none := by
  rw [find_eq_none]
  exact fun r hr => (mem_erase.mp hr).2

theorem erase_of_find_none (h : t.find k = none) : t.erase k = t := by
  cases t with
  | mk rows nodup =>
    have hrows : rows.filter (fun r => !decide (key r = k)) = rows := by
      refine List.filter_eq_self.mpr fun r hr => ?_
      simpa using find_eq_none.mp h r hr
    unfold erase deleteWhere
    simp only [hrows]

theorem find_erase_ne {k' : K} (h : k' ≠ k) : (t.erase k).find k' = t.find k' := by
  ext r
  rw [find_eq_some, find_eq_some, mem_erase]
  constructor
  · rintro ⟨⟨hr, _⟩, hk⟩
    exact ⟨hr, hk⟩
  · rintro ⟨hr, rfl⟩
    exact ⟨⟨hr, h⟩, rfl⟩

theorem modify_eq {f : R → R} (h : t.find k = some r) : t.modify k f = t.put (f r) := by
  simp [modify, h]

theorem modify_none {f : R → R} (h : t.find k = none) : t.modify k f = t := by simp [modify, h]

theorem find_modify {f : R → R} (hf : ∀ r, key (f r) = key r) (k' : K) :
    (t.modify k f).find k' = if k' = k then (t.find k').map f else t.find k' := by
  cases h : t.find k with
  | none =>
    rw [modify_none h]
    split
    · simp_all
    · rfl
  | some r =>
    rw [modify_eq h, find_put, hf, key_find h]
    split
    · simp_all
    · rfl

/-- a row after `UPDATE t SET f WHERE key = k` is the changed one or an old one -/
theorem mem_modify {f : R → R} (hf : ∀ r, key (f r) = key r) :
    r' ∈ (t.modify k f).rows ↔
      (∃ r ∈ t.rows, key r = k ∧ r' = f r) ∨ r' ∈ t.rows ∧ key r' ≠ k := by
  rw [mem_iff, find_modify hf]
  split
  case isTrue h =>
    constructor
    · intro hr
      obtain ⟨r, hr, rfl⟩ := Option.map_eq_some_iff.mp hr
      exact .inl ⟨r, mem_of_find hr, by rw [← hf r, h], rfl⟩
    · rintro (⟨r, hr, hk, rfl⟩ | ⟨_, hne⟩)
      · rw [hf, find_of_mem hr]
        rfl
      · exact absurd h hne
  case isFalse h =>
    constructor
    · intro hr
      exact .inr ⟨mem_of_find hr, h⟩
    · rintro (⟨r, hr, hk, rfl⟩ | ⟨hr, _⟩)
      · exact absurd ((hf r).trans hk) h
      · exact find_of_mem hr

end

/-! ## counting and ordering -/

variable {S : Type} [LinearOrder S] {t : Keyed K R key} {p : R → Bool} {sort : R → S} {r : R}

theorem nodup_rows (t : Keyed K R key) : t.rows.Nodup := List.Nodup.of_map key t.nodup

@[simp] theorem mem_ordered : r ∈ t.ordered p sort ↔ r ∈ t.rows ∧ p r := by
  simp [ordered]

theorem length_ordered : (t.ordered p sort).length = t.count p := by
  simp [ordered, count]

theorem ordered_pairwise : (t.ordered p sort).Pairwise fun a b => sort a ≤ sort b := by
  have : Std.Total fun a b : R => sort a ≤ sort b := ⟨fun a b => le_total _ _⟩
  have : IsTrans R fun a b => sort a ≤ sort b := ⟨fun _ _ _ => le_trans⟩
  exact List.pairwise_insertionSort _ _

theorem ordered_nodup : (t.ordered p sort).Nodup :=
  (List.perm_insertionSort _ _).nodup_iff.mpr ((nodup_rows t).filter p)

/-- a strictly sorted list of the rows that `p` holds of is what `ORDER BY` returns -/
theorem eq_ordered {l : List R} (hl : l.Pairwise fun a b => sort a < sort b)
    (hmem : ∀ r, r ∈ l ↔ r ∈ t.rows ∧ p r) : l = t.ordered p sort := by
  have hnodup : l.Nodup := hl.imp fun {a b} h => by
    rintro rfl
    exact lt_irrefl _ h
  have hperm : l.Perm (t.ordered p sort) :=
    (List.perm_ext_iff_of_nodup hnodup ordered_nodup).mpr fun r => by rw [hmem, mem_ordered]
  have hpair : (t.ordered p sort).Pairwise fun a b => sort a < sort b := by
    have hinj : (t.ordered p sort).Pairwise fun a b => sort a ≠ sort b := by
      have := hperm.pairwise_iff (R := fun a b => sort a ≠ sort b) (fun h => h.symm)
      exact this.mp (hl.imp fun h => ne_of_lt h)
    exact (ordered_pairwise.and hinj).imp fun h => lt_of_le_of_ne h.1 h.2
  exact hperm.eq_of_pairwise (fun a b _ _ h h' => absurd (h.trans h') (lt_irrefl _)) hl hpair

theorem count_congr {t' : Keyed K R key} (h : ∀ r, p r → (r ∈ t'.rows ↔ r ∈ t.rows)) :
    t'.count p = t.count p := by
  have hperm : (t'.rows.filter p).Perm (t.rows.filter p) :=
    (List.perm_ext_iff_of_nodup ((nodup_rows t').filter p) ((nodup_rows t).filter p)).mpr fun r => by
      rw [List.mem_filter, List.mem_filter]
      constructor
      · rintro ⟨hr, hp⟩
        exact ⟨(h r hp).mp hr, hp⟩
      · rintro ⟨hr, hp⟩
        exact ⟨(h r hp).mpr hr, hp⟩
  exact hperm.length_eq

/-- rows that `sort` tells apart are returned in one order only -/
theorem ordered_congr {t' : Keyed K R key} (h : ∀ r, p r → (r ∈ t'.rows ↔ r ∈ t.rows))
    (hinj : ∀ r ∈ t.rows, ∀ r' ∈ t.rows, p r → p r' → sort r = sort r' → r = r') :
    t'.ordered p sort = t.ordered p sort := by
  have hmem : ∀ r, r ∈ t'.ordered p sort ↔ r ∈ t.rows ∧ p r := by
    intro r
    rw [mem_ordered]
    constructor
    · rintro ⟨hr, hp⟩
      exact ⟨(h r hp).mp hr, hp⟩
    · rintro ⟨hr, hp⟩
      exact ⟨(h r hp).mpr hr, hp⟩
  refine eq_ordered ?_ hmem
  refine (ordered_pairwise.and ordered_nodup).imp_of_mem fun {a b} ha hb hab => ?_
  obtain ⟨ha, hpa⟩ := (hmem a).mp ha
  obtain ⟨hb, hpb⟩ := (hmem b).mp hb
  exact lt_of_le_of_ne hab.1 fun he => hab.2 (hinj a ha b hb hpa hpb he)

end Keyed
