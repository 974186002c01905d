import CloudflareShard.Sqlite.Keyed

/-!
# Tables in a file of bounded size

* `Capped`                       a table with a primary key and at most `cap` rows;
* `updateWhere`, `insertOrIgnore`, `discardWhere`, `first`   the statements on them;
* `mem_updateWhere`, `find_updateWhere`, `mem_insertOrIgnore`, `first_mem`   what they leave behind;
* `count_le`, `count_mono`       how many rows are counted.
-/

/-- rows under the primary key `key`; the file has no room for more than `cap` -/
structure Capped (K R : Type) (key : R → K) (cap : Nat) extends Keyed K R key where
  fits : rows.length ≤ cap

namespace Capped
variable {K R : Type} {key : R → K} {cap : Nat}

def empty : Capped K R key cap := ⟨.empty, Nat.zero_le cap⟩

/-- `UPDATE t SET f WHERE p`; `f` leaves the key alone -/
def updateWhere (t : Capped K R key cap) (p : R → Bool) (f : R → R) (hf : ∀ r, key (f r) = key r) :
    Capped K R key cap where
  rows := t.rows.map fun r => if p r then f r else r
  nodup := by
    have hkey : (key ∘ fun r => if p r then f r else r) = key := by
      funext r
      show key (if p r then f r else r) = key r
      split
      · exact hf r
      · rfl
    rw [List.map_map, hkey]
    exact t.nodup
  fits := by
    rw [List.length_map]
    exact t.fits

/-- `DELETE FROM t WHERE p` -/
def discardWhere (t : Capped K R key cap) (p : R → Bool) : Capped K R key cap :=
  ⟨t.toKeyed.deleteWhere p, (List.length_filter_le _ _).trans t.fits⟩

/-- `INSERT OR IGNORE INTO t`; `none` is a full file -/
def insertOrIgnore [DecidableEq K] (t : Capped K R key cap) (r : R) : Option (Capped K R key cap) :=
  match h : t.find (key r) with
  | some _ => some t
  | none =>
    if hroom : t.rows.length < cap then
      some ⟨t.toKeyed.put r, by
        show ((t.toKeyed.erase (key r)).rows ++ [r]).length ≤ cap
        rw [Keyed.erase_of_find_none h, List.length_append]
        exact hroom⟩
    else none

/-- `INSERT OR IGNORE INTO t`, row by row -/
def insertEach [DecidableEq K] (t : Capped K R key cap) (rows : List R) :
    Option (Capped K R key cap) := rows.foldlM insertOrIgnore t

/-- `SELECT * FROM t WHERE p ORDER BY sort LIMIT 1` -/
def first {S : Type} [LinearOrder S] (t : Capped K R key cap) (p : R → Bool) (sort : R → S) :
    Option R := (t.ordered p sort).head?

variable {t t' : Capped K R key cap} {p q : R → Bool} {f : R → R} {hf : ∀ r, key (f r) = key r}
  {r r' : R} {k : K}

variable (hf) in
theorem mem_updateWhere :
    r' ∈ (t.updateWhere p f hf).rows ↔ ∃ r ∈ t.rows, (if p r then f r else r) = r' := List.mem_map

variable (hf) in
theorem find_updateWhere [DecidableEq K] :
    (t.updateWhere p f hf).find k = (t.find k).map fun r => if p r then f r else r := by
  show (t.rows.map fun r => if p r then f r else r).find? (fun r => decide (key r = k)) = _
  have hkey : ((fun r => decide (key r = k)) ∘ fun r => if p r then f r else r) =
      fun r => decide (key r = k) := by
    funext r
    show decide (key (if p r then f r else r) = k) = _
    split
    · rw [hf]
    · rfl
  rw [List.find?_map, hkey]
  rfl

theorem insertOrIgnore_spec [DecidableEq K] (h : t.insertOrIgnore r = some t') :
    (t.find (key r)).isSome ∧ t' = t ∨ t.find (key r) = none ∧ t'.toKeyed = t.toKeyed.put r := by
  unfold insertOrIgnore at h
  split at h
  · rename_i hfound
    exact .inl ⟨by rw [hfound]; rfl, (Option.some.inj h).symm⟩
  · rename_i hfound
    split at h
    · exact .inr ⟨hfound, by rw [← Option.some.inj h]⟩
    · cases h

theorem mem_insertOrIgnore [DecidableEq K] (h : t.insertOrIgnore r = some t') :
    r' ∈ t'.rows ↔ r' ∈ t.rows ∨ t.find (key r) = none ∧ r' = r := by
  rcases insertOrIgnore_spec h with ⟨hsome, rfl⟩ | ⟨hnone, hput⟩
  · constructor
    · exact .inl
    · rintro (hmem | ⟨hnone, -⟩)
      · exact hmem
      · rw [hnone] at hsome
        cases hsome
  · rw [hput, Keyed.mem_put]
    have hother : ∀ r' ∈ t.rows, key r' ≠ key r := Keyed.find_eq_none.mp hnone
    constructor
    · rintro (rfl | ⟨hmem, -⟩)
      · exact .inr ⟨hnone, rfl⟩
      · exact .inl hmem
    · rintro (hmem | ⟨-, rfl⟩)
      · exact .inr ⟨hmem, hother r' hmem⟩
      · exact .inl rfl

theorem find_insertOrIgnore [DecidableEq K] (h : t.insertOrIgnore r = some t')
    (hk : t.find k = some r') : t'.find k = some r' := by
  rcases insertOrIgnore_spec h with ⟨-, rfl⟩ | ⟨hnone, hput⟩
  · exact hk
  · have hne : k ≠ key r := by
      rintro rfl
      rw [hnone] at hk
      cases hk
    rw [hput, Keyed.find_put_ne hne, hk]

/-- what holds of the rows inserted and of those before -/
theorem forall_insertEach [DecidableEq K] {P : R → Prop} : ∀ {rows : List R} {t t' : Capped K R key cap},
    t.insertEach rows = some t' → (∀ r ∈ t.rows, P r) → (∀ r ∈ rows, P r) → ∀ r ∈ t'.rows, P r
  | [], _, _, h, ht, _ => by
    cases h
    exact ht
  | row :: rows, t, t', h, ht, hrows => by
    obtain ⟨t₁, ht₁, h⟩ := Option.bind_eq_some_iff.mp h
    refine forall_insertEach h (fun r hr => ?_) fun r hr => hrows r (List.mem_cons_of_mem _ hr)
    rcases (mem_insertOrIgnore ht₁).mp hr with hr | ⟨-, rfl⟩
    · exact ht r hr
    · exact hrows r (List.mem_cons_self ..)

theorem first_mem {S : Type} [LinearOrder S] {sort : R → S} (h : t.first p sort = some r) :
    r ∈ t.rows ∧ p r := Keyed.mem_ordered.mp (List.mem_of_mem_head? h)

theorem count_le : t.count p ≤ cap := (List.length_filter_le _ _).trans t.fits

theorem ordered_le {S : Type} [LinearOrder S] {sort : R → S} : (t.ordered p sort).length ≤ cap := by
  show ((t.rows.filter p).insertionSort _).length ≤ cap
  rw [List.length_insertionSort]
  exact t.count_le

theorem count_mono (h : ∀ r ∈ t.rows, p r → q r) : t.count p ≤ t.count q := by
  show (t.rows.filter p).length ≤ (t.rows.filter q).length
  rw [← List.countP_eq_length_filter, ← List.countP_eq_length_filter]
  exact List.countP_mono_left h

theorem count_eq_zero (h : t.count p = 0) : ∀ r ∈ t.rows, p r = false := by
  intro r hr
  have := List.filter_eq_nil_iff.mp (List.length_eq_zero_iff.mp h) r hr
  simpa using this

theorem count_congr_of (h : ∀ r ∈ t.rows, p r = q r) : t.count p = t.count q := by
  show (t.rows.filter p).length = (t.rows.filter q).length
  rw [List.filter_congr h]

end Capped
