import Mathlib.Data.List.Basic
import Mathlib.Data.List.Nodup

/-!
# JavaScript objects

The own properties of an object in the order in which they were set.

* `Object`                the properties, no name twice;
* `get?`, `set`, `erase`, `keys`   reading and writing them.
-/

namespace Json

structure Object (V : Type) where
  entries : List (String × V)
  nodup : (entries.map Prod.fst).Nodup

namespace Object
variable {V : Type}

def empty : Object V := ⟨[], List.nodup_nil⟩

def keys (o : Object V) : List String := o.entries.map Prod.fst

def get? (o : Object V) (name : String) : Option V :=
  (o.entries.find? fun p => p.1 = name).map Prod.snd

/-- a property that is there keeps its place -/
def setEntry (name : String) (v : V) : List (String × V) → List (String × V)
  | [] => [(name, v)]
  | p :: rest => if p.1 = name then (name, v) :: rest else p :: setEntry name v rest

theorem keys_setEntry (name : String) (v : V) (l : List (String × V)) :
    (setEntry name v l).map Prod.fst =
      if name ∈ l.map Prod.fst then l.map Prod.fst else l.map Prod.fst ++ [name] := by
  induction l with
  | nil => simp [setEntry]
  | cons p rest ih =>
    by_cases h : p.1 = name
    · simp [setEntry, h]
    · have h' : name ≠ p.1 := Ne.symm h
      simp only [setEntry, h, if_false, List.map_cons, ih, List.mem_cons, h', false_or]
      split <;> simp

theorem setEntry_of_not_mem {name : String} {v : V} {l : List (String × V)}
    (h : name ∉ l.map Prod.fst) : setEntry name v l = l ++ [(name, v)] := by
  induction l with
  | nil => rfl
  | cons p rest ih =>
    have hp : p.1 ≠ name := fun he => h (by simp [he])
    have hrest : name ∉ rest.map Prod.fst := fun hm => h (List.mem_cons_of_mem _ hm)
    simp [setEntry, hp, ih hrest]

/-- `{ ...o, [name]: v }` -/
def set (o : Object V) (name : String) (v : V) : Object V where
  entries := setEntry name v o.entries
  nodup := by
    rw [keys_setEntry]
    split
    · exact o.nodup
    · rename_i h
      refine List.nodup_append.mpr ⟨o.nodup, List.nodup_singleton name, fun a ha b hb hab => h ?_⟩
      rw [← List.mem_singleton.mp hb, ← hab]
      exact ha

def ofList (l : List (String × V)) : Object V := l.foldl (fun o p => o.set p.1 p.2) empty

/-- `const { [name]: _, ...rest } = o` -/
def erase (o : Object V) (name : String) : Object V where
  entries := o.entries.filter fun p => p.1 ≠ name
  nodup := o.nodup.sublist (List.filter_sublist.map Prod.fst)

theorem mem_keys_set {o : Object V} {name k : String} {v : V} :
    k ∈ (o.set name v).keys ↔ k = name ∨ k ∈ o.keys := by
  show k ∈ (setEntry name v o.entries).map Prod.fst ↔ k = name ∨ k ∈ o.entries.map Prod.fst
  rw [keys_setEntry]
  split
  · rename_i h
    constructor
    · exact .inr
    · rintro (rfl | hk)
      · exact h
      · exact hk
  · rw [List.mem_append, List.mem_singleton, or_comm]

theorem mem_keys_foldl {k : String} : ∀ {l : List (String × V)} {o : Object V},
    k ∈ (l.foldl (fun o p => o.set p.1 p.2) o).keys ↔ k ∈ o.keys ∨ k ∈ l.map Prod.fst
  | [], o => by simp
  | p :: l, o => by
    rw [List.foldl_cons, mem_keys_foldl, mem_keys_set, List.map_cons, List.mem_cons]
    tauto

theorem mem_keys_ofList {k : String} {l : List (String × V)} :
    k ∈ (ofList l).keys ↔ k ∈ l.map Prod.fst := by
  rw [ofList, mem_keys_foldl]
  simp [empty, keys]

theorem mem_setEntry {name : String} {v : V} {p : String × V} : ∀ {l : List (String × V)},
    p ∈ setEntry name v l → p = (name, v) ∨ p ∈ l
  | [], h => .inl (List.mem_singleton.mp h)
  | q :: l, h => by
    by_cases hq : q.1 = name
    · rw [setEntry, if_pos hq] at h
      rcases List.mem_cons.mp h with h | h
      · exact .inl h
      · exact .inr (List.mem_cons_of_mem _ h)
    · rw [setEntry, if_neg hq] at h
      rcases List.mem_cons.mp h with h | h
      · exact .inr (h ▸ List.mem_cons_self ..)
      · exact (mem_setEntry h).imp_right (List.mem_cons_of_mem _)

theorem mem_ofList {p : String × V} {l : List (String × V)} (h : p ∈ (ofList l).entries) : p ∈ l := by
  have hfold : ∀ {l : List (String × V)} {o : Object V},
      p ∈ (l.foldl (fun o p => o.set p.1 p.2) o).entries → p ∈ o.entries ∨ p ∈ l := by
    intro l
    induction l with
    | nil => exact .inl
    | cons q l ih =>
      intro o h
      rw [List.foldl_cons] at h
      rcases ih h with h | h
      · rcases mem_setEntry h with h | h
        · exact .inr (h ▸ List.mem_cons_self ..)
        · exact .inl h
      · exact .inr (List.mem_cons_of_mem _ h)
  exact (hfold h).resolve_left (List.not_mem_nil)

/-! ## reading what was set -/

theorem get?_setEntry (name k : String) (v : V) : ∀ l : List (String × V),
    ((setEntry name v l).find? fun p => p.1 = k).map Prod.snd =
      if k = name then some v else (l.find? fun p => p.1 = k).map Prod.snd
  | [] => by
    by_cases h : name = k
    · simp [setEntry, h]
    · simp [setEntry, h, Ne.symm h]
  | p :: l => by
    have ih := get?_setEntry name k v l
    by_cases hp : p.1 = name
    · rw [setEntry, if_pos hp]
      by_cases hk : k = name
      · simp [hk]
      · have hname : name ≠ k := Ne.symm hk
        have hpk : p.1 ≠ k := by rw [hp]; exact hname
        simp [hk, hname, hpk]
    · rw [setEntry, if_neg hp]
      by_cases hpk : p.1 = k
      · have hk : k ≠ name := by rw [← hpk]; exact hp
        simp [hpk, hk]
      · simpa [hpk] using ih

theorem get?_set (o : Object V) (name k : String) (v : V) :
    (o.set name v).get? k = if k = name then some v else o.get? k :=
  get?_setEntry name k v o.entries

theorem mem_entries {o : Object V} {name : String} {v : V} :
    (name, v) ∈ o.entries ↔ o.get? name = some v := by
  unfold get?
  constructor
  · intro h
    cases hfind : o.entries.find? fun p => p.1 = name with
    | none =>
      have hne := List.find?_eq_none.mp hfind _ h
      simp at hne
    | some p =>
      have hname : p.1 = name := by simpa using List.find?_some hfind
      have hp := List.inj_on_of_nodup_map o.nodup (List.mem_of_find?_eq_some hfind) h hname
      rw [hp]
      rfl
  · intro h
    obtain ⟨p, hp, rfl⟩ := Option.map_eq_some_iff.mp h
    have hname : p.1 = name := by simpa using List.find?_some hp
    rw [← hname]
    exact List.mem_of_find?_eq_some hp

theorem get?_isSome {o : Object V} {name : String} : (o.get? name).isSome ↔ name ∈ o.keys := by
  rw [Option.isSome_iff_exists, keys, List.mem_map]
  constructor
  · intro ⟨v, hv⟩
    exact ⟨(name, v), mem_entries.mpr hv, rfl⟩
  · intro ⟨p, hp, hname⟩
    exact ⟨p.2, mem_entries.mp (hname ▸ hp)⟩

/-- the properties of `l` are set one after the other; no name comes twice -/
theorem get?_foldl {l : List (String × V)} (hl : (l.map Prod.fst).Nodup) (o : Object V) (k : String) :
    (l.foldl (fun o p => o.set p.1 p.2) o).get? k =
      ((l.find? fun p => p.1 = k).map Prod.snd).or (o.get? k) := by
  induction l generalizing o with
  | nil => rfl
  | cons p l ih =>
    obtain ⟨hp, hl⟩ := List.nodup_cons.mp hl
    rw [List.foldl_cons, ih hl, get?_set]
    by_cases hk : p.1 = k
    · have hnone : l.find? (fun q => q.1 = k) = none := by
        refine List.find?_eq_none.mpr fun q hq heq => hp ?_
        have hqk : q.1 = k := by simpa using heq
        rw [hk, ← hqk]
        exact List.mem_map_of_mem hq
      simp [hk, hnone]
    · have hk' : k ≠ p.1 := Ne.symm hk
      simp [hk, hk']

theorem get?_ofList {l : List (String × V)} (hl : (l.map Prod.fst).Nodup) (k : String) :
    (ofList l).get? k = (l.find? fun p => p.1 = k).map Prod.snd := by
  rw [ofList, get?_foldl hl]
  simp [get?, empty]

def isEmpty (o : Object V) : Bool := o.entries.isEmpty

end Object
end Json
