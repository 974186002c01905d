import Mathlib.Data.List.Sort
import Mathlib.Order.Basic

/-!
# Paging through several sorted sources at once

A reader is handed a page and a cursor, and hands the cursor back until there is none.  Its pages are
cut from the merge of what several sources hold behind their keys in the cursor.

* `readAll`               the pages, until a page comes without a cursor;
* `readAll_exact`         **they hold what there was to read**, when every page takes its part of it;
* `rest`, `rest_advance`  what a source holds behind a key, and behind a later one;
* `filter_merge`          a merge holds the items of every source in their order;
* `take_filter`           the part of a source in the front of a merge;
* `flatMap_filter_perm`   a list is made of the parts of its sources.
-/

namespace Keyset

/-! ## readers -/

section
variable {σ α : Type}

/-- reads until a page comes without a cursor, at most `n` pages -/
def readAll (page : σ → Option (List α × Option σ)) : Nat → σ → Option (List (List α))
  | 0, _ => none
  | n + 1, s =>
    match page s with
    | none => none
    | some (items, none) => some [items]
    | some (items, some s') => (readAll page n s').map (items :: ·)

/-- a page takes its part of what is left, and the cursor leaves less to scan -/
structure Takes (left : σ → List α) (size : σ → Nat) (inv : σ → Prop) (s : σ)
    (r : List α × Option σ) : Prop where
  last : r.2 = none → (left s).Perm r.1
  more : ∀ s', r.2 = some s' → inv s' ∧ (left s).Perm (r.1 ++ left s') ∧ size s' < size s

variable {page : σ → Option (List α × Option σ)} {left : σ → List α} {size : σ → Nat}
  {inv : σ → Prop}

/-- **the pages end, and hold every item once** -/
theorem readAll_exact (hpage : ∀ s, inv s → ∃ r, page s = some r ∧ Takes left size inv s r)
    (n : Nat) : ∀ s, inv s → size s < n →
      ∃ pages, readAll page n s = some pages ∧ pages.flatten.Perm (left s) := by
  induction n with
  | zero => exact fun s _ h => absurd h (Nat.not_lt_zero _)
  | succ n ih =>
    intro s hs hsize
    obtain ⟨⟨items, cursor⟩, hr, ht⟩ := hpage s hs
    rw [readAll, hr]
    cases cursor with
    | none => exact ⟨[items], rfl, by simpa using (ht.last rfl).symm⟩
    | some s' =>
      obtain ⟨hs', hleft, hlt⟩ := ht.more s' rfl
      obtain ⟨pages, hpages, hperm⟩ := ih s' hs' (by omega)
      refine ⟨items :: pages, by simp [hpages], ?_⟩
      rw [List.flatten_cons]
      exact (hperm.append_left items).trans hleft.symm

end

/-! ## one source -/

section
variable {K α : Type} [LinearOrder K] (key : α → K)

/-- what a source holds behind a key -/
def rest (items : List α) (after : K) : List α := items.filter fun a => after < key a

variable {key} {items : List α} {after after' : K}

/-- behind a later key are the items that are not up to it -/
theorem rest_advance {out more : List α} (h : rest key items after = out ++ more)
    (hle : after ≤ after') (hout : ∀ a ∈ out, key a ≤ after') (hmore : ∀ a ∈ more, after' < key a) :
    rest key items after' = more := by
  have hrest : rest key items after' = (rest key items after).filter fun a => after' < key a := by
    rw [rest, rest, List.filter_filter]
    refine List.filter_congr fun a _ => ?_
    by_cases ha : after' < key a
    · simp [ha, lt_of_le_of_lt hle ha]
    · simp [ha]
  rw [hrest, h, List.filter_append, List.filter_eq_nil_iff.mpr, List.filter_eq_self.mpr,
    List.nil_append]
  · simpa using hmore
  · simpa using hout

theorem rest_length_le (hle : after ≤ after') :
    (rest key items after').length ≤ (rest key items after).length := by
  refine (List.monotone_filter_right items fun a ha => ?_).length_le
  simp only [decide_eq_true_eq] at ha ⊢
  exact lt_of_le_of_lt hle ha

/-- less is left when an item has been passed -/
theorem rest_length_lt {a : α} (ha : a ∈ rest key items after) (hle : key a ≤ after') :
    (rest key items after').length < (rest key items after).length := by
  obtain ⟨hitem, hlt⟩ := List.mem_filter.mp ha
  have hlt : after < key a := by simpa using hlt
  have hsub : (rest key items after').Sublist (rest key items after) :=
    List.monotone_filter_right items fun b hb => by
      simp only [decide_eq_true_eq] at hb ⊢
      exact lt_of_le_of_lt (hlt.le.trans hle) hb
  refine Nat.lt_of_le_of_ne hsub.length_le fun he => ?_
  have hmem : a ∈ rest key items after' := (hsub.eq_of_length he) ▸ ha
  have hlate : after' < key a := by simpa using (List.mem_filter.mp hmem).2
  exact absurd hle (not_le.mpr hlate)

theorem rest_sublist : (rest key items after).Sublist items := List.filter_sublist

end

/-! ## the merge -/

section
variable {ι K β γ : Type} [DecidableEq ι] [LinearOrder K] {source : β → ι} {key : β → K}

/-- the items of one source among those of all -/
theorem filter_flatMap_self {sources : List γ} {name : γ → ι} {items : γ → List β}
    (hitems : ∀ s, ∀ b ∈ items s, source b = name s) (hnames : (sources.map name).Nodup) {s : γ}
    (hs : s ∈ sources) : (sources.flatMap items).filter (source · = name s) = items s := by
  induction sources with
  | nil => cases hs
  | cons s₀ sources ih =>
    obtain ⟨hnew, hnames⟩ := List.nodup_cons.mp hnames
    rw [List.flatMap_cons, List.filter_append]
    rcases List.mem_cons.mp hs with rfl | hs
    · have hself : (items s).filter (source · = name s) = items s :=
        List.filter_eq_self.mpr fun b hb => by simpa using hitems s b hb
      have hothers : (sources.flatMap items).filter (source · = name s) = [] := by
        refine List.filter_eq_nil_iff.mpr fun b hb => ?_
        obtain ⟨s', hs', hb⟩ := List.mem_flatMap.mp hb
        have hne : name s' ≠ name s := fun h => hnew (h ▸ List.mem_map_of_mem hs')
        simpa [hitems s' b hb] using hne
      rw [hself, hothers, List.append_nil]
    · have hother : (items s₀).filter (source · = name s) = [] := by
        refine List.filter_eq_nil_iff.mpr fun b hb => ?_
        have hne : name s₀ ≠ name s := fun h => hnew (h ▸ List.mem_map_of_mem hs)
        simpa [hitems s₀ b hb] using hne
      rw [hother, List.nil_append, ih hnames hs]

/-- a list is made of the parts of its sources -/
theorem flatMap_filter_perm {names : List ι} (hnames : names.Nodup) :
    ∀ {l : List β}, (∀ b ∈ l, source b ∈ names) →
      (names.flatMap fun i => l.filter (source · = i)).Perm l := by
  induction names with
  | nil =>
    intro l hl
    cases l with
    | nil => exact .refl _
    | cons b l => exact absurd (hl b List.mem_cons_self) nofun
  | cons i names ih =>
    intro l hl
    obtain ⟨hnew, hnames⟩ := List.nodup_cons.mp hnames
    have hrest : ∀ b ∈ l.filter (fun b => !decide (source b = i)), source b ∈ names := by
      intro b hb
      obtain ⟨hb, hne⟩ := List.mem_filter.mp hb
      exact (List.mem_cons.mp (hl b hb)).resolve_left (by simpa using hne)
    have hparts : (names.flatMap fun j => l.filter (source · = j)) =
        names.flatMap fun j => (l.filter fun b => !decide (source b = i)).filter (source · = j) := by
      refine List.flatMap_congr fun j hj => ?_
      rw [List.filter_filter]
      refine List.filter_congr fun b _ => ?_
      have hne : j ≠ i := fun h => hnew (h ▸ hj)
      by_cases hb : source b = j <;> simp [hb, hne]
    rw [List.flatMap_cons, hparts]
    exact ((ih hnames hrest).append_left _).trans (List.filter_append_perm _ l)

/-- a merge holds the items of a source as the source has them, when their keys are all different -/
theorem filter_merge {merged items : List β} {i : ι}
    (hmerged : merged.Pairwise fun a b => key a ≤ key b)
    (hperm : (merged.filter (source · = i)).Perm items)
    (hitems : items.Pairwise fun a b => key a < key b) : merged.filter (source · = i) = items := by
  have hsorted : (merged.filter (source · = i)).Pairwise fun a b => key a ≤ key b :=
    hmerged.sublist List.filter_sublist
  have hkeys : (items.map key).Nodup := by
    rw [List.nodup_iff_pairwise_ne, List.pairwise_map]
    exact hitems.imp ne_of_lt
  refine hperm.eq_of_pairwise (fun a b ha hb hab hba => ?_) hsorted (hitems.imp le_of_lt)
  exact List.inj_on_of_nodup_map hkeys (hperm.subset ha) hb (le_antisymm hab hba)

/-- the items of a source in the front of a merge are the first ones of the source -/
theorem take_filter (merged : List β) (n : Nat) (p : β → Bool) :
    merged.filter p = (merged.take n).filter p ++ (merged.drop n).filter p := by
  rw [← List.filter_append, List.take_append_drop]

end
end Keyset
