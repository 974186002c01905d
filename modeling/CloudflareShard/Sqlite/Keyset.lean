import Mathlib.Data.List.Sort
import Mathlib.Order.Basic

/-!
# Keyset paging

A reader takes a sorted result page by page and goes on behind the last key it saw.

* `page`, `pages`        one page, all pages up to a short one;
* `Uncut`                no page ends between two items of one key;
* `pages_eq_iff`         **the pages hold every item exactly when none is cut**.
-/

namespace Keyset
variable {K α : Type} [LinearOrder K] (key : α → K) (items : List α) (limit : Nat)

/-- `WHERE key > after ORDER BY key LIMIT limit` over items in the order of their keys -/
def page (after : K) : List α := (items.filter fun a => after < key a).take limit

theorem mem_page {after : K} {a : α} (h : a ∈ page key items limit after) :
    a ∈ items ∧ after < key a := by
  obtain ⟨ha, hlt⟩ := List.mem_filter.mp (List.mem_of_mem_take h)
  exact ⟨ha, by simpa using hlt⟩

/-- fewer items are left behind a later key of the list -/
theorem rest_lt {after : K} {a : α} (ha : a ∈ items) (hlt : after < key a) :
    (items.filter fun b => key a < key b).length < (items.filter fun b => after < key b).length := by
  have hsub : (items.filter fun b => key a < key b).Sublist (items.filter fun b => after < key b) := by
    refine List.monotone_filter_right items fun b hb => ?_
    simp only [decide_eq_true_eq] at hb ⊢
    exact hlt.trans hb
  refine Nat.lt_of_le_of_ne hsub.length_le fun he => ?_
  have hmem : a ∈ items.filter fun b => key a < key b := by
    rw [hsub.eq_of_length he]
    exact List.mem_filter.mpr ⟨ha, by simpa using hlt⟩
  simpa using (List.mem_filter.mp hmem).2

/-- the pages behind `after`, the last one is short -/
def pages (after : K) : List (List α) :=
  match _h : (page key items limit after).getLast? with
  | none => []
  | some a =>
    page key items limit after ::
      if (page key items limit after).length < limit then [] else pages (key a)
  termination_by (items.filter fun a => after < key a).length
  decreasing_by
    obtain ⟨ha, hlt⟩ := mem_page key items limit (List.mem_of_getLast? _h)
    exact rest_lt key items ha hlt

/-- no multiple of the page size falls between two items of one key -/
def Uncut (l : List α) : Prop :=
  ∀ j a b, 0 < j → l[j * limit - 1]? = some a → l[j * limit]? = some b → key a ≠ key b

variable {key items limit}

theorem pages_one {after : K} (h : (items.filter fun a => after < key a).length < limit) :
    pages key items limit after = if (items.filter fun a => after < key a) = [] then []
      else [items.filter fun a => after < key a] := by
  have htake : page key items limit after = items.filter fun a => after < key a :=
    List.take_of_length_le (Nat.le_of_lt h)
  rw [pages]
  split
  · rename_i hnone
    rw [List.getLast?_eq_none_iff, htake] at hnone
    rw [if_pos hnone]
  · rename_i a hsome
    rw [htake] at hsome ⊢
    rw [if_pos h, if_neg (by rintro hnil; simp [hnil] at hsome)]

theorem pages_short {after : K} (h : (items.filter fun a => after < key a).length < limit) :
    (pages key items limit after).flatten = items.filter fun a => after < key a := by
  rw [pages_one h]
  split
  · rename_i hnil
    simp [hnil]
  · simp

/-- the last item of a full page, and what is read behind it -/
theorem pages_full {after : K} (hpos : 0 < limit)
    (h : limit ≤ (items.filter fun a => after < key a).length) :
    ∃ a, (items.filter fun a => after < key a)[limit - 1]? = some a ∧
      (pages key items limit after).flatten =
        (items.filter fun a => after < key a).take limit ++ (pages key items limit (key a)).flatten := by
  have hlen : (page key items limit after).length = limit := by
    simp only [page, List.length_take]
    omega
  have hlast : (page key items limit after).getLast? =
      (items.filter fun a => after < key a)[limit - 1]? := by
    rw [List.getLast?_eq_getElem?, hlen, page, List.getElem?_take_of_lt (by omega)]
  rw [pages]
  split
  · rename_i hnone
    rw [List.getLast?_eq_none_iff] at hnone
    simp [hnone] at hlen
    omega
  · rename_i a hsome
    rw [hlen, if_neg (Nat.lt_irrefl _), List.flatten_cons]
    exact ⟨a, hlast ▸ hsome, rfl⟩

omit [LinearOrder K] in
theorem uncut_short {l : List α} (h : l.length < limit) : Uncut key limit l := by
  intro j a b hj _ hb
  have hlt := (List.getElem?_eq_some_iff.mp hb).1
  have hle : limit ≤ j * limit := Nat.le_mul_of_pos_left _ hj
  omega

omit [LinearOrder K] in
/-- the boundary behind the first page and the later ones -/
theorem uncut_full {l : List α} {a : α} (hpos : 0 < limit) (ha : l[limit - 1]? = some a) :
    Uncut key limit l ↔ (∀ b, l[limit]? = some b → key a ≠ key b) ∧ Uncut key limit (l.drop limit) := by
  constructor
  · intro h
    refine ⟨fun b hb => h 1 a b Nat.one_pos (by simpa using ha) (by simpa using hb), ?_⟩
    intro j c b hj hc hb
    have hle : limit ≤ j * limit := Nat.le_mul_of_pos_left _ hj
    have hsucc : (j + 1) * limit = j * limit + limit := Nat.succ_mul j limit
    rw [List.getElem?_drop] at hc hb
    refine h (j + 1) c b (Nat.succ_pos j) ?_ ?_
    · rw [hsucc]
      convert hc using 2
      omega
    · rw [hsucc]
      convert hb using 2
      omega
  · rintro ⟨hfirst, hrest⟩ j c b hj hc hb
    obtain ⟨i, rfl⟩ := Nat.exists_eq_succ_of_ne_zero hj.ne'
    rw [Nat.succ_mul] at hc hb
    rcases Nat.eq_zero_or_pos i with rfl | hi
    · have hc : l[limit - 1]? = some c := by simpa using hc
      obtain rfl : a = c := Option.some.inj (ha.symm.trans hc)
      exact hfirst b (by simpa using hb)
    · have hle : limit ≤ i * limit := Nat.le_mul_of_pos_left _ hi
      refine hrest i c b hi ?_ ?_
      · rw [List.getElem?_drop]
        convert hc using 2
        omega
      · rw [List.getElem?_drop]
        convert hb using 2
        omega

variable (hsorted : items.Pairwise fun a b => key a ≤ key b)
include hsorted

/-- behind the last key of a page come the items that its page did not hold, less those it cut -/
theorem filter_behind {after : K} {a : α} {n : Nat}
    (ha : (items.filter fun b => after < key b)[n]? = some a) :
    (items.filter fun b => key a < key b) =
      ((items.filter fun b => after < key b).drop (n + 1)).filter fun b => key a < key b := by
  have hlt : after < key a := by
    simpa using (List.mem_filter.mp (List.mem_of_getElem? ha)).2
  have hfilter : (items.filter fun b => key a < key b) =
      (items.filter fun b => after < key b).filter fun b => key a < key b := by
    rw [List.filter_filter]
    refine List.filter_congr fun b _ => ?_
    by_cases hb : key a < key b
    · simp [hb, hlt.trans hb]
    · simp [hb]
  rw [hfilter]
  set l := items.filter fun b => after < key b with hl
  have hs : l.Pairwise fun a b => key a ≤ key b := hsorted.sublist List.filter_sublist
  conv_lhs => rw [← List.take_append_drop (n + 1) l]
  rw [List.filter_append]
  have hnone : (l.take (n + 1)).filter (fun b => key a < key b) = [] := by
    refine List.filter_eq_nil_iff.mpr fun b hb => ?_
    obtain ⟨i, hi, rfl⟩ := List.mem_iff_getElem.mp hb
    obtain ⟨hn, rfl⟩ := List.getElem?_eq_some_iff.mp ha
    rw [List.length_take] at hi
    rw [List.getElem_take]
    have hle : key l[i] ≤ key l[n] := by
      rcases Nat.lt_or_eq_of_le (show i ≤ n by omega) with h | h
      · exact List.pairwise_iff_getElem.mp hs i n (by omega) hn h
      · simp [h]
    simpa using hle
  rw [hnone, List.nil_append]

theorem pages_sublist (hpos : 0 < limit) (after : K) :
    ((pages key items limit after).flatten).Sublist (items.filter fun a => after < key a) := by
  induction hn : (items.filter fun a => after < key a).length using Nat.strong_induction_on
    generalizing after with
  | _ n ih =>
    rcases Nat.lt_or_ge n limit with hshort | hfull
    · rw [pages_short (hn ▸ hshort)]
    · obtain ⟨a, ha, he⟩ := pages_full hpos (hn ▸ hfull)
      obtain ⟨hmem, hlt⟩ := List.mem_filter.mp (List.mem_of_getElem? ha)
      have hrest := ih _ (hn ▸ rest_lt key items hmem (by simpa using hlt)) (key a) rfl
      rw [filter_behind hsorted ha, Nat.sub_add_cancel hpos] at hrest
      rw [he]
      conv_rhs => rw [← List.take_append_drop limit (items.filter fun a => after < key a)]
      exact (List.Sublist.refl _).append (hrest.trans List.filter_sublist)

/-- **the pages hold every item behind `after` exactly when no page cuts a key** -/
theorem pages_eq_iff (hpos : 0 < limit) (after : K) :
    (pages key items limit after).flatten = (items.filter fun a => after < key a) ↔
      Uncut key limit (items.filter fun a => after < key a) := by
  induction hn : (items.filter fun a => after < key a).length using Nat.strong_induction_on
    generalizing after with
  | _ n ih =>
    rcases Nat.lt_or_ge n limit with hshort | hfull
    · simp [pages_short (hn ▸ hshort), uncut_short (hn ▸ hshort)]
    · obtain ⟨a, ha, he⟩ := pages_full hpos (hn ▸ hfull)
      obtain ⟨hmem, hlt⟩ := List.mem_filter.mp (List.mem_of_getElem? ha)
      have ih := ih _ (hn ▸ rest_lt key items hmem (by simpa using hlt)) (key a) rfl
      have hsub := pages_sublist hsorted hpos (key a)
      have hbehind := filter_behind hsorted ha
      rw [Nat.sub_add_cancel hpos] at hbehind
      rw [uncut_full hpos ha, he]
      set l := items.filter fun a => after < key a with hl
      have hs : l.Pairwise fun a b => key a ≤ key b := hsorted.sublist List.filter_sublist
      have hcancel : l.take limit ++ (pages key items limit (key a)).flatten = l ↔
          (pages key items limit (key a)).flatten = l.drop limit := by
        constructor
        · intro h
          exact List.append_cancel_left (h.trans (List.take_append_drop limit l).symm)
        · intro h
          rw [h, List.take_append_drop]
      -- the first item behind the page decides whether the page cuts its last key
      have hbound : (∀ b, l[limit]? = some b → key a ≠ key b) ↔
          (l.drop limit).filter (fun b => key a < key b) = l.drop limit := by
        rw [List.filter_eq_self]
        constructor
        · intro h b hb
          obtain ⟨i, hi, rfl⟩ := List.mem_iff_getElem.mp hb
          rw [List.length_drop] at hi
          obtain ⟨hlim, rfl⟩ := List.getElem?_eq_some_iff.mp ha
          have hlt : limit < l.length := by omega
          have h₁ : key l[limit - 1] ≤ key l[limit] :=
            List.pairwise_iff_getElem.mp hs _ _ (by omega) hlt (by omega)
          have h₂ : key l[limit] ≤ key l[limit + i] := by
            rcases Nat.eq_zero_or_pos i with rfl | hi'
            · exact le_rfl
            · exact List.pairwise_iff_getElem.mp hs _ _ hlt (by omega) (by omega)
          have h₃ := h _ (List.getElem?_eq_getElem hlt)
          simpa using lt_of_lt_of_le (lt_of_le_of_ne h₁ h₃) h₂
        · intro h b hb he
          have hmem : b ∈ l.drop limit := by
            refine List.mem_of_getElem? (i := 0) ?_
            rw [List.getElem?_drop]
            exact hb
          have hlt := h b hmem
          simp [he] at hlt
      rw [hcancel, hbound]
      rw [hbehind] at ih hsub
      constructor
      · intro h
        have hfilter : (l.drop limit).filter (fun b => key a < key b) = l.drop limit := by
          refine List.filter_sublist.eq_of_length_le ?_
          rw [← congrArg List.length h]
          exact hsub.length_le
        rw [hfilter] at ih
        exact ⟨hfilter, ih.mp h⟩
      · rintro ⟨hfilter, hrest⟩
        rw [hfilter] at ih
        exact ih.mpr hrest

omit hsorted

/-- behind the last item of a page of a strictly sorted list come the items it did not hold -/
theorem page_append (hs : items.Pairwise fun a b => key a < key b) {after : K} {last : α}
    (hlast : (page key items limit after).getLast? = some last) :
    page key items limit after ++ items.filter (fun a => key last < key a) =
      items.filter fun a => after < key a := by
  have hafter := (mem_page _ _ _ (List.mem_of_getLast? hlast)).2
  have hbehind : items.filter (fun a => key last < key a) =
      (items.filter fun a => after < key a).filter fun a => key last < key a := by
    rw [List.filter_filter]
    refine List.filter_congr fun a _ => ?_
    by_cases hlt : key last < key a
    · simp [hlt, hafter.trans hlt]
    · simp [hlt]
  rw [hbehind]
  unfold page at hlast ⊢
  generalize hl : (items.filter fun a => after < key a) = l at hlast ⊢
  have hsl : l.Pairwise fun a b => key a < key b := hl ▸ hs.sublist List.filter_sublist
  obtain ⟨front, hfront⟩ := List.getLast?_eq_some_iff.mp hlast
  have hsplit := hsl
  rw [← List.take_append_drop limit l, hfront] at hsplit
  obtain ⟨htake, -, hcross⟩ := List.pairwise_append.mp hsplit
  have hin : (l.take limit).filter (fun a => key last < key a) = [] := by
    rw [List.filter_eq_nil_iff, hfront]
    intro a ha
    have hle : key a ≤ key last := by
      rcases List.mem_append.mp ha with ha | ha
      · exact ((List.pairwise_append.mp htake).2.2 a ha last (by simp)).le
      · obtain rfl : a = last := by simpa using ha
        exact le_rfl
    simpa using hle
  have hout : (l.drop limit).filter (fun a => key last < key a) = l.drop limit := by
    rw [List.filter_eq_self]
    intro a ha
    exact decide_eq_true (hcross last (by simp) a ha)
  calc l.take limit ++ l.filter (fun a => key last < key a)
      = l.take limit ++ (l.take limit ++ l.drop limit).filter (fun a => key last < key a) := by
        rw [List.take_append_drop]
    _ = l.take limit ++ l.drop limit := by rw [List.filter_append, hin, hout, List.nil_append]
    _ = l := List.take_append_drop limit l

end Keyset
