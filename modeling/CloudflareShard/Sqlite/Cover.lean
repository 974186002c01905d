import Mathlib.Data.Set.Basic
import Mathlib.Order.WithBot
import CloudflareShard.Sqlite.Keyset

/-!
# What a reader has covered

A reader goes through a set in the order of its keys, page by page, while elements are still made
ready behind its cursor.

* `Covers E lo l hi`        `l` is what `E` has behind `lo` up to `hi`, in order, and all of it ready;
* `Grows E E'`              elements that are not ready change, and new ones take their place;
* `Covers.append`, `Covers.grows`, `Covers.page`, `Covers.unique`   the rules.
-/

namespace Keyset
variable {K α : Type} (key : α → K) (ready : α → Prop)

/-- what is ready stays, and what is new takes the place of something that was not ready -/
structure Grows (E E' : Set α) : Prop where
  keep : ∀ a ∈ E, ready a → a ∈ E'
  old : ∀ a ∈ E', a ∈ E ∨ ∃ b ∈ E, key b = key a ∧ ¬ ready b

section
variable {key ready} {E E' E'' : Set α}

theorem Grows.refl : Grows key ready E E := ⟨fun _ h _ => h, fun _ h => .inl h⟩

theorem Grows.of_eq (h : E = E') : Grows key ready E E' := h ▸ .refl

theorem Grows.trans (h : Grows key ready E E') (h' : Grows key ready E' E'') :
    Grows key ready E E'' := by
  refine ⟨fun a ha hr => h'.keep a (h.keep a ha hr) hr, fun a ha => ?_⟩
  rcases h'.old a ha with ha | ⟨b, hb, hkey, hr⟩
  · exact h.old a ha
  · rcases h.old b hb with hb | ⟨c, hc, hkey', hr'⟩
    · exact .inr ⟨b, hb, hkey, hr⟩
    · exact .inr ⟨c, hc, hkey'.trans hkey, hr'⟩

end

variable [LinearOrder K]

structure Covers (E : Set α) (lo : WithBot K) (l : List α) (hi : WithBot K) : Prop where
  sorted : l.Pairwise fun a b => key a < key b
  mem : ∀ a, a ∈ l ↔ a ∈ E ∧ lo < key a ∧ (key a : WithBot K) ≤ hi
  ready : ∀ a ∈ l, ready a

variable {key ready} {E E' : Set α} {lo mid hi : WithBot K} {l l' : List α}

namespace Covers

theorem nil : Covers key ready E lo [] lo where
  sorted := .nil
  mem a := by
    constructor
    · exact fun h => nomatch h
    · rintro ⟨-, h, h'⟩
      exact absurd (lt_of_lt_of_le h h') (lt_irrefl _)
  ready := nofun

theorem append (h : Covers key ready E lo l mid) (h' : Covers key ready E mid l' hi)
    (hlo : lo ≤ mid) (hhi : mid ≤ hi) : Covers key ready E lo (l ++ l') hi where
  sorted := by
    refine List.pairwise_append.mpr ⟨h.sorted, h'.sorted, fun a ha b hb => ?_⟩
    have hle := ((h.mem a).mp ha).2.2
    have hlt := ((h'.mem b).mp hb).2.1
    exact WithBot.coe_lt_coe.mp (lt_of_le_of_lt hle hlt)
  mem a := by
    rw [List.mem_append, h.mem, h'.mem]
    constructor
    · rintro (⟨ha, h₁, h₂⟩ | ⟨ha, h₁, h₂⟩)
      · exact ⟨ha, h₁, h₂.trans hhi⟩
      · exact ⟨ha, lt_of_le_of_lt hlo h₁, h₂⟩
    · rintro ⟨ha, h₁, h₂⟩
      rcases le_or_gt (key a : WithBot K) mid with hm | hm
      · exact .inl ⟨ha, h₁, hm⟩
      · exact .inr ⟨ha, hm, h₂⟩
  ready a ha := by
    rcases List.mem_append.mp ha with ha | ha
    · exact h.ready a ha
    · exact h'.ready a ha

theorem grows (h : Covers key ready E lo l hi) (hg : Grows key ready E E') :
    Covers key ready E' lo l hi where
  sorted := h.sorted
  mem a := by
    constructor
    · intro ha
      obtain ⟨hE, hb⟩ := (h.mem a).mp ha
      exact ⟨hg.keep a hE (h.ready a ha), hb⟩
    · rintro ⟨ha, hb⟩
      rcases hg.old a ha with ha | ⟨b, hE, hkey, hr⟩
      · exact (h.mem a).mpr ⟨ha, hb⟩
      · have hb' : b ∈ l := (h.mem b).mpr ⟨hE, hkey ▸ hb⟩
        exact absurd (h.ready b hb') hr
  ready := h.ready

/-- the store and the bounds determine what is covered -/
theorem unique (h : Covers key ready E lo l hi) (h' : Covers key ready E lo l' hi) : l = l' := by
  have hirrefl : Std.Irrefl fun a b : α => key a < key b := ⟨fun a => lt_irrefl _⟩
  have hasymm : Std.Antisymm fun a b : α => key a < key b :=
    ⟨fun a b h h' => absurd (h.trans h') (lt_irrefl _)⟩
  exact h.sorted.eq_of_mem_iff h'.sorted fun a => by rw [h.mem, h'.mem]

theorem length_le {items : List α} (hE : ∀ a ∈ E, a ∈ items) (h : Covers key ready E lo l hi) :
    l.length ≤ items.length := by
  have hnodup : l.Nodup := h.sorted.imp fun {a b} hlt => by
    rintro rfl
    exact lt_irrefl _ hlt
  exact (List.subperm_of_subset hnodup fun a ha => hE a ((h.mem a).mp ha).1).length_le

end Covers

/-- the bound that a page reaches -/
def reached (after : WithBot K) (rows : List α) (key : α → K) : WithBot K :=
  match rows.getLast? with
  | some last => key last
  | none => after

theorem reached_ge {after : WithBot K} {rows : List α} (h : ∀ a ∈ rows, after < key a) :
    after ≤ reached after rows key := by
  unfold reached
  cases hlast : rows.getLast? with
  | none => exact le_rfl
  | some last => exact le_of_lt (h last (List.mem_of_getLast? hlast))

/-- **a page of a sorted list covers it up to where the page ends** -/
theorem Covers.page {items : List α} (hs : items.Pairwise fun a b => key a < key b) (limit : Nat)
    (after : WithBot K)
    (hr : ∀ a ∈ Keyset.page (fun a => (key a : WithBot K)) items limit after, ready a) :
    Covers key ready {a | a ∈ items} after
      (Keyset.page (fun a => (key a : WithBot K)) items limit after)
      (reached after (Keyset.page (fun a => (key a : WithBot K)) items limit after) key) := by
  set behind := items.filter fun a => after < (key a : WithBot K) with hbehind
  have hsb : behind.Pairwise fun a b => key a < key b := hs.sublist List.filter_sublist
  have hpage : Keyset.page (fun a => (key a : WithBot K)) items limit after = behind.take limit :=
    rfl
  rw [hpage] at hr ⊢
  have hsplit := hsb
  rw [← List.take_append_drop limit behind, List.pairwise_append] at hsplit
  obtain ⟨hst, -, hcross⟩ := hsplit
  refine ⟨hst, fun a => ?_, hr⟩
  have hmem : a ∈ behind ↔ a ∈ items ∧ after < (key a : WithBot K) := by
    simp [hbehind]
  constructor
  · intro ha
    obtain ⟨hi, hlt⟩ := hmem.mp (List.mem_of_mem_take ha)
    refine ⟨hi, hlt, ?_⟩
    unfold reached
    cases hlast : (behind.take limit).getLast? with
    | none => simp [List.getLast?_eq_none_iff.mp hlast] at ha
    | some last =>
      obtain ⟨init, hinit⟩ := List.getLast?_eq_some_iff.mp hlast
      rw [hinit] at ha hst
      rcases List.mem_append.mp ha with ha | ha
      · have := (List.pairwise_append.mp hst).2.2 a ha last (by simp)
        exact WithBot.coe_le_coe.mpr this.le
      · obtain rfl : a = last := by simpa using ha
        exact le_rfl
  · rintro ⟨hi, hlt, hle⟩
    have ha : a ∈ behind := hmem.mpr ⟨hi, hlt⟩
    rw [← List.take_append_drop limit behind] at ha
    rcases List.mem_append.mp ha with ha | ha
    · exact ha
    · -- what the page does not hold lies behind its last element
      unfold reached at hle
      cases hlast : (behind.take limit).getLast? with
      | none =>
        rw [hlast] at hle
        exact absurd (lt_of_lt_of_le hlt hle) (lt_irrefl _)
      | some last =>
        rw [hlast] at hle
        have := hcross last (List.mem_of_getLast? hlast) a ha
        exact absurd (lt_of_lt_of_le this (WithBot.coe_le_coe.mp hle)) (lt_irrefl _)

/-- a page where all of a sorted list lies behind its bound -/
theorem Covers.take {items : List α} (hs : items.Pairwise fun a b => key a < key b) (limit : Nat)
    {after : WithBot K} (hb : ∀ a ∈ items, after < key a) (hr : ∀ a ∈ items, ready a) :
    Covers key ready {a | a ∈ items} after (items.take limit)
      (reached after (items.take limit) key) := by
  have hpage : Keyset.page (fun a => (key a : WithBot K)) items limit after = items.take limit := by
    unfold Keyset.page
    rw [List.filter_eq_self.mpr fun a ha => decide_eq_true (hb a ha)]
  have hcov : Covers key ready {a | a ∈ items} after _ _ := Covers.page hs limit after fun a ha =>
    hr a (List.mem_of_mem_take (hpage ▸ ha))
  rwa [hpage] at hcov

theorem page_map {β : Type} (f : β → α) (items : List β) (limit : Nat) (after : WithBot K) :
    Keyset.page (fun a => (key a : WithBot K)) (items.map f) limit after =
      (Keyset.page (fun b => (key (f b) : WithBot K)) items limit after).map f := by
  simp only [Keyset.page, List.filter_map, List.map_take]
  rfl

omit [LinearOrder K] in
theorem reached_map {β : Type} (f : β → α) (rows : List β) (after : WithBot K) :
    reached after (rows.map f) key = reached after rows fun b => key (f b) := by
  unfold reached
  rw [List.getLast?_map]
  cases rows.getLast? <;> rfl

end Keyset
