import CloudflareShard.DataPlane.Rows

/-!
# What an export returns

A reader pages through `/migrate-export` until a short page.  The pages are limited by joined rows and
continued behind a key, so a page that ends inside the rows of one key loses the rest of them.

* `Exported`                what the reader has when it stops;
* `Complete`, `Exportable`  every owned row once and whole, and what the shard must hold for that;
* `export_complete_iff`     **an export is complete exactly then**;
* `crowded_key_lost`        a key with more rows than a page.
-/

namespace DataPlane
open Json Json.Object Sqlite

variable {R : Rules} {D : Data} {t : Table} {table pk : String} {vbucket : Nat} {limit : Option Nat}
  {rows : List (RowOwner × Row)}

/-- a reader at the cursor `after` reads `rows`, up to and including the first short page -/
inductive Exported (R : Rules) (D : Data) (table pk : String) (vbucket : Nat) (limit : Option Nat) :
    String → List (RowOwner × Row) → Prop where
  | short {after page} (hpage : exportRaw R D table pk vbucket limit (some after) = page)
      (hlen : page.length < exportLimit limit) : Exported R D table pk vbucket limit after page
  | more {after page last rest} (hpage : exportRaw R D table pk vbucket limit (some after) = page)
      (hlen : ¬ page.length < exportLimit limit) (hlast : page.getLast? = some last)
      (hrest : Exported R D table pk vbucket limit (joinKey last) rest) :
      Exported R D table pk vbucket limit after (page ++ rest)

/-- every row that the vbucket owns under a key, once, and with all its columns -/
structure Complete (R : Rules) (D : Data) (table pk : String) (vbucket : Nat) (S : Schema)
    (rows : List (RowOwner × Row)) : Prop where
  all : rows.Perm (joined R D table pk vbucket)
  once : (rows.map fun p => p.2.id).Nodup
  whole : ∀ p ∈ rows, (exportedRow S p).row.entries = (rowObject S p.2 []).entries

/-- no page ends inside a key, no key is empty, no row is owned under two keys, and no column has the
name of one that the query adds -/
structure Exportable (R : Rules) (D : Data) (table pk : String) (vbucket : Nat) (limit : Option Nat)
    (S : Schema) : Prop where
  uncut : Keyset.Uncut joinKey (exportLimit limit) (joined R D table pk vbucket)
  named : ∀ p ∈ joined R D table pk vbucket, joinKey p ≠ ""
  single : ∀ p ∈ joined R D table pk vbucket, ∀ q ∈ joined R D table pk vbucket, p.2 = q.2 → p.1 = q.1
  plain : joined R D table pk vbucket = [] ∨
    ∀ c ∈ S.columns, c.name ≠ exportPk ∧ c.name ≠ exportTenant

/-! ## the join -/

theorem joined_eq (ht : D.table table = some t) : joined R D table pk vbucket =
    (ownersOf D table vbucket).flatMap fun o => (t.rows.filter (joins R t pk o)).map (o, ·) := by
  simp [joined, ht]

theorem mem_joined (ht : D.table table = some t) {p : RowOwner × Row} :
    p ∈ joined R D table pk vbucket ↔
      p.1 ∈ ownersOf D table vbucket ∧ p.2 ∈ t.rows ∧ joins R t pk p.1 p.2 = true := by
  obtain ⟨o, r⟩ := p
  simp [joined_eq ht]

theorem joined_sorted (R : Rules) (D : Data) (table pk : String) (vbucket : Nat) : (joined R D table pk vbucket).Pairwise fun a b => joinKey a ≤ joinKey b := by
  unfold joined
  split
  · rw [List.pairwise_flatMap]
    refine ⟨fun o _ => List.pairwise_map.mpr (List.pairwise_of_forall fun _ _ => le_rfl), ?_⟩
    refine ownersOf_sorted.imp fun h x hx y hy => ?_
    obtain ⟨r, -, rfl⟩ := List.mem_map.mp hx
    obtain ⟨r', -, rfl⟩ := List.mem_map.mp hy
    exact h
  · exact List.Pairwise.nil

theorem joined_nodup (ht : D.table table = some t) : (joined R D table pk vbucket).Nodup := by
  rw [joined_eq ht, List.nodup_flatMap]
  refine ⟨fun o _ => ?_, ?_⟩
  · exact (t.nodup.of_map.filter _).map fun r r' h => (Prod.mk.inj h).2
  · refine ownersOf_nodup.imp fun hne x hx hy => hne ?_
    obtain ⟨r, -, rfl⟩ := List.mem_map.mp hx
    obtain ⟨r', -, he⟩ := List.mem_map.mp hy
    exact (Prod.mk.inj he).1.symm

theorem exportLimit_pos (limit : Option Nat) : 0 < exportLimit limit := by
  unfold exportLimit migratePageSize
  omega

/-! ## the reader -/

theorem exportRaw_some (after : String) : exportRaw R D table pk vbucket limit (some after) =
    Keyset.page joinKey (joined R D table pk vbucket) (exportLimit limit) after := rfl

theorem exported_pages {after : String} (h : Exported R D table pk vbucket limit after rows) :
    rows = (Keyset.pages joinKey (joined R D table pk vbucket) (exportLimit limit) after).flatten := by
  induction h with
  | short hpage hlen =>
    subst hpage
    rw [exportRaw_some] at hlen ⊢
    rw [Keyset.pages]
    split
    · rename_i hnone
      simpa [List.getLast?_eq_none_iff] using hnone
    · rw [if_pos hlen]
      simp
  | more hpage hlen hlast _ ih =>
    subst hpage
    rw [exportRaw_some] at hlen hlast ⊢
    rw [Keyset.pages]
    split
    · rename_i hnone
      simp [hnone] at hlast
    · rename_i a hsome
      obtain rfl := Option.some.inj (hsome.symm.trans hlast)
      rw [if_neg hlen, List.flatten_cons, ← ih]

/-- a reader comes to an end -/
theorem exported_total (R : Rules) (D : Data) (table pk : String) (vbucket : Nat) (limit : Option Nat)
    (after : String) : ∃ rows, Exported R D table pk vbucket limit after rows := by
  induction hn : ((joined R D table pk vbucket).filter fun a => after < joinKey a).length using
    Nat.strong_induction_on generalizing after with
  | _ n ih =>
    by_cases hlen : (exportRaw R D table pk vbucket limit (some after)).length < exportLimit limit
    · exact ⟨_, .short rfl hlen⟩
    · have hne : exportRaw R D table pk vbucket limit (some after) ≠ [] := by
        intro h
        exact hlen (by simpa [h] using exportLimit_pos limit)
      obtain ⟨last, hlast⟩ := Option.isSome_iff_exists.mp (List.getLast?_isSome.mpr hne)
      obtain ⟨hmem, hlt⟩ := Keyset.mem_page joinKey _ _ (List.mem_of_getLast? hlast)
      obtain ⟨rest, hrest⟩ := ih _ (hn ▸ Keyset.rest_lt joinKey _ hmem hlt) (joinKey last) rfl
      exact ⟨_, .more rfl hlen hlast hrest⟩

/-! ## whole rows -/

theorem columns_keys {S : Schema} {r : Row} {k : String} :
    k ∈ (rowObject S r []).keys ↔ ∃ c ∈ S.columns, c.name = k := by
  rw [rowObject, mem_keys_ofList, List.append_nil]
  constructor
  · intro h
    obtain ⟨p, hp, rfl⟩ := List.mem_map.mp h
    obtain ⟨i, hi, rfl⟩ := List.mem_mapIdx.mp hp
    exact ⟨S.columns[i], List.getElem_mem hi, rfl⟩
  · rintro ⟨c, hc, rfl⟩
    obtain ⟨i, hi, rfl⟩ := List.mem_iff_getElem.mp hc
    exact List.mem_map.mpr ⟨_, List.mem_mapIdx.mpr ⟨i, hi, rfl⟩, rfl⟩

theorem rowObject_extra {S : Schema} {r : Row} {extra : List (String × Value)} :
    rowObject S r extra = extra.foldl (fun o p => o.set p.1 p.2) (rowObject S r []) := by
  simp [rowObject, ofList, List.foldl_append]

/-- the exported row is the base row when no column has the name of an added one -/
theorem exportedRow_whole {S : Schema} {p : RowOwner × Row} :
    (exportedRow S p).row.entries = (rowObject S p.2 []).entries ↔
      ∀ c ∈ S.columns, c.name ≠ exportPk ∧ c.name ≠ exportTenant := by
  constructor
  · intro h c hc
    have hmem : c.name ∈ (exportedRow S p).row.keys := by
      rw [keys, h]
      exact columns_keys.mpr ⟨c, hc, rfl⟩
    obtain ⟨q, hq, hname⟩ := List.mem_map.mp hmem
    obtain ⟨hq, htenant⟩ := List.mem_filter.mp hq
    obtain ⟨-, hpk⟩ := List.mem_filter.mp hq
    rw [← hname]
    simpa using And.intro hpk htenant
  · intro h
    have hpk : exportPk ∉ (rowObject S p.2 []).keys := by
      intro hk
      obtain ⟨c, hc, hname⟩ := columns_keys.mp hk
      exact (h c hc).1 hname
    have htenant : exportTenant ∉ (rowObject S p.2 []).keys := by
      intro hk
      obtain ⟨c, hc, hname⟩ := columns_keys.mp hk
      exact (h c hc).2 hname
    have hkeep : ∀ name, name ∉ (rowObject S p.2 []).keys →
        (rowObject S p.2 []).entries.filter (fun q => q.1 ≠ name) = (rowObject S p.2 []).entries := by
      intro name hname
      refine List.filter_eq_self.mpr fun q hq => ?_
      simpa using fun he : q.1 = name => hname (he ▸ List.mem_map_of_mem hq)
    rw [exportedRow, rowObject_extra]
    show ((setEntry exportTenant _ (setEntry exportPk _ (rowObject S p.2 []).entries)).filter _).filter _ = _
    rw [setEntry_of_not_mem hpk, setEntry_of_not_mem]
    · simp only [List.filter_append, List.filter_cons, List.filter_nil]
      rw [hkeep exportPk hpk, hkeep exportTenant htenant]
      simp [exportPk, exportTenant]
    · rw [List.map_append]
      intro hmem
      rcases List.mem_append.mp hmem with hold | hnew
      · exact htenant hold
      · simp [exportPk, exportTenant] at hnew

/-! ## complete exports -/

theorem pos_of_ne_empty {s : String} (h : s ≠ "") : "" < s := by
  rw [String.lt_iff_toList_lt]
  cases hs : s.toList with
  | nil => exact absurd (String.toList_inj.mp (hs.trans rfl)) h
  | cons c l => exact List.nil_lt_cons ..

theorem joined_ids (ht : D.table table = some t) :
    ((joined R D table pk vbucket).map fun p => p.2.id).Nodup ↔
      ∀ p ∈ joined R D table pk vbucket, ∀ q ∈ joined R D table pk vbucket, p.2 = q.2 → p.1 = q.1 := by
  rw [List.nodup_map_iff_inj_on (joined_nodup ht)]
  constructor
  · intro h p hp q hq he
    rw [h p hp q hq (congrArg Row.id he)]
  · intro h p hp q hq he
    have hrow := Table.eq_of_id ((mem_joined ht).mp hp).2.1 ((mem_joined ht).mp hq).2.1 he
    exact Prod.ext (h p hp q hq hrow) hrow

/-- **an export is complete exactly when the shard is exportable** -/
theorem export_complete_iff (R : Rules) (D : Data) {table pk : String} {vbucket : Nat}
    {limit : Option Nat} {t : Table} {rows : List (RowOwner × Row)} (ht : D.table table = some t)
    (h : Exported R D table pk vbucket limit "" rows) :
    Complete R D table pk vbucket t.schema rows ↔
      Exportable R D table pk vbucket limit t.schema := by
  have hrows := exported_pages h
  have hsub : rows.Sublist ((joined R D table pk vbucket).filter fun p => "" < joinKey p) :=
    hrows ▸ Keyset.pages_sublist (joined_sorted ..) (exportLimit_pos limit) ""
  have hiff := Keyset.pages_eq_iff (joined_sorted R D table pk vbucket) (exportLimit_pos limit) ""
  rw [← hrows] at hiff
  constructor
  · intro hc
    have heq : rows = joined R D table pk vbucket :=
      (hsub.trans List.filter_sublist).eq_of_length hc.all.length_eq
    have hfilter : (joined R D table pk vbucket).filter (fun p => "" < joinKey p) =
        joined R D table pk vbucket := by
      refine List.filter_sublist.eq_of_length_le ?_
      rw [← hc.all.length_eq]
      exact hsub.length_le
    rw [hfilter] at hiff
    refine ⟨hiff.mp heq, fun p hp hname => ?_, (joined_ids ht).mp (heq ▸ hc.once), ?_⟩
    · have hlt := List.filter_eq_self.mp hfilter p hp
      simp [hname] at hlt
    · rcases List.eq_nil_or_concat (joined R D table pk vbucket) with hnil | ⟨l, p, hl⟩
      · exact .inl hnil
      · refine .inr (exportedRow_whole.mp (hc.whole p ?_))
        rw [heq, hl]
        simp
  · intro hx
    have hfilter : (joined R D table pk vbucket).filter (fun p => "" < joinKey p) =
        joined R D table pk vbucket :=
      List.filter_eq_self.mpr fun p hp => by simpa using pos_of_ne_empty (hx.named p hp)
    rw [hfilter] at hiff
    have heq : rows = joined R D table pk vbucket := hiff.mpr hx.uncut
    refine ⟨heq ▸ List.Perm.refl _, heq ▸ (joined_ids ht).mpr hx.single, fun p hp => ?_⟩
    rcases hx.plain with hnil | hplain
    · rw [heq, hnil] at hp
      cases hp
    · exact exportedRow_whole.mpr hplain

/-! ## a crowded key -/

/-- a table of the single column `k`, with `n` rows of one key -/
def crowded (n : Nat) : Table where
  schema := { columns := [textColumn "k"], unique := [], admits := fun _ => true }
  rows := (List.range n).map fun i => ⟨i, [.text "a"]⟩
  nextId := n
  fresh := by simp
  nodup := by
    rw [List.map_map]
    convert List.nodup_range
    exact List.map_id _

def crowdedData (n : Nat) : Data where
  table := fun name => if name = "t" then some (crowded n) else none
  owners := [⟨"t", "a", "tenant", 7⟩]
  keyed := by simp

theorem crowded_joined (n : Nat) : joined textRules (crowdedData n) "t" "k" 7 =
    (crowded n).rows.map fun r => (⟨"t", "a", "tenant", 7⟩, r) := by
  have howners : ownersOf (crowdedData n) "t" 7 = [⟨"t", "a", "tenant", 7⟩] := rfl
  have hall : (crowded n).rows.filter (joins textRules (crowded n) "k" ⟨"t", "a", "tenant", 7⟩) =
      (crowded n).rows := by
    refine List.filter_eq_self.mpr fun r hr => ?_
    obtain ⟨i, -, rfl⟩ := List.mem_map.mp hr
    rfl
  rw [joined_eq (t := crowded n) rfl, howners]
  simp [hall]

theorem crowded_key_lost : ∃ rows, Exported textRules (crowdedData 501) "t" "k" 7 none "" rows ∧
    ¬ Complete textRules (crowdedData 501) "t" "k" 7 (crowded 501).schema rows := by
  obtain ⟨rows, h⟩ := exported_total textRules (crowdedData 501) "t" "k" 7 none ""
  refine ⟨rows, h, fun hc => ?_⟩
  have hpages := Keyset.pages_eq_iff (joined_sorted textRules (crowdedData 501) "t" "k" 7)
    (exportLimit_pos none) ""
  have hall : (joined textRules (crowdedData 501) "t" "k" 7).filter (fun p => "" < joinKey p) =
      joined textRules (crowdedData 501) "t" "k" 7 := by
    refine List.filter_eq_self.mpr fun p hp => ?_
    rw [crowded_joined] at hp
    obtain ⟨r, -, rfl⟩ := List.mem_map.mp hp
    show decide ("" < "a") = true
    decide +kernel
  rw [← exported_pages h, hall] at hpages
  have hsub : rows.Sublist (joined textRules (crowdedData 501) "t" "k" 7) := by
    rw [exported_pages h]
    exact (Keyset.pages_sublist (joined_sorted ..) (exportLimit_pos none) "").trans List.filter_sublist
  have huncut := hpages.mp (hsub.eq_of_length hc.all.length_eq)
  rw [crowded_joined] at huncut
  exact huncut 1 (⟨"t", "a", "tenant", 7⟩, ⟨499, [.text "a"]⟩) (⟨"t", "a", "tenant", 7⟩, ⟨500, [.text "a"]⟩)
    Nat.one_pos (by decide +kernel) (by decide +kernel) rfl

/-- two rows of one key fit on one page -/
theorem uncrowded_key_complete : ∃ rows, Exported textRules (crowdedData 2) "t" "k" 7 none "" rows ∧
    (Complete textRules (crowdedData 2) "t" "k" 7 (crowded 2).schema rows ↔
      Exportable textRules (crowdedData 2) "t" "k" 7 none (crowded 2).schema) := by
  obtain ⟨rows, h⟩ := exported_total textRules (crowdedData 2) "t" "k" 7 none ""
  exact ⟨rows, h, export_complete_iff textRules (crowdedData 2) rfl h⟩

end DataPlane
