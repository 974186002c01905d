import CloudflareShard.Json.Flat
import CloudflareShard.DataPlane.Checksum
import CloudflareShard.DataPlane.Export

/-!
# What equal digests say

A cutover deletes the source's rows once both shards return the same digest.  The digest tells the pages
that were read, with each key, each column name and the JSON text of each value, and nothing else.

* `shownRow`, `shownPages`   what of a row and of a shard goes into the digest;
* `KeyShown`                 the key column is among the shown ones;
* `Alike`, `SameRows`        the shards show the same, hold the same;
* `checksum_eq_iff`          equal digests mean that the shards are alike;
* `checksum_sound_iff`       **they mean equal rows exactly when alike shards hold the same**;
* `blobs_confused`           two BLOBs under one key.
-/

namespace DataPlane
open Json Json.Object Sqlite

/-! ## texts -/

def shownRow (P : Platform) (row : Object Value) : List Member :=
  (canonicalRow row).map fun p => (p.1, (jsonText P p.2).toList)

theorem memberChars_intercalate (m : Member) : ∀ l : List Member,
    (",".toList.intercalate ((m :: l).map fun m => (quote m.1).toList ++ ':' :: m.2)) ++ ['}'] =
      (quote m.1).toList ++ ':' :: (m.2 ++ memberChars l)
  | [] => by simp [memberChars]
  | m' :: l => by
    have ih := memberChars_intercalate m' l
    rw [List.map_cons, List.map_cons, List.intercalate_cons_cons, List.append_assoc,
      List.append_assoc]
    rw [← List.map_cons (f := fun m : Member => (quote m.1).toList ++ ':' :: m.2), ih]
    simp [memberChars]

theorem canonicalRowJson_toList (P : Platform) (row : Object Value) :
    (canonicalRowJson P row).toList = objectChars (shownRow P row) := by
  have hmembers : (canonicalRow row).map (String.toList ∘ memberText P) =
      (shownRow P row).map fun m => (quote m.1).toList ++ ':' :: m.2 := by
    simp [shownRow, memberText, Function.comp_def]
  have htext : (canonicalRowJson P row).toList =
      '{' :: (",".toList.intercalate ((canonicalRow row).map (String.toList ∘ memberText P)) ++ ['}']) := by
    simp [canonicalRowJson, String.toList_intercalate]
  rw [htext, hmembers]
  cases shownRow P row with
  | nil => rfl
  | cons m l => rw [memberChars_intercalate]; rfl

/-- a number is written in digits, signs and letters -/
def Platform.Plain (P : Platform) : Prop := ∀ q, Word (P.numberText q).toList

/-- no collision among some texts, and digests of one length -/
structure Platform.CollisionFree (P : Platform) (texts : List String) : Prop where
  length : ∀ s, (P.sha256Hex s).length = 64
  inj : ∀ s ∈ texts, ∀ s' ∈ texts, P.sha256Hex s = P.sha256Hex s' → s = s'

variable {P : Platform} {R : Rules} {D D' : Data} {S S' : Schema} {table pk : String} {vbucket : Nat}

theorem word_null : Word "null".toList := ⟨by simp, by simp⟩

theorem jsonText_token (hP : P.Plain) (v : Value) : Token (jsonText P v).toList := by
  have hdouble : ∀ x, Token (doubleJson P x).toList := by
    intro x
    cases x with
    | finite q => exact .word (hP q)
    | infinite _ => exact .word word_null
  cases v with
  | null => exact .word word_null
  | integer n => exact hdouble _
  | real x => exact hdouble x
  | text s => exact .string s
  | blob _ =>
    show Token "{}".toList
    rw [show "{}".toList = ['{', '}'] by decide]
    exact .empty

theorem shownRow_tokens (hP : P.Plain) (row : Object Value) : Tokens (shownRow P row) := by
  intro m hm
  obtain ⟨p, -, rfl⟩ := List.mem_map.mp hm
  exact jsonText_token hP p.2

/-! ## pages -/

/-- what a page shows of a row: its key and its members -/
def shownKeyed (P : Platform) (S : Schema) (p : RowOwner × Row) : String × List Member :=
  (p.1.partitionKey, shownRow P (checkedRow S p))

/-- what the checksum reads of the vbucket, page by page; nothing when the table is not there -/
def shownPages (P : Platform) (R : Rules) (D : Data) (table pk : String) (vbucket : Nat) :
    List (List (String × List Member)) :=
  match D.table table with
  | some t => (checkedPages R D table pk vbucket).map fun page => page.map (shownKeyed P t.schema)
  | none => []

/-- keys and objects, one after the other -/
def shownText (page : List (String × List Member)) : List Char :=
  keyedChars (page.map fun p => (p.1.toList, p.2))

theorem pageText_toList (P : Platform) (S : Schema) (page : List (RowOwner × Row)) :
    (pageText P S page).toList = shownText (page.map (shownKeyed P S)) := by
  induction page with
  | nil => rfl
  | cons p page ih =>
    have hrow : (rowText P S p).toList =
        p.1.partitionKey.toList ++ objectChars (shownRow P (checkedRow S p)) := by
      rw [rowText, String.toList_append, canonicalRowJson_toList]
    have hcons : (pageText P S (p :: page)).toList = (rowText P S p).toList ++ (pageText P S page).toList := by
      simp [pageText]
    rw [hcons, hrow, ih]
    simp [shownText, shownKeyed, keyedChars]

/-- the texts that are hashed before their digests are -/
def pageTexts (P : Platform) (R : Rules) (D : Data) (table pk : String) (vbucket : Nat) : List String :=
  (shownPages P R D table pk vbucket).map fun page => String.ofList (shownText page)

def joinedDigests (P : Platform) (texts : List String) : String := String.join (texts.map P.sha256Hex)

theorem checksum_eq (P : Platform) (R : Rules) (D : Data) (table pk : String) (vbucket : Nat) :
    (vbucketTableChecksum P R D vbucket table pk).checksum =
      P.sha256Hex (joinedDigests P (pageTexts P R D table pk vbucket)) := by
  cases ht : D.table table with
  | none =>
    simp [vbucketTableChecksum, pageTexts, shownPages, joinedDigests, ht]
  | some t =>
    have hpage : ∀ page, P.sha256Hex (pageText P t.schema page) =
        P.sha256Hex (String.ofList (shownText (page.map (shownKeyed P t.schema)))) := by
      intro page
      rw [← pageText_toList, String.ofList_toList]
    simp [vbucketTableChecksum, pageTexts, shownPages, joinedDigests, ht, Function.comp_def, hpage]

/-- digests of one length are read off their concatenation -/
theorem joinedDigests_inj (hlen : ∀ s, (P.sha256Hex s).length = 64) : ∀ {l l' : List String},
    joinedDigests P l = joinedDigests P l' → l.map P.sha256Hex = l'.map P.sha256Hex
  | [], [], _ => rfl
  | [], s :: l', h => by
    have hlength := congrArg String.length h
    simp only [joinedDigests, List.map_nil, List.map_cons, String.join_nil, String.join_cons,
      String.length_append, hlen, String.length_empty] at hlength
    omega
  | s :: l, [], h => by
    have hlength := congrArg String.length h
    simp only [joinedDigests, List.map_nil, List.map_cons, String.join_nil, String.join_cons,
      String.length_append, hlen, String.length_empty] at hlength
    omega
  | s :: l, s' :: l', h => by
    have h : P.sha256Hex s ++ joinedDigests P l = P.sha256Hex s' ++ joinedDigests P l' := by
      simpa [joinedDigests] using h
    have hchars := congrArg String.toList h
    rw [String.toList_append, String.toList_append] at hchars
    obtain ⟨hhead, htail⟩ := List.append_inj hchars (by rw [String.length_toList, String.length_toList, hlen, hlen])
    rw [List.map_cons, List.map_cons, String.toList_inj.mp hhead,
      joinedDigests_inj hlen (String.toList_inj.mp htail)]

/-! ## keys that rows show -/

theorem mem_canonicalRow {row : Object Value} {p : String × Value} :
    p ∈ canonicalRow row ↔ p ∈ row.entries ∧ p.1 ≠ "__proto__" := by
  have hperm : ∀ entries : List (String × Value), p ∈ enumerated entries ↔ p ∈ entries := by
    intro entries
    cases h : arrayIndex p.1 <;> simp [enumerated, List.mem_insertionSort, h]
  rw [canonicalRow, hperm]
  simp

/-- the key column is written, under a name that no other column has -/
def KeyShown (S : Schema) (pk : String) : Prop := ∀ i c, S.resolve pk = some i →
  S.columns[i]? = some c → c.name ≠ exportPk ∧ c.name ≠ "__proto__" ∧
    ∀ j c', S.columns[j]? = some c' → sameName c'.name pk = true → j = i

theorem resolve_sameName {i : Nat} {c : Column} (h : S.resolve pk = some i)
    (hc : S.columns[i]? = some c) : sameName c.name pk = true := by
  obtain ⟨hlt, hname, -⟩ := List.findIdx?_eq_some_iff_getElem.mp h
  obtain ⟨-, rfl⟩ := List.getElem?_eq_some_iff.mp hc
  exact hname

/-- the columns that the checksum writes -/
theorem mem_checkedRow {p : RowOwner × Row} {q : String × Value} (h : q ∈ canonicalRow (checkedRow S p)) :
    ∃ j c, S.columns[j]? = some c ∧ q = (c.name, p.2.cell j) := by
  obtain ⟨hq, hpk⟩ := List.mem_filter.mp (mem_canonicalRow.mp h).1
  rcases List.mem_append.mp (mem_ofList hq) with hq | hq
  · obtain ⟨j, hj, rfl⟩ := List.mem_mapIdx.mp hq
    exact ⟨j, S.columns[j], List.getElem?_eq_getElem hj, rfl⟩
  · rw [List.mem_singleton] at hq
    simp [hq] at hpk

theorem mem_checkedRow_name {p : RowOwner × Row} {i : Nat} {c : Column} (hc : S.columns[i]? = some c)
    (hpk : c.name ≠ exportPk) (hproto : c.name ≠ "__proto__") :
    ∃ v, (c.name, v) ∈ canonicalRow (checkedRow S p) := by
  have hmem : c.name ∈ (rowObject S p.2 [(exportPk, .text p.1.partitionKey)]).keys := by
    rw [rowObject, mem_keys_ofList, List.map_append]
    obtain ⟨hi, rfl⟩ := List.getElem?_eq_some_iff.mp hc
    exact List.mem_append_left _ (List.mem_map.mpr ⟨_, List.mem_mapIdx.mpr ⟨i, hi, rfl⟩, rfl⟩)
  obtain ⟨q, hq, hname⟩ := List.mem_map.mp hmem
  refine ⟨q.2, mem_canonicalRow.mpr ⟨List.mem_filter.mpr ⟨?_, by simpa using hpk⟩, hproto⟩⟩
  rw [← hname]
  exact hq

/-- **a row shows the value that its key was found by**, and no other value under such a name -/
theorem key_shown {t : Table} {p : RowOwner × Row} (hshown : KeyShown t.schema pk)
    (hjoin : joins R t pk p.1 p.2 = true) : ∃ (c : Column) (v : Value), c.matches R v (.text p.1.partitionKey) = true ∧
      sameName c.name pk = true ∧ (c.name, v) ∈ canonicalRow (checkedRow t.schema p) ∧
      ∀ q ∈ canonicalRow (checkedRow t.schema p), sameName q.1 pk = true → q = (c.name, v) := by
  unfold joins at hjoin
  split at hjoin
  · rename_i i hi
    cases hc : t.schema.columns[i]? with
    | none => simp [hc] at hjoin
    | some c =>
      obtain ⟨hpk, hproto, hsingle⟩ := hshown i c hi hc
      have honly : ∀ q ∈ canonicalRow (checkedRow t.schema p), sameName q.1 pk = true →
          q = (c.name, p.2.cell i) := by
        intro q hq hname
        obtain ⟨j, c', hc', rfl⟩ := mem_checkedRow hq
        obtain rfl := hsingle j c' hc' hname
        obtain rfl := Option.some.inj (hc.symm.trans hc')
        rfl
      have hname := resolve_sameName hi hc
      obtain ⟨v, hv⟩ := mem_checkedRow_name (p := p) hc hpk hproto
      have hcell := honly _ hv hname
      rw [hcell] at hv
      exact ⟨c, p.2.cell i, by simpa [hc] using hjoin, hname, hv, honly⟩
  · cases hjoin

/-! ## keys of equal objects -/

def lower (c : Char) : Char := if 'A' ≤ c ∧ c ≤ 'Z' then Char.ofNat (c.toNat + 32) else c

def trimEnd (cs : List Char) : List Char := (cs.reverse.dropWhile (· = ' ')).reverse

/-- no collation tells more of a text -/
def plainest (cs : List Char) : List Char := (trimEnd cs).map lower

theorem lower_space (c : Char) : lower c = ' ' ↔ c = ' ' := by
  unfold lower
  split
  · rename_i h
    have hrange : 65 ≤ c.toNat ∧ c.toNat ≤ 90 := ⟨h.1, h.2⟩
    have hsmall : ∀ n, 65 ≤ n → n ≤ 90 → Char.ofNat (n + 32) ≠ ' ' ∧ Char.ofNat n ≠ ' ' := by
      intro n h₁ h₂
      have hall : ∀ i : Fin 26, Char.ofNat (65 + i + 32) ≠ ' ' ∧ Char.ofNat (65 + i) ≠ ' ' := by decide
      simpa [Nat.add_sub_cancel' h₁] using hall ⟨n - 65, by omega⟩
    obtain ⟨h₁, h₂⟩ := hsmall _ hrange.1 hrange.2
    rw [Char.ofNat_toNat] at h₂
    exact iff_of_false h₁ h₂
  · rfl

theorem trimEnd_map_lower (cs : List Char) : trimEnd (cs.map lower) = (trimEnd cs).map lower := by
  have hspace : ((fun c => decide (c = ' ')) ∘ lower) = fun c => decide (c = ' ') := by
    funext c
    simp [lower_space]
  simp [trimEnd, ← List.map_reverse, List.dropWhile_map, hspace]

theorem foldCase_toList (s : String) : (foldCase s).toList = s.toList.map lower := by
  simp [foldCase, lower]

theorem plainest_of_key {c : Collation} {s s' : String} (h : c.key s = c.key s') :
    plainest s.toList = plainest s'.toList := by
  cases c with
  | binary => rw [show s = s' from h]
  | nocase =>
    have hlower := congrArg (trimEnd ∘ String.toList) h
    simpa [Collation.key, foldCase_toList, trimEnd_map_lower, plainest] using hlower
  | rtrim =>
    have htrim := congrArg String.toList h
    simp only [Collation.key, String.toList_ofList] at htrim
    rw [plainest, plainest, trimEnd, trimEnd, htrim]

theorem trimEnd_append (X k : List Char) : trimEnd (X ++ '}' :: k) = X ++ '}' :: trimEnd k := by
  unfold trimEnd
  rw [List.reverse_append, List.reverse_cons, List.append_assoc, List.dropWhile_append]
  split
  · rename_i h
    rw [List.isEmpty_iff.mp h]
    simp
  · simp

theorem closed_append {X Z : List Char} (h : Closed (X ++ Z)) : Z = [] ∨ ∃ W, Z = W ++ ['}'] := by
  rcases List.eq_nil_or_concat Z with hnil | ⟨W, c, rfl⟩
  · exact .inl hnil
  · refine .inr ⟨W, ?_⟩
    rcases h with h | ⟨V, h⟩
    · simp at h
    · rw [List.concat_eq_append, ← List.append_assoc] at h
      have hlast : c = '}' := by simpa using (List.append_inj' h rfl).2
      rw [List.concat_eq_append, hlast]

theorem apart_of_plainest {k k' : List Char} (h : plainest k = plainest k') : Apart k k' := by
  have hlonger : ∀ {Z k k' : List Char}, plainest k = plainest k' → k' = Z ++ k →
      (Z = [] ∨ ∃ W, Z = W ++ ['}']) → Z = [] := by
    intro Z k k' h hk hZ
    rcases hZ with hnil | ⟨W, rfl⟩
    · exact hnil
    · have hlen := congrArg List.length h
      rw [hk, List.append_assoc, List.singleton_append, plainest, plainest, trimEnd_append] at hlen
      simp at hlen
      omega
  intro X Y hX hY he
  rcases List.append_eq_append_iff.mp he with ⟨Z, rfl, hZ⟩ | ⟨Z, rfl, hZ⟩
  · obtain rfl := hlonger h.symm hZ (closed_append hY)
    exact ⟨(List.append_nil X).symm, hZ⟩
  · obtain rfl := hlonger h hZ (closed_append hX)
    exact ⟨List.append_nil Y, hZ.symm⟩

/-- no literal of a number has a brace -/
def NumberPlain (R : Rules) : Prop := ∀ s n, R.number s = some n → '}' ∉ s.toList

/-- a key meets a text that it is equal to, or a number that it spells -/
theorem matches_key (hR : NumberPlain R) {c : Column} {v : Value} {k : String}
    (h : c.matches R v (.text k) = true) :
    (∃ s, v = .text s ∧ plainest s.toList = plainest k.toList) ∨
      ((∃ n, v = .integer n) ∨ ∃ x, v = .real x) ∧ '}' ∉ k.toList := by
  have hcompared : c.affinity.compared.apply R (.text k) = .text k ∨
      '}' ∉ k.toList ∧ ((∃ n, c.affinity.compared.apply R (.text k) = .integer n) ∨
        ∃ x, c.affinity.compared.apply R (.text k) = .real x) := by
    have hnumeric : toNumeric R (.text k) = .text k ∨ '}' ∉ k.toList ∧
        ((∃ n, toNumeric R (.text k) = .integer n) ∨ ∃ x, toNumeric R (.text k) = .real x) := by
      cases hn : R.number k with
      | none => exact .inl (by simp [toNumeric, hn])
      | some n =>
        refine .inr ⟨hR k n hn, ?_⟩
        rw [show toNumeric R (.text k) = n.shorten by simp [toNumeric, hn]]
        cases n with
        | integer n => exact .inl ⟨n, rfl⟩
        | real x =>
          cases hx : x.toInt? with
          | some n => exact .inl ⟨n, by simp [Numeric.shorten, hx]⟩
          | none => exact .inr ⟨x, by simp [Numeric.shorten, hx]⟩
    cases c.affinity with
    | text => exact .inl rfl
    | blob => exact .inl rfl
    | _ => exact hnumeric
  unfold Column.matches at h
  rcases hcompared with htext | ⟨hplain, hnumber⟩
  · rw [htext] at h
    cases v with
    | text s =>
      simp only [same, decide_eq_true_eq] at h
      exact .inl ⟨s, rfl, plainest_of_key h⟩
    | _ => simp [same] at h
  · refine .inr ⟨?_, hplain⟩
    cases v with
    | integer n => exact .inl ⟨n, rfl⟩
    | real x => exact .inr ⟨x, rfl⟩
    | _ => rcases hnumber with ⟨n, hn⟩ | ⟨x, hx⟩ <;> simp_all [same]

theorem jsonText_number (hP : P.Plain) {v : Value} (h : (∃ n, v = .integer n) ∨ ∃ x, v = .real x) :
    Word (jsonText P v).toList := by
  have hdouble : ∀ x, Word (doubleJson P x).toList := by
    intro x
    cases x with
    | finite q => exact hP q
    | infinite _ => exact word_null
  rcases h with ⟨n, rfl⟩ | ⟨x, rfl⟩
  · exact hdouble _
  · exact hdouble _

theorem quote_ne_word {s : String} {j : List Char} (hj : Word j) : (quote s).toList ≠ j := by
  intro h
  obtain ⟨c, t, rfl, hquote, -⟩ := hj.cons
  rw [quote_toList] at h
  exact hquote (List.cons.inj h).1.symm

/-- keys that meet values of equal JSON text are told apart -/
theorem apart_of_json (hP : P.Plain) (hR : NumberPlain R) {c c' : Column} {v v' : Value} {k k' : String}
    (h : c.matches R v (.text k) = true) (h' : c'.matches R v' (.text k') = true)
    (hjson : (jsonText P v).toList = (jsonText P v').toList) : Apart k.toList k'.toList := by
  rcases matches_key hR h with ⟨s, rfl, hs⟩ | ⟨hv, hk⟩ <;>
    rcases matches_key hR h' with ⟨s', rfl, hs'⟩ | ⟨hv', hk'⟩
  · have hquote : (quote s).toList ++ [] = (quote s').toList ++ [] := by simpa [jsonText] using hjson
    obtain ⟨rfl, -⟩ := quote_inj hquote
    exact apart_of_plainest (hs.symm.trans hs')
  · exact absurd hjson (quote_ne_word (jsonText_number hP hv'))
  · exact absurd hjson.symm (quote_ne_word (jsonText_number hP hv))
  · exact apart_of_plain hk hk'

/-! ## equal digests -/

theorem checkedPages_joined {page : List (RowOwner × Row)} {p : RowOwner × Row}
    (hpage : page ∈ checkedPages R D table pk vbucket) (hp : p ∈ page) :
    p ∈ joined R D table pk vbucket := by
  have hsub := Keyset.pages_sublist (joined_sorted R D table pk vbucket)
    (show 0 < migratePageSize by decide) ""
  exact List.mem_of_mem_filter (hsub.subset (List.mem_flatten_of_mem hpage hp))

/-- what is shown comes from a row that its key was found for -/
theorem mem_shownPages {page : List (String × List Member)} {a : String × List Member}
    (hpage : page ∈ shownPages P R D table pk vbucket) (ha : a ∈ page) :
    ∃ t p, D.table table = some t ∧ joins R t pk p.1 p.2 = true ∧ a = shownKeyed P t.schema p := by
  unfold shownPages at hpage
  split at hpage
  · rename_i t ht
    obtain ⟨page, hmem, rfl⟩ := List.mem_map.mp hpage
    obtain ⟨p, hp, rfl⟩ := List.mem_map.mp ha
    exact ⟨t, p, ht, ((mem_joined ht).mp (checkedPages_joined hmem hp)).2.2, rfl⟩
  · cases hpage

/-- where there is a table, it shows its key -/
def ShowsKeys (D : Data) (table pk : String) : Prop :=
  ∀ t, D.table table = some t → KeyShown t.schema pk

theorem map_inj_on {α β : Type} {f : α → β} : ∀ {l l' : List α},
    (∀ a ∈ l, ∀ a' ∈ l', f a = f a' → a = a') → l.map f = l'.map f → l = l'
  | [], [], _, _ => rfl
  | [], _ :: _, _, h => by cases h
  | _ :: _, [], _, h => by cases h
  | a :: l, a' :: l', hinj, h => by
    obtain ⟨hhead, htail⟩ := List.cons.inj h
    rw [hinj a (List.mem_cons_self ..) a' (List.mem_cons_self ..) hhead,
      map_inj_on (fun b hb b' hb' => hinj b (List.mem_cons_of_mem _ hb) b' (List.mem_cons_of_mem _ hb'))
        htail]

/-- the text of a page tells what the page shows -/
theorem shownText_inj (hP : P.Plain) (hR : NumberPlain R) (hD : ShowsKeys D table pk)
    (hD' : ShowsKeys D' table pk) {page page' : List (String × List Member)}
    (hpage : page ∈ shownPages P R D table pk vbucket) (hpage' : page' ∈ shownPages P R D' table pk vbucket)
    (h : shownText page = shownText page') : page = page' := by
  have hrows : page.map (fun p => (p.1.toList, p.2)) = page'.map fun p => (p.1.toList, p.2) := by
    refine keyed_inj _ rfl ?_ ?_ ?_ h
    · intro q hq
      obtain ⟨a, ha, rfl⟩ := List.mem_map.mp hq
      obtain ⟨t, p, -, -, rfl⟩ := mem_shownPages hpage ha
      exact shownRow_tokens hP _
    · intro q hq
      obtain ⟨a, ha, rfl⟩ := List.mem_map.mp hq
      obtain ⟨t, p, -, -, rfl⟩ := mem_shownPages hpage' ha
      exact shownRow_tokens hP _
    · intro q hq q' hq' hmembers
      obtain ⟨a, ha, rfl⟩ := List.mem_map.mp hq
      obtain ⟨a', ha', rfl⟩ := List.mem_map.mp hq'
      obtain ⟨t, p, ht, hjoin, rfl⟩ := mem_shownPages hpage ha
      obtain ⟨t', p', ht', hjoin', rfl⟩ := mem_shownPages hpage' ha'
      obtain ⟨c, v, hmatch, hname, hmem, -⟩ := key_shown (hD t ht) hjoin
      obtain ⟨c', v', hmatch', -, -, honly⟩ := key_shown (hD' t' ht') hjoin'
      have hmembers : shownRow P (checkedRow t.schema p) = shownRow P (checkedRow t'.schema p') :=
        hmembers
      have hshown : (c.name, (jsonText P v).toList) ∈ shownRow P (checkedRow t'.schema p') :=
        hmembers ▸ List.mem_map_of_mem hmem
      obtain ⟨r, hr, he⟩ := List.mem_map.mp hshown
      obtain ⟨hrname, hrjson⟩ := Prod.mk.inj he
      obtain rfl := honly r hr (hrname ▸ hname)
      exact apart_of_json hP hR hmatch hmatch' hrjson.symm
  refine map_inj_on (fun a _ a' _ he => ?_) hrows
  obtain ⟨hkey, hmembers⟩ := Prod.mk.inj he
  exact Prod.ext (String.toList_inj.mp hkey) hmembers

/-- page by page the shards show the same keys, the same column names and the same texts of values;
where a key column is not shown, what they show reads the same when it is written without a break -/
def Alike (P : Platform) (R : Rules) (D D' : Data) (table pk : String) (vbucket : Nat) : Prop :=
  (ShowsKeys D table pk ∧ ShowsKeys D' table pk →
    shownPages P R D table pk vbucket = shownPages P R D' table pk vbucket) ∧
  (¬ (ShowsKeys D table pk ∧ ShowsKeys D' table pk) →
    (shownPages P R D table pk vbucket).map shownText =
      (shownPages P R D' table pk vbucket).map shownText)

/-- the (partition_key, row) pairs of the vbucket -/
def heldRows (R : Rules) (D : Data) (table pk : String) (vbucket : Nat) :
    Set (String × (String → Option Value)) :=
  {a | ∃ t, D.table table = some t ∧ ∃ p ∈ joined R D table pk vbucket,
    a = (p.1.partitionKey, (rowObject t.schema p.2 []).get?)}

/-- both shards hold the same set of (partition_key, row) pairs -/
def SameRows (R : Rules) (D D' : Data) (table pk : String) (vbucket : Nat) : Prop :=
  heldRows R D table pk vbucket = heldRows R D' table pk vbucket

/-- the texts that are hashed on the two shards -/
def hashedTexts (P : Platform) (R : Rules) (D D' : Data) (table pk : String) (vbucket : Nat) :
    List String :=
  pageTexts P R D table pk vbucket ++ pageTexts P R D' table pk vbucket ++
    [joinedDigests P (pageTexts P R D table pk vbucket),
      joinedDigests P (pageTexts P R D' table pk vbucket)]

theorem pageTexts_eq_iff : pageTexts P R D table pk vbucket = pageTexts P R D' table pk vbucket ↔
    (shownPages P R D table pk vbucket).map shownText =
      (shownPages P R D' table pk vbucket).map shownText := by
  have hmap : ∀ D, pageTexts P R D table pk vbucket =
      ((shownPages P R D table pk vbucket).map shownText).map String.ofList := by
    intro D
    rw [pageTexts, List.map_map]
    rfl
  rw [hmap, hmap]
  exact ⟨fun h => map_inj_on (fun a _ a' _ he => by simpa using congrArg String.toList he) h, fun h => by rw [h]⟩

/-- **equal digests mean that the shards are alike** -/
theorem checksum_eq_iff (hP : P.Plain) (hR : NumberPlain R)
    (hfree : P.CollisionFree (hashedTexts P R D D' table pk vbucket)) :
    (vbucketTableChecksum P R D vbucket table pk).checksum =
      (vbucketTableChecksum P R D' vbucket table pk).checksum ↔ Alike P R D D' table pk vbucket := by
  have htexts : (vbucketTableChecksum P R D vbucket table pk).checksum =
      (vbucketTableChecksum P R D' vbucket table pk).checksum ↔
        pageTexts P R D table pk vbucket = pageTexts P R D' table pk vbucket := by
    rw [checksum_eq, checksum_eq]
    constructor
    · intro h
      have hjoined := hfree.inj _ (by simp [hashedTexts]) _ (by simp [hashedTexts]) h
      refine map_inj_on (fun s hs s' hs' he => hfree.inj s ?_ s' ?_ he) (joinedDigests_inj hfree.length hjoined)
      · simp [hashedTexts, hs]
      · simp [hashedTexts, hs']
    · intro h
      rw [h]
  rw [htexts, pageTexts_eq_iff]
  by_cases hshown : ShowsKeys D table pk ∧ ShowsKeys D' table pk
  · constructor
    · intro h
      refine ⟨fun _ => map_inj_on (fun page hpage page' hpage' he => ?_) h, fun hn => absurd hshown hn⟩
      exact shownText_inj hP hR hshown.1 hshown.2 hpage hpage' he
    · intro h
      rw [h.1 hshown]
  · exact ⟨fun h => ⟨fun hs => absurd hs hshown, fun _ => h⟩, fun h => h.2 hshown⟩

/-! ## one row -/

/-- SHA-256 of the texts of the rows below -/
def rowDigests : List (String × String) :=
  [("a\x7b\"k\":\"a\"\x7d", "404029689ab621d920078440f126b1bef2c881571382a32aa9ac3ed11d948179"),
    ("404029689ab621d920078440f126b1bef2c881571382a32aa9ac3ed11d948179",
      "c1d0e770ad442920fa1c36f4604d45fd1a3d4858d50b538a3a075f5c8f21b092"),
    ("b\x7b\"k\":\"b\"\x7d", "c88f8d8b8769246993e4e80acabb05ae533714aa5cf890883d5e922105008eb7"),
    ("c88f8d8b8769246993e4e80acabb05ae533714aa5cf890883d5e922105008eb7",
      "32760c5a1e912ee8f95aee7de42cf0dd149b4ad95c5306defd5ad7d6509ca17f"),
    ("a\x7b\"k\":\"a\",\"v\":\x7b\x7d\x7d",
      "9d0ca8e67caab53a59bea788987e43a24f0f870e33110d39cdca87a87fb3d2a4"),
    ("9d0ca8e67caab53a59bea788987e43a24f0f870e33110d39cdca87a87fb3d2a4",
      "557a91124650330c5c9a2739612c6734d6384dc729a53e462fb6b095b2f8a5cc")]

/-- the rows have no numbers -/
def rowPlatform : Platform where
  sha256Hex s := (rowDigests.lookup s).getD
    "0000000000000000000000000000000000000000000000000000000000000000"
  numberText _ := "0"

def oneRowTable (columns : List Column) (cells : List Value) : Table where
  schema := { columns, unique := [], admits := fun _ => true }
  rows := [⟨0, cells⟩]
  nextId := 1
  fresh := by simp
  nodup := by simp

def oneRowOwner (key : String) : RowOwner := ⟨"t", key, "tenant", 7⟩

/-- one row of vbucket 7 under the key `key` -/
def oneRow (columns : List Column) (key : String) (cells : List Value) : Data where
  table name := if name = "t" then some (oneRowTable columns cells) else none
  owners := [oneRowOwner key]
  keyed := by simp

theorem oneRow_pages {columns : List Column} {key : String} {cells : List Value}
    (hkey : "" < key) (hjoin : joined textRules (oneRow columns key cells) "t" "k" 7 =
      [(oneRowOwner key, ⟨0, cells⟩)]) :
    checkedPages textRules (oneRow columns key cells) "t" "k" 7 =
      [[(oneRowOwner key, ⟨0, cells⟩)]] := by
  have hall : (joined textRules (oneRow columns key cells) "t" "k" 7).filter
      (fun p => "" < joinKey p) = [(oneRowOwner key, ⟨0, cells⟩)] := by
    rw [hjoin]
    exact List.filter_eq_self.mpr fun p hp => by
      rw [List.mem_singleton.mp hp]
      exact decide_eq_true hkey
  rw [checkedPages, Keyset.pages_one (by rw [hall]; exact (by decide : 1 < migratePageSize)), hall]
  rfl

theorem textRules_plain : NumberPlain textRules := fun _ _ h => by cases h

theorem rowPlatform_plain : rowPlatform.Plain := fun _ =>
  (⟨by simp, by simp⟩ : Word "0".toList)

theorem rowPlatform_length (s : String) : (rowPlatform.sha256Hex s).length = 64 := by
  have hall : ∀ p ∈ rowDigests, p.2.length = 64 := by decide +kernel
  show ((rowDigests.lookup s).getD _).length = 64
  cases h : rowDigests.lookup s with
  | none => rfl
  | some d =>
    obtain ⟨l, l', hl, -⟩ := List.lookup_eq_some_iff.mp h
    exact hall (s, d) (by simp [hl])

/-- one row with its key as its only text -/
def textRow (key : String) : Data := oneRow [textColumn "k"] key [.text key]

theorem textRow_shown {key : String} (hkey : "" < key)
    (hjoin : joined textRules (textRow key) "t" "k" 7 = [(oneRowOwner key, ⟨0, [.text key]⟩)]) :
    shownPages rowPlatform textRules (textRow key) "t" "k" 7 =
      [[shownKeyed rowPlatform (oneRowTable [textColumn "k"] [.text key]).schema
        (oneRowOwner key, ⟨0, [.text key]⟩)]] := by
  show (checkedPages textRules (textRow key) "t" "k" 7).map _ = _
  rw [textRow, oneRow_pages hkey hjoin]
  rfl

/-- a row with a BLOB beside its key -/
def blobRow (bytes : List UInt8) : Data :=
  oneRow [textColumn "k", { textColumn "v" with affinity := .blob }] "a" [.text "a", .blob bytes]

theorem blobRow_joined (bytes : List UInt8) : joined textRules (blobRow bytes) "t" "k" 7 =
    [(oneRowOwner "a", ⟨0, [.text "a", .blob bytes]⟩)] := rfl

end DataPlane
