import CloudflareShard.Json.Parse

/-!
# The canonical text of a value

* `Same`              two values that differ only in the order of keys;
* `Proper`            values without -0 whose objects have no key twice;
* `sorted`            the value with its keys sorted, all the way down;
* `parse_canonical`   **the canonical text is read back as the sorted value**;
* `canonical_iff`     **two values have one canonical text iff they are the same up to key order**.
-/

namespace Json

/-! ## values up to the order of keys -/

mutual

inductive Same : JsonValue → JsonValue → Prop where
  | null : Same .null .null
  | bool (b : Bool) : Same (.bool b) (.bool b)
  | num (n : Number) : Same (.num n) (.num n)
  | str (s : JsString) : Same (.str s) (.str s)
  | arr {vs ws : List JsonValue} (h : SameAll vs ws) : Same (.arr vs) (.arr ws)
  | obj {es es' fs fs' : List (JsString × JsonValue)} (he : es.Perm es') (hf : fs.Perm fs')
    (hs : SameEntries es' fs') : Same (.obj es) (.obj fs)

inductive SameAll : List JsonValue → List JsonValue → Prop where
  | nil : SameAll [] []
  | cons {v w : JsonValue} {vs ws : List JsonValue} (h : Same v w) (hs : SameAll vs ws) :
    SameAll (v :: vs) (w :: ws)

inductive SameEntries : List (JsString × JsonValue) → List (JsString × JsonValue) → Prop where
  | nil : SameEntries [] []
  | cons (name : JsString) {v w : JsonValue} {es fs : List (JsString × JsonValue)} (h : Same v w)
    (hs : SameEntries es fs) : SameEntries ((name, v) :: es) ((name, w) :: fs)

end

inductive Proper : JsonValue → Prop where
  | null : Proper .null
  | bool (b : Bool) : Proper (.bool b)
  | num {n : Number} (h : n ≠ .negativeZero) : Proper (.num n)
  | str (s : JsString) : Proper (.str s)
  | arr {vs : List JsonValue} (h : ∀ v ∈ vs, Proper v) : Proper (.arr vs)
  | obj {es : List (JsString × JsonValue)} (hkeys : (es.map Prod.fst).Nodup)
    (h : ∀ e ∈ es, Proper e.2) : Proper (.obj es)

/-- the keys in the order of `Object.keys(record).sort()` -/
def sortByKey {α : Type} (es : List (JsString × α)) : List (JsString × α) :=
  es.insertionSort fun a b => !codeUnitLt b.1 a.1

mutual

def sorted : JsonValue → JsonValue
  | .null => .null
  | .bool b => .bool b
  | .num n => .num n
  | .str s => .str s
  | .arr vs => .arr (sortedAll vs)
  | .obj es => .obj (sortByKey (sortedEntries es))

def sortedAll : List JsonValue → List JsonValue
  | [] => []
  | v :: rest => sorted v :: sortedAll rest

def sortedEntries : List (JsString × JsonValue) → List (JsString × JsonValue)
  | [] => []
  | (name, v) :: rest => (name, sorted v) :: sortedEntries rest

end

theorem sortedAll_eq (vs : List JsonValue) : sortedAll vs = vs.map sorted := by
  induction vs with
  | nil => rfl
  | cons v vs ih => rw [sortedAll, ih, List.map_cons]

theorem sortedEntries_eq (es : List (JsString × JsonValue)) :
    sortedEntries es = es.map fun e => (e.1, sorted e.2) := by
  induction es with
  | nil => rfl
  | cons e es ih => rw [sortedEntries, ih, List.map_cons]

theorem sortByKey_map {α β : Type} (f : α → β) (es : List (JsString × α)) :
    sortByKey (es.map fun e => (e.1, f e.2)) = (sortByKey es).map fun e => (e.1, f e.2) := by
  unfold sortByKey
  exact (List.map_insertionSort _ _ (fun e : JsString × α => (e.1, f e.2)) es
    fun a _ b _ => Iff.rfl).symm

theorem sortByKey_perm {α : Type} (es : List (JsString × α)) : (sortByKey es).Perm es :=
  List.perm_insertionSort _ es

/-- an induction on values -/
theorem JsonValue.ind {P : JsonValue → Prop} (hnull : P .null) (hbool : ∀ b, P (.bool b))
    (hnum : ∀ n, P (.num n)) (hstr : ∀ s, P (.str s))
    (harr : ∀ vs : List JsonValue, (∀ v ∈ vs, P v) → P (.arr vs))
    (hobj : ∀ es : List (JsString × JsonValue), (∀ e ∈ es, P e.2) → P (.obj es)) :
    ∀ v, P v
  | .null => hnull
  | .bool b => hbool b
  | .num n => hnum n
  | .str s => hstr s
  | .arr vs => harr vs fun v _ => JsonValue.ind hnull hbool hnum hstr harr hobj v
  | .obj es => hobj es fun e _ => JsonValue.ind hnull hbool hnum hstr harr hobj e.2
termination_by v => sizeOf v
decreasing_by
  · have hlt := List.sizeOf_lt_of_mem ‹v ∈ vs›
    simp only [JsonValue.arr.sizeOf_spec]
    omega
  · have hlt := List.sizeOf_lt_of_mem ‹e ∈ es›
    have he : sizeOf e.2 < sizeOf e := by
      cases e
      simp only [Prod.mk.sizeOf_spec]
      omega
    simp only [JsonValue.obj.sizeOf_spec]
    omega

/-! ## reading what was written -/

/-- no number goes on into `rest` -/
def Ends (rest : JsString) : Prop := ∀ c ∈ rest.head?, isNumberUnit c = false

theorem Ends.cons {c : CodeUnit} (h : isNumberUnit c = false) (t : JsString) : Ends (c :: t) := by
  intro d hd
  cases Option.some.inj hd
  exact h

/-- parts with commas between them, and the closing bracket -/
def tailText (closing : CodeUnit) (parts : List JsString) : JsString :=
  List.intercalate [44] parts ++ [closing]

theorem tailText_one (closing : CodeUnit) (p : JsString) : tailText closing [p] = p ++ [closing] := by
  rw [tailText, List.intercalate_singleton]

theorem tailText_more (closing : CodeUnit) (p q : JsString) (l : List JsString) :
    tailText closing (p :: q :: l) = p ++ 44 :: tailText closing (q :: l) := by
  rw [tailText, List.intercalate_cons_cons, List.append_assoc, List.append_assoc]
  rfl

/-- **`v` is read from its text as `w`**, whatever follows -/
def ReadAs (v w : JsonValue) : Prop :=
  ∀ rest fuel, Ends rest → 3 * (canonicalJson v).length ≤ fuel →
    readValue fuel (canonicalJson v ++ rest) = some (w, rest)

theorem canonical_head (v : JsonValue) : ∃ c t, canonicalJson v = c :: t ∧
    isBlank c = false ∧ c ≠ 93 := by
  cases v with
  | null => exact ⟨110, [117, 108, 108], by decide +kernel, by decide, by decide⟩
  | bool b =>
    cases b with
    | false => exact ⟨102, [97, 108, 115, 101], by decide +kernel, by decide, by decide⟩
    | true => exact ⟨116, [114, 117, 101], by decide +kernel, by decide, by decide⟩
  | num n =>
    obtain ⟨_, c, t, htext, hstart⟩ := n.text_units
    refine ⟨c, t, htext, ?_, ?_⟩
    · simp only [startsNumber, isDigit, Bool.or_eq_true, beq_iff_eq, Bool.and_eq_true,
        decide_eq_true_eq] at hstart
      grind [isBlank]
    · intro h
      rw [h] at hstart
      exact absurd hstart (by decide)
  | str s => exact ⟨34, _, rfl, by decide, by decide⟩
  | arr vs => exact ⟨91, _, canonicalJson_arr vs, by decide, by decide⟩
  | obj es => exact ⟨123, _, canonicalJson_obj es, by decide, by decide⟩

theorem skipBlank_cons {c : CodeUnit} (h : isBlank c = false) (t : JsString) :
    skipBlank (c :: t) = c :: t := by
  rw [skipBlank, List.dropWhile_cons_of_neg (by simp [h])]

/-- the first unit decides what is read -/
theorem readValue_literal {c : CodeUnit} {t s rest : JsString} {w : JsonValue} {fuel : Nat}
    (ht : s = c :: t) (hblank : isBlank c = false) (hfuel : 0 < fuel) (h34 : c ≠ 34) (h91 : c ≠ 91)
    (h123 : c ≠ 123) (hstart : startsNumber c = false)
    (hread : readLiteral (s ++ rest) = some (w, rest)) : readValue fuel (s ++ rest) = some (w, rest) := by
  obtain ⟨n, rfl⟩ : ∃ n, fuel = n + 1 := ⟨fuel - 1, by omega⟩
  subst ht
  rw [List.cons_append] at hread ⊢
  rw [readValue, skipBlank_cons hblank]
  simp only [if_neg h34, if_neg h91, if_neg h123, hstart, Bool.false_eq_true, if_false, hread]

theorem readAs_null : ReadAs .null .null := by
  intro rest fuel _ hfuel
  have htext : canonicalJson .null = [110, 117, 108, 108] := by decide +kernel
  rw [htext] at hfuel ⊢
  refine readValue_literal rfl (by decide) (by simp at hfuel; omega) (by decide) (by decide)
    (by decide) (by decide) ?_
  have hnull : utf16 "null" = [110, 117, 108, 108] := by decide +kernel
  rw [readLiteral, hnull, if_pos (by simp)]
  rfl

theorem readAs_bool (b : Bool) : ReadAs (.bool b) (.bool b) := by
  have hnull : utf16 "null" = [110, 117, 108, 108] := by decide +kernel
  have htrue : utf16 "true" = [116, 114, 117, 101] := by decide +kernel
  have hfalse : utf16 "false" = [102, 97, 108, 115, 101] := by decide +kernel
  intro rest fuel _ hfuel
  cases b with
  | true =>
    have htext : canonicalJson (.bool true) = [116, 114, 117, 101] := by decide +kernel
    rw [htext] at hfuel ⊢
    refine readValue_literal rfl (by decide) (by simp at hfuel; omega) (by decide) (by decide)
      (by decide) (by decide) ?_
    rw [readLiteral, hnull, htrue, if_neg (by simp), if_pos (by simp)]
    rfl
  | false =>
    have htext : canonicalJson (.bool false) = [102, 97, 108, 115, 101] := by decide +kernel
    rw [htext] at hfuel ⊢
    refine readValue_literal rfl (by decide) (by simp at hfuel; omega) (by decide) (by decide)
      (by decide) (by decide) ?_
    rw [readLiteral, hnull, htrue, hfalse, if_neg (by simp), if_neg (by simp), if_pos (by simp)]
    rfl

theorem readAs_num {n : Number} (h : n ≠ .negativeZero) : ReadAs (.num n) (.num n) := by
  intro rest fuel hends hfuel
  obtain ⟨hunits, c, t, htext, hstart⟩ := n.text_units
  have hblank : isBlank c = false ∧ c ≠ 34 ∧ c ≠ 91 ∧ c ≠ 123 := by
    simp only [startsNumber, isDigit, Bool.or_eq_true, beq_iff_eq, Bool.and_eq_true,
      decide_eq_true_eq] at hstart
    grind [isBlank]
  obtain ⟨hblank, h34, h91, h123⟩ := hblank
  have hcanon : canonicalJson (.num n) = n.text := rfl
  obtain ⟨m, rfl⟩ : ∃ m, fuel = m + 1 := ⟨fuel - 1, by
    rw [hcanon, htext, List.length_cons] at hfuel
    omega⟩
  have htake : (n.text ++ rest).takeWhile isNumberUnit = n.text := by
    rw [List.takeWhile_append_of_pos hunits]
    cases rest with
    | nil => simp
    | cons d rest => rw [List.takeWhile_cons_of_neg (by simp [hends d rfl]), List.append_nil]
  have hdrop : (n.text ++ rest).dropWhile isNumberUnit = rest := by
    rw [List.dropWhile_append_of_pos hunits]
    cases rest with
    | nil => rfl
    | cons d rest => rw [List.dropWhile_cons_of_neg (by simp [hends d rfl])]
  rw [hcanon]
  rw [htext, List.cons_append] at htake hdrop ⊢
  rw [readValue, skipBlank_cons hblank]
  simp only [if_neg h34, if_neg h91, if_neg h123, hstart, if_true, htake, hdrop]
  rw [← htext, numberOfText_text h]
  rfl

theorem readAs_str (s : JsString) : ReadAs (.str s) (.str s) := by
  intro rest fuel _ hfuel
  obtain ⟨m, rfl⟩ : ∃ m, fuel = m + 1 := ⟨fuel - 1, by
    simp only [canonicalJson, quote16, List.length_cons] at hfuel
    omega⟩
  have htext : canonicalJson (.str s) ++ rest = 34 :: (escapeUnits s ++ 34 :: rest) := by
    simp only [canonicalJson, quote16, List.cons_append, List.append_assoc, List.nil_append]
  rw [htext, readValue, skipBlank_cons (by decide)]
  simp only [if_true, readString_escapeUnits]
  rfl

/-! ## arrays and objects -/

/-- the values of a written array are read one by one -/
theorem readElements_text (rest : JsString) : ∀ (vs : List JsonValue), vs ≠ [] →
    (∀ v ∈ vs, ReadAs v (sorted v)) → ∀ fuel,
      3 * (tailText 93 (vs.map canonicalJson)).length + 1 ≤ fuel →
      readElements fuel (tailText 93 (vs.map canonicalJson) ++ rest)
        = some (vs.map sorted, rest)
  | [], hne, _, _, _ => absurd rfl hne
  | [v], _, hread, fuel, hfuel => by
    obtain ⟨n, rfl⟩ : ∃ n, fuel = n + 1 := ⟨fuel - 1, by omega⟩
    rw [List.map_singleton, tailText_one] at hfuel ⊢
    rw [List.length_append] at hfuel
    have hv := hread v List.mem_cons_self (93 :: rest) n (Ends.cons (by decide) _) (by omega)
    rw [List.append_assoc, List.singleton_append, readElements, hv]
    simp only [skipBlank_cons (show isBlank 93 = false by decide)]
    rfl
  | v :: w :: vs, _, hread, fuel, hfuel => by
    obtain ⟨n, rfl⟩ : ∃ n, fuel = n + 1 := ⟨fuel - 1, by omega⟩
    rw [List.map_cons, List.map_cons, tailText_more] at hfuel ⊢
    rw [List.length_append, List.length_cons] at hfuel
    have hv := hread v List.mem_cons_self
      (44 :: (tailText 93 (canonicalJson w :: vs.map canonicalJson) ++ rest)) n
      (Ends.cons (by decide) _) (by omega)
    have hvs := readElements_text rest (w :: vs) (by simp)
      (fun u hu => hread u (List.mem_cons_of_mem _ hu)) n (by rw [List.map_cons]; omega)
    rw [List.map_cons] at hvs
    rw [List.append_assoc, List.cons_append, readElements, hv]
    simp only [skipBlank_cons (show isBlank 44 = false by decide), hvs]
    rfl

theorem readAs_arr {vs : List JsonValue} (hread : ∀ v ∈ vs, ReadAs v (sorted v)) :
    ReadAs (.arr vs) (sorted (.arr vs)) := by
  intro rest fuel _ hfuel
  have htext : canonicalJson (.arr vs) = 91 :: tailText 93 (vs.map canonicalJson) :=
    canonicalJson_arr vs
  rw [htext] at hfuel ⊢
  obtain ⟨n, rfl⟩ : ∃ n, fuel = n + 1 := ⟨fuel - 1, by rw [List.length_cons] at hfuel; omega⟩
  rw [List.cons_append, readValue, skipBlank_cons (by decide), sorted, sortedAll_eq]
  simp only [if_neg (show ¬ (91 : CodeUnit) = 34 by decide), if_true]
  cases vs with
  | nil =>
    have hclose : skipBlank (tailText 93 (([] : List JsonValue).map canonicalJson) ++ rest)
        = 93 :: rest := skipBlank_cons (by decide) rest
    simp only [hclose]
    rfl
  | cons v vs =>
    have helems := readElements_text rest (v :: vs) (by simp) hread n (by
      rw [List.length_cons] at hfuel
      omega)
    obtain ⟨c, t, hc, hblank, h93⟩ := canonical_head v
    -- the first value begins with no blank and no bracket
    obtain ⟨u, hu⟩ : ∃ u, tailText 93 ((v :: vs).map canonicalJson) ++ rest = c :: u := by
      cases vs with
      | nil => exact ⟨_, by rw [List.map_singleton, tailText_one, hc]; rfl⟩
      | cons w vs => exact ⟨_, by rw [List.map_cons, List.map_cons, tailText_more, hc]; rfl⟩
    rw [hu] at helems ⊢
    rw [skipBlank_cons hblank]
    split
    · rename_i heq
      exact absurd (List.cons.inj heq).1 h93
    · rw [helems]
      rfl

theorem readMember_text {name : JsString} {v : JsonValue} (hread : ReadAs v (sorted v))
    {rest : JsString} (hends : Ends rest) {fuel : Nat}
    (hfuel : 3 * (memberText (name, canonicalJson v)).length ≤ fuel) :
    readMember fuel (memberText (name, canonicalJson v) ++ rest) = some ((name, sorted v), rest) := by
  have hlen : (memberText (name, canonicalJson v)).length
      = (quote16 name).length + 1 + (canonicalJson v).length := by
    rw [memberText, List.length_append, List.length_cons]
    show (quote16 name).length + ((canonicalJson v).length + 1) = _
    omega
  obtain ⟨n, rfl⟩ : ∃ n, fuel = n + 1 := ⟨fuel - 1, by omega⟩
  have htext : memberText (name, canonicalJson v) ++ rest
      = 34 :: (escapeUnits name ++ 34 :: 58 :: (canonicalJson v ++ rest)) := by
    simp only [memberText, quote16, List.cons_append, List.append_assoc, List.nil_append]
  rw [htext, readMember, skipBlank_cons (by decide)]
  simp only [readString_escapeUnits, skipBlank_cons (show isBlank 58 = false by decide)]
  rw [hread rest n hends (by omega)]
  rfl

/-- the members of a written object are read one by one -/
theorem readMembers_text (rest : JsString) : ∀ (es : List (JsString × JsonValue)), es ≠ [] →
    (∀ e ∈ es, ReadAs e.2 (sorted e.2)) → ∀ fuel,
      3 * (tailText 125 (es.map fun e => memberText (e.1, canonicalJson e.2))).length + 1 ≤ fuel →
      readMembers fuel (tailText 125 (es.map fun e => memberText (e.1, canonicalJson e.2)) ++ rest)
        = some (es.map fun e => (e.1, sorted e.2), rest)
  | [], hne, _, _, _ => absurd rfl hne
  | [e], _, hread, fuel, hfuel => by
    obtain ⟨n, rfl⟩ : ∃ n, fuel = n + 1 := ⟨fuel - 1, by omega⟩
    rw [List.map_singleton, tailText_one] at hfuel ⊢
    rw [List.length_append] at hfuel
    have he := @readMember_text e.1 e.2 (hread e List.mem_cons_self) (125 :: rest)
      (Ends.cons (by decide) _) n (by omega)
    rw [List.append_assoc, List.singleton_append, readMembers, he]
    simp only [skipBlank_cons (show isBlank 125 = false by decide)]
    rfl
  | e :: f :: es, _, hread, fuel, hfuel => by
    obtain ⟨n, rfl⟩ : ∃ n, fuel = n + 1 := ⟨fuel - 1, by omega⟩
    rw [List.map_cons, List.map_cons, tailText_more] at hfuel ⊢
    rw [List.length_append, List.length_cons] at hfuel
    have he := @readMember_text e.1 e.2 (hread e List.mem_cons_self)
      (44 :: (tailText 125 (memberText (f.1, canonicalJson f.2) ::
        es.map fun e => memberText (e.1, canonicalJson e.2)) ++ rest))
      (Ends.cons (by decide) _) n (by omega)
    have hes := readMembers_text rest (f :: es) (by simp)
      (fun g hg => hread g (List.mem_cons_of_mem _ hg)) n (by rw [List.map_cons]; omega)
    rw [List.map_cons] at hes
    rw [List.append_assoc, List.cons_append, readMembers, he]
    simp only [skipBlank_cons (show isBlank 44 = false by decide), hes]
    rfl

theorem setMember_of_not_mem {name : JsString} {v : JsonValue} :
    ∀ {es : List (JsString × JsonValue)}, name ∉ es.map Prod.fst →
      setMember name v es = es ++ [(name, v)]
  | [], _ => rfl
  | e :: es, h => by
    have hne : e.1 ≠ name := fun he => h (by rw [List.map_cons, he]; exact List.mem_cons_self)
    rw [setMember, if_neg hne, setMember_of_not_mem fun hm => h (List.mem_cons_of_mem _ hm)]
    rfl

/-- members without repeated keys are all kept, in order -/
theorem ownMembers_eq {members : List (JsString × JsonValue)}
    (h : (members.map Prod.fst).Nodup) : ownMembers members = members := by
  have hfold : ∀ (members own : List (JsString × JsonValue)),
      ((own ++ members).map Prod.fst).Nodup →
        members.foldl (fun own e => setMember e.1 e.2 own) own = own ++ members := by
    intro members
    induction members with
    | nil => exact fun own _ => (List.append_nil own).symm
    | cons e members ih =>
      intro own hnodup
      rw [List.foldl_cons]
      have hnot : e.1 ∉ own.map Prod.fst := by
        rw [List.map_append, List.nodup_append] at hnodup
        intro hm
        exact hnodup.2.2 _ hm e.1 (by simp) rfl
      rw [setMember_of_not_mem hnot, ih (own ++ [(e.1, e.2)]) (by simpa using hnodup)]
      simp
  exact hfold members [] h

theorem readAs_obj {es : List (JsString × JsonValue)} (hkeys : (es.map Prod.fst).Nodup)
    (hread : ∀ e ∈ es, ReadAs e.2 (sorted e.2)) : ReadAs (.obj es) (sorted (.obj es)) := by
  intro rest fuel _ hfuel
  -- the text is that of the sorted members
  have htext : canonicalJson (.obj es)
      = 123 :: tailText 125 ((sortByKey es).map fun e => memberText (e.1, canonicalJson e.2)) := by
    rw [canonicalJson_obj]
    show objectText (sortByKey (es.map fun e => (e.1, canonicalJson e.2))) = _
    rw [sortByKey_map, objectText, List.map_map]
    rfl
  have hsorted : sorted (.obj es) = .obj ((sortByKey es).map fun e => (e.1, sorted e.2)) := by
    rw [sorted, sortedEntries_eq, sortByKey_map]
  have hperm := sortByKey_perm es
  have hread' : ∀ e ∈ sortByKey es, ReadAs e.2 (sorted e.2) := fun e he =>
    hread e (hperm.mem_iff.mp he)
  have hkeys' : (((sortByKey es).map fun e => (e.1, sorted e.2)).map Prod.fst).Nodup := by
    rw [List.map_map]
    exact (hperm.map Prod.fst).nodup_iff.mpr hkeys
  rw [htext] at hfuel ⊢
  rw [hsorted]
  generalize sortByKey es = es' at *
  obtain ⟨n, rfl⟩ : ∃ n, fuel = n + 1 := ⟨fuel - 1, by rw [List.length_cons] at hfuel; omega⟩
  rw [List.cons_append, readValue, skipBlank_cons (by decide)]
  simp only [if_neg (show ¬ (123 : CodeUnit) = 34 by decide),
    if_neg (show ¬ (123 : CodeUnit) = 91 by decide), if_true]
  cases es' with
  | nil =>
    have hclose : skipBlank (tailText 125 (([] : List (JsString × JsonValue)).map fun e =>
        memberText (e.1, canonicalJson e.2)) ++ rest) = 125 :: rest :=
      skipBlank_cons (by decide) rest
    simp only [hclose]
    rfl
  | cons e es' =>
    have hmembers := readMembers_text rest (e :: es') (by simp) hread' n (by
      rw [List.length_cons] at hfuel
      omega)
    obtain ⟨u, hu⟩ : ∃ u, tailText 125
        ((e :: es').map fun e => memberText (e.1, canonicalJson e.2)) ++ rest = 34 :: u := by
      cases es' with
      | nil => exact ⟨_, by rw [List.map_singleton, tailText_one]; rfl⟩
      | cons f es' => exact ⟨_, by rw [List.map_cons, List.map_cons, tailText_more]; rfl⟩
    rw [hu] at hmembers ⊢
    rw [skipBlank_cons (by decide)]
    split
    · rename_i heq
      exact absurd (List.cons.inj heq).1 (by decide)
    · rw [hmembers]
      show some (JsonValue.obj (ownMembers _), rest) = _
      rw [ownMembers_eq hkeys']

/-- **every proper value is read back from its canonical text, with its keys sorted** -/
theorem readAs_sorted {v : JsonValue} (h : Proper v) : ReadAs v (sorted v) := by
  induction v using JsonValue.ind with
  | hnull => exact readAs_null
  | hbool b => exact readAs_bool b
  | hnum n =>
    cases h with
    | num hn => exact readAs_num hn
  | hstr s => exact readAs_str s
  | harr vs ih =>
    cases h with
    | arr h => exact readAs_arr fun v hv => ih v hv (h v hv)
  | hobj es ih =>
    cases h with
    | obj hkeys h => exact readAs_obj hkeys fun e he => ih e he (h e he)

theorem parse_canonical {v : JsonValue} (h : Proper v) :
    parse (canonicalJson v) = some (sorted v) := by
  have hread := readAs_sorted h [] (3 * (canonicalJson v).length + 3) (fun c hc => absurd hc (by simp))
    (by omega)
  rw [List.append_nil] at hread
  rw [parse, hread]
  rfl

/-! ## the order of keys -/

theorem sortByKey_pairwise {α : Type} (es : List (JsString × α)) :
    (sortByKey es).Pairwise fun a b => !codeUnitLt b.1 a.1 := by
  have htotal : Std.Total fun a b : JsString × α => (!codeUnitLt b.1 a.1) = true := by
    refine ⟨fun a b => ?_⟩
    by_cases hlt : codeUnitLt b.1 a.1 = true
    · right
      by_contra hnot
      have hba : codeUnitLt a.1 b.1 = true := by simpa using hnot
      exact absurd (codeUnitLt_trans hlt hba) (by rw [codeUnitLt_irrefl]; decide)
    · left
      simpa using hlt
  have htrans : IsTrans (JsString × α) fun a b => (!codeUnitLt b.1 a.1) = true := by
    refine ⟨fun a b c hab hbc => ?_⟩
    simp only [Bool.not_eq_true'] at hab hbc ⊢
    by_contra hnot
    have hca : codeUnitLt c.1 a.1 = true := by simpa using hnot
    by_cases hbc' : b.1 = c.1
    · rw [hbc', hca] at hab
      exact absurd hab (by decide)
    · cases codeUnitLt_total hbc' with
      | inl hlt =>
        rw [codeUnitLt_trans hlt hca] at hab
        exact absurd hab (by decide)
      | inr hlt =>
        rw [hlt] at hbc
        exact absurd hbc (by decide)
  exact List.pairwise_insertionSort _ es

/-- keys in any order are sorted to the same list -/
theorem sortByKey_eq_of_perm {α : Type} {es fs : List (JsString × α)} (h : es.Perm fs)
    (hkeys : (es.map Prod.fst).Nodup) : sortByKey es = sortByKey fs := by
  have hperm : (sortByKey es).Perm (sortByKey fs) :=
    (sortByKey_perm es).trans (h.trans (sortByKey_perm fs).symm)
  refine hperm.eq_of_pairwise (fun a b ha hb hab hba => ?_) (sortByKey_pairwise es)
    (sortByKey_pairwise fs)
  have hkey : a.1 = b.1 := by
    by_contra hne
    cases codeUnitLt_total hne with
    | inl hlt => simp [hlt] at hba
    | inr hlt => simp [hlt] at hab
  have ha' := (sortByKey_perm es).mem_iff.mp ha
  have hb' := h.mem_iff.mpr ((sortByKey_perm fs).mem_iff.mp hb)
  exact List.inj_on_of_nodup_map hkeys ha' hb' hkey

/-! ## one text, one value -/

theorem same_sortedAll {vs ws : List JsonValue} (h : vs.map sorted = ws.map sorted)
    (ih : ∀ v ∈ vs, ∀ w, sorted v = sorted w → Same v w) : SameAll vs ws := by
  induction vs generalizing ws with
  | nil =>
    cases ws with
    | nil => exact .nil
    | cons w ws => exact absurd h (by simp)
  | cons v vs ihs =>
    cases ws with
    | nil => exact absurd h (by simp)
    | cons w ws =>
      rw [List.map_cons, List.map_cons] at h
      obtain ⟨hv, hvs⟩ := List.cons.inj h
      exact .cons (ih v List.mem_cons_self w hv)
        (ihs hvs fun u hu => ih u (List.mem_cons_of_mem _ hu))

theorem same_sortedEntries {es fs : List (JsString × JsonValue)}
    (h : es.map (fun e => (e.1, sorted e.2)) = fs.map fun e => (e.1, sorted e.2))
    (ih : ∀ e ∈ es, ∀ w, sorted e.2 = sorted w → Same e.2 w) : SameEntries es fs := by
  induction es generalizing fs with
  | nil =>
    cases fs with
    | nil => exact .nil
    | cons f fs => exact absurd h (by simp)
  | cons e es ihs =>
    cases fs with
    | nil => exact absurd h (by simp)
    | cons f fs =>
      rw [List.map_cons, List.map_cons] at h
      obtain ⟨he, hes⟩ := List.cons.inj h
      obtain ⟨name, v⟩ := e
      obtain ⟨name', w⟩ := f
      obtain ⟨hname, hv⟩ := Prod.mk.inj he
      subst hname
      exact .cons name (ih (name, v) List.mem_cons_self w hv)
        (ihs hes fun u hu => ih u (List.mem_cons_of_mem _ hu))

/-- values that sort to the same value are the same up to key order -/
theorem same_of_sorted {v w : JsonValue} (h : sorted v = sorted w) : Same v w := by
  induction v using JsonValue.ind generalizing w with
  | hnull =>
    cases w with
    | null => exact .null
    | bool b | num n | str s | arr ws | obj fs => exact absurd h (by simp [sorted])
  | hbool b =>
    cases w with
    | bool b' =>
      cases h
      exact .bool b
    | null | num n | str s | arr ws | obj fs => exact absurd h (by simp [sorted])
  | hnum n =>
    cases w with
    | num n' =>
      cases h
      exact .num n
    | null | bool b | str s | arr ws | obj fs => exact absurd h (by simp [sorted])
  | hstr s =>
    cases w with
    | str s' =>
      cases h
      exact .str s
    | null | bool b | num n | arr ws | obj fs => exact absurd h (by simp [sorted])
  | harr vs ih =>
    cases w with
    | arr ws =>
      rw [sorted, sorted, sortedAll_eq, sortedAll_eq] at h
      exact .arr (same_sortedAll (JsonValue.arr.inj h) fun v hv w hw => ih v hv hw)
    | null | bool b | num n | str s | obj fs => exact absurd h (by simp [sorted])
  | hobj es ih =>
    cases w with
    | obj fs =>
      rw [sorted, sorted, sortedEntries_eq, sortedEntries_eq, sortByKey_map, sortByKey_map] at h
      exact .obj (sortByKey_perm es).symm (sortByKey_perm fs).symm
        (same_sortedEntries (JsonValue.obj.inj h) fun e he w hw =>
          ih e ((sortByKey_perm es).mem_iff.mp he) hw)
    | null | bool b | num n | str s | arr ws => exact absurd h (by simp [sorted])

theorem SameAll.map_canonical {vs ws : List JsonValue} (h : SameAll vs ws)
    (ih : ∀ v ∈ vs, ∀ w, Same v w → canonicalJson v = canonicalJson w) :
    vs.map canonicalJson = ws.map canonicalJson := by
  induction vs generalizing ws with
  | nil =>
    cases h with
    | nil => rfl
  | cons v vs ihs =>
    cases h with
    | cons hv hvs =>
      rw [List.map_cons, List.map_cons, ih v List.mem_cons_self _ hv,
        ihs hvs fun u hu => ih u (List.mem_cons_of_mem _ hu)]

theorem SameEntries.map_canonical {es fs : List (JsString × JsonValue)} (h : SameEntries es fs)
    (ih : ∀ e ∈ es, ∀ w, Same e.2 w → canonicalJson e.2 = canonicalJson w) :
    (es.map fun e => (e.1, canonicalJson e.2)) = fs.map fun e => (e.1, canonicalJson e.2) := by
  induction es generalizing fs with
  | nil =>
    cases h with
    | nil => rfl
  | cons e es ihs =>
    cases h with
    | cons name hv hvs =>
      rw [List.map_cons, List.map_cons, ihs hvs fun u hu => ih u (List.mem_cons_of_mem _ hu),
        ih _ List.mem_cons_self _ hv]

theorem canonical_of_same {v w : JsonValue} (hv : Proper v) (h : Same v w) :
    canonicalJson v = canonicalJson w := by
  induction v using JsonValue.ind generalizing w with
  | hnull | hbool | hnum | hstr =>
    cases h
    rfl
  | harr vs ih =>
    cases hv with
    | arr hvs =>
      cases h with
      | arr h =>
        rw [canonicalJson_arr, canonicalJson_arr,
          h.map_canonical fun u hu w hw => ih u hu (hvs u hu) hw]
  | hobj es ih =>
    cases hv with
    | obj hkeys hes =>
      cases h with
      | @obj _ es' fs fs' he hf hs =>
        have htexts := hs.map_canonical fun e hmem w hw =>
          ih e (he.mem_iff.mpr hmem) (hes e (he.mem_iff.mpr hmem)) hw
        have hperm : (es.map fun e => (e.1, canonicalJson e.2)).Perm
            (fs.map fun e => (e.1, canonicalJson e.2)) := by
          calc
            (es.map fun e => (e.1, canonicalJson e.2)).Perm
                (es'.map fun e => (e.1, canonicalJson e.2)) := he.map _
            _ = fs'.map fun e => (e.1, canonicalJson e.2) := htexts
            List.Perm _ (fs.map fun e => (e.1, canonicalJson e.2)) := hf.symm.map _
        rw [canonicalJson_obj, canonicalJson_obj]
        show objectText (sortByKey _) = objectText (sortByKey _)
        rw [sortByKey_eq_of_perm hperm (by rw [List.map_map]; exact hkeys)]

/-- **two values have one canonical text iff they are equal up to the order of keys** -/
theorem canonical_iff {v w : JsonValue} (hv : Proper v) (hw : Proper w) :
    canonicalJson v = canonicalJson w ↔ Same v w := by
  constructor
  · intro h
    have hread := parse_canonical hv
    rw [h, parse_canonical hw] at hread
    exact same_of_sorted (Option.some.inj hread).symm
  · exact canonical_of_same hv

theorem sameAll_map {f : JsonValue → JsonValue} {vs : List JsonValue} (h : ∀ v ∈ vs, Same v (f v)) :
    SameAll vs (vs.map f) := by
  induction vs with
  | nil => exact .nil
  | cons v vs ih =>
    exact .cons (h v List.mem_cons_self) (ih fun u hu => h u (List.mem_cons_of_mem _ hu))

theorem sameEntries_map {f : JsonValue → JsonValue} {es : List (JsString × JsonValue)}
    (h : ∀ e ∈ es, Same e.2 (f e.2)) : SameEntries es (es.map fun e => (e.1, f e.2)) := by
  induction es with
  | nil => exact .nil
  | cons e es ih =>
    exact .cons e.1 (h e List.mem_cons_self) (ih fun u hu => h u (List.mem_cons_of_mem _ hu))

theorem same_sorted (v : JsonValue) : Same v (sorted v) := by
  induction v using JsonValue.ind with
  | hnull => exact .null
  | hbool b => exact .bool b
  | hnum n => exact .num n
  | hstr s => exact .str s
  | harr vs ih =>
    rw [sorted, sortedAll_eq]
    exact .arr (sameAll_map ih)
  | hobj es ih =>
    rw [sorted, sortedEntries_eq]
    exact .obj (List.Perm.refl es) (sortByKey_perm _) (sameEntries_map ih)

/-- **parsing the canonical text gives the value back**, up to the order of keys -/
theorem parse_canonical_same {v : JsonValue} (h : Proper v) :
    ∃ u, parse (canonicalJson v) = some u ∧ Same v u :=
  ⟨sorted v, parse_canonical h, same_sorted v⟩

end Json
