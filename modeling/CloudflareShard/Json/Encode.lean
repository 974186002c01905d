import CloudflareShard.Json.Canonical

/-!
# The bytes of a text

* `encode`                  `new TextEncoder().encode(text)`: UTF-8, lone surrogates replaced;
* `WellFormed`              texts without lone surrogates;
* `encode_inj`              they are told apart by their bytes;
* `canonical_wellFormed`    the canonical text is one of them;
* `hexText`                 bytes as `sha256Hex` writes them.
-/

namespace Json

def encode (s : JsString) : ByteArray := (textOf s).toByteArray

def isSurrogate (c : CodeUnit) : Bool := isHighSurrogate c || isLowSurrogate c

inductive WellFormed : JsString → Prop where
  | nil : WellFormed []
  | unit {c : CodeUnit} {s : JsString} (hc : isSurrogate c = false) (hs : WellFormed s) :
    WellFormed (c :: s)
  | pair {c d : CodeUnit} {s : JsString} (hc : isHighSurrogate c = true)
    (hd : isLowSurrogate d = true) (hs : WellFormed s) : WellFormed (c :: d :: s)

theorem WellFormed.append {s t : JsString} (hs : WellFormed s) (ht : WellFormed t) :
    WellFormed (s ++ t) := by
  induction hs with
  | nil => exact ht
  | unit hc _ ih => exact .unit hc ih
  | pair hc hd _ ih => exact .pair hc hd ih

theorem wellFormed_of_units {s : JsString} (h : ∀ c ∈ s, isSurrogate c = false) : WellFormed s := by
  induction s with
  | nil => exact .nil
  | cons c s ih =>
    exact .unit (h c List.mem_cons_self) (ih fun d hd => h d (List.mem_cons_of_mem _ hd))

theorem wellFormed_of_all {s : JsString} (h : (s.all fun c => !isSurrogate c) = true) :
    WellFormed s :=
  wellFormed_of_units fun c hc => by simpa using List.all_eq_true.mp h c hc

/-! ## characters and units -/

theorem characters_unit {c : CodeUnit} (hc : isSurrogate c = false) (s : JsString) :
    characters (c :: s) = Char.ofNat c.val :: characters s := by
  simp only [isSurrogate, Bool.or_eq_false_iff] at hc
  cases s with
  | nil => simp [characters, hc.1, hc.2]
  | cons d s => simp [characters, hc.1, hc.2]

theorem characters_pair {c d : CodeUnit} (hc : isHighSurrogate c = true)
    (hd : isLowSurrogate d = true) (s : JsString) : characters (c :: d :: s) =
      Char.ofNat (0x10000 + (c.val - 0xD800) * 0x400 + (d.val - 0xDC00)) :: characters s := by
  simp [characters, hc, hd]

theorem toNat_ofNat {n : Nat} (h : n.isValidChar) : (Char.ofNat n).toNat = n := by
  rw [Char.ofNat, dif_pos h]
  rfl

theorem utf16Char_unit {c : CodeUnit} (hc : isSurrogate c = false) :
    utf16Char (Char.ofNat c.val) = [c] := by
  have hlt := c.isLt
  have hvalid : c.val.isValidChar := by
    simp only [isSurrogate, isHighSurrogate, isLowSurrogate, Bool.or_eq_false_iff,
      Bool.and_eq_false_iff, decide_eq_false_iff_not] at hc
    unfold Nat.isValidChar
    omega
  rw [utf16Char, toNat_ofNat hvalid, if_pos hlt]
  congr 1
  exact Fin.ext (Nat.mod_eq_of_lt hlt)

theorem utf16Char_pair {c d : CodeUnit} (hc : isHighSurrogate c = true)
    (hd : isLowSurrogate d = true) :
    utf16Char (Char.ofNat (0x10000 + (c.val - 0xD800) * 0x400 + (d.val - 0xDC00))) = [c, d] := by
  simp only [isHighSurrogate, isLowSurrogate, Bool.and_eq_true, decide_eq_true_eq] at hc hd
  have hvalid : (0x10000 + (c.val - 0xD800) * 0x400 + (d.val - 0xDC00)).isValidChar := by
    unfold Nat.isValidChar
    omega
  have hhigh : (0xD800 + (0x10000 + (c.val - 0xD800) * 0x400 + (d.val - 0xDC00) - 0x10000) / 0x400)
      % 65536 = c.val := by omega
  have hlow : (0xDC00 + (0x10000 + (c.val - 0xD800) * 0x400 + (d.val - 0xDC00) - 0x10000) % 0x400)
      % 65536 = d.val := by omega
  rw [utf16Char, toNat_ofNat hvalid, if_neg (by omega)]
  rw [show codeUnit _ = c from Fin.ext hhigh, show codeUnit _ = d from Fin.ext hlow]

theorem utf16Chars_characters {s : JsString} (h : WellFormed s) : utf16Chars (characters s) = s := by
  induction h with
  | nil => rfl
  | @unit c s hc _ ih =>
    rw [characters_unit hc]
    show utf16Char _ ++ utf16Chars (characters s) = _
    rw [utf16Char_unit hc, ih]
    rfl
  | @pair c d s hc hd _ ih =>
    rw [characters_pair hc hd]
    show utf16Char _ ++ utf16Chars (characters s) = _
    rw [utf16Char_pair hc hd, ih]
    rfl

/-- **texts without lone surrogates are told apart by their bytes** -/
theorem encode_inj {s t : JsString} (hs : WellFormed s) (ht : WellFormed t)
    (h : encode s = encode t) : s = t := by
  have htext : textOf s = textOf t := String.toByteArray_inj.mp h
  have hchars : characters s = characters t := String.ofList_injective htext
  calc
    s = utf16Chars (characters s) := (utf16Chars_characters hs).symm
    _ = utf16Chars (characters t) := by rw [hchars]
    _ = t := utf16Chars_characters ht

/-! ## the canonical text -/

theorem hexUnit_plain (n : Nat) (h : n < 16) : isSurrogate (hexUnit n) = false := by
  revert n
  decide

theorem escapeUnit_wellFormed (c : CodeUnit) : WellFormed (escapeUnit c) := by
  have hshort : ∀ u : CodeUnit, isSurrogate u = false → WellFormed [92, u] := fun u hu =>
    .unit (by decide) (.unit hu .nil)
  have hc := c.isLt
  unfold escapeUnit
  by_cases hescaped : c.val < 32 ∨ isHighSurrogate c ∨ isLowSurrogate c
  · have hunicode : WellFormed (unicodeEscape16 c) := by
      refine .unit (by decide) (.unit (by decide) (.unit (hexUnit_plain _ (by omega)) (.unit
        (hexUnit_plain _ (Nat.mod_lt _ (by decide))) (.unit
          (hexUnit_plain _ (Nat.mod_lt _ (by decide))) (.unit
            (hexUnit_plain _ (Nat.mod_lt _ (by decide))) .nil)))))
    rw [if_pos hescaped]
    split_ifs with h1 h2 h3 h4 h5 h6 h7
    · exact hshort _ (by decide)
    · exact hshort _ (by decide)
    · exact hshort _ (by decide)
    · exact hshort _ (by decide)
    · exact hshort _ (by decide)
    · exact hshort _ (by decide)
    · exact hshort _ (by decide)
    · exact hunicode
  · rw [if_neg hescaped]
    have hplain : isSurrogate c = false := by
      simp only [not_or] at hescaped
      simp [isSurrogate, hescaped.2.1, hescaped.2.2]
    split_ifs with h1 h2 h3 h4 h5 h6 h7
    · exact hshort _ (by decide)
    · exact hshort _ (by decide)
    · exact hshort _ (by decide)
    · exact hshort _ (by decide)
    · exact hshort _ (by decide)
    · exact hshort _ (by decide)
    · exact hshort _ (by decide)
    · exact .unit hplain .nil

theorem quote_wellFormed (s : JsString) : WellFormed (quote16 s) := by
  have hunits : WellFormed (escapeUnits s) := by
    fun_induction escapeUnits s with
    | case1 => exact .nil
    | case2 c => exact escapeUnit_wellFormed c
    | case3 c d s hpair ih =>
      simp only [Bool.and_eq_true] at hpair
      exact .pair hpair.1 hpair.2 ih
    | case4 c d s hpair ih => exact (escapeUnit_wellFormed c).append ih
  exact .unit (by decide) (hunits.append (.unit (by decide) .nil))

theorem isSurrogate_of_number {c : CodeUnit} (h : isNumberUnit c = true) : isSurrogate c = false := by
  have hval : c.val < 128 := by
    simp only [isNumberUnit, isDigit, Bool.or_eq_true, Bool.and_eq_true, decide_eq_true_eq,
      beq_iff_eq] at h
    rcases h with ((((⟨_, h⟩ | h) | h) | h) | h) | h
    · omega
    · rw [h]; decide
    · rw [h]; decide
    · rw [h]; decide
    · rw [h]; decide
    · rw [h]; decide
  simp only [isSurrogate, isHighSurrogate, isLowSurrogate, Bool.or_eq_false_iff,
    Bool.and_eq_false_iff, decide_eq_false_iff_not]
  omega

theorem listed_wellFormed {opening closing : CodeUnit} (ho : isSurrogate opening = false)
    (hc : isSurrogate closing = false) {parts : List JsString} (h : ∀ p ∈ parts, WellFormed p) :
    WellFormed (listed opening closing parts) := by
  have htail : WellFormed (tailText closing parts) := by
    induction parts with
    | nil => exact .unit hc .nil
    | cons p parts ih =>
      cases parts with
      | nil =>
        rw [tailText_one]
        exact (h p List.mem_cons_self).append (.unit hc .nil)
      | cons q parts =>
        rw [tailText_more]
        exact (h p List.mem_cons_self).append
          (.unit (by decide) (ih fun r hr => h r (List.mem_cons_of_mem _ hr)))
  exact .unit ho htail

theorem canonical_wellFormed (v : JsonValue) : WellFormed (canonicalJson v) := by
  induction v using JsonValue.ind with
  | hnull => exact wellFormed_of_all (by decide +kernel)
  | hbool b =>
    cases b with
    | false => exact wellFormed_of_all (by decide +kernel)
    | true => exact wellFormed_of_all (by decide +kernel)
  | hnum n => exact wellFormed_of_units fun c hc => isSurrogate_of_number (n.text_units.1 c hc)
  | hstr s => exact quote_wellFormed s
  | harr vs ih =>
    rw [canonicalJson_arr]
    refine listed_wellFormed (by decide) (by decide) fun p hp => ?_
    obtain ⟨v, hv, rfl⟩ := List.mem_map.mp hp
    exact ih v hv
  | hobj es ih =>
    rw [canonicalJson_obj]
    refine listed_wellFormed (by decide) (by decide) fun p hp => ?_
    obtain ⟨m, hm, rfl⟩ := List.mem_map.mp hp
    obtain ⟨e, he, rfl⟩ := List.mem_map.mp ((sortByKey_perm _).mem_iff.mp hm)
    exact (quote_wellFormed e.1).append (.unit (by decide) (ih e he))

/-! ## digests -/

/-- `byte.toString(16).padStart(2, "0")` of every byte -/
def hexText (bytes : List UInt8) : JsString :=
  bytes.flatMap fun b => [hexUnit (b.toNat / 16), hexUnit (b.toNat % 16)]

theorem hexUnit_inj {n m : Nat} (hn : n < 16) (hm : m < 16) (h : hexUnit n = hexUnit m) : n = m := by
  have hread := hexValue_hexUnit hn
  rw [h, hexValue_hexUnit hm] at hread
  exact (Option.some.inj hread).symm

theorem hexText_injective : Function.Injective hexText := by
  intro a b h
  induction a generalizing b with
  | nil =>
    cases b with
    | nil => rfl
    | cons y b => exact absurd h (by simp [hexText])
  | cons x a ih =>
    cases b with
    | nil => exact absurd h (by simp [hexText])
    | cons y b =>
      have hx := x.toNat_lt
      have hy := y.toNat_lt
      have hcons : hexUnit (x.toNat / 16) :: hexUnit (x.toNat % 16) :: hexText a
          = hexUnit (y.toNat / 16) :: hexUnit (y.toNat % 16) :: hexText b := h
      obtain ⟨hhigh, hrest⟩ := List.cons.inj hcons
      obtain ⟨hlow, hrest⟩ := List.cons.inj hrest
      have hdiv := hexUnit_inj (by omega) (by omega) hhigh
      have hmod := hexUnit_inj (Nat.mod_lt _ (by decide)) (Nat.mod_lt _ (by decide)) hlow
      rw [ih hrest, UInt8.toNat_inj.mp (show x.toNat = y.toNat by omega)]

end Json
