import CloudflareShard.Json.Value

/-!
# Reading JSON

`JSON.parse` on code units, and what it makes of the tokens that are written.

* `readString`, `numberOfText`   tokens;
* `readValue`, `parse`           values; a double is known by the text that `toString` writes of it;
* `readString_escapeUnits`       a written string is read back;
* `numberOfText_text`            and so is a number.
-/

namespace Json

def isBlank (c : CodeUnit) : Bool := c == 9 || c == 10 || c == 13 || c == 32

def skipBlank (s : JsString) : JsString := s.dropWhile isBlank

/-! ## strings -/

def hexValue (c : CodeUnit) : Option Nat :=
  if 48 ≤ c.val ∧ c.val ≤ 57 then some (c.val - 48)
  else if 97 ≤ c.val ∧ c.val ≤ 102 then some (c.val - 87)
  else if 65 ≤ c.val ∧ c.val ≤ 70 then some (c.val - 55)
  else none

/-- the unit that four digits stand for -/
def hexUnits (a b c d : CodeUnit) : Option CodeUnit := do
  return codeUnit (4096 * (← hexValue a) + 256 * (← hexValue b) + 16 * (← hexValue c)
    + (← hexValue d))

def shortEscape (c : CodeUnit) : Option CodeUnit :=
  if c = 34 then some 34
  else if c = 92 then some 92
  else if c = 47 then some 47
  else if c = 98 then some 8
  else if c = 116 then some 9
  else if c = 110 then some 10
  else if c = 102 then some 12
  else if c = 114 then some 13
  else none

/-- a string behind its opening quote, and what follows the closing one -/
def readString : JsString → Option (JsString × JsString)
  | [] => none
  | c :: rest =>
    if c = 34 then some ([], rest)
    else if c = 92 then
      match rest with
      | [] => none
      | e :: rest =>
        if e = 117 then
          match rest with
          | a :: b :: c :: d :: rest =>
            match hexUnits a b c d with
            | some u => (readString rest).map fun r => (u :: r.1, r.2)
            | none => none
          | _ => none
        else
          match shortEscape e with
          | some u => (readString rest).map fun r => (u :: r.1, r.2)
          | none => none
    else if c.val < 32 then none
    else (readString rest).map fun r => (c :: r.1, r.2)

/-! ## numbers -/

def isNumberUnit (c : CodeUnit) : Bool :=
  isDigit c || c == 43 || c == 45 || c == 46 || c == 69 || c == 101

def charOf (c : CodeUnit) : Char := Char.ofNat c.val

/-- the integer that a text of digits, with or without a sign, stands for -/
def integerOf : JsString → Int
  | [] => 0
  | c :: rest =>
    if c = 45 then -(Nat.ofDigitChars 10 (rest.map charOf) 0 : Int)
    else Nat.ofDigitChars 10 ((c :: rest).map charOf) 0

def safeInteger? (text : JsString) : Option SafeInteger :=
  if h : (integerOf text).natAbs ≤ maxSafe then
    if SafeInteger.text ⟨integerOf text, h⟩ = text then some ⟨integerOf text, h⟩ else none
  else none

theorem charOf_utf16Char {c : Char} (h : c.toNat < 128) :
    (utf16Char c).map charOf = [c] := by
  have hsmall : c.toNat < 0x10000 := by omega
  rw [utf16Char, if_pos hsmall, List.map_singleton, charOf]
  have hval : (codeUnit c.toNat).val = c.toNat := Nat.mod_eq_of_lt hsmall
  rw [hval, Char.ofNat_toNat]

theorem charOf_utf16Chars {cs : List Char} (h : ∀ c ∈ cs, c.toNat < 128) :
    (utf16Chars cs).map charOf = cs := by
  induction cs with
  | nil => rfl
  | cons c cs ih =>
    have hc := charOf_utf16Char (h c List.mem_cons_self)
    have hcs := ih fun d hd => h d (List.mem_cons_of_mem _ hd)
    show (utf16Char c ++ utf16Chars cs).map charOf = c :: cs
    rw [List.map_append, hc, hcs]
    rfl

theorem digit_ascii {n : Nat} {c : Char} (h : c ∈ Nat.toDigits 10 n) :
    48 ≤ c.toNat ∧ c.toNat ≤ 57 := by
  have hdigit := Nat.isDigit_of_mem_toDigits (by decide) (by decide) h
  simp only [Char.isDigit, Bool.and_eq_true, decide_eq_true_eq] at hdigit
  exact ⟨hdigit.1, hdigit.2⟩

theorem utf16Chars_digit {c : Char} (h : 48 ≤ c.toNat ∧ c.toNat ≤ 57) (cs : List Char) :
    utf16Chars (c :: cs) = codeUnit c.toNat :: utf16Chars cs := by
  show utf16Char c ++ utf16Chars cs = _
  rw [utf16Char, if_pos (by omega)]
  rfl

theorem integerOf_text (n : SafeInteger) : integerOf n.text = n.val := by
  have hback : Nat.ofDigitChars 10 ((utf16Chars (Nat.toDigits 10 n.val.natAbs)).map charOf) 0
      = n.val.natAbs := by
    rw [charOf_utf16Chars fun c hc => by have := digit_ascii hc; omega]
    exact Nat.ofDigitChars_ten_toDigits
  unfold SafeInteger.text
  by_cases hneg : n.val < 0
  · rw [if_pos hneg]
    show integerOf (codeUnit 45 :: utf16Chars (Nat.toDigits 10 n.val.natAbs)) = n.val
    rw [integerOf, if_pos (show codeUnit 45 = 45 from rfl), hback]
    omega
  · rw [if_neg hneg]
    cases hd : Nat.toDigits 10 n.val.natAbs with
    | nil => exact absurd hd Nat.toDigits_ne_nil
    | cons c cs =>
      have hc := digit_ascii (n := n.val.natAbs) (hd ▸ List.mem_cons_self : c ∈ _)
      rw [hd, utf16Chars_digit hc] at hback
      rw [utf16Chars_digit hc, integerOf, if_neg (by
        intro h
        have := congrArg Fin.val h
        have hval : (codeUnit c.toNat).val = c.toNat := Nat.mod_eq_of_lt (by omega)
        rw [hval] at this
        have h45 : ((45 : CodeUnit)).val = 45 := rfl
        omega), hback]
      omega

theorem safeInteger?_text (n : SafeInteger) : safeInteger? n.text = some n := by
  have hval := integerOf_text n
  have hn : (⟨integerOf n.text, by rw [hval]; exact n.safe⟩ : SafeInteger) = n := by
    cases n
    simp only [SafeInteger.mk.injEq]
    exact hval
  unfold safeInteger?
  rw [dif_pos (by rw [hval]; exact n.safe), hn, if_pos rfl]

theorem safeInteger?_eq_none {text : JsString} (h : safeInteger? text = none) :
    ∀ n : SafeInteger, n.text ≠ text := by
  intro n hn
  rw [← hn, safeInteger?_text] at h
  exact absurd h (by simp)

/-- the number that a text written by `toString` stands for -/
def numberOfText (text : JsString) : Option Number :=
  match h : safeInteger? text with
  | some n => some (.safe n)
  | none =>
    if hn : isNumberText text then some (.other ⟨text, hn, safeInteger?_eq_none h⟩) else none

/-- **a number other than -0 is read back** -/
theorem numberOfText_text {n : Number} (h : n ≠ .negativeZero) : numberOfText n.text = some n := by
  unfold numberOfText
  cases n with
  | negativeZero => exact absurd rfl h
  | safe n =>
    show (match h : safeInteger? n.text with | some n => _ | none => _) = _
    split
    · rename_i m hm
      rw [safeInteger?_text] at hm
      rw [Option.some.inj hm]
    · rename_i hm
      rw [safeInteger?_text] at hm
      exact absurd hm (by simp)
  | other n =>
    show (match h : safeInteger? n.text with | some n => _ | none => _) = _
    split
    · rename_i m hm
      unfold safeInteger? at hm
      split at hm
      · split at hm
        · rename_i htext
          exact absurd htext (n.notSafe _)
        · exact absurd hm (by simp)
      · exact absurd hm (by simp)
    · exact dif_pos n.number

/-! ## values -/

/-- a later member of the same name takes the place of an earlier one -/
def setMember (name : JsString) (v : JsonValue) :
    List (JsString × JsonValue) → List (JsString × JsonValue)
  | [] => [(name, v)]
  | e :: rest => if e.1 = name then (name, v) :: rest else e :: setMember name v rest

def ownMembers (members : List (JsString × JsonValue)) : List (JsString × JsonValue) :=
  members.foldl (fun own e => setMember e.1 e.2 own) []

/-- `null`, `true` or `false` -/
def readLiteral (s : JsString) : Option (JsonValue × JsString) :=
  if (utf16 "null").isPrefixOf s then some (.null, s.drop 4)
  else if (utf16 "true").isPrefixOf s then some (.bool true, s.drop 4)
  else if (utf16 "false").isPrefixOf s then some (.bool false, s.drop 5)
  else none

/-- what begins a number -/
def startsNumber (c : CodeUnit) : Bool := c == 45 || isDigit c

mutual

/-- a value and what follows it -/
def readValue : Nat → JsString → Option (JsonValue × JsString)
  | 0, _ => none
  | fuel + 1, s =>
    match skipBlank s with
    | [] => none
    | c :: rest =>
      if c = 34 then (readString rest).map fun r => (.str r.1, r.2)
      else if c = 91 then
        match skipBlank rest with
        | 93 :: after => some (.arr [], after)
        | _ => (readElements fuel rest).map fun r => (.arr r.1, r.2)
      else if c = 123 then
        match skipBlank rest with
        | 125 :: after => some (.obj [], after)
        | _ => (readMembers fuel rest).map fun r => (.obj (ownMembers r.1), r.2)
      else if startsNumber c then
        (numberOfText ((c :: rest).takeWhile isNumberUnit)).map fun n =>
          (.num n, (c :: rest).dropWhile isNumberUnit)
      else readLiteral (c :: rest)

/-- the values of an array up to its bracket -/
def readElements : Nat → JsString → Option (List JsonValue × JsString)
  | 0, _ => none
  | fuel + 1, s =>
    match readValue fuel s with
    | none => none
    | some (v, s) =>
      match skipBlank s with
      | 44 :: rest => (readElements fuel rest).map fun r => (v :: r.1, r.2)
      | 93 :: rest => some ([v], rest)
      | _ => none

/-- the members of an object up to its brace -/
def readMembers : Nat → JsString → Option (List (JsString × JsonValue) × JsString)
  | 0, _ => none
  | fuel + 1, s =>
    match readMember fuel s with
    | none => none
    | some (e, s) =>
      match skipBlank s with
      | 44 :: rest => (readMembers fuel rest).map fun r => (e :: r.1, r.2)
      | 125 :: rest => some ([e], rest)
      | _ => none

def readMember : Nat → JsString → Option ((JsString × JsonValue) × JsString)
  | 0, _ => none
  | fuel + 1, s =>
    match skipBlank s with
    | 34 :: rest =>
      match readString rest with
      | none => none
      | some (name, s) =>
        match skipBlank s with
        | 58 :: rest => (readValue fuel rest).map fun r => ((name, r.1), r.2)
        | _ => none
    | _ => none

end

/-- `JSON.parse(text)`; every character costs at most three calls -/
def parse (text : JsString) : Option JsonValue :=
  match readValue (3 * text.length + 3) text with
  | some (v, rest) => if skipBlank rest = [] then some v else none
  | none => none

/-! ## written numbers -/

theorem isNumberUnit_codeUnit {c : Char} (h : 48 ≤ c.toNat ∧ c.toNat ≤ 57) :
    isDigit (codeUnit c.toNat) = true := by
  have hval : (codeUnit c.toNat).val = c.toNat := Nat.mod_eq_of_lt (by omega)
  simp only [isDigit, hval, Bool.and_eq_true, decide_eq_true_eq]
  exact h

theorem isDigit_utf16Chars {cs : List Char} (h : ∀ c ∈ cs, 48 ≤ c.toNat ∧ c.toNat ≤ 57) :
    ∀ u ∈ utf16Chars cs, isDigit u = true := by
  induction cs with
  | nil => exact fun u hu => absurd hu List.not_mem_nil
  | cons c cs ih =>
    intro u hu
    rw [utf16Chars_digit (h c List.mem_cons_self)] at hu
    cases hu with
    | head => exact isNumberUnit_codeUnit (h c List.mem_cons_self)
    | tail _ hu => exact ih (fun d hd => h d (List.mem_cons_of_mem _ hd)) u hu

theorem isNumberUnit_of_digit {u : CodeUnit} (h : isDigit u = true) : isNumberUnit u = true := by
  simp [isNumberUnit, h]

theorem SafeInteger.text_units (n : SafeInteger) :
    (∀ u ∈ n.text, isNumberUnit u = true) ∧ ∃ c t, n.text = c :: t ∧ startsNumber c = true := by
  have hdigits := isDigit_utf16Chars fun c (hc : c ∈ Nat.toDigits 10 n.val.natAbs) => digit_ascii hc
  have hne : ∃ c t, utf16Chars (Nat.toDigits 10 n.val.natAbs) = c :: t := by
    cases hd : Nat.toDigits 10 n.val.natAbs with
    | nil => exact absurd hd Nat.toDigits_ne_nil
    | cons c cs => exact ⟨_, _, utf16Chars_digit (digit_ascii (hd ▸ List.mem_cons_self)) cs⟩
  unfold SafeInteger.text
  by_cases hneg : n.val < 0
  · rw [if_pos hneg]
    show (∀ u ∈ codeUnit 45 :: utf16Chars (Nat.toDigits 10 n.val.natAbs), _) ∧
      ∃ c t, codeUnit 45 :: utf16Chars (Nat.toDigits 10 n.val.natAbs) = c :: t ∧ _
    refine ⟨fun u hu => ?_, _, _, rfl, by decide⟩
    cases hu with
    | head => decide
    | tail _ hu => exact isNumberUnit_of_digit (hdigits u hu)
  · rw [if_neg hneg]
    obtain ⟨c, t, hct⟩ := hne
    refine ⟨fun u hu => isNumberUnit_of_digit (hdigits u hu), c, t, hct, ?_⟩
    rw [startsNumber, hdigits c (by rw [hct]; exact List.mem_cons_self), Bool.or_true]

theorem NumberState.step_unit {q q' : NumberState} {c : CodeUnit} (h : q.step c = some q') :
    isNumberUnit c = true := by
  have hzero : isDigit 48 = true := by decide
  unfold isNumberUnit
  cases q with
  | start | minus | zero | int | point | frac | exp | expSign | expDigits =>
    simp only [NumberState.step] at h
    grind

theorem NumberState.start_unit {q : NumberState} {c : CodeUnit}
    (h : NumberState.start.step c = some q) : startsNumber c = true := by
  unfold startsNumber
  simp only [NumberState.step] at h
  by_cases h45 : c = 45
  · simp [h45]
  · by_cases h48 : c = 48
    · rw [h48]
      decide
    · rw [if_neg h45, if_neg h48] at h
      by_cases hd : isDigit c = true
      · simp [hd]
      · rw [if_neg hd] at h
        exact absurd h (by simp)

theorem foldlM_units : ∀ {text : JsString} {q q' : NumberState},
    text.foldlM NumberState.step q = some q' → ∀ u ∈ text, isNumberUnit u = true
  | [], _, _, _, _, hu => absurd hu List.not_mem_nil
  | c :: text, q, q', h, u, hu => by
    rw [List.foldlM_cons] at h
    cases hstep : q.step c with
    | none =>
      rw [hstep] at h
      exact absurd h (by simp)
    | some r =>
      rw [hstep] at h
      cases hu with
      | head => exact NumberState.step_unit hstep
      | tail _ hu => exact foldlM_units h u hu

theorem NumberText.text_units (n : NumberText) :
    (∀ u ∈ n.text, isNumberUnit u = true) ∧ ∃ c t, n.text = c :: t ∧ startsNumber c = true := by
  have hnumber := n.number
  unfold isNumberText at hnumber
  obtain ⟨q, hq, hdone⟩ := (Option.any_eq_true ..).mp hnumber
  refine ⟨foldlM_units hq, ?_⟩
  cases htext : n.text with
  | nil =>
    rw [htext] at hq
    cases hq
    exact absurd hdone (by decide)
  | cons c t =>
    rw [htext, List.foldlM_cons] at hq
    cases hstep : NumberState.start.step c with
    | none =>
      rw [hstep] at hq
      exact absurd hq (by simp)
    | some r => exact ⟨c, t, rfl, NumberState.start_unit hstep⟩

theorem Number.text_units (n : Number) :
    (∀ u ∈ n.text, isNumberUnit u = true) ∧ ∃ c t, n.text = c :: t ∧ startsNumber c = true := by
  cases n with
  | safe n => exact n.text_units
  | negativeZero =>
    refine ⟨fun u hu => ?_, 48, [], rfl, by decide⟩
    rw [List.mem_singleton.mp hu]
    decide
  | other n => exact n.text_units

/-! ## written strings -/

theorem readString_end (rest : JsString) : readString (34 :: rest) = some ([], rest) := by
  rw [readString.eq_def]
  rfl

/-- a unit that is neither quote nor backslash nor a control character -/
theorem readString_plain {c : CodeUnit} (hq : c ≠ 34) (hb : c ≠ 92) (hc : 32 ≤ c.val)
    (t : JsString) : readString (c :: t) = (readString t).map fun r => (c :: r.1, r.2) := by
  rw [readString.eq_def]
  simp only [if_neg hq, if_neg hb, if_neg (show ¬ c.val < 32 by omega)]

theorem readString_short {e u : CodeUnit} (he : e ≠ 117) (hu : shortEscape e = some u)
    (t : JsString) : readString (92 :: e :: t) = (readString t).map fun r => (u :: r.1, r.2) := by
  rw [readString.eq_def]
  simp only [if_neg (show ¬ (92 : CodeUnit) = 34 by decide), if_true, if_neg he, hu]

theorem hexValue_hexUnit {n : Nat} (h : n < 16) : hexValue (hexUnit n) = some n := by
  revert n
  decide

theorem hexUnits_escape (c : CodeUnit) :
    hexUnits (hexUnit (c.val / 4096)) (hexUnit (c.val / 256 % 16)) (hexUnit (c.val / 16 % 16))
      (hexUnit (c.val % 16)) = some c := by
  have hc := c.isLt
  unfold hexUnits
  rw [hexValue_hexUnit (by omega), hexValue_hexUnit (Nat.mod_lt _ (by decide)),
    hexValue_hexUnit (Nat.mod_lt _ (by decide)), hexValue_hexUnit (Nat.mod_lt _ (by decide))]
  show some (codeUnit _) = some c
  congr 1
  apply Fin.ext
  show (4096 * (c.val / 4096) + 256 * (c.val / 256 % 16) + 16 * (c.val / 16 % 16) + c.val % 16)
    % 65536 = c.val
  omega

theorem readString_unicode (c : CodeUnit) (t : JsString) :
    readString (unicodeEscape16 c ++ t) = (readString t).map fun r => (c :: r.1, r.2) := by
  show readString (92 :: 117 :: _ :: _ :: _ :: _ :: t) = _
  rw [readString.eq_def]
  simp only [if_neg (show ¬ (92 : CodeUnit) = 34 by decide), if_true, hexUnits_escape]

theorem readString_escapeUnit (c : CodeUnit) (t : JsString) :
    readString (escapeUnit c ++ t) = (readString t).map fun r => (c :: r.1, r.2) := by
  unfold escapeUnit
  by_cases h34 : c = 34
  · rw [if_pos h34, h34]
    exact readString_short (by decide) rfl t
  rw [if_neg h34]
  by_cases h92 : c = 92
  · rw [if_pos h92, h92]
    exact readString_short (by decide) rfl t
  rw [if_neg h92]
  by_cases h8 : c = 8
  · rw [if_pos h8, h8]
    exact readString_short (by decide) rfl t
  rw [if_neg h8]
  by_cases h9 : c = 9
  · rw [if_pos h9, h9]
    exact readString_short (by decide) rfl t
  rw [if_neg h9]
  by_cases h10 : c = 10
  · rw [if_pos h10, h10]
    exact readString_short (by decide) rfl t
  rw [if_neg h10]
  by_cases h12 : c = 12
  · rw [if_pos h12, h12]
    exact readString_short (by decide) rfl t
  rw [if_neg h12]
  by_cases h13 : c = 13
  · rw [if_pos h13, h13]
    exact readString_short (by decide) rfl t
  rw [if_neg h13]
  by_cases hescaped : c.val < 32 ∨ isHighSurrogate c ∨ isLowSurrogate c
  · rw [if_pos hescaped]
    exact readString_unicode c t
  · rw [if_neg hescaped]
    exact readString_plain h34 h92 (by omega) t

theorem surrogate_plain {c : CodeUnit} (h : 0xD800 ≤ c.val) : c ≠ 34 ∧ c ≠ 92 ∧ 32 ≤ c.val := by
  refine ⟨fun h34 => ?_, fun h92 => ?_, by omega⟩
  · rw [h34] at h
    exact absurd h (by decide)
  · rw [h92] at h
    exact absurd h (by decide)

/-- **a written string is read back**, lone surrogates included -/
theorem readString_escapeUnits (s rest : JsString) :
    readString (escapeUnits s ++ 34 :: rest) = some (s, rest) := by
  fun_induction escapeUnits s with
  | case1 =>
    exact readString_end rest
  | case2 c =>
    rw [readString_escapeUnit, readString_end]
    rfl
  | case3 c d s hpair ih =>
    have hc : 0xD800 ≤ c.val ∧ 0xD800 ≤ d.val := by
      simp only [isHighSurrogate, isLowSurrogate, Bool.and_eq_true, decide_eq_true_eq] at hpair
      omega
    obtain ⟨hc34, hc92, hc32⟩ := surrogate_plain hc.1
    obtain ⟨hd34, hd92, hd32⟩ := surrogate_plain hc.2
    show readString (c :: d :: (escapeUnits s ++ 34 :: rest)) = _
    rw [readString_plain hc34 hc92 hc32, readString_plain hd34 hd92 hd32, ih]
    rfl
  | case4 c d s hpair ih =>
    rw [List.append_assoc, readString_escapeUnit, ih]
    rfl

end Json
