import Mathlib.Data.List.Sort
import Mathlib.Tactic.Linarith

/-!
# JSON values and their canonical text

Strings are sequences of UTF-16 code units, as JavaScript has them.

* `JsString`, `utf16`          strings, and those that are written down in the source;
* `Number`, `JsonValue`          what `JSON.parse` returns;
* `quote`                      `JSON.stringify` of a string, lone surrogates escaped;
* `codeUnitLt`                 their order;
* `canonicalJson`              the text with sorted keys;
* `canonicalByteLength`        how many bytes it has in UTF-8;
* `length_array`, `length_object`   the bytes of a text, part by part.
-/

namespace Json

abbrev CodeUnit := Fin 65536

instance units_ne_zero : NeZero 65536 := ⟨by decide⟩

abbrev JsString := List CodeUnit

def codeUnit (n : Nat) : CodeUnit := Fin.ofNat 65536 n

def utf16Char (c : Char) : JsString :=
  if c.toNat < 0x10000 then [codeUnit c.toNat]
  else [codeUnit (0xD800 + (c.toNat - 0x10000) / 0x400),
    codeUnit (0xDC00 + (c.toNat - 0x10000) % 0x400)]

def utf16Chars (cs : List Char) : JsString := cs.flatMap utf16Char

def utf16 (s : String) : JsString := utf16Chars s.toList

/-- `left < right`: the order of code units -/
def codeUnitLt : JsString → JsString → Bool
  | [], [] => false
  | [], _ :: _ => true
  | _ :: _, [] => false
  | a :: s, b :: t => a.val < b.val || (a.val == b.val && codeUnitLt s t)

/-! ## numbers -/

def isDigit (c : CodeUnit) : Bool := 48 ≤ c.val && c.val ≤ 57

def maxSafe : Nat := 2 ^ 53 - 1

/-- an integer that a double holds exactly, and its neighbours too -/
structure SafeInteger where
  val : Int
  safe : val.natAbs ≤ maxSafe
  deriving DecidableEq

def SafeInteger.text (n : SafeInteger) : JsString :=
  utf16Chars (if n.val < 0 then '-' :: Nat.toDigits 10 n.val.natAbs
    else Nat.toDigits 10 n.val.natAbs)

/-- where a reader of a number stands -/
inductive NumberState where
  | start
  | minus
  | zero
  | int
  | point
  | frac
  | exp
  | expSign
  | expDigits
  deriving DecidableEq

def NumberState.step (q : NumberState) (c : CodeUnit) : Option NumberState :=
  match q with
  | start => if c = 45 then some minus else if c = 48 then some zero
    else if isDigit c then some int else none
  | minus => if c = 48 then some zero else if isDigit c then some int else none
  | zero => if c = 46 then some point else if c = 101 then some exp else none
  | int => if isDigit c then some int else if c = 46 then some point
    else if c = 101 then some exp else none
  | point => if isDigit c then some frac else none
  | frac => if isDigit c then some frac else if c = 101 then some exp else none
  | exp => if c = 43 ∨ c = 45 then some expSign else none
  | expSign => if isDigit c then some expDigits else none
  | expDigits => if isDigit c then some expDigits else none

def NumberState.done : NumberState → Bool
  | zero | int | frac | expDigits => true
  | _ => false

/-- the texts that `Number.prototype.toString` writes are of this grammar -/
def isNumberText (text : JsString) : Bool :=
  (text.foldlM NumberState.step .start).any NumberState.done

/-- a finite double that is no safe integer, by its text -/
structure NumberText where
  text : JsString
  number : isNumberText text
  notSafe : ∀ n : SafeInteger, n.text ≠ text
  deriving DecidableEq

inductive Number where
  | safe (n : SafeInteger)
  | negativeZero
  | other (n : NumberText)
  deriving DecidableEq

/-- `Number.prototype.toString` -/
def Number.text : Number → JsString
  | .safe n => n.text
  | .negativeZero => [48]
  | .other n => n.text

/-! ## values -/

inductive JsonValue where
  | null
  | bool (b : Bool)
  | num (n : Number)
  | str (s : JsString)
  | arr (values : List JsonValue)
  | obj (entries : List (JsString × JsonValue))

/-! ## text -/

def isHighSurrogate (c : CodeUnit) : Bool := 0xD800 ≤ c.val && c.val < 0xDC00

def isLowSurrogate (c : CodeUnit) : Bool := 0xDC00 ≤ c.val && c.val < 0xE000

def hexUnit (n : Nat) : CodeUnit := if n < 10 then codeUnit (48 + n) else codeUnit (87 + n)

/-- `\u` and four digits -/
def unicodeEscape16 (c : CodeUnit) : JsString :=
  [92, 117, hexUnit (c.val / 4096), hexUnit (c.val / 256 % 16), hexUnit (c.val / 16 % 16),
    hexUnit (c.val % 16)]

/-- a code unit that is no half of a pair -/
def escapeUnit (c : CodeUnit) : JsString :=
  if c = 34 then [92, 34]
  else if c = 92 then [92, 92]
  else if c = 8 then [92, 98]
  else if c = 9 then [92, 116]
  else if c = 10 then [92, 110]
  else if c = 12 then [92, 102]
  else if c = 13 then [92, 114]
  else if c.val < 32 ∨ isHighSurrogate c ∨ isLowSurrogate c then unicodeEscape16 c
  else [c]

/-- the characters of a string; a lone surrogate becomes U+FFFD -/
def characters : JsString → List Char
  | [] => []
  | [c] => [if isHighSurrogate c || isLowSurrogate c then '\uFFFD' else Char.ofNat c.val]
  | c :: d :: rest =>
    if isHighSurrogate c && isLowSurrogate d then
      Char.ofNat (0x10000 + (c.val - 0xD800) * 0x400 + (d.val - 0xDC00)) :: characters rest
    else if isHighSurrogate c || isLowSurrogate c then '\uFFFD' :: characters (d :: rest)
    else Char.ofNat c.val :: characters (d :: rest)

def textOf (s : JsString) : String := String.ofList (characters s)

def escapeUnits : JsString → JsString
  | [] => []
  | [c] => escapeUnit c
  | c :: d :: rest =>
    if isHighSurrogate c && isLowSurrogate d then c :: d :: escapeUnits rest
    else escapeUnit c ++ escapeUnits (d :: rest)

/-- `JSON.stringify` of a string -/
def quote16 (s : JsString) : JsString := 34 :: (escapeUnits s ++ [34])

/-- the parts between `open` and `close`, separated by commas -/
def listed (opening closing : CodeUnit) (parts : List JsString) : JsString :=
  opening :: (List.intercalate [44] parts ++ [closing])

def arrayText (parts : List JsString) : JsString := listed 91 93 parts

def memberText (entry : JsString × JsString) : JsString := quote16 entry.1 ++ 58 :: entry.2

def objectText (entries : List (JsString × JsString)) : JsString :=
  listed 123 125 (entries.map memberText)

/-- `Object.keys(record).sort()`: by code units -/
def sortEntries (entries : List (JsString × JsString)) : List (JsString × JsString) :=
  entries.insertionSort fun a b => !codeUnitLt b.1 a.1

mutual

def canonicalJson : JsonValue → JsString
  | .null => utf16 "null"
  | .bool true => utf16 "true"
  | .bool false => utf16 "false"
  | .num n => n.text
  | .str s => quote16 s
  | .arr values => arrayText (canonicalAll values)
  | .obj entries => objectText (sortEntries (canonicalEntries entries))

def canonicalAll : List JsonValue → List JsString
  | [] => []
  | v :: rest => canonicalJson v :: canonicalAll rest

def canonicalEntries : List (JsString × JsonValue) → List (JsString × JsString)
  | [] => []
  | (name, v) :: rest => (name, canonicalJson v) :: canonicalEntries rest

end

/-- what a code unit that is no half of a pair takes in UTF-8; a lone surrogate is replaced -/
def unitBytes (c : CodeUnit) : Nat := if c.val < 0x80 then 1 else if c.val < 0x800 then 2 else 3

/-- `new TextEncoder().encode(s).byteLength` -/
def utf8Length : JsString → Nat
  | [] => 0
  | [c] => unitBytes c
  | c :: d :: rest =>
    if isHighSurrogate c && isLowSurrogate d then 4 + utf8Length rest
    else unitBytes c + utf8Length (d :: rest)

def canonicalByteLength (v : JsonValue) : Nat := utf8Length (canonicalJson v)

/-! ## the order of strings -/

theorem codeUnitLt_irrefl (s : JsString) : codeUnitLt s s = false := by
  induction s with
  | nil => rfl
  | cons a s ih => simp [codeUnitLt, ih]

theorem codeUnitLt_trans : ∀ {s t u : JsString}, codeUnitLt s t → codeUnitLt t u → codeUnitLt s u
  | [], _, [], _, h => by cases ‹JsString› <;> simp [codeUnitLt] at h
  | [], _, _ :: _, _, _ => rfl
  | _ :: _, [], _, h, _ => by simp [codeUnitLt] at h
  | _ :: _, _ :: _, [], _, h => by simp [codeUnitLt] at h
  | a :: s, b :: t, c :: u, h, h' => by
    simp only [codeUnitLt, Bool.or_eq_true, Bool.and_eq_true, decide_eq_true_eq, beq_iff_eq] at h h' ⊢
    rcases h with h | ⟨h, hs⟩
    · rcases h' with h' | ⟨h', -⟩
      · exact .inl (h.trans h')
      · exact .inl (h' ▸ h)
    · rcases h' with h' | ⟨h', ht⟩
      · exact .inl (h ▸ h')
      · exact .inr ⟨h.trans h', codeUnitLt_trans hs ht⟩

theorem codeUnitLt_total : ∀ {s t : JsString}, s ≠ t → codeUnitLt s t ∨ codeUnitLt t s
  | [], [], h => absurd rfl h
  | [], _ :: _, _ => .inl rfl
  | _ :: _, [], _ => .inr rfl
  | a :: s, b :: t, h => by
    simp only [codeUnitLt, Bool.or_eq_true, Bool.and_eq_true, decide_eq_true_eq, beq_iff_eq]
    rcases Nat.lt_trichotomy a.val b.val with hab | hab | hab
    · exact .inl (.inl hab)
    · have hst : s ≠ t := fun he => h (by rw [he, Fin.ext hab])
      exact (codeUnitLt_total hst).imp (fun h => .inr ⟨hab, h⟩) fun h => .inr ⟨hab.symm, h⟩
    · exact .inr (.inl hab)

/-! ## bytes -/

/-- the text starts with an ASCII character, so that no pair ends in it -/
def Plain (t : JsString) : Prop := ∀ c ∈ t.head?, c.val < 0x80

theorem Plain.cons {c : CodeUnit} {t : JsString} (h : c.val < 0x80) : Plain (c :: t) := by
  intro d hd
  cases Option.some.inj hd
  exact h

theorem isLowSurrogate_plain {c : CodeUnit} (h : c.val < 0x80) : isLowSurrogate c = false := by
  simp [isLowSurrogate]
  omega

theorem utf8Length_cons {c : CodeUnit} {t : JsString} (h : Plain t) :
    utf8Length (c :: t) = unitBytes c + utf8Length t := by
  cases t with
  | nil => rfl
  | cons d t => simp [utf8Length, isLowSurrogate_plain (h d rfl)]

theorem utf8Length_append {b : JsString} (hb : Plain b) (a : JsString) :
    utf8Length (a ++ b) = utf8Length a + utf8Length b := by
  fun_induction utf8Length a with
  | case1 => simp
  | case2 c => exact utf8Length_cons hb
  | case3 c d rest hpair ih =>
    show utf8Length (c :: d :: (rest ++ b)) = _
    rw [utf8Length, if_pos hpair, ih]
    omega
  | case4 c d rest hpair ih =>
    show utf8Length (c :: d :: (rest ++ b)) = _
    rw [utf8Length, if_neg hpair]
    have ih : utf8Length (d :: (rest ++ b)) = utf8Length (d :: rest) + utf8Length b := ih
    omega

theorem utf8Length_ascii {c : CodeUnit} (h : c.val < 0x80) (t : JsString) :
    utf8Length (c :: t) = 1 + utf8Length t := by
  have hhigh : isHighSurrogate c = false := by
    simp [isHighSurrogate]
    omega
  cases t with
  | nil => simp [utf8Length, unitBytes, h]
  | cons d t => simp [utf8Length, hhigh, unitBytes, h]

/-- the parts with the comma or the bracket behind each, and the opening bracket -/
theorem length_listed {opening closing : CodeUnit} (ho : opening.val < 0x80)
    (hc : closing.val < 0x80) {parts : List JsString} (hne : parts ≠ []) :
    utf8Length (listed opening closing parts) = 1 + (parts.map fun p => 1 + utf8Length p).sum := by
  have hjoined : ∀ {l : List JsString}, l ≠ [] →
      utf8Length (List.intercalate [44] l ++ [closing]) = (l.map fun p => 1 + utf8Length p).sum := by
    intro l
    induction l with
    | nil => exact fun h => absurd rfl h
    | cons p l ih =>
      intro _
      cases l with
      | nil =>
        simp only [List.intercalate_singleton, List.map_cons, List.map_nil, List.sum_cons, List.sum_nil]
        rw [utf8Length_append (Plain.cons hc), utf8Length_ascii hc]
        simp only [utf8Length]
        omega
      | cons q l =>
        have hcomma : Plain ([44] ++ (List.intercalate [44] (q :: l) ++ [closing])) :=
          Plain.cons (by decide)
        rw [List.intercalate_cons_cons, List.append_assoc, List.append_assoc,
          utf8Length_append hcomma, List.singleton_append, utf8Length_ascii (by decide),
          ih (by simp)]
        simp only [List.map_cons, List.sum_cons]
        omega
  rw [listed, utf8Length_ascii ho, hjoined hne]

theorem length_member (entry : JsString × JsString) :
    utf8Length (memberText entry) = utf8Length (quote16 entry.1) + 1 + utf8Length entry.2 := by
  rw [memberText, utf8Length_append (Plain.cons (by decide)), utf8Length_ascii (by decide)]
  omega

/-- the members of an object with the comma or the bracket behind each -/
theorem length_object {entries : List (JsString × JsString)} (hne : entries ≠ []) :
    utf8Length (objectText entries) =
      1 + (entries.map fun e => 2 + utf8Length (quote16 e.1) + utf8Length e.2).sum := by
  rw [objectText, length_listed (by decide) (by decide) (by simpa using hne), List.map_map]
  congr 3
  funext e
  simp only [Function.comp_apply, length_member]
  omega

/-- one value of an object is replaced by another -/
theorem length_object_set (before after : List (JsString × JsString)) (name : JsString)
    (text text' : JsString) :
    utf8Length (objectText (before ++ (name, text) :: after)) + utf8Length text' =
      utf8Length (objectText (before ++ (name, text') :: after)) + utf8Length text := by
  rw [length_object (by simp), length_object (by simp)]
  simp only [List.map_append, List.map_cons, List.sum_append, List.sum_cons]
  omega

/-- an object gets one more member -/
theorem length_object_concat {entries : List (JsString × JsString)} (hne : entries ≠ [])
    (name text : JsString) : utf8Length (objectText (entries ++ [(name, text)])) =
      utf8Length (objectText entries) + (2 + utf8Length (quote16 name) + utf8Length text) := by
  rw [length_object (by simp), length_object hne]
  simp only [List.map_append, List.map_cons, List.map_nil, List.sum_append, List.sum_cons, List.sum_nil]
  omega

theorem canonicalAll_eq (values : List JsonValue) : canonicalAll values = values.map canonicalJson := by
  induction values with
  | nil => rfl
  | cons v values ih => rw [canonicalAll, ih, List.map_cons]

theorem canonicalEntries_eq (entries : List (JsString × JsonValue)) :
    canonicalEntries entries = entries.map fun e => (e.1, canonicalJson e.2) := by
  induction entries with
  | nil => rfl
  | cons e entries ih => rw [canonicalEntries, ih, List.map_cons]

theorem canonicalJson_arr (values : List JsonValue) :
    canonicalJson (.arr values) = arrayText (values.map canonicalJson) := by
  rw [canonicalJson, canonicalAll_eq]

theorem canonicalJson_obj (entries : List (JsString × JsonValue)) : canonicalJson (.obj entries) =
    objectText (sortEntries (entries.map fun e => (e.1, canonicalJson e.2))) := by
  rw [canonicalJson, canonicalEntries_eq]

/-- the elements of an array with the comma or the bracket behind each -/
theorem length_array {values : List JsonValue} (hne : values ≠ []) :
    canonicalByteLength (.arr values) =
      1 + (values.map fun v => 1 + canonicalByteLength v).sum := by
  rw [canonicalByteLength, canonicalJson_arr, arrayText,
    length_listed (by decide) (by decide) (by simpa using hne), List.map_map]
  rfl

end Json
