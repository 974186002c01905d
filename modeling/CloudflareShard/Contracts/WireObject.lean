import CloudflareShard.Contracts.Wire
import CloudflareShard.Json.Encode

/-!
# Objects and texts that the source writes out

* `characters_utf16Chars`, `utf16_injective`   two literals are two strings;
* `Text`, `said`, `Text.after`, `Text.then`    strings that are not empty;
* `object`                       an object literal;
* `get_object`, `has_object`, `keys_object`    its properties;
* `jsonInteger`                  an integer as a number.
-/

namespace Json

theorem characters_utf16Chars (cs : List Char) : characters (utf16Chars cs) = cs := by
  induction cs with
  | nil => rfl
  | cons c cs ih =>
    show characters (utf16Char c ++ utf16Chars cs) = _
    have hvalid : c.toNat < 0xD800 ∨ 0xDFFF < c.toNat ∧ c.toNat < 0x110000 := c.valid
    unfold utf16Char
    split
    · rename_i hlt
      have hval : (codeUnit c.toNat).val = c.toNat := Nat.mod_eq_of_lt hlt
      have hplain : isSurrogate (codeUnit c.toNat) = false := by
        simp only [isSurrogate, isHighSurrogate, isLowSurrogate, hval, Bool.or_eq_false_iff,
          Bool.and_eq_false_iff, decide_eq_false_iff_not]
        omega
      rw [List.singleton_append, characters_unit hplain, hval, Char.ofNat_toNat, ih]
    · rename_i hge
      have hmax : c.toNat < 0x110000 := by omega
      have hhigh : (codeUnit (0xD800 + (c.toNat - 0x10000) / 0x400)).val =
          0xD800 + (c.toNat - 0x10000) / 0x400 := Nat.mod_eq_of_lt (by omega)
      have hlow : (codeUnit (0xDC00 + (c.toNat - 0x10000) % 0x400)).val =
          0xDC00 + (c.toNat - 0x10000) % 0x400 := Nat.mod_eq_of_lt (by omega)
      have hpair : isHighSurrogate (codeUnit (0xD800 + (c.toNat - 0x10000) / 0x400)) = true := by
        simp only [isHighSurrogate, hhigh, Bool.and_eq_true, decide_eq_true_eq]
        omega
      have hpair' : isLowSurrogate (codeUnit (0xDC00 + (c.toNat - 0x10000) % 0x400)) = true := by
        simp only [isLowSurrogate, hlow, Bool.and_eq_true, decide_eq_true_eq]
        omega
      have hback : 0x10000 + (0xD800 + (c.toNat - 0x10000) / 0x400 - 0xD800) * 0x400 +
          (0xDC00 + (c.toNat - 0x10000) % 0x400 - 0xDC00) = c.toNat := by omega
      show characters (_ :: _ :: utf16Chars cs) = _
      rw [characters_pair hpair hpair', hhigh, hlow, hback, Char.ofNat_toNat, ih]

theorem utf16_injective : Function.Injective utf16 := by
  intro s t h
  have hchars : s.toList = t.toList := by
    rw [← characters_utf16Chars s.toList, ← characters_utf16Chars t.toList]
    exact congrArg characters h
  exact String.toList_injective hchars

theorem utf16_beq (s t : String) : (utf16 s == utf16 t) = (s == t) := by
  rw [Bool.eq_iff_iff, beq_iff_eq, beq_iff_eq]
  exact utf16_injective.eq_iff

theorem utf16_ne_nil {s : String} (h : s ≠ "") : utf16 s ≠ [] := by
  intro hnil
  exact h (utf16_injective (hnil.trans (show [] = utf16 "" from rfl)))

end Json

namespace Wire
open Json

/-- a string that is not empty -/
abbrev Text := { s : JsString // s ≠ [] }

/-- a literal of the source -/
def said (s : String) (h : s ≠ "" := by decide) : Text := ⟨utf16 s, utf16_ne_nil h⟩

def Text.after (t : Text) (before : JsString) : Text := ⟨before ++ t.val, by simp [t.property]⟩

def Text.then (t : Text) (rest : JsString) : Text := ⟨t.val ++ rest, by simp [t.property]⟩

/-- an object literal -/
def object (fields : List (String × JsonValue)) : Entries := fields.map fun f => (utf16 f.1, f.2)

theorem get_object (fields : List (String × JsonValue)) (name : String) :
    get (object fields) name = fields.lookup name := by
  unfold get object
  induction fields with
  | nil => rfl
  | cons f fields ih =>
    rw [List.map_cons, List.find?_cons, utf16_beq, List.lookup_cons]
    by_cases h : f.1 = name
    · subst h
      simp
    · have h' : (name == f.1) = false := beq_false_of_ne (Ne.symm h)
      rw [beq_false_of_ne h, h']
      exact ih

theorem has_object (fields : List (String × JsonValue)) (name : String) :
    has (object fields) name = fields.any fun f => f.1 == name := by
  unfold has object
  rw [List.any_map]
  congr 1
  funext f
  exact utf16_beq f.1 name

theorem keys_object (fields : List (String × JsonValue)) :
    (object fields).map Prod.fst = fields.map fun f => utf16 f.1 := List.map_map

/-- an integer as a number; readers ask for safe integers, so that another double is as good as null -/
def jsonInteger (n : Int) : JsonValue :=
  if h : n.natAbs ≤ maxSafe then .num (.safe ⟨n, h⟩) else .null

theorem safeValue_jsonInteger {n : Int} (h : n.natAbs ≤ maxSafe) :
    safeValue (some (jsonInteger n)) = some n := by
  unfold jsonInteger
  rw [dif_pos h]
  rfl

end Wire
