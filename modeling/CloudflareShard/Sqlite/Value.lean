import Mathlib.Data.Rat.Defs
import Mathlib.Tactic.Linarith

/-!
# SQLite values

What a column stores, how a value is converted when it is stored or compared, and when two values
are equal.

* `Double`, `Value`            the storage classes;
* `Rules`                      how texts and numbers are read and written;
* `Affinity.apply`             the conversion of a value to a column's affinity;
* `Column.store`, `Column.matches`   a value on its way into a column, `"column" = ?`.
-/

namespace Sqlite

/-! ## storage classes -/

/-- a REAL: no NaN is stored, and the sign of a zero is not kept -/
inductive Double where
  | finite (q : Rat)
  | infinite (negative : Bool)
  deriving DecidableEq

inductive Value where
  | null
  | integer (n : Int)
  | real (x : Double)
  | text (s : String)
  | blob (bytes : List UInt8)
  deriving DecidableEq

/-- rounds to 53 significant bits, ties to even -/
def round53 (n : Nat) : Nat :=
  let unit := 2 ^ (n.log2 - 52)
  let q := n / unit
  let r := n % unit
  if unit < 2 * r ∨ (unit = 2 * r ∧ q % 2 = 1) then (q + 1) * unit else q * unit

/-- the REAL next to an INTEGER -/
def Double.ofInt : Int → Double
  | .ofNat n => .finite (round53 n)
  | .negSucc n => .finite (-(round53 (n + 1) : Rat))

/-- the INTEGER that a REAL stands for exactly -/
def Double.toInt? : Double → Option Int
  | .finite q => if q.den = 1 ∧ -2 ^ 63 ≤ q.num ∧ q.num < 2 ^ 63 then some q.num else none
  | .infinite _ => none

inductive Numeric where
  | integer (n : Int)
  | real (x : Double)

def Numeric.value : Numeric → Value
  | integer n => .integer n
  | real x => .real x

def Numeric.double : Numeric → Double
  | integer n => .ofInt n
  | real x => x

/-- `number` reads a well-formed literal, `write` is the text of a REAL -/
structure Rules where
  number : String → Option Numeric
  write : Double → String

/-! ## affinity -/

inductive Affinity where
  | text
  | numeric
  | integer
  | real
  | blob
  deriving DecidableEq

/-- a number as NUMERIC columns hold it -/
def Numeric.shorten : Numeric → Value
  | integer n => .integer n
  | real x => match x.toInt? with
    | some n => .integer n
    | none => .real x

def toNumeric (R : Rules) : Value → Value
  | .text s => (R.number s).elim (.text s) Numeric.shorten
  | .real x => (Numeric.real x).shorten
  | v => v

def toReal (R : Rules) : Value → Value
  | .text s => (R.number s).elim (.text s) fun n => .real n.double
  | .integer n => .real (.ofInt n)
  | v => v

def toText (R : Rules) : Value → Value
  | .integer n => .text (toString n)
  | .real x => .text (R.write x)
  | v => v

def Affinity.apply (R : Rules) : Affinity → Value → Value
  | text => toText R
  | numeric | integer => toNumeric R
  | real => toReal R
  | blob => id

/-- the affinity that a column gives to what it is compared with -/
def Affinity.compared : Affinity → Affinity
  | integer | real | numeric => numeric
  | a => a

theorem shorten_shorten (R : Rules) (n : Numeric) : toNumeric R n.shorten = n.shorten := by
  cases n with
  | integer n => rfl
  | real x =>
    cases h : x.toInt? with
    | some n => simp [Numeric.shorten, h, toNumeric]
    | none => simp [Numeric.shorten, h, toNumeric]

theorem apply_apply (R : Rules) (a : Affinity) (v : Value) :
    a.apply R (a.apply R v) = a.apply R v := by
  have hnumeric : toNumeric R (toNumeric R v) = toNumeric R v := by
    cases v with
    | text s =>
      cases h : R.number s with
      | none => simp [toNumeric, h]
      | some n =>
        have htext : toNumeric R (.text s) = n.shorten := by simp [toNumeric, h]
        rw [htext, shorten_shorten]
    | real x => exact shorten_shorten R (.real x)
    | _ => rfl
  cases a with
  | text => cases v <;> rfl
  | numeric => exact hnumeric
  | integer => exact hnumeric
  | real =>
    cases v with
    | text s => cases h : R.number s <;> simp [Affinity.apply, toReal, h]
    | _ => rfl
  | blob => rfl

/-! ## equality -/

inductive Collation where
  | binary
  | nocase
  | rtrim
  deriving DecidableEq

def foldCase (s : String) : String :=
  String.ofList (s.toList.map fun c => if 'A' ≤ c ∧ c ≤ 'Z' then Char.ofNat (c.toNat + 32) else c)

def Collation.key : Collation → String → String
  | binary, s => s
  | nocase, s => foldCase s
  | rtrim, s => String.ofList (s.toList.reverse.dropWhile (· = ' ')).reverse

/-- `a = b` is true; with a NULL it never is -/
def same (c : Collation) : Value → Value → Bool
  | .integer m, .integer n => m = n
  | .real x, .real y => x = y
  | .integer n, .real (.finite q) | .real (.finite q), .integer n => (n : Rat) = q
  | .text s, .text t => c.key s = c.key t
  | .blob b, .blob b' => b = b'
  | _, _ => false

/-! ## columns -/

structure Column where
  name : String
  affinity : Affinity
  collation : Collation
  default : Value

def Column.store (R : Rules) (c : Column) (v : Value) : Value := c.affinity.apply R v

/-- `"column" = ?` for a stored value and a parameter -/
def Column.matches (R : Rules) (c : Column) (stored param : Value) : Bool :=
  same c.collation stored (c.affinity.compared.apply R param)

theorem Column.store_store (R : Rules) (c : Column) (v : Value) :
    c.store R (c.store R v) = c.store R v := apply_apply R c.affinity v

theorem same_null (c : Collation) (v : Value) : same c v .null = false := by cases v <;> rfl

/-- what a value is compared by -/
inductive Compared where
  | number (q : Rat)
  | infinite (negative : Bool)
  | text (key : String)
  | blob (bytes : List UInt8)

def Value.compared (c : Collation) : Value → Option Compared
  | null => none
  | integer n => some (.number n)
  | real (.finite q) => some (.number q)
  | real (.infinite negative) => some (.infinite negative)
  | text s => some (.text (c.key s))
  | blob bytes => some (.blob bytes)

theorem same_iff {c : Collation} {u v : Value} :
    same c u v = true ↔ u.compared c = v.compared c ∧ u.compared c ≠ none := by
  have hcast : ∀ m n : Int, (m : Rat) = n ↔ m = n := fun m n => Rat.intCast_inj
  rcases u with _ | m | (q | b) | s | bs <;> rcases v with _ | n | (q' | b') | s' | bs' <;>
    simp [same, Value.compared, hcast, eq_comm]

/-- what equals the same value is equal -/
theorem same_of_same {c : Collation} {u v w : Value} (hu : same c u w = true) (hv : same c v w = true) :
    same c u v = true := by
  obtain ⟨hu, hne⟩ := same_iff.mp hu
  obtain ⟨hv, -⟩ := same_iff.mp hv
  exact same_iff.mpr ⟨hu.trans hv.symm, hne⟩

theorem Column.matches_null (R : Rules) (c : Column) (stored : Value) :
    c.matches R stored .null = false := by
  unfold Column.matches
  cases c.affinity <;> exact same_null _ _

/-- a text column without conversions stores a text and finds it again -/
theorem Column.matches_store_text {R : Rules} {c : Column} (h : c.affinity = .text ∨ c.affinity = .blob)
    (s : String) : c.matches R (c.store R (.text s)) (.text s) = true := by
  unfold Column.matches Column.store
  rcases h with h | h <;> simp [h, Affinity.apply, Affinity.compared, toText, same]

/-! ## texts only -/

/-- no text reads as a number, so that only texts and NULL are stored and compared -/
def textRules : Rules := { number := fun _ => none, write := fun _ => "" }

def textColumn (name : String) : Column :=
  { name, affinity := .text, collation := .binary, default := .null }

end Sqlite
