import Mathlib.Tactic.Common

/-!
# JSON text

Strings, integers and lists as `JSON.stringify` writes them.

* `quote`       a string;
* `array`       a list of written values.
-/

namespace Json

def hexDigit (n : Nat) : Char := "0123456789abcdef".toList.getD n '0'

/-- control characters without a short form -/
def unicodeEscape (n : Nat) : String :=
  "\\u00" ++ String.ofList [hexDigit (n / 16), hexDigit (n % 16)]

def escape (c : Char) : String :=
  if c = '"' then "\\\""
  else if c = '\\' then "\\\\"
  else
    match c.toNat with
    | 8 => "\\b"
    | 9 => "\\t"
    | 10 => "\\n"
    | 12 => "\\f"
    | 13 => "\\r"
    | n => if n < 32 then unicodeEscape n else String.singleton c

def quote (s : String) : String := "\"" ++ String.join (s.toList.map escape) ++ "\""

def array (values : List String) : String := "[" ++ String.intercalate "," values ++ "]"

end Json
