import CloudflareShard.Json.Value

/-!
# Dates

* `civilFromDays`   year, month and day of a day after 1970-01-01;
* `toISOString`     `new Date(ms).toISOString()`;
* `parseISO`        the time of a text in that form.
-/

namespace Json

/-- in years that begin in March, 400 of them are 146097 days -/
def civilFromDays (days : Nat) : Nat × Nat × Nat :=
  let z := days + 719468
  let era := z / 146097
  let dayOfEra := z % 146097
  let yearOfEra := (dayOfEra - dayOfEra / 1460 + dayOfEra / 36524 - dayOfEra / 146096) / 365
  let dayOfYear := dayOfEra - (365 * yearOfEra + yearOfEra / 4 - yearOfEra / 100)
  let march := (5 * dayOfYear + 2) / 153
  let day := dayOfYear - (153 * march + 2) / 5 + 1
  let month := if march < 10 then march + 3 else march - 9
  (yearOfEra + era * 400 + (if month ≤ 2 then 1 else 0), month, day)

/-- `n` with at least `width` digits -/
def padded (width n : Nat) : List Char :=
  let digits := Nat.toDigits 10 n
  List.replicate (width - digits.length) '0' ++ digits

/-- years behind 9999 have six digits and a sign -/
def yearText (year : Nat) : List Char :=
  if year ≤ 9999 then padded 4 year else '+' :: padded 6 year

def toISOString (ms : Nat) : JsString :=
  let (year, month, day) := civilFromDays (ms / 86400000)
  let time := ms % 86400000
  utf16Chars (yearText year ++ '-' :: padded 2 month ++ '-' :: padded 2 day
    ++ 'T' :: padded 2 (time / 3600000) ++ ':' :: padded 2 (time / 60000 % 60)
    ++ ':' :: padded 2 (time / 1000 % 60) ++ '.' :: padded 3 (time % 1000) ++ ['Z'])

/-- the inverse of `civilFromDays` -/
def daysFromCivil (year month day : Nat) : Nat :=
  let march := if month ≤ 2 then month + 9 else month - 3
  let year := if month ≤ 2 then year - 1 else year
  let dayOfYear := (153 * march + 2) / 5 + day - 1
  let yearOfEra := year % 400
  year / 400 * 146097 + (yearOfEra * 365 + yearOfEra / 4 - yearOfEra / 100 + dayOfYear) - 719468

def digitsValue (digits : JsString) : Nat := digits.foldl (fun n c => 10 * n + (c.val - 48)) 0

/-- no text but the one that `toISOString` writes has a time here -/
def parseISO (s : JsString) : Option Nat :=
  let at' := fun (start length : Nat) => digitsValue ((s.drop start).take length)
  let ms := daysFromCivil (at' 0 4) (at' 5 2) (at' 8 2) * 86400000
    + at' 11 2 * 3600000 + at' 14 2 * 60000 + at' 17 2 * 1000 + at' 20 3
  if toISOString ms = s then some ms else none

example : parseISO (utf16 "2000-02-29T12:34:56.789Z") = some 951827696789 := by decide +kernel

example : toISOString 951827696789 = utf16 "2000-02-29T12:34:56.789Z" := by decide +kernel

end Json
