/-!
# Calendar dates

An instant, counted in milliseconds from the start of 1970, as a date and time of day in the
proleptic Gregorian calendar. Years are shifted to start in March, so that the leap day comes last,
and to whole cycles of 400 years, of 146097 days each.
-/

namespace PreparedFilter

/-- A day of the Gregorian calendar. -/
structure Date where
  year : Int
  month : Nat
  day : Nat
  deriving DecidableEq

namespace Date

/-- The day that lies `days` after the first of January 1970. -/
def ofDays (days : Int) : Date :=
  let shifted := days + 719468
  let cycle := shifted.fdiv 146097
  let dayOfCycle := (shifted.fmod 146097).toNat
  let yearOfCycle :=
    (dayOfCycle - dayOfCycle / 1460 + dayOfCycle / 36524 - dayOfCycle / 146096) / 365
  let dayOfYear := dayOfCycle - (365 * yearOfCycle + yearOfCycle / 4 - yearOfCycle / 100)
  let month := (5 * dayOfYear + 2) / 153
  { year := cycle * 400 + (yearOfCycle : Int) + (if 10 ≤ month then 1 else 0)
    month := if month < 10 then month + 3 else month - 9
    day := dayOfYear - (153 * month + 2) / 5 + 1 }

/-- Decimal digits, at least `width` of them. -/
def padded (width n : Nat) : String :=
  let digits := Nat.toDigits 10 n
  String.ofList (List.replicate (width - digits.length) '0' ++ digits)

/-- A year of four digits is written plainly; any other with its sign. -/
def yearText (year : Int) : String :=
  if 0 ≤ year ∧ year ≤ 9999 then padded 4 year.toNat
  else (if year < 0 then "-" else "+") ++ padded 4 year.natAbs

/-- An instant in universal time, with the milliseconds if there are any. -/
def instantText (milliseconds : Int) : String :=
  let seconds := milliseconds.fdiv 1000
  let fraction := (milliseconds.fmod 1000).toNat
  let date := ofDays (seconds.fdiv 86400)
  let time := (seconds.fmod 86400).toNat
  yearText date.year ++ "-" ++ padded 2 date.month ++ "-" ++ padded 2 date.day
    ++ "T" ++ padded 2 (time / 3600) ++ ":" ++ padded 2 (time / 60 % 60)
    ++ ":" ++ padded 2 (time % 60)
    ++ (if fraction = 0 then "" else "." ++ padded 3 fraction) ++ "Z"

example : ofDays 0 = ⟨1970, 1, 1⟩ := by decide
example : ofDays (-1) = ⟨1969, 12, 31⟩ := by decide
example : ofDays 11016 = ⟨2000, 2, 29⟩ := by decide

end Date

end PreparedFilter
