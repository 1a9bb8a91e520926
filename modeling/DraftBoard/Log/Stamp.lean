/-!
# Time stamps

The time of a log line: a day of the calendar and the time of day at Greenwich, up
to microseconds.
-/

namespace DraftBoard.Log

/-- A day of the calendar. -/
structure Day where
  year : Int
  month : Nat
  day : Nat
deriving DecidableEq, Repr

/-- The day that is so many days after the first of January 1970.  Years are counted
from March within eras of 400 years, so that a leap day comes last. -/
def Day.ofNumber (number : Int) : Day :=
  let shifted := number + 719468
  let era := shifted / 146097
  let inEra := (shifted % 146097).toNat
  let year := (inEra - inEra / 1460 + inEra / 36524 - inEra / 146096) / 365
  let inYear := inEra - (365 * year + year / 4 - year / 100)
  let month := (5 * inYear + 2) / 153
  let day := inYear - (153 * month + 2) / 5 + 1
  if month < 10 then ⟨era * 400 + year, month + 3, day⟩
  else ⟨era * 400 + year + 1, month - 9, day⟩

/-- A number with zeros in front up to a width. -/
def zeroPadded (width value : Nat) : String :=
  let digits := toString value
  String.ofList (List.replicate (width - digits.length) '0') ++ digits

/-- The stamp of a time in microseconds since the first of January 1970. -/
def stamp (microseconds : Nat) : String :=
  let seconds := microseconds / 1000000
  let day := Day.ofNumber (seconds / 86400 : Nat)
  toString day.year ++ "-" ++ zeroPadded 2 day.month ++ "-" ++ zeroPadded 2 day.day ++ "T" ++
    zeroPadded 2 (seconds / 3600 % 24) ++ ":" ++ zeroPadded 2 (seconds / 60 % 60) ++ ":" ++
    zeroPadded 2 (seconds % 60) ++ "." ++ zeroPadded 6 (microseconds % 1000000) ++ "Z"

end DraftBoard.Log
