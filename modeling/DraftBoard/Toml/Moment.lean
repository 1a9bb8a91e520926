/-!
# Dates and times

A date, a time of day, or both with an optional offset.  The text that is kept
has a capital `T` and `Z` and no idle zeros at the end of a fraction.
-/

namespace DraftBoard.Toml

/-- The value of a fixed count of digits, and the rest. -/
def fixedDigits? : Nat → Nat → List Char → Option (Nat × List Char)
  | 0, value, rest => some (value, rest)
  | count + 1, value, c :: rest =>
      if c.isDigit then fixedDigits? count (10 * value + (c.toNat - 48)) rest else none
  | _ + 1, _, [] => none

/-- Passes one character. -/
def mark? (expected : Char) : List Char → Option (List Char)
  | c :: rest => if c = expected then some rest else none
  | [] => none

/-- Days of a month. -/
def daysIn (year month : Nat) : Nat :=
  if month = 2 then
    if year % 4 = 0 ∧ (year % 100 ≠ 0 ∨ year % 400 = 0) then 29 else 28
  else if month = 4 ∨ month = 6 ∨ month = 9 ∨ month = 11 then 30
  else 31

/-- A date: its text and the rest. -/
def date? (text : List Char) : Option (List Char × List Char) := do
  let (year, rest) ← fixedDigits? 4 0 text
  let (month, rest) ← fixedDigits? 2 0 (← mark? '-' rest)
  let (day, rest) ← fixedDigits? 2 0 (← mark? '-' rest)
  if 1 ≤ month ∧ month ≤ 12 ∧ 1 ≤ day ∧ day ≤ daysIn year month then
    some (text.take 10, rest)
  else none

/-- A fraction of a second after its point: nine digits at most, idle zeros left out. -/
def fractionText (digits : List Char) : List Char :=
  match ((digits.take 9).reverse.dropWhile (· == '0')).reverse with
  | [] => ['.', '0']
  | kept => '.' :: kept

/-- The seconds of a time, which may be missing. -/
def seconds? : List Char → Option (List Char × List Char)
  | ':' :: rest => do
      let (second, after) ← fixedDigits? 2 0 rest
      if 60 < second then none
      else
        match after with
        | '.' :: more =>
            let digits := more.takeWhile Char.isDigit
            if digits.isEmpty then none
            else
              some (':' :: rest.take 2 ++ fractionText digits, more.dropWhile Char.isDigit)
        | _ => some (':' :: rest.take 2, after)
  | rest => some ([], rest)

/-- A time of day: its text and the rest. -/
def time? (text : List Char) : Option (List Char × List Char) := do
  let (hour, rest) ← fixedDigits? 2 0 text
  let (minute, rest) ← fixedDigits? 2 0 (← mark? ':' rest)
  let (seconds, rest) ← seconds? rest
  if hour ≤ 23 ∧ minute ≤ 59 then some (text.take 5 ++ seconds, rest) else none

/-- The offset that ends a date with a time, which may be missing. -/
def offset? : List Char → Option (List Char)
  | [] => some []
  | [c] => if c = 'Z' ∨ c = 'z' then some ['Z'] else none
  | sign :: rest => do
      let (hours, after) ← fixedDigits? 2 0 rest
      let (minutes, after) ← fixedDigits? 2 0 (← mark? ':' after)
      let zero := hours = 0 ∧ minutes = 0
      if (sign = '+' ∨ sign = '-') ∧ hours ≤ 23 ∧ minutes ≤ 59 ∧ after = [] then
        some ((if zero then '+' else sign) :: rest)
      else none

/-- The text of a date, a time or both, if the whole token is one. -/
def moment? (token : List Char) : Option (List Char) :=
  match date? token with
  | some (date, []) => some date
  | some (date, c :: rest) =>
      if c = 'T' ∨ c = 't' ∨ c = ' ' then do
        let (time, rest) ← time? rest
        some (date ++ 'T' :: time ++ (← offset? rest))
      else none
  | none =>
      match time? token with
      | some (time, []) => some time
      | _ => none

end DraftBoard.Toml
