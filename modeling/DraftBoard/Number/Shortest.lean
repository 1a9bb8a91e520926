import DraftBoard.Number.Binary64

/-!
# Shortest decimal text

`shortestDigits` gives a nonzero number the fewest decimal digits that read back
as that number, and of those the nearest ones.  A `DecimalFormat` says how the
digits are laid out.
-/

namespace DraftBoard

namespace Binary64

/-- The reals that read back as a positive number, in quarters of its last
binary place: the ends, and whether they belong to it. -/
structure Interval where
  low : Nat
  value : Nat
  high : Nat
  closed : Bool

/-- The interval of a mantissa.  Below a power of two the neighbours are twice as
dense, except at the bottom of the range. -/
def interval (x : Binary64) : Interval where
  low := 4 * x.mantissa - (if x.mantissa = 0x10000000000000 ∧ leastExponent < x.exponent then 1 else 2)
  value := 4 * x.mantissa
  high := 4 * x.mantissa + 2
  closed := x.mantissa % 2 == 0

/-- Which of two equally near decimals is taken. -/
inductive Tie where
  | toEven
  | up
deriving DecidableEq, Repr

/-- The multiple of `10 ^ place` in the interval of a number, if there is one; of
two the nearer one.  A multiple in the interval implies that one of the two
neighbours of the number is there. -/
def onGrid (tie : Tie) (x : Binary64) (place : Int) : Option (Nat × Int) :=
  let room := x.interval
  let up := powerAbove (x.exponent - 2) * Nat.pow 10 (-place).toNat
  let den := powerBelow (x.exponent - 2) * Nat.pow 10 place.toNat
  let inside (n : Nat) : Bool :=
    if room.closed then room.low * up ≤ n * den && n * den ≤ room.high * up
    else room.low * up < n * den && n * den < room.high * up
  let below := room.value * up / den
  let rest := 2 * (room.value * up % den)
  match inside below, inside (below + 1) with
  | true, true =>
      let above := den < rest || (rest == den && (tie == .up || below % 2 == 1))
      some (if above then below + 1 else below, place)
  | true, false => some (below, place)
  | false, true => some (below + 1, place)
  | false, false => none

/-- The coarsest decimal grid that can meet the interval of a number. -/
def coarsestPlace (x : Binary64) : Int :=
  (x.mantissa.log2 + x.exponent) * 30103 / 100000 + 2

/-- The shortest decimal that reads back as a number other than zero: a
significand and an exponent of ten. -/
def shortestDigits (tie : Tie) (x : Binary64) : Nat × Int :=
  ((List.range 24).findSome? fun step => x.onGrid tie (x.coarsestPlace - (step : Nat))).getD (0, 0)

end Binary64

/-- How a number is laid out in decimal. -/
structure DecimalFormat where
  /-- Which of two equally near digit strings is written. -/
  tie : Binary64.Tie
  /-- Whether a number whose first digit has this exponent is written without one. -/
  positional : Int → Bool
  /-- Whether an integral positional value ends in `.0`. -/
  pointed : Bool

namespace DecimalFormat

/-- Digits with a point after the digit of exponent zero; `first` is the exponent
of the first digit. -/
def layPositional (format : DecimalFormat) (digits : List Char) (first : Int) : List Char :=
  if first < 0 then
    '0' :: '.' :: List.replicate (-first - 1).toNat '0' ++ digits
  else
    let whole := first.toNat + 1
    if digits.length ≤ whole then
      digits ++ List.replicate (whole - digits.length) '0' ++
        (if format.pointed then ['.', '0'] else [])
    else digits.take whole ++ '.' :: digits.drop whole

/-- Digits with a point after the first one and a signed exponent. -/
def layScientific (digits : List Char) (first : Int) : List Char :=
  digits.take 1 ++ (if digits.length ≤ 1 then [] else '.' :: digits.drop 1) ++
    'e' :: (if first < 0 then '-' else '+') :: Nat.toDigits 10 first.natAbs

/-- The shortest text of a number in this format. -/
def write (format : DecimalFormat) (x : Binary64) : List Char :=
  let body :=
    if x.isZero then format.layPositional ['0'] 0
    else
      let (significand, place) := x.shortestDigits format.tie
      let digits := Nat.toDigits 10 significand
      let first := place + digits.length - 1
      if format.positional first then format.layPositional digits first
      else layScientific digits first
  if x.negative then '-' :: body else body

end DecimalFormat

end DraftBoard
