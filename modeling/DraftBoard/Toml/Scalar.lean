import DraftBoard.Text.Hex
import DraftBoard.Toml.Basic
import DraftBoard.Toml.Moment

/-!
# Reading bare scalars

Booleans, numbers, dates and times are told apart by their whole token.
-/

namespace DraftBoard.Toml

/-- Digits with single underscores between them, the underscores left out. -/
def plainDigits? (isDigit : Char → Bool) : List Char → Option (List Char)
  | [] => none
  | [c] => if isDigit c then some [c] else none
  | c :: '_' :: rest => if isDigit c then (plainDigits? isDigit rest).map (c :: ·) else none
  | c :: rest => if isDigit c then (plainDigits? isDigit rest).map (c :: ·) else none

/-- The value of digits in a base. -/
def baseValue (base : Nat) (digits : List Char) : Nat :=
  digits.foldl (fun value c => base * value + (Text.hexValue? c).getD 0) 0

/-- A sign in front of a number, and the rest. -/
def splitSign : List Char → Bool × List Char
  | '-' :: rest => (true, rest)
  | '+' :: rest => (false, rest)
  | text => (false, text)

/-- Decimal digits without idle zeros in front. -/
def wholeDigits? (text : List Char) : Option (List Char) := do
  let digits ← plainDigits? Char.isDigit text
  if digits.head? = some '0' ∧ digits.length ≠ 1 then none else some digits

/-- An integer as far as it fits into 64 bits. -/
def ranged? (value : Int) : Option Scalar :=
  if -0x8000000000000000 ≤ value ∧ value < 0x8000000000000000 then some (.integer value) else none

/-- Digits of a base other than ten. -/
def based? (base : Nat) (text : List Char) : Option Scalar := do
  let digits ← plainDigits? (fun c =>
    match Text.hexValue? c with
    | some value => value < base
    | none => false) text
  ranged? (baseValue base digits)

/-- An integer. -/
def integer? : List Char → Option Scalar
  | '0' :: 'x' :: rest => based? 16 rest
  | '0' :: 'o' :: rest => based? 8 rest
  | '0' :: 'b' :: rest => based? 2 rest
  | text => do
      let (negative, body) := splitSign text
      let value : Int := baseValue 10 (← wholeDigits? body)
      ranged? (if negative then -value else value)

/-- The exponent of a number in decimal. -/
def exponent? : List Char → Option Int
  | [] => some 0
  | _ :: rest => do
      let (negative, body) := splitSign rest
      let value : Int := baseValue 10 (← plainDigits? Char.isDigit body)
      some (if negative then -value else value)

/-- The digits behind a point, if there is one. -/
def fraction? : List Char → Option (List Char)
  | [] => some []
  | _ :: digits => plainDigits? Char.isDigit digits

/-- A real number. -/
def real? (text : List Char) : Option Scalar :=
  let (negative, body) := splitSign text
  if body = "inf".toList then some (.real (.infinite negative))
  else if body = "nan".toList then some (.real .notANumber)
  else
    let isExponentMark (c : Char) : Bool := c == 'e' || c == 'E'
    let power := body.dropWhile fun c => !isExponentMark c
    let mantissa := body.takeWhile fun c => !isExponentMark c
    let tail := mantissa.dropWhile (· != '.')
    if power.isEmpty && tail.isEmpty then none
    else do
      let whole ← wholeDigits? (mantissa.takeWhile (· != '.'))
      let fraction ← fraction? tail
      let value ← Binary64.ofDecimal negative (baseValue 10 (whole ++ fraction))
        ((← exponent? power) - fraction.length)
      some (.real (.finite value))

/-- The scalar that a whole token writes. -/
def scalar? (token : List Char) : Option Scalar :=
  if token = "true".toList then some (.boolean true)
  else if token = "false".toList then some (.boolean false)
  else
    (integer? token).orElse fun _ => (real? token).orElse fun _ =>
      (moment? token).map fun text => .moment (String.ofList text)

/-- Characters of bare tokens. -/
def inToken (c : Char) : Bool :=
  c.isAlphanum || c == '+' || c == '-' || c == '_' || c == '.' || c == ':'

/-- A bare scalar at the start of a text, and the rest.  A date may be parted from
its time by a blank. -/
def readBare (text : List Char) : Option (Scalar × List Char) := do
  let token := text.takeWhile inToken
  let rest := text.dropWhile inToken
  match date? token, rest with
  | some (_, []), ' ' :: c :: more =>
      if c.isDigit then
        let time := (c :: more).takeWhile inToken
        some (← scalar? (token ++ ' ' :: time), (c :: more).dropWhile inToken)
      else some (← scalar? token, rest)
  | _, _ => some (← scalar? token, rest)

end DraftBoard.Toml
