import DraftBoard.Json.Problem

/-!
# Reading words, numbers and strings

Readers take a character sequence and give back what they read together with the
rest.  A reader that skips looks at the grammar alone: it accepts numbers out of
range and escapes that name no character.
-/

namespace DraftBoard.Json

/-- A reader of one thing: it gives back what it read and the rest of the text. -/
abbrev Reader (α : Type) := List Char → Except Problem (α × List Char)

/-- Whether what is read is kept or only passed over. -/
inductive Mode where
  | keep
  | skip
deriving DecidableEq, Repr

/-- Blanks between tokens. -/
def isBlank (c : Char) : Bool :=
  c == ' ' || c == '\n' || c == '\t' || c == '\r'

/-- The text after its leading blanks. -/
def skipBlank (text : List Char) : List Char :=
  text.dropWhile isBlank

/-- Passes the remaining letters of a word. -/
def expectWord : List Char → List Char → Except Problem (List Char)
  | [], text => .ok text
  | _ :: _, [] => .error .cutShort
  | letter :: word, c :: rest => if c = letter then expectWord word rest else .error .malformed

/-- The parts of a number as written; the exponent comes with its sign. -/
structure NumberText where
  negative : Bool
  whole : List Char
  fraction : Option (List Char)
  exponent : Option (Bool × List Char)

/-- The problem of a number that ends where a digit is due. -/
def missingDigit (mode : Mode) : List Char → Problem
  | [] => if mode = .keep then .cutShort else .malformed
  | _ => .malformed

/-- One digit or more. -/
def readDigits (mode : Mode) (text : List Char) : Except Problem (List Char × List Char) :=
  match text.takeWhile Char.isDigit with
  | [] => .error (missingDigit mode text)
  | digits => .ok (digits, text.dropWhile Char.isDigit)

/-- The digits before the point: a zero stands alone. -/
def readWhole (mode : Mode) : Reader (List Char)
  | '0' :: rest =>
      match rest with
      | c :: _ => if c.isDigit then .error .malformed else .ok (['0'], rest)
      | [] => .ok (['0'], rest)
  | text => readDigits mode text

/-- The digits after a point, if a point follows. -/
def readFraction (mode : Mode) : Reader (Option (List Char))
  | '.' :: rest => do
      let (digits, rest) ← readDigits mode rest
      .ok (some digits, rest)
  | text => .ok (none, text)

/-- A sign in front of the digits of an exponent. -/
def readSign : List Char → Bool × List Char
  | '+' :: rest => (false, rest)
  | '-' :: rest => (true, rest)
  | text => (false, text)

/-- The exponent, if one follows. -/
def readExponent (mode : Mode) : Reader (Option (Bool × List Char))
  | c :: rest =>
      if c = 'e' ∨ c = 'E' then do
        let (negative, rest) := readSign rest
        let (digits, rest) ← readDigits mode rest
        .ok (some (negative, digits), rest)
      else .ok (none, c :: rest)
  | [] => .ok (none, [])

/-- A number after its sign. -/
def readNumberText (mode : Mode) (negative : Bool) (text : List Char) :
    Except Problem (NumberText × List Char) := do
  let (whole, rest) ← readWhole mode text
  let (fraction, rest) ← readFraction mode rest
  let (exponent, rest) ← readExponent mode rest
  .ok (⟨negative, whole, fraction, exponent⟩, rest)

/-- The value of a decimal digit. -/
def digitValue (c : Char) : Nat := c.toNat - 48

/-- The value of a digit sequence. -/
def digitsValue (digits : List Char) : Nat :=
  digits.foldl (fun value c => 10 * value + digitValue c) 0

/-- Adds digits to a significand as long as it stays below `2 ^ 64`; the count of
digits left over comes with it. -/
def gather (significand : Nat) : List Char → Nat × Nat
  | [] => (significand, 0)
  | c :: rest =>
      let next := 10 * significand + digitValue c
      if next < 0x10000000000000000 then gather next rest else (significand, rest.length + 1)

/-- A power of ten as the nearest floating-point number. -/
def tenTo (exponent : Nat) : Binary64 :=
  (Binary64.ofRatio false (Nat.pow 10 exponent) 1).getD (Binary64.zero false)

/-- A number divided by a power of ten, at most `10 ^ 308` at a time, each division
rounded; `steps` bounds the count of divisions. -/
def scaleDown (x : Binary64) : Nat → Nat → Option Binary64
  | 0, exponent => x.div (tenTo exponent)
  | steps + 1, exponent =>
      if exponent ≤ 308 then x.div (tenTo exponent)
      else if x.isZero then some x
      else do scaleDown (← x.div (tenTo 308)) steps (exponent - 308)

/-- The floating-point number read for `significand * 10 ^ exponent`: the rounded
significand, multiplied or divided by a rounded power of ten. -/
def scale (significand : Nat) (exponent : Int) : Option Binary64 := do
  let x ← Binary64.ofRatio false significand 1
  match exponent with
  | .ofNat up =>
      if up ≤ 308 then x.mul (tenTo up) else if x.isZero then some x else none
  | .negSucc down => scaleDown x (down + 1) (down + 1)

namespace NumberText

/-- The value of a number, nothing when it is out of range.  An integer that fits
into 64 bits is kept exactly; `-0` and all others become floating-point numbers. -/
def value? (text : NumberText) : Option Number :=
  let (whole, dropped) := gather 0 text.whole
  match text.fraction, text.exponent with
  | none, none =>
      if dropped = 0 ∧ !text.negative then some (.integer whole)
      else if dropped = 0 ∧ 0 < whole ∧ whole ≤ 0x8000000000000000 then some (.integer (-whole))
      else finish text.negative (scale whole dropped)
  | fraction, exponent =>
      let digits := fraction.getD []
      let (significand, unused) := gather whole digits
      let shift : Int := dropped - (digits.length - unused : Nat)
      let power : Int :=
        match exponent with
        | none => 0
        | some (true, digits) => -digitsValue digits
        | some (false, digits) => digitsValue digits
      finish text.negative (scale significand (shift + power))
where
  finish (negative : Bool) (x : Option Binary64) : Option Number :=
    x.map fun x => .float (if negative then x.negate else x)

end NumberText

/-- A number after its sign.  One that is passed over may be out of range. -/
def readNumber (mode : Mode) (negative : Bool) (text : List Char) :
    Except Problem (Number × List Char) := do
  let (literal, rest) ← readNumberText mode negative text
  match mode, literal.value? with
  | _, some value => .ok (value, rest)
  | .skip, none => .ok (.integer 0, rest)
  | .keep, none => .error .malformed

/-- Where a string reader stands between two characters. -/
inductive StringState where
  /-- Between characters. -/
  | plain
  /-- After a backslash. -/
  | escape
  /-- In a numbered escape: the value so far, the digits still due, and the first
  half of a pair if one has been read. -/
  | numbered (value : Nat) (due : Nat) (high : Option Nat)
  /-- After the first half of a pair, before the backslash. -/
  | pairBackslash (high : Nat)
  /-- After the first half of a pair and a backslash. -/
  | pairLetter (high : Nat)

/-- The character of a one-letter escape. -/
def shortEscape? (c : Char) : Option Char :=
  if c = '"' ∨ c = '\\' ∨ c = '/' then some c
  else if c = 'b' then some '\x08'
  else if c = 'f' then some '\x0c'
  else if c = 'n' then some '\n'
  else if c = 'r' then some '\r'
  else if c = 't' then some '\t'
  else none

/-- Whether at least four bytes of text are left. -/
def fourBytesLeft (text : List Char) : Bool :=
  4 ≤ ((text.take 4).map Char.utf8Size).foldr (· + ·) 0

/-- Enters a numbered escape; its four bytes have to be there. -/
def enterNumbered (high : Option Nat) (rest : List Char) : Except Problem StringState :=
  if fourBytesLeft rest then .ok (.numbered 0 4 high) else .error .cutShort

/-- What a finished numbered escape amounts to: a character, or the first half of
a pair.  Halves that match nothing are refused unless the string is passed over. -/
def finishNumbered (mode : Mode) (value : Nat) (high : Option Nat) :
    Except Problem (Option Char × StringState) :=
  let lone : Except Problem (Option Char × StringState) :=
    if mode = .skip then .ok (none, .plain) else .error .malformed
  match high with
  | some high =>
      if 0xDC00 ≤ value ∧ value ≤ 0xDFFF then
        .ok (some (Char.ofNat (0x10000 + (high - 0xD800) * 0x400 + (value - 0xDC00))), .plain)
      else lone
  | none =>
      if value < 0xD800 ∨ 0xDFFF < value then .ok (some (Char.ofNat value), .plain)
      else if value ≤ 0xDBFF ∧ mode = .keep then .ok (none, .pairBackslash value)
      else lone

/-- A string after its opening quote; `done` holds what has been read, last
character first. -/
def readStringFrom (mode : Mode) :
    StringState → List Char → Reader (List Char)
  | _, _, [] => .error .cutShort
  | .plain, done, c :: rest =>
      if c = '"' then .ok (done.reverse, rest)
      else if c = '\\' then readStringFrom mode .escape done rest
      else if c.toNat < 0x20 then .error .malformed
      else readStringFrom mode .plain (c :: done) rest
  | .escape, done, c :: rest =>
      if c = 'u' then
        match enterNumbered none rest with
        | .ok state => readStringFrom mode state done rest
        | .error problem => .error problem
      else
        match shortEscape? c with
        | some d => readStringFrom mode .plain (d :: done) rest
        | none => .error .malformed
  | .numbered value due high, done, c :: rest =>
      match Text.hexValue? c with
      | none => .error .malformed
      | some digit =>
          let value := 16 * value + digit
          if due ≤ 1 then
            match finishNumbered mode value high with
            | .ok (some d, state) => readStringFrom mode state (d :: done) rest
            | .ok (none, state) => readStringFrom mode state done rest
            | .error problem => .error problem
          else readStringFrom mode (.numbered value (due - 1) high) done rest
  | .pairBackslash high, done, c :: rest =>
      if c = '\\' then readStringFrom mode (.pairLetter high) done rest else .error .malformed
  | .pairLetter high, done, c :: rest =>
      if c = 'u' then
        match enterNumbered (some high) rest with
        | .ok state => readStringFrom mode state done rest
        | .error problem => .error problem
      else .error .malformed

/-- A string after its opening quote. -/
def readString (mode : Mode) (text : List Char) : Except Problem (String × List Char) := do
  let (chars, rest) ← readStringFrom mode .plain [] text
  .ok (String.ofList chars, rest)

end DraftBoard.Json
