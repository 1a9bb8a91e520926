/-!
# Hexadecimal digits

Digits of either case and their values, and numerals of lower bases as well.
-/

namespace DraftBoard.Text

/-- The digit of a value below sixteen, in upper case. -/
def upperHex (value : Nat) : Char :=
  if value < 10 then Char.ofNat (48 + value) else Char.ofNat (55 + value)

/-- The digit of a value below sixteen, in lower case. -/
def lowerHex (value : Nat) : Char :=
  if value < 10 then Char.ofNat (48 + value) else Char.ofNat (87 + value)

/-- The value of a hexadecimal digit in either case. -/
def hexValue? (c : Char) : Option Nat :=
  if '0' ≤ c ∧ c ≤ '9' then some (c.toNat - 48)
  else if 'a' ≤ c ∧ c ≤ 'f' then some (c.toNat - 87)
  else if 'A' ≤ c ∧ c ≤ 'F' then some (c.toNat - 55)
  else none

/-- The value of digits in a base up to sixteen, if there are only such digits. -/
def numeral? (base : Nat) (digits : List Char) : Option Nat :=
  digits.foldlM (fun value c => do
    let digit ← hexValue? c
    if digit < base then some (value * base + digit) else none) 0

end DraftBoard.Text
