/-!
# Reading UTF-8

Bytes as characters.  Where the bytes of a character break off, or where no character
starts, nothing is read, and one may put a replacement character there.
-/

namespace DraftBoard.Text

/-- A character whose bytes are not all read: how many are due, what the next one has
to lie between, and the value so far. -/
structure OpenChar where
  due : Nat
  low : Nat
  high : Nat
  value : Nat

/-- The character of several bytes that a byte starts.  Its second byte has narrower bounds
where the others would give a character of fewer bytes, half of a pair, or none at all. -/
def openChar? (byte : Nat) : Option OpenChar :=
  if 0xC2 ≤ byte ∧ byte ≤ 0xDF then some ⟨1, 0x80, 0xBF, byte - 0xC0⟩
  else if 0xE0 ≤ byte ∧ byte ≤ 0xEF then
    some ⟨2, if byte = 0xE0 then 0xA0 else 0x80, if byte = 0xED then 0x9F else 0xBF, byte - 0xE0⟩
  else if 0xF0 ≤ byte ∧ byte ≤ 0xF4 then
    some ⟨3, if byte = 0xF0 then 0x90 else 0x80, if byte = 0xF4 then 0x8F else 0xBF, byte - 0xF0⟩
  else none

/-- What a byte between characters gives and opens. -/
def startChar (byte : Nat) : List (Option Char) × Option OpenChar :=
  if byte < 0x80 then ([some (Char.ofNat byte)], none)
  else
    match openChar? byte with
    | some opened => ([], some opened)
    | none => ([none], none)

/-- What a byte gives and leaves open. -/
def readByte (opened : Option OpenChar) (byte : Nat) : List (Option Char) × Option OpenChar :=
  match opened with
  | none => startChar byte
  | some opened =>
      if opened.low ≤ byte ∧ byte ≤ opened.high then
        let value := 64 * opened.value + (byte - 0x80)
        if opened.due = 1 then ([some (Char.ofNat value)], none)
        else ([], some ⟨opened.due - 1, 0x80, 0xBF, value⟩)
      else
        let (chars, next) := startChar byte
        (none :: chars, next)

/-- The characters of bytes behind those of an open character. -/
def readUtf8From : Option OpenChar → List UInt8 → List (Option Char)
  | none, [] => []
  | some _, [] => [none]
  | opened, byte :: rest =>
      let (chars, opened) := readByte opened byte.toNat
      chars ++ readUtf8From opened rest

/-- The characters of bytes, with a gap for bytes that are no character. -/
def readUtf8 (bytes : List UInt8) : List (Option Char) :=
  readUtf8From none bytes

/-- The character that may fill a gap. -/
def replacement : Char := '\uFFFD'

/-- The characters of bytes, with all gaps filled. -/
def decodeUtf8 (bytes : List UInt8) : List Char :=
  (readUtf8 bytes).map (·.getD replacement)

end DraftBoard.Text
