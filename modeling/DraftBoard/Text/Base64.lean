/-!
# Base64

Three bytes become four letters; a short last group is filled up with `=`.
-/

namespace DraftBoard.Text

/-- The letter of a value below sixty-four. -/
def base64Letter (value : Nat) : Char :=
  if value < 26 then Char.ofNat (65 + value)
  else if value < 52 then Char.ofNat (71 + value)
  else if value < 62 then Char.ofNat (value - 4)
  else if value = 62 then '+'
  else '/'

/-- The letters of a byte sequence, three bytes at a time. -/
def base64Chars : List UInt8 → List Char
  | [] => []
  | [a] =>
      let n := a.toNat * 65536
      [base64Letter (n / 262144), base64Letter (n / 4096 % 64), '=', '=']
  | [a, b] =>
      let n := a.toNat * 65536 + b.toNat * 256
      [base64Letter (n / 262144), base64Letter (n / 4096 % 64),
        base64Letter (n / 64 % 64), '=']
  | a :: b :: c :: rest =>
      let n := a.toNat * 65536 + b.toNat * 256 + c.toNat
      base64Letter (n / 262144) :: base64Letter (n / 4096 % 64) ::
        base64Letter (n / 64 % 64) :: base64Letter (n % 64) :: base64Chars rest

/-- The UTF-8 bytes of a text in base64. -/
def base64 (text : String) : String :=
  String.ofList (base64Chars (text.toList.flatMap String.utf8EncodeChar))

end DraftBoard.Text
