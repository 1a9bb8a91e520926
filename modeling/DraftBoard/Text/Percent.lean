import DraftBoard.Text.Hex

/-!
# Percent-encoding

Characters outside a kept set are written byte by byte as `%XX`; reading undoes
every such triple and leaves all else alone.
-/

namespace DraftBoard.Text

/-- A byte as a percent triple. -/
def percentByte (byte : UInt8) : List Char :=
  ['%', upperHex (byte.toNat / 16), upperHex (byte.toNat % 16)]

/-- Every character that `keep` refuses, written as the triples of its bytes. -/
def percentEncode (keep : Char → Bool) (text : List Char) : List Char :=
  text.flatMap fun c =>
    if keep c then [c] else (String.utf8EncodeChar c).flatMap percentByte

/-- The bytes of a text with its percent triples undone. -/
def percentDecode : List Char → List UInt8
  | [] => []
  | '%' :: high :: low :: rest =>
      match hexValue? high, hexValue? low with
      | some h, some l => UInt8.ofNat (16 * h + l) :: percentDecode rest
      | _, _ => String.utf8EncodeChar '%' ++ percentDecode (high :: low :: rest)
  | c :: rest => String.utf8EncodeChar c ++ percentDecode rest

/-- Letters, digits and the four marks that never need encoding. -/
def unreserved (c : Char) : Bool :=
  c.isAlphanum || c == '-' || c == '_' || c == '.' || c == '~'

/-- A text that is safe as one part of a path or a query. -/
def urlComponent (text : String) : String :=
  String.ofList (percentEncode unreserved text.toList)

end DraftBoard.Text
