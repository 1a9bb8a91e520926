import DraftBoard.Json.Reader
import DraftBoard.Text.Utf8

/-!
# Reading bytes

A reader of bytes does not ask whether a string that it passes over is a text.  Bytes that are
no character are therefore read as an escape that names none: it is refused in strings that are
kept and passed over with the others.
-/

namespace DraftBoard.Json

/-- What is read in place of bytes that are no character.  The character in front of the escape
parts it from a backslash or from the first half of a pair. -/
def gapMark : List Char := [Text.replacement, '\\', 'u', 'd', 'c', '0', '0']

/-- What is read for a character or a gap. -/
def shown : Option Char → List Char
  | some c => [c]
  | none => gapMark

/-- What is read for bytes. -/
def textOf (bytes : ByteArray) : String :=
  String.ofList ((Text.readUtf8 bytes.data.toList).flatMap shown)

end DraftBoard.Json
