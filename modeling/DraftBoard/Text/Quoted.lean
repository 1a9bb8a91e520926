import DraftBoard.Text.Hidden

/-!
# Quoted text

`quoted` puts a text between double quotes so that every character of it can be
seen: quotes and backslashes are marked, and characters without a mark of their
own are written as their number in braces.
-/

namespace DraftBoard.Text

/-- A character written as its code point in lower-case hexadecimal. -/
def numbered (c : Char) : List Char :=
  ['\\', 'u', '{'] ++ Nat.toDigits 16 c.toNat ++ ['}']

/-- One character inside a quoted text. -/
def quotedChar (c : Char) : List Char :=
  if c = '\x00' then ['\\', '0']
  else if c = '\t' then ['\\', 't']
  else if c = '\r' then ['\\', 'r']
  else if c = '\n' then ['\\', 'n']
  else if c = '"' || c = '\\' then ['\\', c]
  else if isHidden c then numbered c
  else [c]

/-- A text between double quotes. -/
def quoted (text : String) : String :=
  String.ofList ('"' :: text.toList.flatMap quotedChar ++ ['"'])

end DraftBoard.Text
