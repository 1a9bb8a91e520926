import DraftBoard.Json.Basic
import DraftBoard.Number.Shortest
import DraftBoard.Text.Hex

/-!
# JSON text

Every writer puts its text in front of a given rest.  `compact` writes without
blanks, `pretty` puts every entry on a line of its own, two blanks deeper than
its container.
-/

namespace DraftBoard.Json

/-- Numbers are positional from `0.00001` up to sixteen digits, and an integral
one ends in `.0`. -/
def floatFormat : DecimalFormat where
  tie := .toEven
  positional first := -5 ≤ first && first ≤ 15
  pointed := true

namespace Number

/-- The text of a number. -/
def chars : Number → List Char
  | .integer (.ofNat n) => Nat.toDigits 10 n
  | .integer (.negSucc n) => '-' :: Nat.toDigits 10 (n + 1)
  | .float x => floatFormat.write x

end Number

/-- One character inside a string. -/
def escapeChar (c : Char) : List Char :=
  if c = '"' then ['\\', '"']
  else if c = '\\' then ['\\', '\\']
  else if 0x20 ≤ c.toNat then [c]
  else if c = '\x08' then ['\\', 'b']
  else if c = '\x0c' then ['\\', 'f']
  else if c = '\n' then ['\\', 'n']
  else if c = '\r' then ['\\', 'r']
  else if c = '\t' then ['\\', 't']
  else
    ['\\', 'u', '0', '0', Text.lowerHex (c.toNat / 16), Text.lowerHex (c.toNat % 16)]

/-- A string between quotes, in front of `rest`. -/
def writeString (text : String) (rest : List Char) : List Char :=
  '"' :: (text.toList.foldr (fun c rest => escapeChar c ++ rest) ('"' :: rest))

/-- How entries are set apart: the text between the opening bracket and the first
entry, between two entries, before the closing bracket, and after a key. -/
structure Layout where
  opening : Nat → List Char
  between : Nat → List Char
  closing : Nat → List Char
  colon : List Char

/-- A line break and two blanks for every level. -/
def newLine (level : Nat) : List Char :=
  '\n' :: List.replicate (2 * level) ' '

/-- No blanks at all. -/
def Layout.compact : Layout := ⟨fun _ => [], fun _ => [','], fun _ => [], [':']⟩

/-- Every entry on a line of its own. -/
def Layout.pretty : Layout where
  opening level := newLine (level + 1)
  between level := ',' :: newLine (level + 1)
  closing level := newLine level
  colon := [':', ' ']

mutual

/-- A value that starts at a nesting level, in front of `rest`. -/
def write (layout : Layout) (level : Nat) : Json → List Char → List Char
  | .null, rest => 'n' :: 'u' :: 'l' :: 'l' :: rest
  | .bool true, rest => 't' :: 'r' :: 'u' :: 'e' :: rest
  | .bool false, rest => 'f' :: 'a' :: 'l' :: 's' :: 'e' :: rest
  | .number n, rest => n.chars ++ rest
  | .string text, rest => writeString text rest
  | .array [], rest => '[' :: ']' :: rest
  | .array (item :: items), rest =>
      '[' :: (layout.opening level ++
        write layout (level + 1) item
          (writeItems layout level items (layout.closing level ++ ']' :: rest)))
  | .object [], rest => '{' :: '}' :: rest
  | .object ((key, value) :: fields), rest =>
      '{' :: (layout.opening level ++
        writeString key (layout.colon ++
          write layout (level + 1) value
            (writeFields layout level fields (layout.closing level ++ '}' :: rest))))

/-- The items after the first one. -/
def writeItems (layout : Layout) (level : Nat) : List Json → List Char → List Char
  | [], rest => rest
  | item :: items, rest =>
      layout.between level ++
        write layout (level + 1) item (writeItems layout level items rest)

/-- The entries after the first one. -/
def writeFields (layout : Layout) (level : Nat) : List (String × Json) → List Char → List Char
  | [], rest => rest
  | (key, value) :: fields, rest =>
      layout.between level ++
        writeString key (layout.colon ++
          write layout (level + 1) value (writeFields layout level fields rest))

end

/-- The text of a value without blanks. -/
def compact (value : Json) : String :=
  String.ofList (write .compact 0 value [])

/-- The text of a value with one entry a line. -/
def pretty (value : Json) : String :=
  String.ofList (write .pretty 0 value [])

end DraftBoard.Json
