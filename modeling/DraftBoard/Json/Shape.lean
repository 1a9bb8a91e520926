import DraftBoard.Json.Reader

/-!
# Reading shapes

Readers of texts that have to be a string, an object or a record.  A value of
another type is a mismatch, found as soon as its first token has been read.
-/

namespace DraftBoard.Json

/-- The mismatch of a value that starts at `text`; a malformed scalar is reported
as such, a container by its bracket alone. -/
def refuse (expected : Expected) (text : List Char) : Problem :=
  match text with
  | [] => .cutShort
  | c :: _ =>
      if c = '[' then .mismatch (.wrongType .sequence expected)
      else if c = '{' then .mismatch (.wrongType .map expected)
      else
        match valueWith .keep none text with
        | .ok (value, _) => .mismatch (.wrongType value.found expected)
        | .error problem => problem

/-- A value that has to be a string. -/
def expectString (text : List Char) : Except Problem (String × List Char) :=
  match skipBlank text with
  | '"' :: rest => readString .keep rest
  | other => .error (refuse .string other)

/-- A value that is `null` or has to be a string. -/
def expectOptionalString (text : List Char) : Except Problem (Option String × List Char) :=
  match skipBlank text with
  | 'n' :: rest => do .ok (none, ← expectWord ['u', 'l', 'l'] rest)
  | other => do
      let (text, rest) ← expectString other
      .ok (some text, rest)

/-- A value that has to be an object. -/
def expectObject (depth : Nat) (text : List Char) : Except Problem (Fields × List Char) :=
  match skipBlank text with
  | '{' :: rest =>
      match depth with
      | 0 => .error .malformed
      | depth + 1 => fields .keep (value .keep depth) rest
  | other => .error (refuse .map other)

/-- A value that has to be a sequence. -/
def expectList (item : Reader α) (text : List Char) : Except Problem (List α × List Char) :=
  match skipBlank text with
  | '[' :: rest => sequence item rest
  | other => .error (refuse .sequence other)

/-- How a record is read: from an object whose known keys fill a partial record,
or from a sequence of its fields in order. -/
structure RecordReader (σ α : Type) where
  /-- The name of the record. -/
  name : String
  /-- The partial record without any field. -/
  start : σ
  /-- Whether the field of a key has been read; nothing for an unknown key. -/
  given? : σ → String → Option Bool
  /-- Reads the value of a known key. -/
  read : σ → String → Reader σ
  /-- The record, once the object has ended. -/
  finish : σ → Except Problem α
  /-- The record, read from a sequence after its bracket and up to its end. -/
  positional : Reader α

namespace RecordReader

/-- Reads one entry of a record: a repeated field is refused before its value, an
unknown one is passed over. -/
def entry (record : RecordReader σ α) (state : σ) (key : String) (text : List Char) :
    Except Problem (σ × List Char) :=
  match record.given? state key with
  | some true => .error (.mismatch (.duplicateField key))
  | some false => do record.read state key (← expectChar ':' text)
  | none => do .ok (state, ← skipValue (← expectChar ':' text))

/-- A value that has to be a record. -/
def reader (record : RecordReader σ α) (text : List Char) : Except Problem (α × List Char) :=
  match skipBlank text with
  | '{' :: rest => keyed .keep record.entry record.start record.finish rest
  | '[' :: rest => do
      let (result, rest) ← record.positional rest
      .ok (result, ← expectChar ']' rest)
  | other => .error (refuse (.record record.name) other)

end RecordReader

end DraftBoard.Json
