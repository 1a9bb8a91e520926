import DraftBoard.Json.Printer
import DraftBoard.Text.Quoted

/-!
# Why a JSON text is refused

A text is cut short, is malformed, or is well formed but of the wrong shape.
`Mismatch.message` words the last case.
-/

namespace DraftBoard.Json

/-- What a reader met where it expected something else. -/
inductive Found where
  | null
  | bool (value : Bool)
  | number (value : Number)
  | string (text : String)
  | sequence
  | map
deriving DecidableEq, Repr

/-- What a reader expected. -/
inductive Expected where
  | string
  | map
  | sequence
  | record (name : String)
deriving DecidableEq, Repr

/-- How a value differs from the expected shape. -/
inductive Mismatch where
  | wrongType (found : Found) (expected : Expected)
  | missingField (name : String)
  | duplicateField (name : String)
  | wrongLength (found : Nat) (record : String) (size : Nat)
deriving DecidableEq, Repr

/-- Why a text is refused. -/
inductive Problem where
  | cutShort
  | malformed
  | mismatch (cause : Mismatch)
deriving DecidableEq, Repr

/-- What a value is, without its contents where those have an inner structure. -/
def found : Json → Found
  | .null => .null
  | .bool value => .bool value
  | .number value => .number value
  | .string text => .string text
  | .array _ => .sequence
  | .object _ => .map

/-- The name of what was found. -/
def Found.name : Found → String
  | .null => "null"
  | .bool true => "boolean `true`"
  | .bool false => "boolean `false`"
  | .number (.integer value) =>
      "integer `" ++ String.ofList (Number.chars (.integer value)) ++ "`"
  | .number (.float value) =>
      "floating point `" ++ String.ofList (Number.chars (.float value)) ++ "`"
  | .string text => "string " ++ Text.quoted text
  | .sequence => "sequence"
  | .map => "map"

/-- The name of what was expected. -/
def Expected.name : Expected → String
  | .string => "a string"
  | .map => "a map"
  | .sequence => "a sequence"
  | .record name => "struct " ++ name

/-- A difference in words. -/
def Mismatch.message : Mismatch → String
  | .wrongType found expected =>
      "invalid type: " ++ found.name ++ ", expected " ++ expected.name
  | .missingField name => "missing field `" ++ name ++ "`"
  | .duplicateField name => "duplicate field `" ++ name ++ "`"
  | .wrongLength found record size =>
      "invalid length " ++ toString found ++ ", expected struct " ++ record ++
        " with " ++ toString size ++ " elements"

end DraftBoard.Json
