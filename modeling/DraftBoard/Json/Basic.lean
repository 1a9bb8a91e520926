import DraftBoard.Number.Binary64

/-!
# JSON values

A value is a plain tree; an object is the list of its entries in order.
`get?` and `insert` are the two operations on objects: an entry that is replaced
keeps its place, a new one goes to the end.
-/

namespace DraftBoard

/-- A number: an integer kept exactly, or a binary floating-point number. -/
inductive Json.Number where
  | integer (value : Int)
  | float (value : Binary64)
deriving DecidableEq, Repr

/-- A JSON value. -/
inductive Json where
  | null
  | bool (value : Bool)
  | number (value : Json.Number)
  | string (value : String)
  | array (items : List Json)
  | object (fields : List (String × Json))
deriving Repr, Inhabited

namespace Json

/-- The entries of an object, in order. -/
abbrev Fields := List (String × Json)

namespace Fields

/-- The value under a key. -/
def get? (fields : Fields) (key : String) : Option Json :=
  fields.lookup key

/-- The keys in order. -/
def keys (fields : Fields) : List String :=
  fields.map (·.1)

/-- Sets the value under a key: in place if the key is there, else at the end. -/
def insert (key : String) (value : Json) : Fields → Fields
  | [] => [(key, value)]
  | (name, old) :: rest =>
      if name = key then (name, value) :: rest else (name, old) :: insert key value rest

end Fields

/-- The text of a string value. -/
def string? : Json → Option String
  | .string text => some text
  | _ => none

/-- The truth value of a boolean. -/
def bool? : Json → Option Bool
  | .bool value => some value
  | _ => none

/-- The value under a key of an object; nothing for any other value. -/
def get? (key : String) : Json → Option Json
  | .object fields => Fields.get? fields key
  | _ => none

/-- An integer value. -/
def ofInt (value : Int) : Json := .number (.integer value)

end Json

end DraftBoard
