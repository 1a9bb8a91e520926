import DraftBoard.Number.Shortest

/-!
# TOML values

The values of a settings file.  A table remembers how it came about, which
decides what may be added to it later.
-/

namespace DraftBoard.Toml

/-- A number with a fraction or an exponent, or one of the special ones. -/
inductive Real where
  | finite (value : Binary64)
  | infinite (negative : Bool)
  | notANumber
deriving DecidableEq, Repr

/-- A value without inner structure; dates and times are kept as their text. -/
inductive Scalar where
  | string (text : String)
  | integer (value : Int)
  | real (value : Real)
  | boolean (value : Bool)
  | moment (text : String)
deriving DecidableEq, Repr

/-- Real numbers never have an exponent, and an integral one has no point. -/
def realFormat : DecimalFormat where
  tie := .up
  positional _ := true
  pointed := false

/-- The text of a real number. -/
def Real.text : Real → String
  | .finite value => String.ofList (realFormat.write value)
  | .infinite false => "inf"
  | .infinite true => "-inf"
  | .notANumber => "NaN"

/-- The text of a scalar. -/
def Scalar.text : Scalar → String
  | .string text => text
  | .integer value => toString value
  | .real value => value.text
  | .boolean true => "true"
  | .boolean false => "false"
  | .moment text => text

/-- How a table came about. -/
inductive Origin where
  /-- By a header of its own. -/
  | header
  /-- On the way to the table of a longer header. -/
  | passing
  /-- By a dotted key. -/
  | dotted
  /-- Between braces. -/
  | braces
deriving DecidableEq, Repr

/-- A value in a document. -/
inductive Value where
  | scalar (value : Scalar)
  | array (items : List Value)
  | table (origin : Origin) (entries : List (String × Value))
  /-- Tables that were opened one after the other by doubled headers. -/
  | tables (elements : List (List (String × Value)))
deriving Repr, Inhabited

/-- The entries of a table in order. -/
abbrev Entries := List (String × Value)

end DraftBoard.Toml
