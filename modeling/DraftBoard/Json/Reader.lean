import DraftBoard.Json.Scalar

/-!
# Reading values

`value` reads one value that may nest as deep as it is told; `keyed` and
`sequence` are the two loops over the entries of a container, which the readers
of records share.
-/

namespace DraftBoard.Json

/-- Passes one expected character. -/
def expectChar (expected : Char) (text : List Char) : Except Problem (List Char) :=
  match skipBlank text with
  | [] => .error .cutShort
  | c :: rest => if c = expected then .ok rest else .error .malformed

/-- Moves to the next item of a sequence: nothing at the closing bracket, else the
text from the item on.  `first` tells that no comma is due. -/
def nextItem (first : Bool) (text : List Char) : Except Problem (Option (List Char)) :=
  match skipBlank text with
  | [] => .error .cutShort
  | c :: rest =>
      if c = ']' then .ok none
      else if first then .ok (some (c :: rest))
      else if c = ',' then
        match skipBlank rest with
        | [] => .error .cutShort
        | d :: rest => if d = ']' then .error .malformed else .ok (some (d :: rest))
      else .error .malformed

/-- The items of a sequence up to its bracket; every round passes at least one
character, so `rounds` never runs out. -/
def itemsFrom (item : Reader α) : Nat → Bool → List α → Reader (List α)
  | 0, _, _, _ => .error .malformed
  | rounds + 1, first, done, text =>
      match nextItem first text with
      | .error problem => .error problem
      | .ok none => .ok (done.reverse, text)
      | .ok (some text) =>
          match item text with
          | .error problem => .error problem
          | .ok (value, rest) => itemsFrom item rounds false (value :: done) rest

/-- A sequence after its opening bracket. -/
def sequence (item : Reader α) (text : List Char) : Except Problem (List α × List Char) := do
  let (items, rest) ← itemsFrom item (text.length + 1) true [] text
  .ok (items, ← expectChar ']' rest)

/-- Moves to the next key of an object: nothing at the closing brace, else the text
after the opening quote of the key. -/
def nextKey (first : Bool) (text : List Char) : Except Problem (Option (List Char)) :=
  match skipBlank text with
  | [] => .error .cutShort
  | c :: rest =>
      if c = '}' then .ok none
      else
        let due : List Char := if first then c :: rest else skipBlank rest
        if !first ∧ c ≠ ',' then .error .malformed
        else
          match due with
          | [] => .error .cutShort
          | d :: rest => if d = '"' then .ok (some rest) else .error .malformed

/-- Folds `step` over the entries of an object up to its brace.  `step` is given
the key and the text behind it, colon and value included. -/
def entriesFrom (mode : Mode) (step : σ → String → Reader σ) :
    Nat → Bool → σ → Reader σ
  | 0, _, _, _ => .error .malformed
  | rounds + 1, first, state, text =>
      match nextKey first text with
      | .error problem => .error problem
      | .ok none => .ok (state, text)
      | .ok (some text) =>
          match readString mode text with
          | .error problem => .error problem
          | .ok (key, rest) =>
              match step state key rest with
              | .error problem => .error problem
              | .ok (state, rest) => entriesFrom mode step rounds false state rest

/-- An object after its opening brace, folded and then finished. -/
def keyed (mode : Mode) (step : σ → String → Reader σ) (start : σ)
    (finish : σ → Except Problem α) (text : List Char) : Except Problem (α × List Char) := do
  let (state, rest) ← entriesFrom mode step (text.length + 1) true start text
  let result ← finish state
  .ok (result, ← expectChar '}' rest)

/-- Reads the value of an entry and sets it; a repeated key keeps its place and
takes the last value. -/
def insertEntry (item : Reader Json) (fields : Fields) (key : String) (text : List Char) :
    Except Problem (Fields × List Char) := do
  let text ← expectChar ':' text
  let (value, rest) ← item text
  .ok (fields.insert key value, rest)

/-- The entries of an object after its brace. -/
def fields (mode : Mode) (item : Reader Json) (text : List Char) :
    Except Problem (Fields × List Char) :=
  keyed mode (insertEntry item) [] .ok text

/-- A value whose containers read their items with `inner`; without one they are
too deep. -/
def valueWith (mode : Mode) (inner : Option (Reader Json)) (text : List Char) :
    Except Problem (Json × List Char) :=
  match skipBlank text with
  | [] => .error .cutShort
  | c :: rest =>
      if c = 'n' then do .ok (.null, ← expectWord ['u', 'l', 'l'] rest)
      else if c = 't' then do .ok (.bool true, ← expectWord ['r', 'u', 'e'] rest)
      else if c = 'f' then do .ok (.bool false, ← expectWord ['a', 'l', 's', 'e'] rest)
      else if c = '"' then do
        let (text, rest) ← readString mode rest
        .ok (.string text, rest)
      else if c = '-' then do
        let (literal, rest) ← readNumber mode true rest
        .ok (.number literal, rest)
      else if c.isDigit then do
        let (literal, rest) ← readNumber mode false (c :: rest)
        .ok (.number literal, rest)
      else if c = '[' then
        match inner with
        | none => .error .malformed
        | some item => do
            let (items, rest) ← sequence item rest
            .ok (.array items, rest)
      else if c = '{' then
        match inner with
        | none => .error .malformed
        | some item => do
            let (entries, rest) ← fields mode item rest
            .ok (.object entries, rest)
      else .error .malformed

/-- A value that nests at most `depth` levels. -/
def value (mode : Mode) : Nat → Reader Json
  | 0 => valueWith mode none
  | depth + 1 => valueWith mode (some (value mode depth))

/-- Passes over one value, however deep it nests. -/
def skipValue (text : List Char) : Except Problem (List Char) := do
  let (_, rest) ← value .skip text.length text
  .ok rest

/-- Levels of nesting that a document may have. -/
def depthLimit : Nat := 127

/-- Reads a whole text: nothing but blanks may follow. -/
def readAll (reader : Reader α) (text : String) : Except Problem α := do
  let (result, rest) ← reader text.toList
  match skipBlank rest with
  | [] => .ok result
  | _ => .error .malformed

/-- The value that a text holds. -/
def parse (text : String) : Except Problem Json :=
  readAll (value .keep depthLimit) text

end DraftBoard.Json
