import DraftBoard.Toml.Quote
import DraftBoard.Toml.Scalar
import DraftBoard.Toml.Table

/-!
# Reading TOML documents

A document is a sequence of lines: keys with values, headers that open tables,
and lines that say nothing.  `parse` gives the entries of the whole document, or
nothing if any line is at fault.
-/

namespace DraftBoard.Toml

/-- Passes blanks, line breaks and comments. -/
def skipFiller (inComment : Bool) : List Char → Option (List Char)
  | [] => some []
  | c :: rest =>
      if breaksLine c rest then skipFiller (inComment && c != '\n') rest
      else if inComment then if isPlain c then skipFiller true rest else none
      else if c = ' ' ∨ c = '\t' then skipFiller false rest
      else if c = '#' then skipFiller true rest
      else some (c :: rest)

/-- Passes a comment up to the end of its line. -/
def skipComment : List Char → Option (List Char)
  | [] => some []
  | c :: rest =>
      if breaksLine c rest then some (c :: rest)
      else if isPlain c then skipComment rest
      else none

/-- Passes what may follow on a line, and the line break. -/
def endLine (text : List Char) : Option (List Char) := do
  let rest ←
    match skipBlanks text with
    | '#' :: rest => skipComment rest
    | rest => some rest
  match rest with
  | [] => some []
  | '\n' :: rest => some rest
  | '\r' :: '\n' :: rest => some rest
  | _ => none

/-- The items of an array after its bracket; `rounds` bounds their count. -/
def itemsFrom (item : List Char → Option (Value × List Char)) :
    Nat → List Char → Option (List Value × List Char)
  | 0, _ => none
  | rounds + 1, text => do
      match ← skipFiller false text with
      | ']' :: rest => some ([], rest)
      | text => do
          let (value, rest) ← item text
          match ← skipFiller false rest with
          | ',' :: rest => do
              let (values, rest) ← itemsFrom item rounds rest
              some (value :: values, rest)
          | ']' :: rest => some ([value], rest)
          | _ => none

/-- A key, its equality sign and its value. -/
def readPair (item : List Char → Option (Value × List Char)) (text : List Char) :
    Option (List String × Value × List Char) := do
  let (key, rest) ← readKey text
  match rest with
  | '=' :: rest => do
      let (value, rest) ← item (skipBlanks rest)
      some (key, value, rest)
  | _ => none

/-- Sets a key of a table, its last part behind the others. -/
def insertPair (key : List String) (value : Value) (entries : Entries) : Option Entries := do
  insertDotted (← key.getLast?) value key.dropLast entries

/-- The entries of a table in braces after the brace; `rounds` bounds their count. -/
def bracedFrom (item : List Char → Option (Value × List Char)) :
    Nat → Entries → List Char → Option (Entries × List Char)
  | 0, _, _ => none
  | rounds + 1, entries, text => do
      match ← skipFiller false text with
      | '}' :: rest => some (entries, rest)
      | text => do
          let (key, value, rest) ← readPair item text
          let entries ← insertPair key value entries
          match ← skipFiller false rest with
          | ',' :: rest => bracedFrom item rounds entries rest
          | '}' :: rest => some (entries, rest)
          | _ => none

/-- A value whose containers read their items with `inner`. -/
def valueWith (inner : Option (List Char → Option (Value × List Char))) (text : List Char) :
    Option (Value × List Char) :=
  match readText text with
  | some result => result.map fun (text, rest) => (.scalar (.string (String.ofList text)), rest)
  | none =>
      match text with
      | '[' :: rest => do
          let (items, rest) ← itemsFrom (← inner) (rest.length + 1) rest
          some (.array items, rest)
      | '{' :: rest => do
          let (entries, rest) ← bracedFrom (← inner) (rest.length + 1) [] rest
          some (.table .braces entries, rest)
      | _ => (readBare text).map fun (value, rest) => (.scalar value, rest)

/-- A value that nests at most `depth` levels. -/
def value : Nat → List Char → Option (Value × List Char)
  | 0 => valueWith none
  | depth + 1 => valueWith (some (value depth))

/-- Levels of nesting that a value may have. -/
def depthLimit : Nat := 80

/-- The document so far, and the header that it stands under. -/
structure Draft where
  entries : Entries
  header : List String

/-- A header after its first bracket: it opens a table, a doubled one an element. -/
def readHeader (draft : Draft) (text : List Char) : Option (Draft × List Char) := do
  let (doubled, text) :=
    match text with
    | '[' :: rest => (true, rest)
    | _ => (false, text)
  let (path, rest) ← readKey text
  let rest ←
    match doubled, rest with
    | true, ']' :: ']' :: rest => some rest
    | false, ']' :: rest => some rest
    | _, _ => none
  let step := if doubled then openElement else openTable
  let entries ← below (step (← path.getLast?)) path.dropLast draft.entries
  some (⟨entries, path⟩, ← endLine rest)

/-- A line with a key and its value. -/
def readEntry (draft : Draft) (text : List Char) : Option (Draft × List Char) := do
  let (key, value, rest) ← readPair (value depthLimit) text
  let entries ← below (insertPair key value) draft.header draft.entries
  some ({ draft with entries }, ← endLine rest)

/-- The lines of a document; `rounds` bounds their count. -/
def readLines : Nat → Draft → List Char → Option Entries
  | 0, _, _ => none
  | rounds + 1, draft, text => do
      match ← skipFiller false text with
      | [] => some draft.entries
      | '[' :: rest => do
          let (draft, rest) ← readHeader draft rest
          readLines rounds draft rest
      | text => do
          let (draft, rest) ← readEntry draft text
          readLines rounds draft rest

/-- A text without the byte order mark that it may start with. -/
def dropMark : List Char → List Char
  | '\uFEFF' :: rest => rest
  | text => text

/-- The entries of a document. -/
def parse (text : String) : Option Entries :=
  readLines (text.toList.length + 1) ⟨[], []⟩ (dropMark text.toList)

end DraftBoard.Toml
