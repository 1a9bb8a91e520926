import DraftBoard.Text.Hex

/-!
# Reading quoted texts and keys

Double quotes allow escapes, single quotes take everything as it is; tripled
quotes run over lines.
-/

namespace DraftBoard.Toml

/-- Whether a character may stand in a text or a comment as it is. -/
def isPlain (c : Char) : Bool :=
  c == '\t' || (0x20 ≤ c.toNat && c.toNat != 0x7f)

/-- Whether a line break starts here: a line feed, or a carriage return before one. -/
def breaksLine (c : Char) (rest : List Char) : Bool :=
  c == '\n' || (c == '\r' && rest.head? == some '\n')

/-- Where a reader of escaped text stands. -/
inductive QuoteState where
  | plain
  | escape
  /-- In a numbered escape: the value so far and the digits still due. -/
  | numbered (value due : Nat)
  /-- Behind a backslash that ends a line; `broken` once the line break is passed. -/
  | folding (broken : Bool)

/-- The character of a one-letter escape. -/
def shortEscape? (c : Char) : Option Char :=
  if c = 'b' then some '\x08'
  else if c = 't' then some '\t'
  else if c = 'n' then some '\n'
  else if c = 'f' then some '\x0c'
  else if c = 'r' then some '\r'
  else if c = 'e' then some '\x1b'
  else if c = '"' ∨ c = '\\' then some c
  else none

/-- The count of digits of a numbered escape. -/
def numberedDigits? (c : Char) : Option Nat :=
  if c = 'x' then some 2 else if c = 'u' then some 4 else if c = 'U' then some 8 else none

/-- The character with a code point, if there is one. -/
def charOf? (code : Nat) : Option Char :=
  if code < 0xD800 ∨ (0xDFFF < code ∧ code ≤ 0x10FFFF) then some (Char.ofNat code) else none

/-- The count of quotes of a kind that a text starts with. -/
def quoteRun (quote : Char) (text : List Char) : Nat :=
  (text.takeWhile (· == quote)).length

/-- What a quote at the start of a text does inside a tripled one: three of them
close it, up to two more belong to it. -/
inductive QuoteEffect where
  | stay
  | close
  | refuse

/-- The effect of the quote that `text` starts with. -/
def quoteEffect (quote : Char) (text : List Char) : QuoteEffect :=
  let count := quoteRun quote text
  if count = 3 then .close else if count ≤ 5 then .stay else .refuse

/-- A text between double quotes after the opening; `done` holds what has been
read, last character first. -/
def readEscaped (tripled : Bool) : QuoteState → List Char → List Char →
    Option (List Char × List Char)
  | _, _, [] => none
  | state, done, c :: rest =>
      let state :=
        match state with
        | .folding true => if c = ' ' ∨ c = '\t' ∨ breaksLine c rest then state else .plain
        | other => other
      match state with
      | .folding broken =>
          if breaksLine c rest then readEscaped tripled (.folding (broken || c == '\n')) done rest
          else if c = ' ' ∨ c = '\t' then readEscaped tripled (.folding broken) done rest
          else none
      | .escape =>
          if tripled ∧ (c = ' ' ∨ c = '\t' ∨ breaksLine c rest) then
            readEscaped tripled (.folding (c == '\n')) done rest
          else
            match shortEscape? c, numberedDigits? c with
            | some d, _ => readEscaped tripled .plain (d :: done) rest
            | none, some due => readEscaped tripled (.numbered 0 due) done rest
            | none, none => none
      | .numbered value due =>
          match Text.hexValue? c with
          | none => none
          | some digit =>
              let value := 16 * value + digit
              if due ≤ 1 then
                match charOf? value with
                | some d => readEscaped tripled .plain (d :: done) rest
                | none => none
              else readEscaped tripled (.numbered value (due - 1)) done rest
      | .plain =>
          if c = '\\' then readEscaped tripled .escape done rest
          else if c = '"' then
            if tripled then
              match quoteEffect '"' (c :: rest) with
              | .close => some (done.reverse, rest.drop 2)
              | .stay => readEscaped tripled .plain (c :: done) rest
              | .refuse => none
            else some (done.reverse, rest)
          else if isPlain c ∨ (tripled ∧ breaksLine c rest) then
            readEscaped tripled .plain (c :: done) rest
          else none

/-- A text between single quotes after the opening. -/
def readVerbatim (tripled : Bool) : List Char → List Char → Option (List Char × List Char)
  | _, [] => none
  | done, c :: rest =>
      if c = '\'' then
        if tripled then
          match quoteEffect '\'' (c :: rest) with
          | .close => some (done.reverse, rest.drop 2)
          | .stay => readVerbatim tripled (c :: done) rest
          | .refuse => none
        else some (done.reverse, rest)
      else if isPlain c ∨ (tripled ∧ breaksLine c rest) then readVerbatim tripled (c :: done) rest
      else none

/-- A text without the line break that it starts with. -/
def dropBreak : List Char → List Char
  | '\n' :: rest => rest
  | '\r' :: '\n' :: rest => rest
  | text => text

/-- A quoted text on one line, if one starts here. -/
def readQuoted : List Char → Option (Option (List Char × List Char))
  | '"' :: rest => some (readEscaped false .plain [] rest)
  | '\'' :: rest => some (readVerbatim false [] rest)
  | _ => none

/-- A quoted text of any kind, if one starts here. -/
def readText : List Char → Option (Option (List Char × List Char))
  | '"' :: '"' :: '"' :: rest => some (readEscaped true .plain [] (dropBreak rest))
  | '\'' :: '\'' :: '\'' :: rest => some (readVerbatim true [] (dropBreak rest))
  | text => readQuoted text

/-- Characters of bare keys. -/
def inKey (c : Char) : Bool :=
  c.isAlphanum || c == '_' || c == '-'

/-- Blanks within a line. -/
def skipBlanks (text : List Char) : List Char :=
  text.dropWhile fun c => c == ' ' || c == '\t'

/-- One part of a key. -/
def readKeyPart (text : List Char) : Option (String × List Char) :=
  match readQuoted text with
  | some result => result.map fun (key, rest) => (String.ofList key, rest)
  | none =>
      match text.takeWhile inKey with
      | [] => none
      | key => some (String.ofList key, text.dropWhile inKey)

/-- A key with dots between its parts, blanks around it left out; `rounds` bounds
the count of parts. -/
def readKeyFrom : Nat → List Char → Option (List String × List Char)
  | 0, _ => none
  | rounds + 1, text => do
      let (part, rest) ← readKeyPart (skipBlanks text)
      match skipBlanks rest with
      | '.' :: rest => do
          let (parts, rest) ← readKeyFrom rounds rest
          some (part :: parts, rest)
      | rest => some ([part], rest)

/-- Parts that a key may have. -/
def partLimit : Nat := 80

/-- A key with dots between its parts. -/
def readKey (text : List Char) : Option (List String × List Char) :=
  readKeyFrom partLimit text

end DraftBoard.Toml
