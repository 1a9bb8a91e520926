import DraftBoard.Text.Alphanumeric
import DraftBoard.Text.Hex
import DraftBoard.Text.Split

/-!
# Patterns of a log filter

A log filter may ask for the value of a field with a regular expression.  No event has
such a field, so all that a pattern decides is whether the filter can be read: `isPattern`
says whether a text is one.  Braces do not occur in it other than as characters.
-/

namespace DraftBoard.Pattern

/-- What a backslash and the characters behind it stand for. -/
inductive Escape where
  | char (code : Nat)
  | charSet (negated : Bool)
  | category
  | edge
  | wordEdge
deriving DecidableEq, Repr

/-- Reads a character number of so many digits. -/
def numbered? (count : Nat) (text : List Char) : Option (Escape × List Char) := do
  let code ← Text.numeral? 16 (text.take count)
  if (text.take count).length < count ∨ 0x110000 ≤ code ∨ 0xd800 ≤ code ∧ code < 0xe000 then none
  else some (.char code, text.drop count)

/-- What follows a backslash. -/
def escape? : List Char → Option (Escape × List Char)
  | [] => none
  | c :: rest =>
      if c = 'x' then numbered? 2 rest
      else if c = 'u' then numbered? 4 rest
      else if c = 'U' then numbered? 8 rest
      else if c = 'p' ∨ c = 'P' then
        match rest with
        | letter :: rest =>
            if "CLMNPSZ".toList.contains letter.toUpper then some (.category, rest) else none
        | [] => none
      else if c = 'A' ∨ c = 'z' then some (.edge, rest)
      else if "bB<>".toList.contains c then some (.wordEdge, rest)
      else if "dsw".toList.contains c then some (.charSet false, rest)
      else if "DSW".toList.contains c then some (.charSet true, rest)
      else if "aftnrv".toList.contains c ∨ c.toNat < 0x80 ∧ !c.isAlphanum then
        some (.char c.toNat, rest)
      else none

/-- Whether an escape may stand in a part that is about characters, or about bytes. -/
def Escape.isAllowed (unicode : Bool) : Escape → Bool
  | .char code => unicode || code < 0x80
  | .charSet negated => unicode || !negated
  | .category => unicode
  | .edge => true
  | .wordEdge => !unicode

/-- The names of sets in a set. -/
def setNames : List String :=
  ["alnum", "alpha", "ascii", "blank", "cntrl", "digit", "graph", "lower", "print", "punct",
    "space", "upper", "word", "xdigit"]

/-- What follows the name of a set in a set, read after its bracket. -/
def namedSet? (text : List Char) : Option (List Char) :=
  match text with
  | ':' :: inside =>
      let inside := if inside.head? = some '^' then inside.drop 1 else inside
      match Text.cutBefore (· == ':') inside with
      | (name, ':' :: ']' :: rest) =>
          if setNames.contains (String.ofList name) then some rest else none
      | _ => none
  | _ => none

/-- What follows the opening of a set, read after its bracket: a mark that negates it, and
hyphens or a closing bracket that stand for themselves. -/
def openSet? (unicode : Bool) (text : List Char) : Option (List Char) :=
  let negated := text.head? == some '^'
  let inside := if negated then text.drop 1 else text
  let rest := inside.dropWhile (· == '-')
  let rest := if rest.length = inside.length && rest.head? == some ']' then rest.drop 1 else rest
  if rest.isEmpty || negated && !unicode then none else some rest

/-- An item of a set: its character number, or none for several characters. -/
def setItem? (unicode : Bool) : List Char → Option (Option Nat × List Char)
  | [] => none
  | '\\' :: rest => do
      let (escape, rest) ← escape? rest
      match escape with
      | .char code => if escape.isAllowed unicode then some (some code, rest) else none
      | .charSet _ | .category => if escape.isAllowed unicode then some (none, rest) else none
      | .edge | .wordEdge => none
  | c :: rest => if unicode || c.toNat < 0x80 then some (some c.toNat, rest) else none

/-- What follows a set, read after its opening inside `depth` other ones; `rounds` bounds
the count of items. -/
def setFrom (unicode : Bool) : Nat → Nat → List Char → Option (List Char)
  | 0, _, _ => none
  | rounds + 1, depth, text =>
      match text with
      | [] => none
      | '[' :: rest =>
          match namedSet? rest with
          | some rest => setFrom unicode rounds depth rest
          | none => do setFrom unicode rounds (depth + 1) (← openSet? unicode rest)
      | ']' :: rest => if depth = 0 then some rest else setFrom unicode rounds (depth - 1) rest
      | '&' :: '&' :: rest => setFrom unicode rounds depth rest
      | '-' :: '-' :: rest => setFrom unicode rounds depth rest
      | '~' :: '~' :: rest => setFrom unicode rounds depth rest
      | _ => do
          let (first, rest) ← setItem? unicode text
          match rest with
          | '-' :: ']' :: _ => setFrom unicode rounds depth rest
          | '-' :: '-' :: _ => setFrom unicode rounds depth rest
          | '-' :: after => do
              let (last, rest) ← setItem? unicode after
              match first, last with
              | some low, some high => if low ≤ high then setFrom unicode rounds depth rest else none
              | _, _ => none
          | _ => setFrom unicode rounds depth rest

/-- What a group starts with behind its question mark. -/
inductive GroupHead where
  | named (name : List Char)
  /-- Flags for the group, or else for what follows, and whether that is about characters. -/
  | flags (unicode : Option Bool) (ownGroup : Bool)

/-- Flags up to their end; `seen` holds the ones so far, last first. -/
def flags? (seen : List Char) (unicode : Option Bool) :
    List Char → Option (GroupHead × List Char)
  | [] => none
  | c :: rest =>
      if c = ':' ∨ c = ')' then
        if seen.head? = some '-' ∨ (c = ')' ∧ seen = []) then none
        else some (.flags unicode (c == ':'), rest)
      else if seen.contains c ∨ !"-imsUuRx".toList.contains c then none
      else flags? (c :: seen) (if c = 'u' then some (!seen.contains '-') else unicode) rest

/-- Whether a text can name a group. -/
def isGroupName : List Char → Bool
  | [] => false
  | first :: rest =>
      (first == '_' || Text.isAlphanumeric first && !first.isDigit) &&
        rest.all fun c => Text.isAlphanumeric c || "_.[]".toList.contains c

/-- A name up to its end. -/
def groupName? (text : List Char) : Option (GroupHead × List Char) :=
  match Text.cutBefore (· == '>') text with
  | (name, _ :: rest) => if isGroupName name then some (.named name, rest) else none
  | _ => none

/-- What a group starts with, read after its question mark.  Looking ahead or back is not
possible. -/
def groupHead? : List Char → Option (GroupHead × List Char)
  | 'P' :: '<' :: rest => groupName? rest
  | '<' :: rest => groupName? rest
  | text => flags? [] none text

/-- What reading a pattern keeps in mind: whether the open groups stand in parts that are
about characters, innermost first, whether this one is, whether there is something to
repeat, and the names so far. -/
structure State where
  outer : List Bool
  unicode : Bool
  repeatable : Bool
  names : List (List Char)

/-- Whether the rest of a text goes on with a pattern; `rounds` bounds the count of steps. -/
def goesOn : Nat → State → List Char → Bool
  | 0, _, _ => false
  | rounds + 1, state, text =>
      let item := { state with repeatable := true }
      let inner := { state with outer := state.unicode :: state.outer, repeatable := false }
      match text with
      | [] => state.outer.isEmpty
      | '(' :: '?' :: rest =>
          match groupHead? rest with
          | some (.named name, rest) =>
              !state.names.contains name &&
                goesOn rounds { inner with names := name :: state.names } rest
          | some (.flags unicode ownGroup, rest) =>
              let unicode := unicode.getD state.unicode
              goesOn rounds
                (if ownGroup then { inner with unicode }
                else { state with unicode, repeatable := false }) rest
          | none => false
      | '(' :: rest => goesOn rounds inner rest
      | ')' :: rest =>
          match state.outer with
          | unicode :: outer => goesOn rounds { item with outer, unicode } rest
          | [] => false
      | '|' :: rest => goesOn rounds { state with repeatable := false } rest
      | '{' :: _ => false
      | '[' :: rest =>
          match (openSet? state.unicode rest).bind (setFrom state.unicode rounds 0) with
          | some rest => goesOn rounds item rest
          | none => false
      | '\\' :: rest =>
          match escape? rest with
          | some (escape, rest) => escape.isAllowed state.unicode && goesOn rounds item rest
          | none => false
      | c :: rest =>
          if c = '*' ∨ c = '+' ∨ c = '?' then
            state.repeatable &&
              goesOn rounds item (if rest.head? = some '?' then rest.drop 1 else rest)
          else (state.unicode || c != '.') && goesOn rounds item rest

/-- Whether a text is a pattern. -/
def isPattern (text : List Char) : Bool :=
  goesOn (text.length + 1) ⟨[], true, false, []⟩ text

/-- Whether a text behind a plus sign writes a number. -/
def isMagnitude (text : List Char) : Bool :=
  let (whole, rest) := Text.cutBefore (fun c => !c.isDigit) text
  let (fraction, rest) :=
    match rest with
    | '.' :: rest => Text.cutBefore (fun c => !c.isDigit) rest
    | _ => ([], rest)
  let exponent :=
    match rest with
    | [] => true
    | mark :: rest =>
        let digits := if rest.head? = some '+' ∨ rest.head? = some '-' then rest.drop 1 else rest
        (mark == 'e' || mark == 'E') && !digits.isEmpty && digits.all Char.isDigit
  ["inf", "infinity", "nan"].contains (String.ofList (text.map Char.toLower)) ||
    !(whole ++ fraction).isEmpty && exponent

/-- Whether a text gives the value of a field: a pattern, or a number with a sign. -/
def isValue (text : List Char) : Bool :=
  match text with
  | '+' :: rest => isMagnitude rest
  | _ => isPattern text

end DraftBoard.Pattern
