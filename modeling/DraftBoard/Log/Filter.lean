import DraftBoard.Log.Event
import DraftBoard.Log.Pattern
import DraftBoard.Text.Alphanumeric
import DraftBoard.Text.Blank
import DraftBoard.Text.Split

/-!
# Log filters

A filter is a list of rules with commas between them.  A rule is a level, the name
of a part of the program, or both with an equality sign between them; in brackets behind
the name it may ask for a field.  For each event the rule with the longest name decides,
and of those the one that asks for most.
-/

namespace DraftBoard

/-- A rule: how much it lets through of the parts whose names start in some way, as far as
they tell some fields. -/
structure LogRule where
  target : Option (List Char)
  fields : List (List Char)
  /-- The rank of the least urgent level that passes; with zero nothing does. -/
  limit : Nat
deriving DecidableEq, Repr

/-- What decides about which events are shown. -/
structure LogFilter where
  rules : List LogRule
deriving DecidableEq, Repr

namespace LogRule

/-- The fields of every event: its message. -/
def eventFields : List (List Char) := ["message".toList]

/-- Whether a rule is about the events of a part. -/
def covers (rule : LogRule) (target : List Char) : Bool :=
  (rule.target.all fun start => start.isPrefixOf target) &&
    rule.fields.all fun field => eventFields.contains field

/-- How long the name of a rule is; no name is shorter than any. -/
def reach (rule : LogRule) : Nat :=
  match rule.target with
  | none => 0
  | some start => start.length + 1

/-- Whether a rule is at least as specific as another one. -/
def atLeast (rule other : LogRule) : Bool :=
  other.reach < rule.reach ||
    other.reach == rule.reach && other.fields.length ≤ rule.fields.length

end LogRule

namespace LogFilter

/-- The rule that decides about a part: of the most specific ones the last. -/
def ruleFor? (filter : LogFilter) (target : List Char) : Option LogRule :=
  filter.rules.foldl (fun best rule =>
    if rule.covers target && best.all rule.atLeast then some rule else best) none

/-- Whether an event is shown. -/
def shows (filter : LogFilter) (event : Event) : Bool :=
  match filter.ruleFor? event.source.target.toList with
  | none => false
  | some rule => event.level.rank ≤ rule.limit

/-- A filter that lets events of a level and more urgent ones through. -/
def upTo (level : Level) : LogFilter := ⟨[⟨none, [], level.rank⟩]⟩

/-- The names of limits. -/
def limitNames : List (List Char × Nat) :=
  [("off".toList, 0), ("error".toList, 1), ("warn".toList, 2), ("info".toList, 3),
    ("debug".toList, 4), ("trace".toList, 5)]

/-- The limit that a number stands for. -/
def numberedLimit? (text : List Char) : Option Nat :=
  let digits :=
    match text with
    | '+' :: rest => rest
    | _ => text
  let value := digits.foldl (fun value c => 10 * value + (c.toNat - 48)) 0
  if !digits.isEmpty && digits.all Char.isDigit && value ≤ Level.trace.rank then some value
  else none

/-- The limit with a name in any case, or with a number. -/
def limit? (text : List Char) : Option Nat :=
  (numberedLimit? text).or (limitNames.lookup (text.map Char.toLower))

/-- The limit behind an equality sign; without one everything passes. -/
def limitBehind? : List Char → Option Nat
  | [] => some Level.trace.rank
  | text => limit? text

/-- Whether a rule may start with a character. -/
def mayStart (c : Char) : Bool :=
  Text.isAlphanumeric c || c == '-' || c == ':' || c == '_'

/-- What a rule asks for in brackets. -/
structure Demand where
  /-- The name of a span of time. -/
  span : Option (List Char)
  /-- A field, and the value that it should have. -/
  field : Option (List Char × Option (List Char))

/-- What the braces in brackets ask for: a field, possibly with a value behind an equality
sign. -/
def fieldOf (text : List Char) : List Char × Option (List Char) :=
  let (name, behind) := Text.cutBefore (· == '=') text
  (name, behind.tail?.map (·.takeWhile (· != '=')))

/-- What stands between brackets, read after the first one, and what follows the last. -/
def demand? (text : List Char) : Option (Demand × List Char) :=
  let (span, rest) := Text.cutBefore (fun c => c == ']' || c == '{') text
  match rest with
  | ']' :: rest => some (⟨some span, none⟩, rest)
  | _ :: inside =>
      match Text.cutBefore (· == '}') inside with
      | (field, '}' :: ']' :: rest) =>
          let (name, value) := fieldOf field
          if value.all Pattern.isValue then
            some (⟨if span.isEmpty then none else some span, some (name, value)⟩, rest)
          else none
      | _ => none
  | [] => none

/-- The rule about events that a demand leaves.  One for a span of time, or for the value of
a field, is met by no event. -/
def Demand.rule? (demand : Demand) (target : Option (List Char)) (limit : Nat) :
    Option LogRule :=
  match demand.span, demand.field with
  | none, some (name, none) => some ⟨target, [name], limit⟩
  | _, _ => none

/-- The rules about events that a text writes: one, or none for a demand that no event
meets.  Blanks are part of a name, so that no event meets a rule with blanks in front; an
equality sign allows none before the rule or behind it. -/
def rules? (text : List Char) : Option (List LogRule) :=
  let core := text.dropWhile Text.isBlank
  let indented := core.length < text.length
  let (name, rest) := Text.cutBefore (fun c => c == '=' || c == '[') core
  if !(core.head?.any fun c => mayStart c || c == '[') then none
  else
    match rest with
    | [] =>
        match limit? text with
        | some limit => some [⟨none, [], limit⟩]
        | none => some [⟨some text, [], Level.trace.rank⟩]
    | '=' :: behind =>
        if indented then none
        else (limitBehind? behind).map fun limit => [⟨some name, [], limit⟩]
    | _ :: inside => do
        let (demand, behind) ← demand? inside
        let limit ←
          match behind with
          | '=' :: behind => if indented then none else limitBehind? behind
          | _ => if behind.all Text.isBlank then some Level.trace.rank else none
        if indented then some []
        else some (demand.rule? (if name.isEmpty then none else some name) limit).toList

/-- The filter that a text writes.  A text without rules lets only errors through. -/
def parse (text : String) : Option LogFilter :=
  match (Text.splitAtMark ',' text.toList).filter (!·.isEmpty) with
  | [] => some (upTo .error)
  | pieces => do
      let rules ← pieces.mapM rules?
      some ⟨rules.flatten⟩

/-- The filter of a run: as asked for, or from `info` on if that cannot be read. -/
def ofRequest (request : Option String) : LogFilter :=
  (request.bind parse).getD (upTo .info)

end LogFilter

end DraftBoard
