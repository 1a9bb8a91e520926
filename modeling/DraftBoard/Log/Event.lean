import DraftBoard.Text.Hex

/-!
# Log events

What a run tells about itself: a level, the part of the program that speaks, and
a message.
-/

namespace DraftBoard

/-- How urgent an event is, most urgent first. -/
inductive Level where
  | error
  | warn
  | info
  | debug
  | trace
deriving DecidableEq, Repr

namespace Level

/-- The place of a level in the order of urgency. -/
def rank : Level → Nat
  | .error => 1
  | .warn => 2
  | .info => 3
  | .debug => 4
  | .trace => 5

/-- The name of a level in a log line. -/
def name : Level → String
  | .error => "ERROR"
  | .warn => "WARN"
  | .info => "INFO"
  | .debug => "DEBUG"
  | .trace => "TRACE"

end Level

/-- The parts of the program that speak. -/
inductive Source where
  | command
  | lookup
  | saving
  | files
  | remote
deriving DecidableEq, Repr

/-- The name that a log filter knows a part by. -/
def Source.target : Source → String
  | .command => "dashboard_transfer::presentation::commands"
  | .lookup => "dashboard_transfer::application::dashboard_lookup"
  | .saving => "dashboard_transfer::application::save_service"
  | .files => "dashboard_transfer::infrastructure::dashboard_file"
  | .remote => "dashboard_transfer::infrastructure::grafana_repository"

/-- Something that a run tells about itself. -/
structure Event where
  level : Level
  source : Source
  message : String
deriving DecidableEq, Repr

/-- The log line of an event. -/
def Event.line (event : Event) : String :=
  event.level.name ++ " " ++ event.message

/-- How a character of a message is shown on a terminal.  Those that a terminal would
obey are spelled out. -/
def shownChar (c : Char) : List Char :=
  if c = '\x1b' ∨ c = '\x07' ∨ c = '\x08' ∨ c = '\x0c' ∨ c = '\x7f' then
    '\\' :: 'x' :: Text.lowerHex (c.toNat / 16) :: [Text.lowerHex (c.toNat % 16)]
  else if 0x80 ≤ c.toNat ∧ c.toNat ≤ 0x9f then
    '\\' :: 'u' :: '{' :: Text.lowerHex (c.toNat / 16) :: Text.lowerHex (c.toNat % 16) :: ['}']
  else [c]

/-- The event as it is shown on a terminal. -/
def Event.shown (event : Event) : Event :=
  { event with message := String.ofList (event.message.toList.flatMap shownChar) }

end DraftBoard
