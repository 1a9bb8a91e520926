import DraftBoard.CommandLine.Help
import DraftBoard.Run

/-!
# Outcomes

What a finished run leaves to its caller: an exit code, and texts on the two output
streams.
-/

namespace DraftBoard

open CommandLine

/-- What a finished run leaves; `errors` comes behind the log. -/
structure Outcome where
  exitCode : Nat
  output : String
  errors : String
deriving DecidableEq, Repr

/-- The refusal in words. -/
def CommandLine.Refusal.message : Refusal → String
  | .unknownArgument => "unexpected argument found"
  | .unknownCommand => "unrecognized subcommand"
  | .missingTitle => "the following required arguments were not provided: <DASHBOARD_TITLE>"
  | .missingCommand => "a subcommand is required but one was not provided"
  | .invalidValue => "a value is required for an option but none was supplied"
  | .repeated => "an argument cannot be used multiple times"
  | .extraValue => "unexpected value for an argument that takes none"

/-- What a command line leaves that does not lead to a command. -/
def Outcome.ofStop : Stop → Outcome
  | .help page => ⟨0, page.text, ""⟩
  | .version => ⟨0, versionText, ""⟩
  | .nothingGiven => ⟨2, "", HelpPage.program.text⟩
  | .refused cause =>
      ⟨2, "", "error: " ++ cause.message ++ "\n\nFor more information, try '--help'.\n"⟩

/-- What a run of a command leaves. -/
def Outcome.ofRun : Except RunError Unit → Outcome
  | .ok () => ⟨0, "", ""⟩
  | .error cause => ⟨1, "", "Error: " ++ cause.message ++ "\n"⟩

end DraftBoard
