import DraftBoard.CommandLine.Grammar
import DraftBoard.Text.Quoted
import DraftBoard.Title

/-!
# Help texts

A page tells what a command is for, how it is used, and what each argument means.
Brief pages have one line for an argument, full pages a paragraph.
-/

namespace DraftBoard.CommandLine

/-- The name of the program. -/
def programName : String := "dashboard-transfer"

/-- The answer to the question for the version. -/
def versionText : String := programName ++ " 0.1.0\n"

/-- What the program is for. -/
def programAbout : String :=
  "Move Grafana dashboards between the provisioned area and editable WIP copies"

/-- What a command is for. -/
def Command.about : Command → String
  | .promote => "Make an editable copy of a provisioned dashboard under the General folder"
  | .save => "Save a WIP dashboard into the provisioned area"

/-- What the word for help is for. -/
def helpAbout : String := "Print this message or the help of the given subcommand(s)"

/-- What the title behind a command means. -/
def Command.titleAbout : Command → String
  | .promote => ""
  | .save => "The reference or WIP title; the WIP suffix is appended as needed"

/-- What the value of an option is called. -/
def OptionName.placeholder : OptionName → String
  | .config => "FILE"
  | .rootUrl => "ROOT_URL"
  | .user => "USER"
  | .password => "PASSWORD"
  | .folder => "FOLDER"
  | .title => "TITLE"
  | .outDir => "OUT_DIR"

/-- How a flag is written. -/
def Flag.usage (flag : Flag) : String :=
  "-" ++ String.singleton flag.short ++ ", --" ++ flag.long ++
    match flag with
    | .option name => " <" ++ name.placeholder ++ ">"
    | .switch _ => ""

/-- What an option means, in brief or in full. -/
def OptionName.about (full : Bool) : OptionName → String
  | .config => "TOML file with defaults for any of root_url, user, password, folder, out_dir"
  | .rootUrl => "Grafana root URL, default: http://localhost:3000"
  | .user => "Grafana user, default: admin"
  | .password => "Grafana password, default: vmi"
  | .folder => "Grafana folder, default: vmi-reference"
  | .title =>
      if full then
        "New title. If not provided it is inferred from the WIP title with the " ++
          Text.quoted Title.draftMark ++ " suffix removed and the " ++
          Text.quoted Title.referenceMark ++ " suffix appended as needed."
      else "New title. Inferred from the WIP title when omitted"
  | .outDir => "Output dir, default: dashboards/ next to this executable"

/-- What a switch means on a page. -/
def SwitchName.about (page : HelpPage) : SwitchName → String
  | .keep =>
      "Keep instance and hostname variable selections. By default they are either " ++
        "cleared or set to All if the latter is enabled"
  | .help =>
      match page with
      | .command .save true => "Print help (see a summary with '-h')"
      | .command .save false => "Print help (see more with '--help')"
      | _ => "Print help"
  | .version => "Print version"

/-- What a flag means on a page. -/
def Flag.about (page : HelpPage) (full : Bool) : Flag → String
  | .option name => name.about full
  | .switch name => name.about page

/-- A text with blanks at its end up to a width. -/
def padded (width : Nat) (text : String) : String :=
  text ++ String.ofList (List.replicate (width - text.length) ' ')

/-- One line for each entry, the explanations below each other. -/
def briefList (entries : List (String × String)) : String :=
  let width := (entries.map fun (usage, _) => usage.length).foldl max 0
  String.join (entries.map fun (usage, about) => "  " ++ padded width usage ++ "  " ++ about ++ "\n")

/-- One paragraph for each entry. -/
def fullList (entries : List (String × String)) : String :=
  "\n".intercalate (entries.map fun (usage, about) => "  " ++ usage ++ "\n          " ++ about ++ "\n")

/-- A page: purpose, usage, and sections with a heading each. -/
def layout (about usage : String) (sections : List (String × String)) : String :=
  about ++ "\n\nUsage: " ++ programName ++ " " ++ usage ++ "\n" ++
    String.join (sections.map fun (heading, body) => "\n" ++ heading ++ ":\n" ++ body)

/-- The flags of a part of a command line as entries of a page. -/
def flagEntries (scope : Scope) (page : HelpPage) (full : Bool) : List (String × String) :=
  scope.flags.map fun flag => (flag.usage, flag.about page full)

/-- Whether the full page of a command says more than the brief one. -/
def Command.hasFullPage : Command → Bool
  | .promote => false
  | .save => true

/-- The text of a page. -/
def HelpPage.text (page : HelpPage) : String :=
  match page with
  | .program =>
      layout programAbout "[OPTIONS] <COMMAND>" [
        ("Commands", briefList ((Command.all.map fun command => (command.word, command.about)) ++
          [(helpWord, helpAbout)])),
        ("Options", briefList (flagEntries .program page false))]
  | .command name full =>
      let full := full && name.hasFullPage
      let list := if full then fullList else briefList
      layout name.about (name.word ++ " [OPTIONS] <DASHBOARD_TITLE>") [
        ("Arguments", list [("<DASHBOARD_TITLE>", name.titleAbout)]),
        ("Options", list (flagEntries (.command name) page full))]
  | .help =>
      layout helpAbout (helpWord ++ " [COMMAND]...") [
        ("Arguments", briefList [("[COMMAND]...", "Print help for the subcommand(s)")])]

end DraftBoard.CommandLine
