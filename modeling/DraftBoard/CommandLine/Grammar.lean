import DraftBoard.Settings.Basic

/-!
# The grammar of command lines

A command line names a command, a title, options that take a value, and switches
that take none.  What is known depends on where it stands: in front of the command
or behind it.
-/

namespace DraftBoard.CommandLine

/-- What can be done with a dashboard. -/
inductive Command where
  | promote
  | save
deriving DecidableEq, Repr

/-- The word for a command. -/
def Command.word : Command → String
  | .promote => "promote"
  | .save => "save"

/-- All commands, in the order of the help. -/
def Command.all : List Command := [.promote, .save]

/-- The word that asks for help in place of a command. -/
def helpWord : String := "help"

/-- Options: they take a value. -/
inductive OptionName where
  | config
  | rootUrl
  | user
  | password
  | folder
  | title
  | outDir
deriving DecidableEq, Repr

/-- Whether the value of an option is a path, which is never empty. -/
def OptionName.takesPath : OptionName → Bool
  | .config | .outDir => true
  | _ => false

/-- Switches: they take no value. -/
inductive SwitchName where
  | keep
  | help
  | version
deriving DecidableEq, Repr

/-- An option or a switch. -/
inductive Flag where
  | option (name : OptionName)
  | switch (name : SwitchName)
deriving DecidableEq, Repr

/-- The letter of a flag behind a single hyphen. -/
def Flag.short : Flag → Char
  | .option .config => 'c'
  | .option .rootUrl => 'r'
  | .option .user => 'u'
  | .option .password => 'p'
  | .option .folder => 'f'
  | .option .title => 't'
  | .option .outDir => 'o'
  | .switch .keep => 'k'
  | .switch .help => 'h'
  | .switch .version => 'V'

/-- The word of a flag behind a double hyphen. -/
def Flag.long : Flag → String
  | .option .config => "config"
  | .option .rootUrl => "root-url"
  | .option .user => "user"
  | .option .password => "password"
  | .option .folder => "folder"
  | .option .title => "title"
  | .option .outDir => "out-dir"
  | .switch .keep => "keep"
  | .switch .help => "help"
  | .switch .version => "version"

/-- The parts of a command line. -/
inductive Scope where
  /-- In front of the command. -/
  | program
  /-- Behind a command. -/
  | command (command : Command)
deriving DecidableEq, Repr

/-- Options that tell where the server is and who asks. -/
def serverFlags : List Flag :=
  [.option .rootUrl, .option .user, .option .password]

/-- The flags that are known in a part of a command line, in the order of the help. -/
def Scope.flags : Scope → List Flag
  | .program => [.option .config, .switch .help, .switch .version]
  | .command .promote => .option .config :: serverFlags ++ [.switch .help]
  | .command .save =>
      .option .config :: serverFlags ++
        [.option .folder, .switch .keep, .option .title, .option .outDir, .switch .help]

/-- The flag with a letter. -/
def Scope.short? (scope : Scope) (letter : Char) : Option Flag :=
  scope.flags.find? fun flag => flag.short == letter

/-- The flag with a word. -/
def Scope.long? (scope : Scope) (word : List Char) : Option Flag :=
  scope.flags.find? fun flag => flag.long.toList == word

/-- The command with a word. -/
def command? (word : String) : Option Command :=
  Command.all.find? fun command => command.word == word

/-- Pages of help. -/
inductive HelpPage where
  | program
  | command (command : Command) (full : Bool)
  /-- The help on asking for help. -/
  | help
deriving DecidableEq, Repr

/-- The page that a part of a command line gets. -/
def Scope.page (scope : Scope) (full : Bool) : HelpPage :=
  match scope with
  | .program => .program
  | .command name => .command name full

/-- What a command is to do. -/
inductive Task where
  | promote
  | save (keepSelections : Bool) (newTitle : Option String)
deriving DecidableEq, Repr

/-- What a whole command line asks for. -/
structure Invocation where
  task : Task
  /-- Title of the dashboard. -/
  title : String
  overrides : Overrides
deriving DecidableEq, Repr

/-- Why a command line is refused. -/
inductive Refusal where
  /-- A flag that is not known here, or one title too many. -/
  | unknownArgument
  /-- A word that is no command. -/
  | unknownCommand
  | missingTitle
  | missingCommand
  /-- An option without its value, or a path that is empty. -/
  | invalidValue
  /-- A flag that was given before. -/
  | repeated
  /-- A switch with a value. -/
  | extraValue
deriving DecidableEq, Repr

/-- Why a command line does not lead to a command. -/
inductive Stop where
  | help (page : HelpPage)
  | version
  /-- Nothing was given at all. -/
  | nothingGiven
  | refused (cause : Refusal)
deriving DecidableEq, Repr

end DraftBoard.CommandLine
