import DraftBoard.CommandLine.Grammar

/-!
# Reading command lines

Arguments are taken from left to right.  An option waits for its value, and is
settled when the next flag or title comes; what is wrong first decides.
-/

namespace DraftBoard.CommandLine

/-- What has been read of one part of a command line. -/
structure Reading where
  values : List (OptionName × String) := []
  keep : Bool := false
  title : Option String := none
  /-- An option that is not settled yet, with its value as far as it has one. -/
  pending : Option (OptionName × Option String) := none
  /-- Whether a double hyphen has made everything a title. -/
  titlesOnly : Bool := false
deriving DecidableEq, Repr

namespace Reading

/-- Whether the next argument may be the value of an option. -/
def awaitsValue (reading : Reading) : Bool :=
  match reading.pending with
  | some (_, none) => !reading.titlesOnly
  | _ => false

/-- Gives an option its value. -/
def record (reading : Reading) (name : OptionName) (value : String) : Except Stop Reading :=
  if (reading.values.lookup name).isSome then .error (.refused .repeated)
  else if name.takesPath && value.isEmpty then .error (.refused .invalidValue)
  else .ok { reading with values := reading.values ++ [(name, value)] }

/-- Settles the option that is not settled yet. -/
def settle (reading : Reading) : Except Stop Reading :=
  match reading.pending with
  | none => .ok reading
  | some (_, none) => .error (.refused .invalidValue)
  | some (name, some value) => { reading with pending := none }.record name value

/-- Takes an option that still waits for its value. -/
def await (reading : Reading) (name : OptionName) : Except Stop Reading := do
  let reading ← reading.settle
  return { reading with pending := some (name, none) }

/-- Takes an option together with its value. -/
def attach (reading : Reading) (name : OptionName) (value : List Char) : Except Stop Reading := do
  let reading ← reading.settle
  reading.record name (String.ofList value)

/-- Takes a switch; help and version end the reading. -/
def turnOn (scope : Scope) (full : Bool) (reading : Reading) (name : SwitchName) :
    Except Stop Reading := do
  let reading ← reading.settle
  match name with
  | .keep =>
      if reading.keep then throw (.refused .repeated) else return { reading with keep := true }
  | .help => throw (.help (scope.page full))
  | .version => throw .version

/-- Takes a flag of a double hyphen: a word, and possibly a value behind an equality
sign. -/
def takeLong (scope : Scope) (reading : Reading) (body : List Char) : Except Stop Reading :=
  let word := body.takeWhile (· != '=')
  match scope.long? word, body.dropWhile (· != '=') with
  | none, _ => .error (.refused .unknownArgument)
  | some (.option name), _ :: value => reading.attach name value
  | some (.option name), [] => reading.await name
  | some (.switch _), _ :: _ => .error (.refused .extraValue)
  | some (.switch name), [] => reading.turnOn scope true name

/-- An attached value without the equality sign in front. -/
def dropEquality : List Char → List Char
  | '=' :: value => value
  | value => value

/-- Takes the letters of a single hyphen: switches, and possibly an option with all
that remains as its value. -/
def takeShort (scope : Scope) : Reading → List Char → Except Stop Reading
  | reading, [] => .ok reading
  | reading, letter :: rest =>
      match scope.short? letter with
      | none => .error (.refused .unknownArgument)
      | some (.switch name) => do
          let reading ← reading.turnOn scope false name
          takeShort scope reading rest
      | some (.option name) =>
          if rest.isEmpty then reading.await name else reading.attach name (dropEquality rest)

/-- Takes a word that is no flag.  In front of the command it can only be meant as one. -/
def takeWord (scope : Scope) (reading : Reading) (word : String) : Except Stop Reading :=
  match scope with
  | .program =>
      let known := word == helpWord || (command? word).isSome
      .error (.refused (if reading.titlesOnly && known then .unknownArgument else .unknownCommand))
  | .command _ =>
      match reading.title with
      | some _ => .error (.refused .unknownArgument)
      | none => do
          let reading ← reading.settle
          return { reading with title := some word }

/-- Takes an argument that is neither a flag nor behind a double hyphen. -/
def takeValue (scope : Scope) (reading : Reading) (argument : String) : Except Stop Reading :=
  match reading.pending with
  | some (name, none) => .ok { reading with pending := some (name, some argument) }
  | _ => reading.takeWord scope argument

/-- Takes the next argument. -/
def take (scope : Scope) (reading : Reading) (argument : String) : Except Stop Reading :=
  if reading.titlesOnly then reading.takeWord scope argument
  else
    match argument.toList with
    | ['-', '-'] => .ok { reading with titlesOnly := true }
    | '-' :: '-' :: body => reading.takeLong scope body
    | '-' :: letter :: rest => reading.takeShort scope (letter :: rest)
    | _ => reading.takeValue scope argument

/-- The value of an option. -/
def value? (reading : Reading) (name : OptionName) : Option String :=
  reading.values.lookup name

end Reading

/-- Reads everything behind a command. -/
def readCommand (command : Command) (arguments : List String) : Except Stop Reading := do
  let reading ← arguments.foldlM (Reading.take (.command command)) {}
  reading.settle

/-- What the two parts of a command line set, the part behind the command first. -/
def overridesOf (outer inner : Reading) : Overrides where
  settingsFile := ((inner.value? .config).or (outer.value? .config)).map .ofString
  rootUrl := inner.value? .rootUrl
  user := inner.value? .user
  password := inner.value? .password
  folder := inner.value? .folder
  outDir := (inner.value? .outDir).map .ofString

/-- What a command is to do with what was read behind it. -/
def taskOf (command : Command) (inner : Reading) : Task :=
  match command with
  | .promote => .promote
  | .save => .save inner.keep (inner.value? .title)

/-- Reads a command and everything behind it, then settles the part in front. -/
def invoke (outer : Reading) (command : Command) (arguments : List String) :
    Except Stop Invocation := do
  let inner ← readCommand command arguments
  match inner.title with
  | none => throw (.refused .missingTitle)
  | some title =>
      let outer ← outer.settle
      return { task := taskOf command inner, title, overrides := overridesOf outer inner }

/-- The page that the words behind the one for help lead to. -/
def helpOn : List String → Stop
  | [] => .help .program
  | [word] =>
      match command? word with
      | some command => .help (.command command true)
      | none => if word = helpWord then .help .help else .refused .unknownCommand
  | _ :: _ :: _ => .refused .unknownCommand

/-- What a command line that names no command amounts to. -/
def withoutCommand (outer : Reading) : Except Stop Invocation := do
  let outer ← outer.settle
  throw (if outer.values.isEmpty then .nothingGiven else .refused .missingCommand)

/-- Reads arguments up to the command, and the command with everything behind it. -/
def readProgram : Reading → List String → Except Stop Invocation
  | outer, [] => withoutCommand outer
  | outer, argument :: rest =>
      if outer.titlesOnly || outer.awaitsValue then do
        let outer ← outer.take .program argument
        readProgram outer rest
      else if argument = helpWord then .error (helpOn rest)
      else
        match command? argument with
        | some command => invoke outer command rest
        | none => do
            let outer ← outer.take .program argument
            readProgram outer rest

/-- What the arguments of a command line ask for. -/
def parse (arguments : List String) : Except Stop Invocation :=
  readProgram {} arguments

end DraftBoard.CommandLine
