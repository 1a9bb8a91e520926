import DraftBoard.Files.Path

/-!
# Settings

Where the server is, who asks, and where saved dashboards go.  A run may override
any setting, and name a file with others.
-/

namespace DraftBoard

/-- The names of the settings. -/
inductive SettingName where
  | rootUrl
  | user
  | password
  | folder
  | outDir
deriving DecidableEq, Repr

/-- The key of a setting in a file. -/
def SettingName.key : SettingName → String
  | .rootUrl => "root_url"
  | .user => "user"
  | .password => "password"
  | .folder => "folder"
  | .outDir => "out_dir"

/-- The settings of a run. -/
structure Settings where
  rootUrl : String
  user : String
  password : String
  /-- Folder of saved dashboards below the output directory. -/
  folder : String
  outDir : Path
deriving DecidableEq, Repr

/-- What a run sets itself, and the file that it takes other settings from. -/
structure Overrides where
  settingsFile : Option Path := none
  rootUrl : Option String := none
  user : Option String := none
  password : Option String := none
  folder : Option String := none
  outDir : Option Path := none
deriving DecidableEq, Repr

/-- The value that a run itself gives to a setting. -/
def Overrides.given? (overrides : Overrides) : SettingName → Option String
  | .rootUrl => overrides.rootUrl
  | .user => overrides.user
  | .password => overrides.password
  | .folder => overrides.folder
  | .outDir => overrides.outDir.map Path.text

/-- The value of a setting that nothing sets; saved dashboards go next to the program. -/
def SettingName.default (outDir : Path) : SettingName → String
  | .rootUrl => "http://localhost:3000"
  | .user => "admin"
  | .password => "vmi"
  | .folder => "vmi-reference"
  | .outDir => outDir.text

/-- Shapes that no setting has. -/
inductive SettingShape where
  | sequence
  | map
deriving DecidableEq, Repr

/-- The name of a shape. -/
def SettingShape.name : SettingShape → String
  | .sequence => "sequence"
  | .map => "map"

/-- Why there are no settings. -/
inductive SettingsError where
  /-- There is no file of this name. -/
  | notFound (file : Path)
  /-- The file does not hold what a settings file holds. -/
  | invalidFile (file : Path)
  /-- A setting is no text.  The file is the one that the value stands in as a whole. -/
  | wrongShape (shape : SettingShape) (setting : SettingName) (file : Option Path)
deriving DecidableEq, Repr

/-- The failure in words. -/
def SettingsError.message : SettingsError → String
  | .notFound file => "configuration file \"" ++ file.text ++ "\" not found"
  | .invalidFile file => "configuration file \"" ++ file.text ++ "\" is not valid TOML"
  | .wrongShape shape setting file =>
      "invalid type: " ++ shape.name ++ ", expected a string for key `" ++ setting.key ++ "`" ++
        match file with
        | some file => " in " ++ file.text
        | none => ""

end DraftBoard
