import DraftBoard.Settings.Layer
import DraftBoard.Toml.Parser
import DraftBoard.Transfer.Catalogue

/-!
# Loading settings

The settings file of a run is looked for as it is named, then with `.toml` at its
end.  One byte order mark at the start of the file belongs to the file, not to its text.
-/

namespace DraftBoard.Settings

variable {m : Type → Type} [Monad m]

/-- The path and the text of the settings file with a name. -/
def findFile (machine : Machine m) (name : Path) : m (Option (Path × String)) := do
  let path := (← machine.workingDirectory).join name
  match ← machine.readFile path with
  | some text => return some (path, text)
  | none =>
      let longer := path.withEnding "toml".toList
      return (← machine.readFile longer).map fun text => (longer, text)

/-- The settings file with a name, read. -/
def readFile (machine : Machine m) (name : Path) : ExceptT SettingsError m SettingsFile := do
  match ← (findFile machine name : m (Option (Path × String))) with
  | none => throw (.notFound name)
  | some (path, text) =>
      let path := path.relativeTo (← machine.workingDirectory)
      match Toml.parse (String.ofList (Toml.dropMark text.toList)) with
      | some entries => return { path, entries }
      | none => throw (.invalidFile path)

/-- The settings of a run: its overrides over its settings file over the defaults. -/
def load (machine : Machine m) (outDir : Path) (overrides : Overrides) :
    ExceptT SettingsError m Settings := do
  match overrides.settingsFile with
  | none => ofLayers outDir none overrides
  | some name =>
      let file ← readFile machine name
      ofLayers outDir (some file) overrides

end DraftBoard.Settings
