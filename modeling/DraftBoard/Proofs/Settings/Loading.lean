import DraftBoard.Proofs.Settings.Layers
import DraftBoard.Proofs.Transfer.Runs
import DraftBoard.Settings.Load

/-!
# Where the layers come from

Loading settings looks at one file at most and changes nothing.  There are no settings if a
file is named and cannot be found, or does not hold what a settings file holds.
-/

namespace DraftBoard.Settings

variable {σ : Type}

/-- The path and the text of the settings file with a name: as it is named, or with `.toml`
at its end. -/
def fileNamed? (files : FileTree) (name : Path) : Option (Path × String) :=
  let path := files.workingPath.join name
  match files.content? path with
  | some text => some (path, text)
  | none =>
      (files.content? (path.withEnding "toml".toList)).map fun text =>
        (path.withEnding "toml".toList, text)

/-- The entries that the text of a settings file holds. -/
def entriesIn? (text : String) : Option Toml.Entries :=
  Toml.parse (String.ofList (Toml.dropMark text.toList))

/-- The file that a run takes settings from, if it names one. -/
def source (files : FileTree) (overrides : Overrides) :
    Except SettingsError (Option SettingsFile) :=
  match overrides.settingsFile with
  | none => .ok none
  | some name =>
      match fileNamed? files name with
      | none => .error (.notFound name)
      | some (path, text) =>
          match entriesIn? text with
          | none => .error (.invalidFile (path.relativeTo files.workingPath))
          | some entries => .ok (some ⟨path.relativeTo files.workingPath, entries⟩)

theorem source_of_missing {files : FileTree} {overrides : Overrides} {name : Path}
    (named : overrides.settingsFile = some name)
    (missing : files.content? (files.workingPath.join name) = none)
    (missingToo : files.content?
      ((files.workingPath.join name).withEnding "toml".toList) = none) :
    source files overrides = .error (.notFound name) := by
  have nothing : fileNamed? files name = none := by
    rw [fileNamed?, missing, missingToo]
    rfl
  rw [source, named]
  simp only [nothing]

theorem source_of_invalid {files : FileTree} {overrides : Overrides} {name path : Path}
    {text : String} (named : overrides.settingsFile = some name)
    (found : fileNamed? files name = some (path, text)) (unread : entriesIn? text = none) :
    source files overrides = .error (.invalidFile (path.relativeTo files.workingPath)) := by
  rw [source, named]
  simp only [found, unread]

theorem nodup_of_source {files : FileTree} {overrides : Overrides} {file : Option SettingsFile}
    (found : source files overrides = .ok file) : (entriesOf file).keys.Nodup := by
  unfold source at found
  split at found
  · cases found
    exact List.nodup_nil
  · split at found
    · cases found
    · split at found
      · cases found
      · next entries parsed =>
          cases found
          exact Toml.nodup_keys_of_parse parsed

/-- What loading settings in a world comes to, and the world afterwards. -/
def loadIn (outDir : Path) (overrides : Overrides) (world : World σ) :
    Except SettingsError Settings × World σ :=
  (load World.machine outDir overrides).run.run world

theorem findFile_run (name : Path) (world : World σ) :
    (findFile World.machine name).run world = (fileNamed? world.files name, world) := by
  have directory : (World.machine.workingDirectory : StateM (World σ) Path).run world =
      (world.files.workingPath, world) := rfl
  have reads : ∀ path, (World.machine.readFile path : StateM (World σ) (Option String)).run
      world = (world.files.content? path, world) := fun _ => rfl
  rw [findFile, StateT.run_bind, directory]
  show StateT.run (World.machine.readFile (world.files.workingPath.join name) >>= _) world = _
  rw [StateT.run_bind, reads, fileNamed?]
  dsimp only
  cases world.files.content? (world.files.workingPath.join name) with
  | some text => rfl
  | none =>
      show StateT.run (World.machine.readFile _ >>= _) world = _
      rw [StateT.run_bind, reads]
      rfl

theorem readFile_run (name : Path) (world : World σ) :
    (readFile World.machine name).run.run world =
      (match fileNamed? world.files name with
        | none => .error (.notFound name)
        | some (path, text) =>
            match entriesIn? text with
            | none => .error (.invalidFile (path.relativeTo world.files.workingPath))
            | some entries => .ok ⟨path.relativeTo world.files.workingPath, entries⟩,
        world) := by
  rw [readFile, run_run_bind]
  simp only [liftM, run_run_lift, findFile_run]
  cases fileNamed? world.files name with
  | none => rfl
  | some file =>
      obtain ⟨path, text⟩ := file
      dsimp only
      rw [run_run_bind, run_run_lift, entriesIn?]
      dsimp only
      cases Toml.parse (String.ofList (Toml.dropMark text.toList)) <;> rfl

/-- Loading settings changes nothing, and comes to what the layers come to. -/
theorem loadIn_eq (outDir : Path) (overrides : Overrides) (world : World σ) :
    loadIn outDir overrides world =
      ((source world.files overrides).bind fun file => ofLayers outDir file overrides,
        world) := by
  have layered : ∀ file, (monadLift (ofLayers outDir file overrides) :
      ExceptT SettingsError (StateM (World σ)) Settings).run.run world =
        (ofLayers outDir file overrides, world) := by
    intro file
    cases ofLayers outDir file overrides <;> rfl
  rw [loadIn, load, source]
  cases overrides.settingsFile with
  | none => exact layered none
  | some name =>
      dsimp only
      rw [run_run_bind, readFile_run]
      cases fileNamed? world.files name with
      | none => rfl
      | some file =>
          obtain ⟨path, text⟩ := file
          dsimp only
          cases entriesIn? text with
          | none => rfl
          | some entries => exact layered _

end DraftBoard.Settings
