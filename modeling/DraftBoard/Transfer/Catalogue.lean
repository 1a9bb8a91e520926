import DraftBoard.Dashboard.Codec
import DraftBoard.Transfer.Error
import DraftBoard.Log.Event

/-!
# What a transfer works with

`Catalogue` is access to the dashboards of a server, `Machine` the machine that
a transfer runs on.  Both are given over any monad, so that one transfer runs on
a real machine and on the states of `World`.
-/

namespace DraftBoard

/-- A dashboard that is to be stored on a server. -/
structure Upload where
  dashboard : Dashboard
  message : String
  overwrite : Bool
deriving Repr, Inhabited

/-- Access to the dashboards of a server. -/
structure Catalogue (m : Type → Type) where
  /-- The dashboards that a free text finds, in the order of the server. -/
  search : String → ExceptT TransferError m (List Hit)
  /-- The definition of the dashboard with a uid. -/
  fetch : String → ExceptT TransferError m Definition
  /-- Stores a dashboard in the general folder. -/
  upload : Upload → ExceptT TransferError m Unit

/-- The machine that a transfer runs on. -/
structure Machine (m : Type → Type) where
  /-- Records an event. -/
  note : Event → m Unit
  /-- The time in seconds since the epoch. -/
  now : m Int
  /-- The directory that relative paths start from. -/
  workingDirectory : m Path
  /-- The text of the regular file at a path, if there is one. -/
  readFile : Path → m (Option String)
  /-- Makes a directory and those above it. -/
  makeDirectories : Path → m (Except FileError Unit)
  /-- Writes a regular file. -/
  writeFile : Path → String → m (Except FileError Unit)

/-- A state to run on: a server of any kind, a file system, the log so far, and the
time that a clock shows. -/
structure World (σ : Type) where
  server : σ
  files : FileTree
  log : List Event
  clock : Int

namespace World

/-- Runs a step of the server. -/
def onServer (step : StateM σ α) : StateM (World σ) α := fun world =>
  let (result, server) := step world.server
  (result, { world with server := server })

/-- Runs a step of the file system. -/
def onFiles (step : FileTree → α × FileTree) : StateM (World σ) α := fun world =>
  let (result, files) := step world.files
  (result, { world with files := files })

/-- The machine of a world. -/
def machine : Machine (StateM (World σ)) where
  note event := fun world => ((), { world with log := world.log ++ [event] })
  now := fun world => (world.clock, world)
  workingDirectory := fun world => (world.files.workingPath, world)
  readFile path := fun world => (world.files.content? path, world)
  makeDirectories path := onFiles (FileTree.makeDirectories path)
  writeFile path content := onFiles (FileTree.writeFile path content)

/-- A catalogue over the states of a server, as one over worlds. -/
def catalogue (server : Catalogue (StateM σ)) : Catalogue (StateM (World σ)) where
  search query := onServer (server.search query)
  fetch uid := onServer (server.fetch uid)
  upload request := onServer (server.upload request)

end World

end DraftBoard
