import DraftBoard.CommandLine.Grammar
import DraftBoard.Remote
import DraftBoard.Settings.Load
import DraftBoard.Transfer.Promote
import DraftBoard.Transfer.Save

/-!
# Runs

A run loads its settings, carries out its task on the server that they name, and
reports what came of it.
-/

namespace DraftBoard

open CommandLine

/-- Why a run fails. -/
inductive RunError where
  | settings (cause : SettingsError)
  | transfer (cause : TransferError)
deriving DecidableEq, Repr

/-- The failure in words. -/
def RunError.message : RunError → String
  | .settings cause => cause.message
  | .transfer cause => cause.message

/-- The account that settings describe. -/
def Settings.account (settings : Settings) : Account where
  rootUrl := settings.rootUrl
  user := settings.user
  password := settings.password

/-- How settings and a command line want a draft saved. -/
def Settings.saveOptions (settings : Settings) (keepSelections : Bool) (title : Option String) :
    SaveOptions where
  folder := settings.folder
  title := title
  outDir := settings.outDir
  keepSelections := keepSelections

variable {m : Type → Type} [Monad m]

/-- Carries out a task and gives the report on it. -/
def perform (catalogue : Catalogue m) (machine : Machine m) (settings : Settings)
    (title : String) : Task → ExceptT TransferError m String
  | .promote => do
      let promotion ← promote catalogue machine title
      return promotion.report
  | .save keepSelections newTitle => do
      let saving ← save catalogue machine title (settings.saveOptions keepSelections newTitle)
      return saving.report

/-- Runs what a command line asks for.  Saved dashboards go to `outDir` unless a
setting says otherwise. -/
def run (machine : Machine m) (transport : Http.Transport m) (outDir : Path)
    (invocation : Invocation) : ExceptT RunError m Unit := do
  let settings ← (Settings.load machine outDir invocation.overrides).adapt .settings
  machine.note ⟨.debug, .command,
    "Using Grafana at " ++ settings.rootUrl ++ " as " ++ settings.user⟩
  let catalogue := Remote.catalogue transport machine settings.account
  let report ← (perform catalogue machine settings invocation.title invocation.task).adapt .transfer
  machine.note ⟨.info, .command, report⟩

end DraftBoard
