import DraftBoard.Transfer.Catalogue

/-!
# Provisioned files

A saved dashboard lives at `<out_dir>/<folder>/<stem>.json`, one entry a line and
a line break at the end.
-/

namespace DraftBoard

variable {m : Type → Type} [Monad m]

/-- The file of a saved dashboard. -/
def provisionedPath (outDir : Path) (folder stem : String) : Path :=
  (outDir.join (.ofString folder)).join (.ofString (stem ++ ".json"))

/-- What the file of a dashboard holds. -/
def provisionedText (dashboard : Dashboard) : String :=
  dashboard.toJson.pretty ++ "\n"

/-- Blames a refusal of the file system on a path. -/
def blaming (path : Path) (step : m (Except FileError Unit)) : ExceptT TransferError m Unit := do
  match ← step with
  | .ok () => return
  | .error cause => throw (.filesystem path cause)

/-- Writes a dashboard to a file, making the directories above it first. -/
def writeDashboard (machine : Machine m) (path : Path) (dashboard : Dashboard) :
    ExceptT TransferError m Unit := do
  if let some parent := path.parent? then
    blaming parent (machine.makeDirectories parent)
  blaming path (machine.writeFile path (provisionedText dashboard))
  machine.note ⟨.debug, .files, "Wrote " ++ path.text⟩

end DraftBoard
