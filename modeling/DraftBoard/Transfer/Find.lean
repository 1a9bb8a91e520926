import DraftBoard.Transfer.Catalogue

/-!
# Finding a dashboard by its title

A search finds titles that contain the wanted one; the first hit that bears it
exactly is fetched.
-/

namespace DraftBoard

variable {m : Type → Type} [Monad m]

/-- The first hit with exactly this title, and the definition of its dashboard.
Nothing is fetched unless there is such a hit. -/
def find (catalogue : Catalogue m) (machine : Machine m) (title : String) :
    ExceptT TransferError m (Hit × Definition) := do
  let hits ← catalogue.search title
  machine.note ⟨.debug, .lookup, "Search for " ++ Text.quoted title ++ " returned " ++
    toString hits.length ++ " hits"⟩
  match hits.find? fun hit => hit.title == title with
  | none => throw (.notFound title)
  | some hit =>
      let definition ← catalogue.fetch hit.uid
      machine.note ⟨.debug, .lookup, "Fetched " ++ Text.quoted hit.title ++ " from folder " ++
        Text.quoted hit.folder ++ " (provisioned: " ++ toString definition.provisioned ++ ")"⟩
      return (hit, definition)

end DraftBoard
