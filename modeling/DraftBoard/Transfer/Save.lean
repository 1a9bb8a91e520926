import DraftBoard.Dashboard.Selection
import DraftBoard.Title
import DraftBoard.Transfer.Find
import DraftBoard.Transfer.Provision

/-!
# Saving a draft

The draft of a dashboard is fetched, given its reference title and identity, and
written to the file that provisions it.
-/

namespace DraftBoard

variable {m : Type → Type} [Monad m]

/-- How a draft is saved. -/
structure SaveOptions where
  /-- Folder below the output directory. -/
  folder : String
  /-- Title of the saved dashboard, if not the reference form of the draft's. -/
  title : Option String
  outDir : Path
  /-- Whether host selections stay as they are on the server. -/
  keepSelections : Bool
deriving DecidableEq, Repr

/-- Where a saved dashboard came from, and its file and title. -/
structure Saving where
  sourceFolder : String
  sourceTitle : String
  path : Path
  title : String
deriving DecidableEq, Repr

/-- The saving in words. -/
def Saving.report (saving : Saving) : String :=
  "Dashboard \"" ++ saving.sourceFolder ++ "/" ++ saving.sourceTitle ++ "\" saved into \"" ++
    saving.path.text ++ "\" using \"" ++ saving.title ++ "\" title"

/-- The title that a draft is saved under. -/
def SaveOptions.titleFor (options : SaveOptions) (draft : Dashboard) : String :=
  options.title.getD (Title.reference draft.title)

/-- The document with the identity that its title gives it. -/
def Dashboard.identify (dashboard : Dashboard) (title : String) (version : Int) : Dashboard :=
  (((dashboard.clearId).setUid (some (Title.slug title))).setTitle title).setVersion version

/-- Puts the host selections back, unless they are to be kept. -/
def settleSelections (machine : Machine m) (options : SaveOptions) (draft : Dashboard) :
    m Dashboard := do
  if options.keepSelections then return draft
  let (settled, count) := draft.resetHostSelections
  machine.note ⟨.debug, .saving, "Reset " ++ toString count ++ " host variable selections"⟩
  return settled

/-- Fetches the draft form of a title and writes it as a provisioned file. -/
def save (catalogue : Catalogue m) (machine : Machine m) (title : String)
    (options : SaveOptions) : ExceptT TransferError m Saving := do
  let draftTitle := Title.draft title
  let (hit, definition) ← find catalogue machine draftTitle
  let newTitle := options.titleFor definition.dashboard
  let settled ← (settleSelections machine options definition.dashboard : m Dashboard)
  let version ← machine.now
  let path := provisionedPath options.outDir options.folder (Title.slug newTitle)
  writeDashboard machine path (settled.identify newTitle version)
  return {
    sourceFolder := hit.folder
    sourceTitle := draftTitle
    path := path
    title := newTitle }

end DraftBoard
