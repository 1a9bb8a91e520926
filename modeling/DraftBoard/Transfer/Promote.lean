import DraftBoard.Title
import DraftBoard.Transfer.Find

/-!
# Promoting a reference dashboard

A copy of the dashboard goes to the general folder under a draft title, where it
can be edited.
-/

namespace DraftBoard

variable {m : Type → Type} [Monad m]

/-- Where a promoted dashboard came from and where it went. -/
structure Promotion where
  sourceFolder : String
  sourceTitle : String
  title : String
deriving DecidableEq, Repr

/-- The promotion in words. -/
def Promotion.report (promotion : Promotion) : String :=
  "Created \"" ++ generalFolder ++ "/" ++ promotion.title ++ "\" from \"" ++
    promotion.sourceFolder ++ "/" ++ promotion.sourceTitle ++ "\""

/-- The draft of a dashboard: its title is marked, and it is nobody's copy yet. -/
def Dashboard.asDraft (dashboard : Dashboard) : Dashboard :=
  ((dashboard.setTitle (dashboard.title ++ Title.draftMark)).clearId).setUid none

/-- What is stored for the draft of a dashboard found under a title. -/
def draftUpload (title : String) (hit : Hit) (dashboard : Dashboard) : Upload where
  dashboard := dashboard.asDraft
  message := "From " ++ title ++ " under " ++ hit.folder
  overwrite := true

/-- Stores a draft of the dashboard with this title, replacing an earlier one. -/
def promote (catalogue : Catalogue m) (machine : Machine m) (title : String) :
    ExceptT TransferError m Promotion := do
  let (hit, definition) ← find catalogue machine title
  catalogue.upload (draftUpload title hit definition.dashboard)
  return {
    sourceFolder := hit.folder
    sourceTitle := title
    title := definition.dashboard.title ++ Title.draftMark }

end DraftBoard
