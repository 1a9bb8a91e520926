import DraftBoard.Proofs.Title.Marks
import DraftBoard.Proofs.Transfer.Saving
import DraftBoard.Proofs.Transfer.Shelves
import DraftBoard.Transfer.Promote

/-!
# What a promotion stores

The stored draft differs from the dashboard that was found in its title, id and uid
only.  All three are set again when the draft is saved, so that a saved draft comes
from the dashboard that was promoted.
-/

namespace DraftBoard

namespace Dashboard

/-- The keys that promoting sets, in order. -/
def draftKeys : List String := ["title", "id", "uid"]

@[simp] theorem title_asDraft (dashboard : Dashboard) :
    dashboard.asDraft.title = dashboard.title ++ Title.draftMark := by
  have stored : dashboard.asDraft.get? "title" =
      some (.string (dashboard.title ++ Title.draftMark)) := by
    simp [asDraft, setTitle, clearId, setUid, get?_set]
  exact title_of_get? stored

theorem get?_asDraft_of_not_mem (dashboard : Dashboard) {key : String}
    (elsewhere : key ∉ draftKeys) : dashboard.asDraft.get? key = dashboard.get? key := by
  simp only [draftKeys, List.mem_cons, List.not_mem_nil, or_false, not_or] at elsewhere
  obtain ⟨notTitle, notId, notUid⟩ := elsewhere
  simp only [asDraft, setTitle, clearId, setUid, get?_set, notTitle, notId, notUid,
    if_false]

theorem keys_asDraft (dashboard : Dashboard) :
    dashboard.asDraft.keys = dashboard.keys ++ draftKeys.filter (· ∉ dashboard.keys) :=
  keys_foldl_set [("title", .string (dashboard.title ++ Title.draftMark)), ("id", .null),
    ("uid", .null)] dashboard (by decide : draftKeys.Nodup)

end Dashboard

section

variable {σ : Type} {catalogue : Catalogue (StateM (World σ))} {title : String}
variable {world looked : World σ}

/-- The report on a dashboard that was found under a hit. -/
def promotionFor (title : String) (hit : Hit) (dashboard : Dashboard) : Promotion where
  sourceFolder := hit.folder
  sourceTitle := title
  title := dashboard.title ++ Title.draftMark

theorem promote_of_not_found {error : TransferError}
    (missing : carryOut (find catalogue World.machine title) world =
      (.error error, looked)) :
    carryOut (promote catalogue World.machine title) world = (.error error, looked) :=
  carryOut_bind_of_error missing _

/-- A promotion goes the way of its upload. -/
theorem promote_of_found {hit : Hit} {definition : Definition}
    (found : carryOut (find catalogue World.machine title) world =
      (.ok (hit, definition), looked)) :
    carryOut (promote catalogue World.machine title) world =
      ((carryOut (catalogue.upload (draftUpload title hit definition.dashboard)) looked).1.map
          (fun _ => promotionFor title hit definition.dashboard),
        (carryOut (catalogue.upload
          (draftUpload title hit definition.dashboard)) looked).2) := by
  unfold promote
  rw [carryOut_bind_of_ok found]
  exact carryOut_bind_pure _ _ _

end

/-- A shelf takes every upload. -/
theorem carryOut_upload (upload : Upload) (world : World Shelf) :
    carryOut (shelves.upload upload) world =
      (.ok (), { world with
        server := { world.server with
          calls := world.server.calls ++ [.upload upload.dashboard.title]
          uploads := world.server.uploads ++ [upload] } }) := rfl

end DraftBoard
